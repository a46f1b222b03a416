import Ros2CudaIpc.LifecycleRefinement
import Ros2CudaIpc.ManagerProcess

/-!
# No publication identity is used twice

A descriptor names its block and a uid. Within a manager the uid of a block grows
with every reservation; the block itself was created under a block id which the
process handed out once, however its managers' calls race for the counter. So no
two descriptors of a process agree in both, and a uid which a reservation has
overtaken is refused by every acquire that starts later.
-/

namespace Ros2CudaIpc.GpuBufferManager

open Reachability BlockProtocol Lifecycle

variable {state next final : State} {number : Nat}

/-- The block ids of the created objects and the one about to be, which an exchange has won
already. -/
def State.taken (state : State) : List Nat :=
  state.blockIds ++ (state.initialising.bind Initialising.pending).toList

/-- A block id is used no more often than it was handed out, and a descriptor carries the
one of its object. -/
structure State.Numbered (state : State) : Prop where
  taken : ∀ blockId, state.taken.count blockId ≤ state.handedOut.count blockId
  announced : ∀ descriptor mapping timestamp,
    .prepared descriptor mapping timestamp ∈ state.log →
      ∃ number, mapping = some number ∧ state.blockIds[number]? = some descriptor.blockId

/-- Nothing is forgotten that was handed out: an action only adds to the block ids a manager was
given. -/
theorem handedOut_count (transition : Transition state next) (blockId : Nat) :
    state.handedOut.count blockId ≤ next.handedOut.count blockId := by
  rcases handedOut_transition transition with ⟨same, -⟩ | ⟨more, -⟩
  · exact Nat.le_of_eq (by rw [same])
  · rw [more]
    exact List.count_le_count_cons

/-- An action which creates no object and publishes nothing keeps the numbering. -/
theorem State.Numbered.keep (numbered : state.Numbered) (transition : Transition state next)
    (ids : next.blockIds = state.blockIds)
    (pending : next.initialising.bind Initialising.pending =
      state.initialising.bind Initialising.pending ∨
        next.initialising.bind Initialising.pending = none)
    (log : ∀ descriptor mapping timestamp, .prepared descriptor mapping timestamp ∈ next.log →
      .prepared descriptor mapping timestamp ∈ state.log ∨
        ∃ number, mapping = some number ∧ state.blockIds[number]? = some descriptor.blockId) :
    next.Numbered := by
  refine ⟨fun blockId => ?_, fun descriptor mapping timestamp member => ?_⟩
  · refine Nat.le_trans ?_ (Nat.le_trans (numbered.taken blockId)
      (handedOut_count transition blockId))
    unfold State.taken
    rcases pending with same | none
    · exact Nat.le_of_eq (by rw [ids, same])
    · rw [ids, none]
      simp
  · rw [ids]
    rcases log descriptor mapping timestamp member with old | new
    · exact numbered.announced descriptor mapping timestamp old
    · exact new

/-- The events of a decrement announce no publication. -/
theorem decrements_unannounced (mapping : Option Nat) (call : SettleCall)
    (descriptor : BufferDescriptor) (named : Option Nat) (timestamp : Nat) :
    .prepared descriptor named timestamp ∉ decrements mapping call :=
  fun member => by simpa using mem_decrements member

/-- Every action keeps the numbering. The creation of an object uses the block id which the
exchange before it has won. -/
theorem numbered_transition (formed : state.Formed) (numbered : state.Numbered)
    (transition : Transition state next) : next.Numbered := by
  have keep := numbered.keep transition
  cases transition with
  | reconfigured pool initialising events same pid unallocated outcomes =>
    refine keep rfl (.inr unallocated) fun descriptor mapping timestamp member => .inl ?_
    rcases List.mem_append.mp member with new | old
    · obtain ⟨succeeded, other⟩ := outcomes _ new
      simp at other
    · exact old
  | retired pool initialising events free empty pid unallocated outcomes =>
    refine keep rfl (.inr unallocated) fun descriptor mapping timestamp member => .inl ?_
    rcases List.mem_append.mp member with new | old
    · obtain ⟨succeeded, other⟩ := outcomes _ new
      simp at other
    · simpa using old
  | allocated index below running =>
    refine ⟨fun blockId => ?_, fun descriptor mapping timestamp member =>
      numbered.announced descriptor mapping timestamp (by simpa using member)⟩
    have before := numbered.taken blockId
    simp only [State.taken, running, Initialising.pending, Option.bind_some, Option.toList_none,
      List.append_nil] at before
    simp only [State.taken, State.blockIds, State.handedOut, List.filterMap_cons, Event.handedOut,
      Initialising.pending, Option.bind_some, Option.toList_some, List.count_append,
      List.count_cons, List.count_nil] at before ⊢
    omega
  | created index blockId value running =>
    refine ⟨fun other => ?_, fun descriptor mapping timestamp member => ?_⟩
    · have before := numbered.taken other
      simpa [State.taken, State.blockIds, running, Initialising.pending, State.handedOut]
        using before
    · obtain ⟨number, mapped, found⟩ := numbered.announced descriptor mapping timestamp member
      refine ⟨number, mapped, ?_⟩
      have inside := (List.getElem?_eq_some_iff.mp found).1
      simp only [State.blockIds, List.map_append] at inside found ⊢
      rw [List.getElem?_append_left inside, found]
  | reserved offset index mapping uid call metadata changed block =>
    exact keep (by simp [State.blockIds, State.write]) (.inl rfl)
      fun descriptor mapping timestamp member => .inl (by simpa [State.write] using member)
  | quarantined index reservation stage next event found unsettled vacant failed =>
    refine keep rfl (.inl rfl) fun descriptor mapping timestamp member => .inl ?_
    rcases failed with rfl | ⟨rfl, -⟩ <;> simpa [State.put, State.note] using member
  | committing index reservation descriptor call
  | cancelling index reservation after call =>
    exact keep (by simp [State.blockIds, State.settle, State.write, State.put]) (.inl rfl)
      fun other mapping timestamp member => .inl (by
        simpa [State.settle, State.put, decrements_unannounced] using member)
  | committed index reservation descriptor call metadata changed released inside =>
    refine keep (by simp [State.blockIds, State.settle, State.write, State.put, State.note])
      (.inl rfl) fun other mapping timestamp member => ?_
    cases released with
    | false =>
      exact .inl (by
        simpa [State.settle, State.put, State.note, decrements_unannounced] using member)
    | true =>
      have either : (other = descriptor ∧ mapping = reservation.mapping ∧ timestamp = call.now) ∨
          .prepared other mapping timestamp ∈ state.log := by
        simpa [State.settle, State.put, State.note, decrements_unannounced] using member
      rcases either with ⟨rfl, rfl, -⟩ | old
      · exact .inr (formed.holder _ inside).1.2
      · exact .inl old
  | cancelled index reservation after call metadata changed released =>
    refine keep (by simp [State.blockIds, State.settle, State.write, State.put, State.note])
      (.inl rfl) fun other mapping timestamp member => .inl ?_
    cases released <;>
      simpa [State.settle, State.put, State.note, decrements_unannounced] using member
  | _ =>
    exact keep (by simp [State.blockIds, State.write, State.put]) (.inl rfl)
      fun descriptor mapping timestamp member => .inl member

/-- The numbering holds in every reachable state of a manager. By induction on the run. -/
theorem reachable_numbered (reached : Reachable step (fun _ _ => True) Initial state) :
    state.Numbered := by
  refine Reachable.invariant ?_ ?_ reached
  · rintro start ⟨config, blockCount, publisherPid, nextBlockId, clock, -, -, rfl⟩
    exact ⟨by simp [State.taken, State.blockIds], by simp⟩
  · intro earlier later action before numbered _ moved
    exact numbered_transition (reachable_formed before) numbered (step_transition moved)

/-- Objects share a block id only where it was handed out twice, which the process excludes. -/
theorem blockIds_count (reached : Reachable step (fun _ _ => True) Initial state) (blockId : Nat) :
    state.blockIds.count blockId ≤ state.handedOut.count blockId := by
  refine Nat.le_trans ?_ ((reachable_numbered reached).taken blockId)
  simp [State.taken]

/-- The identity a successful `prepare_publish` returns in its descriptor: the block id and the
uid. -/
def Event.identity : Event → Option (Nat × Nat)
  | .prepared descriptor _ _ => some (descriptor.blockId, descriptor.uid)
  | _ => none

/-- The identities a manager has published, the latest first, over all its generations. -/
def State.identities (state : State) : List (Nat × Nat) := state.log.filterMap Event.identity

/-- A list whose entries select nothing that an entry behind them selected, selects nothing twice.
-/
theorem filterMap_nodup {α β : Type} {select : α → Option β} {entries : List α}
    (fresh : ∀ before entry behind, entries = before ++ entry :: behind →
      ∀ selected, select entry = some selected → selected ∉ behind.filterMap select) :
    (entries.filterMap select).Nodup := by
  induction entries with
  | nil => simp
  | cons entry rest inductionHypothesis =>
    have nodup := inductionHypothesis fun before other behind split =>
      fresh (entry :: before) other behind (by rw [split]; rfl)
    rw [List.filterMap_cons]
    split
    · exact nodup
    · next selected chosen =>
      exact List.nodup_cons.mpr ⟨fresh [] entry rest rfl selected chosen, nodup⟩

/-- No two publications of a manager with distinct block ids share an identity, since the uid of
an object only grows. -/
theorem identities_nodup (reached : Reachable step (fun _ _ => True) Initial state)
    (distinct : state.blockIds.Nodup) : state.identities.Nodup := by
  have announced := (reachable_numbered reached).announced
  refine filterMap_nodup fun later event earlier logged identity chosen member => ?_
  obtain ⟨other, before, same⟩ := List.mem_filterMap.mp member
  cases event with
  | prepared descriptor mapping timestamp =>
    cases other with
    | prepared old named stamp =>
      have equal := Option.some.inj (chosen.trans same.symm)
      obtain ⟨number, mapped, found⟩ := announced descriptor mapping timestamp (by simp [logged])
      obtain ⟨position, onto, placed⟩ := announced old named stamp (by simp [logged, before])
      have inside := (List.getElem?_eq_some_iff.mp found).1
      obtain ⟨sameBlock, sameUid⟩ := Prod.mk.inj equal
      obtain rfl : number = position :=
        (List.getElem?_inj inside distinct).mp (by rw [found, placed, sameBlock])
      obtain ⟨life, lived⟩ := event_split reached logged mapped
      have below := lived.distinct (mem_historyOn before onto)
      omega
    | _ => simp [Event.identity] at same
  | _ => simp [Event.identity] at chosen

/-- A published block id is one of the created objects', also after the object's generation has
ended. -/
theorem identities_created (reached : Reachable step (fun _ _ => True) Initial state)
    {identity : Nat × Nat} (published : identity ∈ state.identities) :
    identity.1 ∈ state.blockIds := by
  obtain ⟨event, member, chosen⟩ := List.mem_filterMap.mp published
  cases event with
  | prepared descriptor mapping timestamp =>
    obtain ⟨number, -, found⟩ :=
      (reachable_numbered reached).announced descriptor mapping timestamp member
    obtain rfl := Option.some.inj chosen
    exact List.mem_of_getElem? found
  | _ => simp [Event.identity] at chosen

/-- The uid word has reached every granted reservation's, and never falls behind it again. -/
theorem granted_uid (reached : Reachable step (fun _ _ => True) Initial state)
    {reservation : BlockReservation} {now : Nat} (granted : .reserved reservation now ∈ state.log)
    (mapped : reservation.mapping = some number) {metadata : BlockMetadata}
    (found : state.read (some number) = some metadata) : reservation.uid ≤ metadata.uid := by
  obtain ⟨life, lived, tracks⟩ := (reachable_lives reached number).2 metadata found
  have recorded := lived.recorded.granted reservation now (mem_historyOn granted mapped)
  exact Nat.le_trans recorded tracks.uid

/-- An acquire has done nothing yet, or was refused. It has changed no count in either case. -/
def Phase.fruitless (phase : Phase) : Prop := phase = .acquiring .loadUid ∨ phase = .refused

/-- The acquires of an object with a uid, from a position on, are fruitless. -/
def State.Refuses (state : State) (count number uid : Nat) : Prop :=
  ∀ index acquisition, count ≤ index → state.acquisitions[index]? = some acquisition →
    acquisition.mapping = number → acquisition.uid = uid → acquisition.phase.fruitless

/-- Replacing an acquire by a fruitless one, or one of another object or uid, keeps the others
fruitless. -/
theorem State.Refuses.set {count uid position : Nat} {old changed : Acquisition}
    (refuses : state.Refuses count number uid)
    (found : state.acquisitions[position]? = some old)
    (acquisitions : next.acquisitions = state.acquisitions.set position changed)
    (fruitless : count ≤ position → changed.mapping = number → changed.uid = uid →
      changed.phase.fruitless) : next.Refuses count number uid := by
  intro index acquisition late stored
  rw [acquisitions] at stored
  by_cases same : position = index
  · subst same
    have inside := (List.getElem?_eq_some_iff.mp found).1
    rw [List.getElem?_set_self inside] at stored
    obtain rfl := Option.some.inj stored
    exact fruitless late
  · rw [List.getElem?_set_ne same] at stored
    exact refuses index acquisition late stored

/-- Every action keeps an overtaken uid's acquires fruitless, because the first uid check refuses
each of them. -/
theorem refuses_transition {count uid : Nat} (refuses : state.Refuses count number uid)
    (overtaken : ∀ metadata, state.read (some number) = some metadata → uid < metadata.uid)
    (transition : Transition state next) : next.Refuses count number uid := by
  cases transition with
  | acquireBegun mapping other present =>
    intro index acquisition late stored onto same
    rcases Nat.lt_or_ge index state.acquisitions.length with inside | beyond
    · have stored' : state.acquisitions[index]? = some acquisition := by
        simpa [List.getElem?_append_left inside] using stored
      exact refuses index acquisition late stored' onto same
    · have own : acquisition = ⟨mapping, other, .acquiring .loadUid⟩ := by
        have member : acquisition ∈ [(⟨mapping, other, .acquiring .loadUid⟩ : Acquisition)] := by
          simp only [List.getElem?_append_right beyond] at stored
          exact List.mem_of_getElem? stored
        exact List.mem_singleton.mp member
      exact own ▸ .inl rfl
  | acquiring position mapping call following metadata changed running found operation =>
    refine refuses.set running rfl fun late onto same => ?_
    obtain rfl : mapping = number := onto
    obtain rfl : call.uid = uid := same
    have below := overtaken metadata found
    rcases refuses position _ late running rfl rfl with early | refused
    · obtain ⟨uid, pc⟩ := call
      obtain rfl : pc = .loadUid := Phase.acquiring.inj early
      cases operation with
      | matched _ same => exact absurd same (Nat.ne_of_gt below)
    · simp at refused
  | acquired position mapping call metadata changed valid running found operation =>
    refine refuses.set running rfl fun late onto same => ?_
    obtain rfl : mapping = number := onto
    rcases refuses position _ late running rfl same with early | refused
    · obtain ⟨uid, pc⟩ := call
      obtain rfl : pc = .loadUid := Phase.acquiring.inj early
      cases operation with
      | stale _ other => exact .inr rfl
    · simp at refused
  | zeroed position mapping other metadata running found =>
    refine refuses.set running rfl fun late onto same => ?_
    rcases refuses position _ late running onto same with early | refused <;> simp at *
  | released position mapping other metadata holding found =>
    refine refuses.set holding rfl fun late onto same => ?_
    rcases refuses position _ late holding onto same with early | refused <;> simp at *
  | _ => exact refuses

/-- Behind a reservation of an object, an acquire of a smaller uid which starts later is
refused in every further run. -/
theorem outdated_refused (reached : Reachable step (fun _ _ => True) Initial state)
    {reservation : BlockReservation} {now uid : Nat}
    (granted : .reserved reservation now ∈ state.log) (mapped : reservation.mapping = some number)
    (outdated : uid < reservation.uid)
    (further : Reachable step (fun _ _ => True) (fun origin => origin = state) final) :
    final.Refuses state.acquisitions.length number uid := by
  have stays : .reserved reservation now ∈ final.log ∧
      final.Refuses state.acquisitions.length number uid := by
    refine Reachable.invariant (?_ : ∀ origin, origin = state →
      .reserved reservation now ∈ origin.log ∧
        origin.Refuses state.acquisitions.length number uid) ?_ further
    · rintro origin rfl
      refine ⟨granted, fun index acquisition late stored => ?_⟩
      have inside := (List.getElem?_eq_some_iff.mp stored).1
      omega
    · rintro earlier later action before ⟨logged, refuses⟩ - moved
      have transition := step_transition moved
      refine ⟨?_, refuses_transition refuses (fun metadata found => ?_) transition⟩
      · obtain ⟨events, grown⟩ := transition_log transition
        exact grown ▸ List.mem_append_right events logged
      · exact Nat.lt_of_lt_of_le outdated
          (granted_uid (reached.trans before) logged mapped found)
  exact stays.2

/-- Destroying the blocks creates no object and leaves the counter of block ids. -/
theorem destroyBlocks_objects {locked : Bool} (destroyed : state.destroyBlocks locked = some next) :
    next.objects = state.objects ∧ next.nextProcessBlockId = state.nextProcessBlockId := by
  rcases destroyBlocks_cases destroyed with rfl | ⟨-, rfl⟩
  · exact ⟨rfl, rfl⟩
  · exact ⟨rfl, rfl⟩

/-- An `initialise` which has seen the last value of the counter fails, and one which has
not sees it next. -/
def Exhausts (state next : State) (position current : Nat) : Prop :=
  next.objects = state.objects ∧ next.nextProcessBlockId = uint32Max ∧
    if current = uint32Max then
      next.initialising = none ∧ next.log.head? = some (.initialised false)
    else next.initialising = some (.allocating position uint32Max)

/-- With the counter at its bound an `initialise` which asks for a block id fails, and neither
creates an object nor moves the counter. -/
theorem exhausted_fails {supply : Supply} {position current : Nat}
    (exhausted : state.nextProcessBlockId = uint32Max)
    (running : state.initialising = some (.allocating position current))
    (moved : step state (.advanceInitialise supply) = some next) :
    Exhausts state next position current := by
  simp only [step, running, Option.bind_some, State.advanceInitialise, exhausted] at moved
  unfold Exhausts
  by_cases last : current = uint32Max
  · rw [if_pos last] at moved ⊢
    obtain ⟨cleared, destroyed, rfl⟩ := Option.map_eq_some_iff.mp moved
    obtain ⟨objects, counter⟩ := destroyBlocks_objects destroyed
    exact ⟨objects, counter.trans exhausted, rfl, rfl⟩
  · have other : ¬ (uint32Max = current ∧ supply.spurious = false) := fun same => last same.1.symm
    rw [if_neg last, if_neg other] at moved
    rw [if_neg last]
    exact (Option.some.inj moved) ▸ ⟨rfl, rfl, rfl⟩

/-- What a process never uses twice: an identity in a descriptor, and a block id of an object. -/
structure Process.Identified (process : Process) : Prop where
  /-- No two descriptors agree in block id and uid. -/
  descriptors : (process.managers.flatMap State.identities).Nodup
  /-- No two objects, of whatever generation, share a block id. -/
  blocks : (process.managers.flatMap State.blockIds).Nodup
  handedOut : (process.managers.flatMap State.handedOut).Nodup ∧
    ∀ blockId ∈ process.managers.flatMap State.handedOut, blockId < uint32Max
  bounded : process.nextProcessBlockId ≤ uint32Max
  exhausted : process.nextProcessBlockId = uint32Max → ∀ manager ∈ process.managers,
    ∀ position current supply next,
      manager.initialising = some (.allocating position current) →
      GpuBufferManager.step manager (.advanceInitialise supply) = some next →
        Exhausts manager next position current
  /-- Every reservation of an object raises its uid. -/
  renewed : ∀ manager ∈ process.managers, ∀ later earlier reservation now,
    manager.log = later ++ .reserved reservation now :: earlier →
      ∀ other before, .reserved other before ∈ earlier → other.mapping = reservation.mapping →
        other.uid < reservation.uid

variable {process : Process}

/-- Entries of the managers' lists which are part of the handed out block ids, or name one of
them, are as distinct as these. -/
theorem managers_nodup {α : Type} {entries : State → List α} (names : α → Nat)
    (distinct : (process.managers.flatMap State.handedOut).Nodup)
    (own : ∀ manager ∈ process.managers, (entries manager).Nodup)
    (named : ∀ manager ∈ process.managers, ∀ entry ∈ entries manager,
      names entry ∈ manager.handedOut) :
    (process.managers.flatMap entries).Nodup := by
  have apart := (List.pairwise_flatMap.mp distinct).2
  refine List.pairwise_flatMap.mpr ⟨own, ?_⟩
  refine List.Pairwise.imp_of_mem (fun {first second} here there differ => ?_) apart
  intro entry left other right same
  exact differ _ (named first here entry left) _ (named second there other right)
    (congrArg names same)

/-- No run of a process uses an identity twice, however the calls of its managers race for the
counter. -/
theorem reachable_identified
    (reached : Reachable Process.step (fun _ _ => True) Process.Initial process) :
    process.Identified := by
  have managed := reachable_managed reached
  have alone (manager : State) (member : manager ∈ process.managers) :
      Reachable step (fun _ _ => True) Initial manager := (managed.managers manager member).2
  have created (manager : State) (member : manager ∈ process.managers) (blockId : Nat) :
      manager.blockIds.count blockId ≤ manager.handedOut.count blockId :=
    blockIds_count (alone manager member) blockId
  have ownIds (manager : State) (member : manager ∈ process.managers) :
      manager.blockIds.Nodup := by
    refine List.nodup_iff_count_le_one.mpr fun blockId => ?_
    have once := List.nodup_iff_count_le_one.mp
      ((List.pairwise_flatMap.mp managed.distinct).1 manager member) blockId
    exact Nat.le_trans (created manager member blockId) once
  have issued (manager : State) (member : manager ∈ process.managers) (blockId : Nat)
      (used : blockId ∈ manager.blockIds) : blockId ∈ manager.handedOut := by
    have positive := List.count_pos_iff.mpr used
    exact List.count_pos_iff.mp (Nat.lt_of_lt_of_le positive (created manager member blockId))
  constructor
  case descriptors =>
    refine managers_nodup Prod.fst managed.distinct (fun manager member =>
      identities_nodup (alone manager member) (ownIds manager member)) ?_
    intro manager member identity published
    exact issued manager member _ (identities_created (alone manager member) published)
  case blocks => exact managers_nodup id managed.distinct ownIds issued
  case handedOut =>
    refine ⟨managed.distinct, fun blockId member => ?_⟩
    obtain ⟨manager, present, held⟩ := List.mem_flatMap.mp member
    exact Nat.lt_of_lt_of_le (managed.below manager present blockId held) managed.bounded
  case bounded => exact managed.bounded
  case exhausted =>
    intro last manager member position current supply next running moved
    exact exhausted_fails ((managed.managers manager member).1.trans last) running moved
  case renewed =>
    intro manager member later earlier reservation now logged other before old same
    have granted : .reserved reservation now ∈ manager.log := by simp [logged]
    obtain ⟨number, mapped, -⟩ := (reachable_formed (alone manager member)).events _ granted
    obtain ⟨life, lived⟩ := event_split (alone manager member) logged mapped
    exact lived.fresh (mem_historyOn old (same.trans mapped))

/-- Over every run of a process with any number of managers: no identity is published
twice, no block id is used twice or wraps, a manager which needs one behind the last fails
to initialise, uids only grow, and a descriptor whose block was reserved again is refused
by every acquire which starts later, in every further run of the process. -/
theorem publication_identity_unique
    (reached : Reachable Process.step (fun _ _ => True) Process.Initial process) :
    process.Identified ∧
    ∀ (index : Nat) (manager : State) later earlier reservation now,
      process.managers[index]? = some manager →
      manager.log = later ++ .reserved reservation now :: earlier →
      ∀ descriptor timestamp, .prepared descriptor reservation.mapping timestamp ∈ earlier →
        ∀ final, Reachable Process.step (fun _ _ => True) (fun origin => origin = process) final →
          ∃ (last : State) (number : Nat), final.managers[index]? = some last ∧
            reservation.mapping = some number ∧
            last.Refuses manager.acquisitions.length number descriptor.uid := by
  refine ⟨reachable_identified reached, ?_⟩
  intro index manager later earlier reservation now stored logged descriptor timestamp published
    final further
  have alone := ((reachable_managed reached).managers manager (List.mem_of_getElem? stored)).2
  have granted : .reserved reservation now ∈ manager.log := by simp [logged]
  obtain ⟨number, mapped, -⟩ := (reachable_formed alone).events _ granted
  obtain ⟨life, lived⟩ := event_split alone logged mapped
  have outdated := lived.outdated (mem_historyOn published mapped)
  obtain ⟨last, found, beyond⟩ := managers_follow reached further stored
  exact ⟨last, number, found, mapped, outdated_refused alone granted mapped outdated beyond⟩

/-- A process before its first manager, with the counter at zero. -/
def emptyProcess : Process := ⟨7, 0, 1, []⟩

/-- Two managers load the same counter and initialise; each publishes, and the first
reserves its block again. -/
def raceAndPublish : List ProcessAction :=
  [.construct ⟨64, 0⟩ 1, .construct ⟨64, 0⟩ 1] ++
    (initialiseOnce.take 5).flatMap (fun action => [.manager 0 action, .manager 1 action]) ++
    (initialiseOnce.drop 5).map (.manager 0) ++
    .manager 1 (.advanceInitialise supplied) :: (initialiseOnce.drop 5).map (.manager 1) ++
    (acquireOnce ++ publishOnce 0).map (.manager 0) ++
    (acquireOnce ++ publishOnce 0).map (.manager 1) ++
    .tick gracePeriodUs :: acquireOnce.map (.manager 0)

/-- The two published identities differ in the block alone, and the first one's acquires are
refused from then on. -/
theorem publication_identity_raced : ∃ process manager,
    run (guarded Process.step (fun _ _ => True)) emptyProcess raceAndPublish = some process ∧
    process.managers.flatMap State.identities = [(0, 5), (1, 5)] ∧ [(0, 5), (1, 5)].Nodup ∧
    process.managers[0]? = some manager ∧
    ∀ final, Reachable Process.step (fun _ _ => True) (fun origin => origin = process) final →
      ∃ last, final.managers[0]? = some last ∧ last.Refuses 0 0 5 := by
  have facts : (run (guarded Process.step (fun _ _ => True)) emptyProcess raceAndPublish).map
      (fun process => (process.managers.flatMap State.identities,
        process.managers[0]?.map fun manager => (manager.log, manager.acquisitions))) =
      some ([(0, 5), (1, 5)],
        some (.reserved (reservationOf 6) 100001 :: publishedLog, [])) := by decide +kernel
  obtain ⟨process, executed, same⟩ := Option.map_eq_some_iff.mp facts
  obtain ⟨identities, first⟩ := Prod.mk.inj same
  obtain ⟨manager, stored, known⟩ := Option.map_eq_some_iff.mp first
  obtain ⟨logged, unacquired⟩ := Prod.mk.inj known
  have reached : Reachable Process.step (fun _ _ => True) Process.Initial process :=
    reachable_run raceAndPublish emptyProcess _
      (.start emptyProcess ⟨rfl, by decide, rfl⟩) executed
  obtain ⟨identified, outdated⟩ := publication_identity_unique reached
  refine ⟨process, manager, executed, identities, identities ▸ identified.descriptors, stored, ?_⟩
  intro final further
  obtain ⟨last, number, found, mapped, refuses⟩ := outdated 0 manager [] publishedLog
    (reservationOf 6) 100001 stored logged _ 1 (List.mem_cons_self ..) final further
  obtain rfl : 0 = number := Option.some.inj mapped
  rw [unacquired] at refuses
  exact ⟨last, found, refuses⟩

end Ros2CudaIpc.GpuBufferManager
