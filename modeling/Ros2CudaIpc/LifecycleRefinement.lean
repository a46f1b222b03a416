import Ros2CudaIpc.BlockLifecycle
import Ros2CudaIpc.ManagerRefinement

/-!
# Every metadata object lives the life of a block

The events about one object, the words in shared memory, the call inside the
mutex and the PublishBlocks which hold a reservation fit together. The timestamp
word is zero from a reservation on until its publication, so it does not carry the
age of the last publication across a cancelled reservation; what carries it is
that the reservation itself came a grace period behind it. Inside the mutex the
age is measured at the clock the attempt has sampled, outside at the clock.
-/

namespace Ros2CudaIpc.GpuBufferManager

open Reachability BlockProtocol WeightedLists Lifecycle

/-- The call inside the mutex on an object: a reservation attempt or a commit. A cancel runs
outside and is none of these. -/
inductive Work where
  | reserving (call : ReserveCall)
  | committing (call : SettleCall)

/-- The call the mutex's holder makes on an object, if it is on that object at all. -/
def Holder.workOn (number : Nat) : Holder → Option Work
  | .scanning _ => none
  | .reserving _ _ mapping call => if mapping = number then some (.reserving call) else none
  | .committing _ reservation _ call =>
    if reservation.mapping = some number then some (.committing call) else none

/-- A PublishBlock in this stage has a reservation it did not hand on, a running cancel included. -/
def Stage.holding : Stage → Bool
  | .cancelling _ _ => true
  | stage => stage.reserved

/-- The reservation of an object a PublishBlock has, if any; its object is the one the reservation
names. -/
def PublishBlock.heldOn (number : Nat) (block : PublishBlock) : List BlockReservation :=
  if block.stage.holding = true ∧ block.reservation.mapping = some number then
    [block.reservation]
  else []

/-- The reservation of an object a commit has, which its PublishBlock handed on to the call inside
the mutex. -/
def Holder.heldOn (number : Nat) : Holder → List BlockReservation
  | .committing _ reservation _ _ =>
    if reservation.mapping = some number then [reservation] else []
  | _ => []

/-- The work on an object, none while the mutex is free or its holder is on another object. -/
def workOn (number : Nat) (mutex : Option Holder) : Option Work :=
  mutex.bind (Holder.workOn number)

/-- The reservations of an object, in a commit or in a PublishBlock. The lives show that there is
never more than one. -/
def heldOn (number : Nat) (mutex : Option Holder) (publishBlocks : List PublishBlock) :
    List BlockReservation :=
  mutex.toList.flatMap (Holder.heldOn number) ++
    publishBlocks.flatMap (PublishBlock.heldOn number)

/-- The events about an object, the latest first, with those about other objects or about none
left out. -/
def historyOn (number : Nat) (log : List Event) : List Event :=
  log.filter fun event => event.mapping = some number

/-- With the mutex free there is no work on any object. -/
@[simp] theorem workOn_none (number : Nat) : workOn number none = none := rfl

/-- A scan between two blocks works on no object. -/
@[simp] theorem workOn_scanning (number offset : Nat) :
    workOn number (some (.scanning offset)) = none := rfl

/-- A reservation attempt works on the object of the block it visits. -/
@[simp] theorem workOn_reserving (number offset index mapping : Nat) (call : ReserveCall) :
    workOn number (some (.reserving offset index mapping call)) =
      if mapping = number then some (.reserving call) else none := rfl

/-- A commit works on the object its reservation names. -/
@[simp] theorem workOn_committing (number index : Nat) (reservation : BlockReservation)
    (descriptor : BufferDescriptor) (call : SettleCall) :
    workOn number (some (.committing index reservation descriptor call)) =
      if reservation.mapping = some number then some (.committing call) else none := rfl

/-- A scan between two blocks has no reservation. -/
@[simp] theorem heldOn_scanning (number offset : Nat) (publishBlocks : List PublishBlock) :
    heldOn number (some (.scanning offset)) publishBlocks = heldOn number none publishBlocks := rfl

/-- A reservation attempt has no reservation before it returns. -/
@[simp] theorem heldOn_reserving (number offset index mapping : Nat) (call : ReserveCall)
    (publishBlocks : List PublishBlock) :
    heldOn number (some (.reserving offset index mapping call)) publishBlocks =
      heldOn number none publishBlocks := rfl

/-- A commit has the reservation it was given, beside those in PublishBlocks. -/
@[simp] theorem heldOn_committing (number index : Nat) (reservation : BlockReservation)
    (descriptor : BufferDescriptor) (call : SettleCall) (publishBlocks : List PublishBlock) :
    heldOn number (some (.committing index reservation descriptor call)) publishBlocks =
      (if reservation.mapping = some number then [reservation] else []) ++
        heldOn number none publishBlocks := by
  simp [heldOn, Holder.heldOn]

/-- The clock at which the age of a publication is measured: the sampled one inside an attempt,
the present one otherwise. -/
def Work.instant (clock : Nat) : Option Work → Nat
  | some (.reserving ⟨_, .sampleClock⟩) => clock
  | some (.reserving ⟨now, _⟩) => now
  | _ => clock

/-- A reservation attempt past its age check, so the block it is on has aged by the clock it has
sampled. -/
def Work.Checked : Option Work → Prop
  | some (.reserving ⟨_, pc⟩) => pc ≠ .sampleClock ∧ pc ≠ .loadRefcount ∧ pc ≠ .loadTimestamp
  | _ => False

/-- The clock a commit has sampled, and the timestamp it has stored. It is not before any earlier
publication. -/
def Work.Stamping (clock timestamp : Nat) (published : Option Nat) : Option Work → Prop
  | some (.committing ⟨_, _, now, .storeTimestamp⟩) =>
    0 < now ∧ now ≤ clock ∧ ∀ earlier ∈ published, earlier ≤ now
  | some (.committing ⟨_, _, now, .fetchSub⟩) => timestamp = now ∧ 0 < now ∧ now ≤ clock
  | _ => True

/-- The words, the call inside the mutex and the reservations of a living block. -/
structure Tracks (clock : Nat) (metadata : BlockMetadata) (work : Option Work)
    (held : List BlockReservation) (life : Lifecycle) : Prop where
  ticking : 0 < clock
  uid : life.uid ≤ metadata.uid
  renewed : ∀ now nextUid, work = some (.reserving ⟨now, .storeTimestamp nextUid⟩) →
    life.uid < metadata.uid
  holders : held.Perm life.tenure.holders
  rest : ∀ reservation, life.tenure ≠ .released reservation
  past : ∀ timestamp ∈ life.published, timestamp ≤ clock
  sampled : Work.instant clock work ≤ clock
  cleared : ∀ timestamp ∈ life.published, metadata.publishTimestampUs = 0 →
    timestamp + gracePeriodUs ≤ Work.instant clock work
  stamped : ∀ timestamp ∈ life.published, metadata.publishTimestampUs ≠ 0 →
    timestamp ≤ metadata.publishTimestampUs
  checked : Work.Checked work → ∀ timestamp ∈ life.published,
    timestamp + gracePeriodUs ≤ Work.instant clock work
  stamping : Work.Stamping clock metadata.publishTimestampUs life.published work
  unstamped : (life.undone = true ∨ ∃ reservation, life.tenure = .reserved reservation) →
    metadata.publishTimestampUs = 0 ∨ ∃ call, work = some (.committing call)

variable {clock : Nat} {metadata changed : BlockMetadata} {work : Option Work}
  {held : List BlockReservation} {life : Lifecycle} {reservation : BlockReservation}

/-- The measuring clock does not go back while time goes on, and never runs ahead of the clock. -/
theorem Work.instant_later (work : Option Work) {now : Nat} (later : clock ≤ now) :
    Work.instant clock work ≤ Work.instant now work ∧
      (Work.instant clock work ≤ clock → Work.instant now work ≤ now) := by
  unfold Work.instant
  split <;> omega

/-- Time goes on, which can only let a publication age further. -/
theorem Tracks.later (tracks : Tracks clock metadata work held life) {now : Nat}
    (later : clock ≤ now) : Tracks now metadata work held life := by
  obtain ⟨measured, bounded⟩ := Work.instant_later work later
  refine { tracks with
    ticking := Nat.lt_of_lt_of_le tracks.ticking later
    past := fun timestamp found => Nat.le_trans (tracks.past timestamp found) later
    sampled := bounded tracks.sampled
    cleared := fun timestamp found zero =>
      Nat.le_trans (tracks.cleared timestamp found zero) measured
    checked := fun checked timestamp found =>
      Nat.le_trans (tracks.checked checked timestamp found) measured
    stamping := ?_ }
  have stamping := tracks.stamping
  unfold Work.Stamping at stamping ⊢
  split
  · exact ⟨stamping.1, Nat.le_trans stamping.2.1 later, stamping.2.2⟩
  · exact ⟨stamping.1, stamping.2.1, Nat.le_trans stamping.2.2 later⟩
  · trivial

/-- A subscriber changes the count alone, and neither the life nor the work depends on the count. -/
theorem Tracks.touch (tracks : Tracks clock metadata work held life)
    (uid : changed.uid = metadata.uid)
    (timestamp : changed.publishTimestampUs = metadata.publishTimestampUs) :
    Tracks clock changed work held life :=
  { tracks with
    uid := uid ▸ tracks.uid
    renewed := uid ▸ tracks.renewed
    cleared := timestamp ▸ tracks.cleared
    stamped := timestamp ▸ tracks.stamped
    stamping := timestamp ▸ tracks.stamping
    unstamped := timestamp ▸ tracks.unstamped }

/-- A created object tracks the created block: nobody works on it or holds a reservation of it. -/
theorem tracks_created (ticking : 0 < clock) (value : UInt64) :
    Tracks clock (BlockMetadata.create value) none [] created := by
  constructor <;> simp [created, Tenure.holders, Work.instant, Work.Checked, Work.Stamping, ticking]

/-- A reservation attempt begins. It has sampled no clock yet, so nothing is known of any age. -/
theorem Tracks.visit (tracks : Tracks clock metadata none held life) :
    Tracks clock metadata (some (.reserving ReserveCall.start)) held life :=
  { tracks with
    renewed := nofun
    checked := fun checked => absurd rfl checked.1
    stamping := trivial
    unstamped := fun open_ => .inl ((tracks.unstamped open_).resolve_right (by simp)) }

/-- The attempt goes on at another position, given what that position presupposes about the uid
and the age. -/
theorem Tracks.proceed {call next : ReserveCall}
    (tracks : Tracks clock metadata (some (.reserving call)) held life)
    (uid : metadata.uid ≤ changed.uid)
    (timestamp : changed.publishTimestampUs = metadata.publishTimestampUs)
    (instant : Work.instant clock (some (.reserving next)) =
      Work.instant clock (some (.reserving call)))
    (renewed : ∀ nextUid, next.pc = .storeTimestamp nextUid → life.uid < changed.uid)
    (checked : Work.Checked (some (.reserving next)) → ∀ published ∈ life.published,
      published + gracePeriodUs ≤ Work.instant clock (some (.reserving call))) :
    Tracks clock changed (some (.reserving next)) held life :=
  { tracks with
    uid := Nat.le_trans tracks.uid uid
    renewed := fun now nextUid same => by
      obtain rfl : next = ⟨now, .storeTimestamp nextUid⟩ := by simpa using same
      exact renewed nextUid rfl
    sampled := instant ▸ tracks.sampled
    cleared := timestamp ▸ instant ▸ tracks.cleared
    stamped := timestamp ▸ tracks.stamped
    checked := instant ▸ checked
    stamping := trivial
    unstamped := fun unsettled => .inl <| timestamp ▸
      (tracks.unstamped unsettled).resolve_right (by simp) }

/-- An operation of the attempt behind which it goes on. The cases are its positions; the age is
known from the check of the timestamp on. -/
theorem Tracks.attempt {call next : ReserveCall}
    (tracks : Tracks clock metadata (some (.reserving call)) held life)
    (renews : ∀ nextUid, call.pc = .storeUid nextUid → nextUid = metadata.uid + 1)
    (operation : call.Operation clock metadata changed (.running next)) :
    Tracks clock changed (some (.reserving next)) held life := by
  have same := Nat.le_refl metadata.uid
  cases operation with
  | sampled now =>
    exact tracks.proceed same rfl rfl nofun fun checked => absurd rfl checked.2.1
  | idle now unreferenced =>
    exact tracks.proceed same rfl rfl nofun fun checked => absurd rfl checked.2.2
  | aged now old =>
    refine tracks.proceed same rfl rfl nofun fun _ timestamp found => ?_
    by_cases zero : metadata.publishTimestampUs = 0
    · exact tracks.cleared timestamp found zero
    · have before := tracks.stamped timestamp found zero
      simp only [ReserveCall.tooRecent, not_and, not_or] at old
      have apart := old zero
      simp only [Work.instant]
      omega
  | claimed now unreferenced =>
    exact tracks.proceed same rfl rfl nofun fun _ => tracks.checked (by simp [Work.Checked])
  | exhausted now last =>
    exact tracks.proceed same rfl rfl nofun fun _ => tracks.checked (by simp [Work.Checked])
  | loaded now room =>
    exact tracks.proceed same rfl rfl nofun fun _ => tracks.checked (by simp [Work.Checked])
  | renewed now nextUid =>
    have larger : metadata.uid < nextUid := by
      rw [renews nextUid rfl]
      exact Nat.lt_succ_self _
    exact tracks.proceed (Nat.le_of_lt larger) rfl rfl
      (fun _ _ => Nat.lt_of_le_of_lt tracks.uid larger)
      fun _ => tracks.checked (by simp [Work.Checked])

/-- An operation which ends the attempt without a reservation.

Proof: the attempt had sampled the clock; outside the mutex the age counts until now. -/
theorem Tracks.pass {call : ReserveCall}
    (tracks : Tracks clock metadata (some (.reserving call)) held life)
    (operation : call.Operation clock metadata changed (.returned none)) :
    Tracks clock changed none held life := by
  obtain ⟨uid, timestamp⟩ : changed.uid = metadata.uid ∧
      changed.publishTimestampUs = metadata.publishTimestampUs := by
    cases operation <;> exact ⟨rfl, rfl⟩
  exact { tracks with
    uid := uid ▸ tracks.uid
    renewed := nofun
    sampled := Nat.le_refl _
    cleared := fun published found zero =>
      Nat.le_trans (tracks.cleared published found (timestamp ▸ zero)) tracks.sampled
    stamped := timestamp ▸ tracks.stamped
    checked := nofun
    stamping := trivial
    unstamped := fun unsettled => .inl <| timestamp ▸
      (tracks.unstamped unsettled).resolve_right (by simp) }

/-- The last operation of the attempt reserves the block: the age and the new uid are those its
earlier operations have found. -/
theorem Tracks.grant {call : ReserveCall} (reservation : BlockReservation)
    (tracks : Tracks clock metadata (some (.reserving call)) [] life)
    (free : life.tenure = .free)
    (renews : ∀ nextUid, call.pc = .storeTimestamp nextUid → nextUid = metadata.uid)
    (operation : call.Operation clock metadata changed (.returned (some reservation.uid))) :
    ∃ next, life.Step (.reserved reservation call.now) next ∧
      Tracks clock changed none [reservation] next := by
  obtain ⟨uid, published, undone, tenure⟩ := life
  obtain rfl : tenure = .free := free
  obtain ⟨now, pc⟩ := call
  cases operation with
  | reserved =>
    have current := renews reservation.uid rfl
    have fresh : uid < reservation.uid := current ▸ tracks.renewed now _ rfl
    have aged (timestamp : Nat) (found : timestamp ∈ published) : timestamp + gracePeriodUs ≤ now :=
      tracks.checked (by simp [Work.Checked]) timestamp found
    refine ⟨_, .reserve uid published undone reservation now fresh aged, ?_⟩
    exact
      { ticking := tracks.ticking
        uid := Nat.le_of_eq current
        renewed := nofun
        holders := .refl _
        rest := by simp
        past := tracks.past
        sampled := Nat.le_refl _
        cleared := fun timestamp found _ => Nat.le_trans (aged timestamp found) tracks.sampled
        stamped := fun _ _ nonzero => absurd rfl nonzero
        checked := nofun
        stamping := trivial
        unstamped := fun _ => .inl rfl }

/-- A commit begins. It has sampled no clock and stored no timestamp yet. -/
theorem Tracks.commit (tracks : Tracks clock metadata none held life) (uid : Nat) :
    Tracks clock metadata (some (.committing (SettleCall.commitPublish uid))) held life :=
  { tracks with
    renewed := by simp
    checked := nofun
    stamping := trivial
    unstamped := fun _ => .inr ⟨_, rfl⟩ }

/-- The commit goes on at another position, given what that position presupposes about the clock
and the timestamp. -/
theorem Tracks.settle {call next : SettleCall}
    (tracks : Tracks clock metadata (some (.committing call)) held life)
    (stamping : Work.Stamping clock metadata.publishTimestampUs life.published
      (some (.committing next))) : Tracks clock metadata (some (.committing next)) held life :=
  { tracks with
    renewed := by simp
    checked := nofun
    stamping := stamping
    unstamped := fun _ => .inr ⟨next, rfl⟩ }

/-- An operation of the commit behind which it goes on. The cases are its positions, with a clock
which is never before an earlier one. -/
theorem Tracks.stamp {call next : SettleCall} {uid : Nat}
    (tracks : Tracks clock metadata (some (.committing call)) held life)
    (commits : call.Commits uid)
    (operation : call.Operation clock metadata changed (.running next)) :
    Tracks clock changed (some (.committing next)) held life := by
  cases operation with
  | committing number now same => exact tracks.settle trivial
  | cancelling number now same => simp [SettleCall.Commits] at commits
  | sampled number now published =>
    exact tracks.settle ⟨tracks.ticking, Nat.le_refl _, tracks.past⟩
  | stamped number now published =>
    obtain ⟨positive, sampled, later⟩ := tracks.stamping
    have nonzero : now ≠ 0 := Nat.pos_iff_ne_zero.mp positive
    exact { tracks with
      renewed := by simp
      cleared := fun _ _ zero => absurd zero nonzero
      stamped := fun timestamp found _ => later timestamp found
      checked := fun impossible => False.elim impossible
      stamping := ⟨rfl, positive, sampled⟩
      unstamped := fun _ => .inr ⟨_, rfl⟩ }
  | underflowed number now published unreferenced =>
    exact (tracks.touch metadata.fetchSub_uid metadata.fetchSub_timestamp).settle trivial

/-- The order of the holders does not matter, as there is at most one. -/
theorem Tracks.permute (tracks : Tracks clock metadata work held life)
    {others : List BlockReservation} (same : held.Perm others) :
    Tracks clock metadata work others life :=
  { tracks with holders := same.symm.trans tracks.holders }

/-- A held reservation is the block's only one, and the block is reserved by it. -/
theorem Tracks.sole {rest : List BlockReservation}
    (tracks : Tracks clock metadata work (reservation :: rest) life) :
    life.tenure = .reserved reservation ∧ rest = [] := by
  have holders := tracks.holders
  cases tenure : life.tenure with
  | reserved other =>
    rw [tenure] at holders
    obtain ⟨rfl, rfl⟩ := List.cons.inj (List.perm_singleton.mp holders)
    exact ⟨rfl, rfl⟩
  | free | released | lost =>
    rw [tenure] at holders
    exact absurd holders.eq_nil (by simp)

/-- The last operation of a commit publishes the block: the decrement and the publication are two
steps of its life. -/
theorem Tracks.publish {call : SettleCall} {rest : List BlockReservation}
    {descriptor : BufferDescriptor}
    (tracks : Tracks clock metadata (some (.committing call)) (reservation :: rest) life)
    (commits : call.Commits reservation.uid) (same : descriptor.uid = reservation.uid)
    (operation : call.Operation clock metadata changed (.returned true)) :
    ∃ middle next, life.Step (.decremented reservation.mapping call.uid) middle ∧
      middle.Step (.prepared descriptor reservation.mapping call.now) next ∧
        Tracks clock changed none rest next := by
  obtain ⟨reserved, rfl⟩ := tracks.sole
  obtain ⟨uid, published, undone, tenure⟩ := life
  obtain rfl : tenure = .reserved reservation := reserved
  cases operation with
  | released number now wasCommit referenced =>
    obtain ⟨stored, positive, sampled⟩ := tracks.stamping
    have later (earlier : Nat) (found : earlier ∈ published) : earlier ≤ now :=
      stored ▸ tracks.stamped earlier found (by omega)
    obtain rfl : number = reservation.uid := commits.1
    refine ⟨_, _, .release uid published undone reservation,
      .publish uid published undone reservation descriptor now same later, ?_⟩
    exact
      { ticking := tracks.ticking
        uid := tracks.uid
        renewed := nofun
        holders := .refl _
        rest := by simp
        past := by simpa using sampled
        sampled := Nat.le_refl _
        cleared := fun timestamp found zero => by
          have zeroed : metadata.publishTimestampUs = 0 := zero
          omega
        stamped := fun timestamp found nonzero => by
          obtain rfl : now = timestamp := by simpa using found
          exact Nat.le_of_eq stored.symm
        checked := nofun
        stamping := trivial
        unstamped := by simp }

/-- The last operation of a cancel frees the block: the decrement and the cancellation are two
steps of its life. -/
theorem Tracks.undo {rest : List BlockReservation}
    (tracks : Tracks clock metadata work (reservation :: rest) life) :
    ∃ middle next, life.Step (.decremented reservation.mapping reservation.uid) middle ∧
      middle.Step (.cancelled reservation) next ∧
        Tracks clock metadata.fetchSub work rest next := by
  obtain ⟨reserved, rfl⟩ := tracks.sole
  obtain ⟨uid, published, undone, tenure⟩ := life
  obtain rfl : tenure = .reserved reservation := reserved
  refine ⟨_, _, .release uid published undone reservation,
    .cancel uid published undone reservation, ?_⟩
  have touched := tracks.touch metadata.fetchSub_uid metadata.fetchSub_timestamp
  exact { touched with
    holders := .refl _
    rest := by simp
    unstamped := fun _ => touched.unstamped (.inr ⟨reservation, rfl⟩) }

/-- A failed publication loses the block: its count is kept, and its life ends there. -/
theorem Tracks.lose {rest : List BlockReservation}
    (tracks : Tracks clock metadata work (reservation :: rest) life) :
    ∃ next, life.Step (.prepareFailed reservation) next ∧ Tracks clock metadata work rest next := by
  obtain ⟨reserved, rfl⟩ := tracks.sole
  obtain ⟨uid, published, undone, tenure⟩ := life
  obtain rfl : tenure = .reserved reservation := reserved
  refine ⟨_, .fail uid published undone reservation, ?_⟩
  exact { tracks with
    holders := .refl _
    rest := by simp
    unstamped := fun _ => tracks.unstamped (.inr ⟨reservation, rfl⟩) }

/-- An object of a state lives the life its events tell, and the words, the work and the holders
fit that life. -/
def State.Lives (state : State) (number : Nat) : Prop :=
  0 < state.clock ∧ ∀ metadata, state.read (some number) = some metadata →
    ∃ life, Of (historyOn number state.log) life ∧
      Tracks state.clock metadata (workOn number state.mutex)
        (heldOn number state.mutex state.publishBlocks) life

variable {state next : State} {number : Nat}

/-- An action elsewhere leaves the life of an object: its words, its work, its holders and its
history are the same. -/
theorem State.Lives.elsewhere (lives : state.Lives number) (clock : state.clock ≤ next.clock)
    (read : next.read (some number) = state.read (some number))
    (work : workOn number next.mutex = workOn number state.mutex)
    (held : (heldOn number state.mutex state.publishBlocks).Perm
      (heldOn number next.mutex next.publishBlocks))
    (history : historyOn number next.log = historyOn number state.log) : next.Lives number := by
  refine ⟨Nat.lt_of_lt_of_le lives.1 clock, fun metadata found => ?_⟩
  obtain ⟨life, lived, tracks⟩ := lives.2 metadata (read ▸ found)
  rw [work, history]
  exact ⟨life, lived, (tracks.later clock).permute held⟩

/-- An action which writes through a mapping, on the object or on another one. -/
theorem State.Lives.operate (lives : state.Lives number) {mapping : Option Nat}
    {metadata changed : BlockMetadata} (found : state.read mapping = some metadata)
    (clock : next.clock = state.clock)
    (written : next.objects = (state.write mapping changed).objects)
    (own : mapping = some number → ∀ life, Of (historyOn number state.log) life →
      Tracks state.clock metadata (workOn number state.mutex)
        (heldOn number state.mutex state.publishBlocks) life →
      ∃ following, Of (historyOn number next.log) following ∧
        Tracks state.clock changed (workOn number next.mutex)
          (heldOn number next.mutex next.publishBlocks) following)
    (work : mapping ≠ some number → workOn number next.mutex = workOn number state.mutex)
    (held : mapping ≠ some number → (heldOn number state.mutex state.publishBlocks).Perm
      (heldOn number next.mutex next.publishBlocks))
    (history : mapping ≠ some number → historyOn number next.log = historyOn number state.log) :
    next.Lives number := by
  have read : next.read (some number) = (state.write mapping changed).read (some number) := by
    simp only [State.read, written]
  by_cases same : mapping = some number
  · subst same
    refine ⟨clock ▸ lives.1, fun words readNext => ?_⟩
    rw [read, read_written found, Option.some.injEq] at readNext
    subst readNext
    obtain ⟨life, lived, tracks⟩ := lives.2 metadata found
    rw [clock]
    exact own rfl life lived tracks
  · exact lives.elsewhere (Nat.le_of_eq clock.symm) (read.trans (read_unwritten same changed))
      (work same) (held same) (history same)

/-- A subscriber's operation changes a count alone, on the object in question or on another one. -/
theorem State.Lives.touched (lives : state.Lives number) {mapping : Nat}
    {metadata changed : BlockMetadata} (found : state.read (some mapping) = some metadata)
    (clock : next.clock = state.clock)
    (written : next.objects = (state.write (some mapping) changed).objects)
    (mutex : next.mutex = state.mutex) (blocks : next.publishBlocks = state.publishBlocks)
    (log : next.log = state.log) (uid : changed.uid = metadata.uid)
    (timestamp : changed.publishTimestampUs = metadata.publishTimestampUs) :
    next.Lives number := by
  refine lives.operate found clock written (fun _ life lived tracks => ?_) (fun _ => by rw [mutex])
    (fun _ => .of_eq (by rw [mutex, blocks])) (fun _ => by rw [log])
  rw [log, mutex, blocks]
  exact ⟨life, lived, tracks.touch uid timestamp⟩

/-- The events about an object in two parts of a log are those of the one behind those of the
other. -/
theorem historyOn_append (number : Nat) (events log : List Event) :
    historyOn number (events ++ log) = historyOn number events ++ historyOn number log :=
  List.filter_append ..

/-- An event about the object comes first in its history. -/
theorem historyOn_own (event : Event) (about : event.mapping = some number) (log : List Event) :
    historyOn number (event :: log) = event :: historyOn number log := by
  simp [historyOn, about]

/-- Events about another object, or about none, leave its history alone. -/
theorem historyOn_other (event : Event) (about : event.mapping ≠ some number) (log : List Event) :
    historyOn number (event :: log) = historyOn number log := by
  simp [historyOn, about]

/-- The events which end an `initialise` are about no object, so they are in no history. -/
theorem Outcomes.silent {events : List Event} (outcomes : Outcomes events) (number : Nat) :
    historyOn number events = [] := by
  apply List.filter_eq_nil_iff.mpr
  intro event member
  obtain ⟨succeeded, rfl⟩ := outcomes event member
  simp [Event.mapping]

/-- The decrement of another object's count is not in the history of this one. -/
theorem decrements_other {mapping : Option Nat} (other : mapping ≠ some number)
    (call : SettleCall) : historyOn number (decrements mapping call) = [] := by
  unfold decrements
  split
  · exact historyOn_other (.decremented mapping call.uid) other []
  · rfl

/-- What a PublishBlock contributes to the holders, before and after its replacement; the others
contribute the same. -/
theorem heldOn_set {publishBlocks : List PublishBlock} {index : Nat} {old : PublishBlock}
    (found : publishBlocks[index]? = some old) : ∃ others, ∀ (number : Nat)
      (changed : PublishBlock) (mutex : Option Holder),
      (heldOn number mutex publishBlocks).Perm
        (old.heldOn number ++ heldOn number mutex others) ∧
      (heldOn number mutex (publishBlocks.set index changed)).Perm
        (changed.heldOn number ++ heldOn number mutex others) := by
  obtain ⟨others, before, after⟩ := set_perm found
  refine ⟨others, fun number changed mutex => ?_⟩
  have held {block : PublishBlock} {blocks : List PublishBlock}
      (same : blocks.Perm (block :: others)) : (heldOn number mutex blocks).Perm
        (block.heldOn number ++ heldOn number mutex others) := by
    refine ((same.flatMap_right _).append_left _).trans ?_
    refine List.perm_iff_count.mpr fun reservation => ?_
    simp [heldOn]
    omega
  exact ⟨held before, held (after changed)⟩

/-- The call inside the mutex is one of the object's calls, so what the view says of these holds
of it. -/
theorem Holder.callsOn_mem {holder : Holder} {call : Call} (inside : state.mutex = some holder)
    (member : call ∈ holder.callsOn number) :
    call ∈ GpuBufferManager.callsOn number state.mutex state.publishBlocks state.acquisitions := by
  rw [inside, callsOn_holder]
  exact List.mem_append_left _ member

/-- And so is a running cancel of a PublishBlock. -/
theorem PublishBlock.callsOn_mem {index : Nat} {block : PublishBlock} {call : Call}
    (found : state.publishBlocks[index]? = some block) (member : call ∈ block.callsOn number) :
    call ∈ GpuBufferManager.callsOn number state.mutex state.publishBlocks state.acquisitions := by
  refine List.mem_append_right _ (List.mem_append_left _ ?_)
  exact List.mem_flatMap.mpr ⟨block, List.mem_of_getElem? found, member⟩

/-- A reservation somebody holds is outstanding, so without outstanding reservations nobody holds
one. -/
theorem heldOn_vacant (unreserved : reservationsOn number state.publishBlocks state.log = [])
    (unsettling : ∀ call, .settle call ∉
      callsOn number state.mutex state.publishBlocks state.acquisitions) :
    heldOn number state.mutex state.publishBlocks = [] := by
  simp only [heldOn, List.append_eq_nil_iff, List.flatMap_eq_nil_iff]
  refine ⟨fun holder inside => ?_, fun block member => ?_⟩
  · have held := Option.mem_toList.mp inside
    cases holder with
    | scanning | reserving => rfl
    | committing index reservation descriptor call =>
      refine if_neg fun same => unsettling call (Holder.callsOn_mem held ?_)
      simp [Holder.callsOn, same]
  · refine if_neg fun ⟨holding, same⟩ => ?_
    have own := List.flatMap_eq_nil_iff.mp (List.append_eq_nil_iff.mp unreserved).1 block member
    obtain ⟨index, found⟩ := List.getElem?_of_mem member
    obtain ⟨reservation, stage⟩ := block
    cases stage with
    | cancelling call after =>
      refine unsettling call (PublishBlock.callsOn_mem found ?_)
      simp only [PublishBlock.callsOn, if_pos same, List.mem_singleton]
    | idle | recorded | described | committing | assigning | destroyed =>
      rw [PublishBlock.reservationsOn, if_pos ⟨holding, same⟩] at own
      exact absurd own (by simp)

/-- Without an outstanding reservation an object is free: it is neither reserved nor lost, and no
commit or cancel is at its end. -/
theorem Tracks.free {clock : Nat} {log : List Event} {publishBlocks : List PublishBlock}
    {life : Lifecycle} (tracks : Tracks clock metadata work [] life)
    (lived : Of (historyOn number log) life)
    (unreserved : reservationsOn number publishBlocks log = []) : life.tenure = .free := by
  have holders := tracks.holders.nil_eq
  cases tenure : life.tenure with
  | free => rfl
  | reserved reservation => simp [tenure, Tenure.holders] at holders
  | released reservation => exact absurd tenure (tracks.rest reservation)
  | lost reservation =>
    obtain ⟨member, about⟩ := List.mem_filter.mp (lived.accounts.lost reservation tenure)
    have unfailed := List.flatMap_eq_nil_iff.mp (List.append_eq_nil_iff.mp unreserved).2 _ member
    have same : reservation.mapping = some number := of_decide_eq_true about
    simp [Event.failedOn, same] at unfailed

/-- A stage outside a commit or cancel holds what it has reserved, and nothing else. -/
theorem Stage.holding_quiet {stage : Stage} (quiet : stage.settling = false) :
    stage.holding = stage.reserved := by
  cases stage with
  | cancelling => simp [Stage.settling] at quiet
  | _ => rfl

/-- Behind a cancel a PublishBlock holds nothing. -/
@[simp] theorem AfterCancel.stage_holding (after : AfterCancel) : after.stage.holding = false := by
  cases after <;> rfl

/-- What a PublishBlock holds in a stage which holds something: its reservation, on the object
that one names. -/
theorem heldOn_stage {stage : Stage} (holding : stage.holding = true) :
    PublishBlock.heldOn number ⟨reservation, stage⟩ =
      if reservation.mapping = some number then [reservation] else [] := by
  simp [PublishBlock.heldOn, holding]

/-- In a stage which holds nothing a PublishBlock contributes no holder. -/
theorem heldOn_released {stage : Stage} (released : stage.holding = false) :
    PublishBlock.heldOn number ⟨reservation, stage⟩ = [] := by
  simp [PublishBlock.heldOn, released]

/-- Nobody has an object which was not created: it has no history, no work and no holder. -/
theorem State.Formed.unlived (formed : state.Formed) :
    historyOn state.objects.length state.log = [] ∧
      workOn state.objects.length state.mutex = none ∧
      heldOn state.objects.length state.mutex state.publishBlocks = [] := by
  have length : state.blockIds.length = state.objects.length := List.length_map ..
  have unknown {reservation : BlockReservation} (known : reservation.Known state.blockIds) :
      reservation.mapping ≠ some state.objects.length := by
    intro named
    have below := known _ named
    omega
  refine ⟨?_, ?_, ?_⟩
  · refine List.filter_eq_nil_iff.mpr fun event member about => ?_
    have below := (formed.events event member).below (of_decide_eq_true about)
    omega
  · cases inside : state.mutex with
    | none => rfl
    | some holder =>
      have fits := formed.holder holder inside
      cases holder with
      | scanning offset => rfl
      | reserving offset index mapping call =>
        have below : mapping < state.blockIds.length := fits
        have apart : mapping ≠ state.objects.length := by omega
        simp [workOn, Holder.workOn, apart]
      | committing index reservation descriptor call =>
        have linked := formed.linked _ _ _ _ inside
        have apart := unknown (formed.blocks _ (List.mem_of_getElem? linked)).known
        simp [workOn, Holder.workOn, apart]
  · simp only [heldOn, List.append_eq_nil_iff, List.flatMap_eq_nil_iff]
    refine ⟨fun holder inside => ?_, fun block member => ?_⟩
    · have held := Option.mem_toList.mp inside
      cases holder with
      | scanning | reserving => rfl
      | committing index reservation descriptor call =>
        have linked := formed.linked _ _ _ _ held
        exact if_neg (unknown (formed.blocks _ (List.mem_of_getElem? linked)).known)
    · exact if_neg fun own => unknown (formed.blocks block member).known own.2

/-- A new object begins its life, with no event about it and nobody holding it. Nothing happens to
the others. -/
theorem State.Lives.born (lives : state.Lives number) (formed : state.Formed)
    {index blockId : Nat} {value : UInt64} :
    State.Lives { state with
      objects := state.objects ++ [⟨blockId, BlockMetadata.create value⟩]
      pool := state.pool.identify index blockId state.objects.length
      initialising := some (.loading (index + 1)) } number := by
  by_cases same : number = state.objects.length
  · subst same
    obtain ⟨history, work, held⟩ := formed.unlived
    refine ⟨lives.1, fun metadata found => ?_⟩
    obtain rfl : BlockMetadata.create value = metadata := by simpa [State.read] using found
    simp only [history, work, held]
    exact ⟨created, .created, tracks_created lives.1 value⟩
  · refine lives.elsewhere (Nat.le_refl _) ?_ rfl (.refl _) rfl
    simp only [State.read, Option.bind_some, List.getElem?_append, List.getElem?_singleton]
    split
    · rfl
    · rw [if_neg (by omega), List.getElem?_eq_none (by omega)]

/-- The scan begins a reservation attempt on the object of the block it visits. -/
theorem State.Lives.visited (lives : state.Lives number) {offset index mapping : Nat}
    (inside : state.mutex = some (.scanning offset)) :
    State.Lives { state with
      mutex := some (.reserving offset index mapping ReserveCall.start) } number := by
  by_cases same : mapping = number
  · subst same
    refine ⟨lives.1, fun metadata found => ?_⟩
    obtain ⟨life, lived, tracks⟩ := lives.2 metadata found
    simp only [inside, workOn_scanning, heldOn_scanning] at tracks
    simp only [workOn_reserving, heldOn_reserving, if_true]
    exact ⟨life, lived, tracks.visit⟩
  · exact lives.elsewhere (Nat.le_refl _) rfl (by simp [inside, same])
      (.of_eq (by simp [inside])) rfl

/-- An operation of a reservation attempt keeps the life of its object: the uid it stores is the
next one, which the attempt knows from its view of the block. -/
theorem State.Lives.reserving (lives : state.Lives number) (view : state.Views number)
    {offset index mapping : Nat} {call next : ReserveCall} {metadata changed : BlockMetadata}
    (inside : state.mutex = some (.reserving offset index mapping call))
    (found : state.read (some mapping) = some metadata)
    (operation : call.Operation state.clock metadata changed (.running next)) :
    State.Lives { state.write (some mapping) changed with
      mutex := some (.reserving offset index mapping next) } number := by
  refine lives.operate found rfl rfl (fun same life lived tracks => ?_)
    (fun other => by simp_all) (fun other => .of_eq (by simp [inside, State.write]))
    (fun _ => rfl)
  obtain rfl := Option.some.inj same
  have member : Call.reserve call ∈ callsOn mapping state.mutex state.publishBlocks
      state.acquisitions := Holder.callsOn_mem inside (by simp [Holder.callsOn])
  have renews (nextUid : Nat) : call.pc = .storeUid nextUid → nextUid = metadata.uid + 1 :=
    ((view metadata found).renews member).1
  simp only [inside, workOn_reserving, heldOn_reserving, if_true] at tracks ⊢
  exact ⟨life, lived, tracks.attempt renews operation⟩

/-- A failed reservation attempt is no event of its object's life, whatever it has written before
it gave up. -/
theorem State.Lives.passed (lives : state.Lives number) {offset index mapping : Nat}
    {call : ReserveCall} {metadata changed : BlockMetadata}
    (inside : state.mutex = some (.reserving offset index mapping call))
    (found : state.read (some mapping) = some metadata)
    (operation : call.Operation state.clock metadata changed (.returned none)) :
    State.Lives { state.write (some mapping) changed with
      mutex := some (.scanning (offset + 1)) } number := by
  refine lives.operate found rfl rfl (fun same life lived tracks => ?_)
    (fun other => by simp_all) (fun other => .of_eq (by simp [inside, State.write]))
    (fun _ => rfl)
  obtain rfl := Option.some.inj same
  simp only [inside, workOn_reserving, heldOn_reserving, if_true] at tracks
  simp only [workOn_scanning, heldOn_scanning]
  exact ⟨life, lived, tracks.pass operation⟩

/-- The last operation of a successful attempt grants the reservation. Nobody holds the object then,
because the attempt has the publisher's share of the count. -/
theorem State.Lives.reserved (lives : state.Lives number) (view : state.Views number)
    {offset index mapping uid : Nat} {call : ReserveCall} {metadata changed : BlockMetadata}
    {block : GpuBufferBlock} (inside : state.mutex = some (.reserving offset index mapping call))
    (found : state.read (some mapping) = some metadata)
    (operation : call.Operation state.clock metadata changed (.returned (some uid))) :
    State.Lives { state.write (some mapping) changed with
      mutex := none
      pool := { state.pool with nextBlock := (index + 1) % state.pool.blocks.length }
      publishBlocks := state.publishBlocks ++
        [⟨⟨some mapping, block.blockId, uid, state.pool.publisherPid, index⟩, .idle true⟩]
      log := .reserved ⟨some mapping, block.blockId, uid, state.pool.publisherPid, index⟩
        call.now :: state.log } number := by
  refine lives.operate found rfl rfl (fun same life lived tracks => ?_)
    (fun other => by simp_all) (fun other => .of_eq ?_)
    (fun other => historyOn_other (.reserved
      ⟨some mapping, block.blockId, uid, state.pool.publisherPid, index⟩ call.now) other _)
  · obtain rfl := Option.some.inj same
    have member : Call.reserve call ∈ callsOn mapping state.mutex state.publishBlocks
        state.acquisitions := Holder.callsOn_mem inside (by simp [Holder.callsOn])
    have viewed := view metadata found
    have last : call.share = 1 := by
      cases operation
      rfl
    obtain ⟨unreserved, unsettled⟩ := viewed.claimed member last
    have vacant := heldOn_vacant unreserved (viewed.unsettling unsettled)
    have renews (nextUid : Nat) : call.pc = .storeTimestamp nextUid → nextUid = metadata.uid :=
      (viewed.renews member).2
    rw [vacant] at tracks
    simp only [inside, workOn_reserving, if_true] at tracks
    obtain ⟨following, moved, after⟩ := tracks.grant
      ⟨some mapping, block.blockId, uid, state.pool.publisherPid, index⟩
      (tracks.free lived unreserved) renews operation
    rw [historyOn_own (.reserved _ _) rfl]
    refine ⟨following, .event _ _ _ _ lived moved, after.permute (.of_eq ?_)⟩
    rw [inside, heldOn_reserving] at vacant
    simp only [heldOn, Option.toList_none, List.flatMap_nil, List.nil_append] at vacant
    simp [heldOn, vacant, PublishBlock.heldOn, Stage.holding, Stage.reserved]
  · have apart : mapping ≠ number := fun same => other (congrArg some same)
    simp [inside, heldOn, Holder.heldOn, PublishBlock.heldOn, apart]

/-- A reservation which cannot be settled any more is lost to its object: nobody holds it, and the
count is never given back. -/
theorem State.Lives.quarantined (lives : state.Lives number) (formed : state.Formed) {index : Nat}
    {reservation : BlockReservation} {stage next : Stage} {event : Event}
    (found : state.publishBlocks[index]? = some ⟨reservation, stage⟩)
    (unsettled : stage.reserved = true) (vacant : next.reserved = false ∧ next.settling = false)
    (failed : event = .prepareFailed reservation ∨ event = .cancelFailed reservation ∧
      (reservation.publisherPid ≠ state.pool.publisherPid ∨ reservation.mapping = none)) :
    State.Lives ((state.put index ⟨reservation, next⟩).note event) number := by
  have fits := formed.blocks _ (List.mem_of_getElem? found)
  have mapped := fits.staged.mapped unsettled
  obtain rfl : event = .prepareFailed reservation := by
    rcases failed with same | ⟨-, foreign | unmapped⟩
    · exact same
    · exact absurd fits.pid foreign
    · exact absurd unmapped mapped
  have quiet : stage.settling = false := by
    cases stage <;> simp_all [Stage.reserved, Stage.settling]
  have holding : stage.holding = true := (Stage.holding_quiet quiet).trans unsettled
  have released : next.holding = false := (Stage.holding_quiet vacant.2).trans vacant.1
  obtain ⟨others, parts⟩ := heldOn_set found
  obtain ⟨before, after⟩ := parts number ⟨reservation, next⟩ state.mutex
  rw [heldOn_stage holding] at before
  rw [heldOn_released released, List.nil_append] at after
  by_cases same : reservation.mapping = some number
  · rw [if_pos same] at before
    refine ⟨lives.1, fun metadata read => ?_⟩
    obtain ⟨life, lived, tracks⟩ := lives.2 metadata read
    obtain ⟨following, moved, lost⟩ := (tracks.permute before).lose
    have history : historyOn number (.prepareFailed reservation :: state.log) =
        .prepareFailed reservation :: historyOn number state.log :=
      historyOn_own (.prepareFailed reservation) same _
    simp only [State.note, State.put, history]
    exact ⟨following, .event _ _ _ _ lived moved, lost.permute after.symm⟩
  · rw [if_neg same, List.nil_append] at before
    exact lives.elsewhere (Nat.le_refl _) rfl rfl (before.trans after.symm)
      (historyOn_other (.prepareFailed reservation) same _)

/-- A commit takes its reservation from the PublishBlock into the mutex. The object's life does not
show the difference. -/
theorem State.Lives.commitBegun (lives : state.Lives number) {index : Nat}
    {reservation : BlockReservation} {descriptor : BufferDescriptor}
    (found : state.publishBlocks[index]? = some ⟨reservation, .described descriptor⟩)
    (free : state.mutex = none) :
    State.Lives ({ state with
      mutex := some (.committing index reservation descriptor
        (SettleCall.commitPublish reservation.uid)) }.put index ⟨reservation, .committing⟩)
      number := by
  obtain ⟨others, parts⟩ := heldOn_set found
  obtain ⟨before, after⟩ := parts number ⟨reservation, .committing⟩ none
  rw [heldOn_stage rfl] at before
  rw [heldOn_released rfl, List.nil_append] at after
  have held : (heldOn number state.mutex state.publishBlocks).Perm
      (heldOn number (some (.committing index reservation descriptor
        (SettleCall.commitPublish reservation.uid)))
        (state.publishBlocks.set index ⟨reservation, .committing⟩)) := by
    rw [free, heldOn_committing]
    exact before.trans (after.symm.append_left _)
  by_cases same : reservation.mapping = some number
  · refine ⟨lives.1, fun metadata read => ?_⟩
    obtain ⟨life, lived, tracks⟩ := lives.2 metadata read
    have begun := tracks.permute held
    rw [free, workOn_none] at begun
    refine ⟨life, lived, ?_⟩
    simpa [State.put, same] using begun.commit reservation.uid
  · exact lives.elsewhere (Nat.le_refl _) rfl (by simp [free, same, State.put]) held rfl

/-- An operation of a commit which is not its last stamps the object, and its life notes nothing
yet. -/
theorem State.Lives.committing (lives : state.Lives number) (formed : state.Formed)
    (view : state.Views number) {index : Nat} {reservation : BlockReservation}
    {descriptor : BufferDescriptor} {call next : SettleCall} {metadata changed : BlockMetadata}
    (inside : state.mutex = some (.committing index reservation descriptor call))
    (found : state.read reservation.mapping = some metadata)
    (operation : call.Operation state.clock metadata changed (.running next)) :
    State.Lives { state.settle reservation.mapping call changed with
      mutex := some (.committing index reservation descriptor next) } number := by
  have commits := (formed.holder _ inside).2
  refine lives.operate found rfl rfl (fun same life lived tracks => ?_)
    (fun other => by simp [inside, other]) (fun other => .of_eq (by simp [inside, other]; rfl))
    (fun other => ?_)
  · have member : Call.settle call ∈ callsOn number state.mutex state.publishBlocks
        state.acquisitions := Holder.callsOn_mem inside (by simp [Holder.callsOn, same])
    have early := (view metadata (same ▸ found)).settle_running member operation
    simp only [inside, workOn_committing, heldOn_committing, same, if_true] at tracks ⊢
    refine ⟨life, ?_, tracks.stamp commits operation⟩
    simpa [State.settle, decrements, early] using lived
  · simp only [State.settle, historyOn_append, decrements_other other, List.nil_append]

/-- The last operation of a commit gives the count back and publishes, two events of the life of its
object. It does not fail, because the count which it gives back is there. -/
theorem State.Lives.committed (lives : state.Lives number) (formed : state.Formed)
    (view : state.Views number) {index : Nat} {reservation : BlockReservation}
    {descriptor : BufferDescriptor} {call : SettleCall} {metadata changed : BlockMetadata}
    {released : Bool}
    (inside : state.mutex = some (.committing index reservation descriptor call))
    (found : state.read reservation.mapping = some metadata)
    (operation : call.Operation state.clock metadata changed (.returned released)) :
    State.Lives (({ state.settle reservation.mapping call changed with mutex := none }.put index
      ⟨reservation, .idle false⟩).note
      (if released then .prepared descriptor reservation.mapping call.now
        else .prepareFailed reservation)) number := by
  obtain ⟨describes, commits⟩ := formed.holder _ inside
  obtain ⟨others, parts⟩ := heldOn_set (formed.linked _ _ _ _ inside)
  obtain ⟨before, after⟩ := parts number ⟨reservation, .idle false⟩ none
  rw [heldOn_released rfl, List.nil_append] at before after
  have beside := before.trans after.symm
  refine lives.operate found rfl rfl (fun same life lived tracks => ?_)
    (fun other => by simp [inside, other, State.put, State.note])
    (fun other => .trans (.of_eq (by simp [inside, other])) beside) (fun other => ?_)
  · have member : Call.settle call ∈ callsOn number state.mutex state.publishBlocks
        state.acquisitions := Holder.callsOn_mem inside (by simp [Holder.callsOn, same])
    obtain ⟨rfl, last⟩ := (view metadata (same ▸ found)).settle_released member operation
    simp only [inside, workOn_committing, heldOn_committing, same, if_true] at tracks
    obtain ⟨middle, following, released, published, tracksNext⟩ :=
      tracks.publish commits describes.1 operation
    have history : historyOn number (.prepared descriptor reservation.mapping call.now ::
        (decrements reservation.mapping call ++ state.log)) =
          .prepared descriptor reservation.mapping call.now ::
            .decremented reservation.mapping call.uid :: historyOn number state.log := by
      simp [decrements, last, historyOn, Event.mapping, same]
    refine ⟨following, ?_, tracksNext.permute beside⟩
    simp only [State.note, State.put, State.settle, if_true, history]
    exact .event _ _ _ _ (.event _ _ _ _ lived released) published
  · have silent : (if released then Event.prepared descriptor reservation.mapping call.now
        else .prepareFailed reservation).mapping ≠ some number := by
      cases released <;> exact other
    simp only [State.note, State.put, State.settle, historyOn_other _ silent, historyOn_append,
      decrements_other other, List.nil_append]

/-- A cancel begins with a reservation which its PublishBlock keeps meanwhile, so every life stays
as it was. -/
theorem State.Lives.cancelBegun (lives : state.Lives number) {index : Nat}
    {reservation : BlockReservation} {after : AfterCancel}
    (found : state.publishBlocks[index]? = some ⟨reservation, .idle true⟩) :
    State.Lives (state.put index
      ⟨reservation, .cancelling (SettleCall.cancelPublish reservation.uid) after⟩) number := by
  obtain ⟨others, parts⟩ := heldOn_set found
  obtain ⟨before, behind⟩ := parts number
    ⟨reservation, .cancelling (SettleCall.cancelPublish reservation.uid) after⟩ state.mutex
  rw [heldOn_stage rfl] at before behind
  exact lives.elsewhere (Nat.le_refl _) rfl rfl (before.trans behind.symm) rfl

/-- An operation of a cancel which is not its last writes nothing, so every life stays as it was. -/
theorem State.Lives.cancelling (lives : state.Lives number) (formed : state.Formed)
    (view : state.Views number) {index : Nat} {reservation : BlockReservation}
    {after : AfterCancel} {call next : SettleCall} {metadata changed : BlockMetadata}
    (block : state.publishBlocks[index]? = some ⟨reservation, .cancelling call after⟩)
    (found : state.read reservation.mapping = some metadata)
    (operation : call.Operation state.clock metadata changed (.running next)) :
    State.Lives ((state.settle reservation.mapping call changed).put index
      ⟨reservation, .cancelling next after⟩) number := by
  obtain ⟨others, parts⟩ := heldOn_set block
  obtain ⟨before, behind⟩ := parts number ⟨reservation, .cancelling next after⟩ state.mutex
  rw [heldOn_stage rfl] at before behind
  have held := before.trans behind.symm
  refine lives.operate found rfl rfl (fun same life lived tracks => ?_) (fun _ => rfl)
    (fun _ => held) (fun other => ?_)
  · have member : Call.settle call ∈ callsOn number state.mutex state.publishBlocks
        state.acquisitions :=
      PublishBlock.callsOn_mem block (by simp [PublishBlock.callsOn, same])
    have early := (view metadata (same ▸ found)).settle_running member operation
    have cancels : call.Cancels reservation.uid :=
      (formed.blocks _ (List.mem_of_getElem? block)).staged.2
    obtain rfl : changed = metadata := cancels.unwritten operation early
    refine ⟨life, ?_, tracks.permute held⟩
    simpa [State.settle, State.put, decrements, early] using lived
  · simp only [State.settle, State.put, historyOn_append, decrements_other other,
      List.nil_append]

/-- The last operation of a cancel gives the count back without a publication, two events of the
life of its object. -/
theorem State.Lives.cancelled (lives : state.Lives number) (formed : state.Formed)
    (view : state.Views number) {index : Nat} {reservation : BlockReservation}
    {after : AfterCancel} {call : SettleCall} {metadata changed : BlockMetadata} {released : Bool}
    (block : state.publishBlocks[index]? = some ⟨reservation, .cancelling call after⟩)
    (found : state.read reservation.mapping = some metadata)
    (operation : call.Operation state.clock metadata changed (.returned released)) :
    State.Lives (((state.settle reservation.mapping call changed).put index
      ⟨reservation, after.stage⟩).note
        (if released then .cancelled reservation else .cancelFailed reservation)) number := by
  obtain ⟨others, parts⟩ := heldOn_set block
  obtain ⟨before, behind⟩ := parts number ⟨reservation, after.stage⟩ state.mutex
  rw [heldOn_stage rfl] at before
  rw [heldOn_released after.stage_holding, List.nil_append] at behind
  refine lives.operate found rfl rfl (fun same life lived tracks => ?_) (fun _ => rfl)
    (fun other => ?_) (fun other => ?_)
  · have member : Call.settle call ∈ callsOn number state.mutex state.publishBlocks
        state.acquisitions :=
      PublishBlock.callsOn_mem block (by simp [PublishBlock.callsOn, same])
    obtain ⟨rfl, last⟩ := (view metadata (same ▸ found)).settle_released member operation
    have cancels : call.Cancels reservation.uid :=
      (formed.blocks _ (List.mem_of_getElem? block)).staged.2
    obtain rfl : changed = metadata.fetchSub := by
      cases operation
      rfl
    rw [if_pos same] at before
    obtain ⟨middle, following, undone, freed, tracksNext⟩ := (tracks.permute before).undo
    have history : historyOn number (.cancelled reservation ::
        (decrements reservation.mapping call ++ state.log)) =
          .cancelled reservation :: .decremented reservation.mapping reservation.uid ::
            historyOn number state.log := by
      simp [decrements, last, historyOn, Event.mapping, same, cancels.1]
    refine ⟨following, ?_, tracksNext.permute behind.symm⟩
    simp only [State.note, State.put, State.settle, if_true, history]
    exact .event _ _ _ _ (.event _ _ _ _ lived undone) freed
  · rw [if_neg other, List.nil_append] at before
    exact before.trans behind.symm
  · have silent : (if released then Event.cancelled reservation
        else .cancelFailed reservation).mapping ≠ some number := by
      cases released <;> exact other
    simp only [State.note, State.put, State.settle, historyOn_other _ silent, historyOn_append,
      decrements_other other, List.nil_append]

/-- A move assignment hands a reservation from one PublishBlock to another, which holds none then.

Proof: target and source exchange the reservation; what is beside them is the same. -/
theorem State.Lives.movedFrom (lives : state.Lives number) {target source : Nat}
    {old reservation : BlockReservation} {owner : Bool}
    (assigned : state.publishBlocks[target]? = some ⟨old, .assigning source⟩)
    (found : state.publishBlocks[source]? = some ⟨reservation, .idle owner⟩) :
    State.Lives ((state.put target ⟨reservation, .idle owner⟩).put source
      ⟨reservation.moved, .idle false⟩) number := by
  have apart : target ≠ source := by
    rintro rfl
    simp [assigned] at found
  have still : (state.publishBlocks.set target ⟨reservation, .idle owner⟩)[source]? =
      some ⟨reservation, .idle owner⟩ := by
    rw [List.getElem?_set_ne apart, found]
  obtain ⟨others, parts⟩ := heldOn_set assigned
  obtain ⟨before, after⟩ := parts number ⟨reservation, .idle owner⟩ state.mutex
  obtain ⟨left, leftParts⟩ := heldOn_set still
  obtain ⟨again, last⟩ := leftParts number ⟨reservation.moved, .idle false⟩ state.mutex
  rw [heldOn_released rfl, List.nil_append] at before last
  have beside := (List.perm_append_left_iff _).mp (after.symm.trans again)
  exact lives.elsewhere (Nat.le_refl _) rfl rfl (before.trans (beside.trans last.symm)) rfl

/-- A move construction hands a reservation to a new PublishBlock, and the source holds none any
more. -/
theorem State.Lives.moveConstructed (lives : state.Lives number) {source : Nat}
    {reservation : BlockReservation} {owner : Bool}
    (found : state.publishBlocks[source]? = some ⟨reservation, .idle owner⟩) :
    State.Lives { state with
      publishBlocks := state.publishBlocks.set source ⟨reservation.moved, .idle false⟩ ++
        [⟨reservation, .idle owner⟩] } number := by
  obtain ⟨others, parts⟩ := heldOn_set found
  obtain ⟨before, after⟩ := parts number ⟨reservation.moved, .idle false⟩ state.mutex
  rw [heldOn_released rfl, List.nil_append] at after
  refine lives.elsewhere (Nat.le_refl _) rfl rfl ?_ rfl
  refine (before.trans (after.symm.append_left _)).trans ?_
  refine List.perm_iff_count.mpr fun other => ?_
  simp [heldOn]
  omega

/-- Every action keeps the lives. Those of a reservation, a commit or a cancel follow the steps
above; the others leave the life alone. -/
theorem lives_transition (formed : state.Formed) (view : state.Views number)
    (lives : state.Lives number) (transition : Transition state next) : next.Lives number := by
  cases transition with
  | environment clock counter later more => exact lives.elsewhere later rfl rfl (.refl _) rfl
  | reconfigured pool initialising events same pid _ outcomes =>
    refine lives.elsewhere (Nat.le_refl _) rfl rfl (.refl _) ?_
    rw [historyOn_append, outcomes.silent, List.nil_append]
  | retired pool initialising events free empty pid _ outcomes =>
    refine lives.elsewhere (Nat.le_refl _) rfl rfl (.refl _) ?_
    rw [historyOn_append, outcomes.silent, List.nil_append,
      historyOn_other .retired (by simp [Event.mapping])]
  | allocated index below running =>
    exact lives.elsewhere (Nat.le_refl _) rfl rfl (.refl _)
      (historyOn_other (.allocated _) (by simp [Event.mapping]) _)
  | created index blockId value running => exact lives.born formed
  | scanned mutex outside goes =>
    refine lives.elsewhere (Nat.le_refl _) rfl ?_ (.of_eq ?_) rfl
    · rcases outside with outside | ⟨offset, outside⟩ <;> rcases goes with rfl | ⟨after, rfl⟩ <;>
        simp [outside]
    · rcases outside with outside | ⟨offset, outside⟩ <;> rcases goes with rfl | ⟨after, rfl⟩ <;>
        simp [outside]
  | visited offset index mapping inside within present => exact lives.visited inside
  | reserving offset index mapping call next metadata changed inside found operation =>
    exact lives.reserving view inside found operation
  | passed offset index mapping call metadata changed inside found operation =>
    exact lives.passed inside found operation
  | reserved offset index mapping uid call metadata changed block inside found operation =>
    exact lives.reserved view inside found operation
  | handled pool index reservation stage next same pid found quiet kept described =>
    obtain ⟨others, parts⟩ := heldOn_set found
    obtain ⟨before, after⟩ := parts number ⟨reservation, next⟩ state.mutex
    refine lives.elsewhere (Nat.le_refl _) rfl rfl (before.trans (.trans (.of_eq ?_) after.symm))
      rfl
    have holding : next.holding = stage.holding := by
      rw [Stage.holding_quiet quiet.1, Stage.holding_quiet quiet.2, kept]
    simp only [PublishBlock.heldOn, holding]
  | quarantined index reservation stage next event found unsettled vacant failed =>
    exact lives.quarantined formed found unsettled vacant failed
  | commitBegun index reservation descriptor found free owned => exact lives.commitBegun found free
  | committing index reservation descriptor call next metadata changed inside found operation =>
    exact lives.committing formed view inside found operation
  | committed index reservation descriptor call metadata changed released inside found operation =>
    exact lives.committed formed view inside found operation
  | cancelBegun index reservation after found pid mapped => exact lives.cancelBegun found
  | cancelling index reservation after call next metadata changed block found operation =>
    exact lives.cancelling formed view block found operation
  | cancelled index reservation after call metadata changed released block found operation =>
    exact lives.cancelled formed view block found operation
  | movedFrom target source old reservation owner assigned found =>
    exact lives.movedFrom assigned found
  | moveConstructed source reservation owner found => exact lives.moveConstructed found
  | acquireBegun mapping uid present => exact lives.elsewhere (Nat.le_refl _) rfl rfl (.refl _) rfl
  | acquiring index mapping call next metadata changed running found operation =>
    exact lives.touched found rfl rfl rfl rfl rfl operation.count.1 operation.count.2
  | acquired index mapping call metadata changed valid running found operation =>
    exact lives.touched found rfl rfl rfl rfl rfl operation.count.1 operation.count.2
  | zeroed index mapping uid metadata running found =>
    exact lives.touched found rfl rfl rfl rfl rfl rfl rfl
  | released index mapping uid metadata holding found =>
    exact lives.touched found rfl rfl rfl rfl rfl rfl rfl

/-- In every reachable state every metadata object lives the life of a block. By induction on the
run, with the views beside it. -/
theorem reachable_lives {admitted : State → Action → Prop} {state : State}
    (reached : Reachable step admitted Initial state) (number : Nat) : state.Lives number := by
  refine Reachable.invariant (?_ : ∀ start, Initial start → ∀ number, start.Lives number) ?_ reached
    number
  · rintro start ⟨config, blockCount, publisherPid, nextBlockId, clock, -, ticking, rfl⟩ number
    exact ⟨ticking, by simp [State.read]⟩
  · intro earlier later action before lives _ moved number
    exact lives_transition (reachable_formed before) (reachable_views before number) (lives number)
      (step_transition moved)

/-- An object which an event is about was created, so it has a life, whose history is what the log
tells of it. -/
theorem event_life {admitted : State → Action → Prop} {state : State} {event : Event}
    (reached : Reachable step admitted Initial state) (member : event ∈ state.log)
    (about : event.mapping = some number) :
    ∃ metadata life, Of (historyOn number state.log) life ∧
      Tracks state.clock metadata (workOn number state.mutex)
        (heldOn number state.mutex state.publishBlocks) life := by
  have below := ((reachable_formed reached).events event member).below about
  have bounded : number < state.objects.length := by simpa [State.blockIds] using below
  have found : state.read (some number) = some state.objects[number].metadata := by
    simp [State.read, bounded]
  obtain ⟨life, lived, tracks⟩ := (reachable_lives reached number).2 _ found
  exact ⟨_, life, lived, tracks⟩

/-- An event of the log about an object is in its history. -/
theorem mem_historyOn {log : List Event} {event : Event} (member : event ∈ log)
    (about : event.mapping = some number) : event ∈ historyOn number log :=
  List.mem_filter.mpr ⟨member, decide_eq_true about⟩

/-- An event about an object happened in its life: behind the earlier events about it the event
was a step. -/
theorem event_split {admitted : State → Action → Prop} {state : State} {event : Event}
    {later earlier : List Event} (reached : Reachable step admitted Initial state)
    (logged : state.log = later ++ event :: earlier) (about : event.mapping = some number) :
    ∃ life, Of (event :: historyOn number earlier) life := by
  have member : event ∈ state.log := by simp [logged]
  obtain ⟨metadata, life, lived, -⟩ := event_life reached member about
  rw [logged, historyOn_append, historyOn_own _ about] at lived
  exact lived.past

end Ros2CudaIpc.GpuBufferManager
