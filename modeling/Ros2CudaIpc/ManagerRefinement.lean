import Ros2CudaIpc.BlockView
import Ros2CudaIpc.ManagerInvariant

/-!
# Every metadata object follows the block protocol

The manager's calls, PublishBlocks and subscribers are scattered over its state.
Collected for one object they are a view of that block: the call inside the mutex,
the running cancels and acquires are its calls; a PublishBlock with a reservation
and every quarantined reservation are its unsettled reservations; the valid
BufferRefs are its references. Each action of the manager is at most one action
of the block, and a commit or cancel starts from a reservation of its own.
-/

namespace Ros2CudaIpc.GpuBufferManager

open Reachability BlockProtocol WeightedLists

/-- The calls on an object inside the mutex: one reservation attempt or commit at most. -/
def Holder.callsOn (number : Nat) : Holder → List Call
  | .scanning _ => []
  | .reserving _ _ mapping call => if mapping = number then [.reserve call] else []
  | .committing _ reservation _ call =>
    if reservation.mapping = some number then [.settle call] else []

/-- The running cancel of a PublishBlock on an object, which needs no mutex. -/
def PublishBlock.callsOn (number : Nat) (block : PublishBlock) : List Call :=
  match block.stage with
  | .cancelling call _ => if block.reservation.mapping = some number then [.settle call] else []
  | _ => []

/-- The unsettled reservation of an object a PublishBlock has, by its uid. -/
def PublishBlock.reservationsOn (number : Nat) (block : PublishBlock) : List Nat :=
  if block.stage.reserved = true ∧ block.reservation.mapping = some number then
    [block.reservation.uid]
  else []

/-- A quarantined reservation of an object: nobody will settle it, and its count is kept. -/
def Event.failedOn (number : Nat) : Event → List Nat
  | .prepareFailed reservation | .cancelFailed reservation =>
    if reservation.mapping = some number then [reservation.uid] else []
  | _ => []

/-- A reservation of an object a caller was granted, by its uid. -/
def Event.grantedOn (number : Nat) : Event → List Nat
  | .reserved reservation _ =>
    if reservation.mapping = some number then [reservation.uid] else []
  | _ => []

/-- A reservation of an object whose count was given back, by its uid. -/
def Event.settledOn (number : Nat) : Event → List Nat
  | .decremented mapping uid => if mapping = some number then [uid] else []
  | _ => []

/-- The running call of a subscriber on an object: an acquire, or a release which met a count of
zero. -/
def Acquisition.callsOn (number : Nat) (acquisition : Acquisition) : List Call :=
  match acquisition.phase with
  | .acquiring pc => if acquisition.mapping = number then [.acquire ⟨acquisition.uid, pc⟩] else []
  | .underflowed => if acquisition.mapping = number then [.underflowedRelease] else []
  | _ => []

/-- The valid BufferRef of a subscriber on an object; a refused or released one is none. -/
def Acquisition.refsOn (number : Nat) (acquisition : Acquisition) : List BufferRef :=
  match acquisition.phase with
  | .holding => if acquisition.mapping = number then [⟨true, acquisition.uid⟩] else []
  | _ => []

/-- The calls running on an object: those inside the mutex, the cancels, and the subscribers'. -/
def callsOn (number : Nat) (mutex : Option Holder) (publishBlocks : List PublishBlock)
    (acquisitions : List Acquisition) : List Call :=
  mutex.toList.flatMap (Holder.callsOn number) ++
    (publishBlocks.flatMap (PublishBlock.callsOn number) ++
      acquisitions.flatMap (Acquisition.callsOn number))

/-- The unsettled reservations of an object: those of PublishBlocks, and the quarantined ones. -/
def reservationsOn (number : Nat) (publishBlocks : List PublishBlock) (log : List Event) :
    List Nat :=
  publishBlocks.flatMap (PublishBlock.reservationsOn number) ++ log.flatMap (Event.failedOn number)

/-- The valid BufferRefs on an object, of all subscribers together. -/
def refsOn (number : Nat) (acquisitions : List Acquisition) : List BufferRef :=
  acquisitions.flatMap (Acquisition.refsOn number)

/-- The reservations of an object granted so far, the latest first, by their uids. -/
def State.grantedOn (state : State) (number : Nat) : List Nat :=
  state.log.flatMap (Event.grantedOn number)

/-- The reservations of an object settled so far, the latest first, by their uids. -/
def State.settledOn (state : State) (number : Nat) : List Nat :=
  state.log.flatMap (Event.settledOn number)

/-- An object of a state as a view of its block, when it was created at all. -/
def State.Views (state : State) (number : Nat) : Prop :=
  ∀ metadata, state.read (some number) = some metadata →
    Viewed metadata (callsOn number state.mutex state.publishBlocks state.acquisitions)
      (reservationsOn number state.publishBlocks state.log) (refsOn number state.acquisitions)
      (state.grantedOn number) (state.settledOn number)

/-- A write reaches the object it names and no other; one without a mapping reaches none. -/
theorem read_write (state : State) (mapping : Option Nat) (changed : BlockMetadata) (number : Nat) :
    (state.write mapping changed).read (some number) =
      if mapping = some number then (state.read (some number)).map fun _ => changed
      else state.read (some number) := by
  cases mapping with
  | none => simp [State.read, State.write, writeObject]
  | some other =>
    simp only [State.read, State.write, writeObject, Option.bind_some, List.getElem?_modify,
      Option.some.injEq]
    cases state.objects[number]? with
    | none => simp
    | some object => split <;> simp

/-- The call inside the mutex comes before all others, should there be one on the object. -/
theorem callsOn_holder (number : Nat) (holder : Holder) (publishBlocks : List PublishBlock)
    (acquisitions : List Acquisition) : callsOn number (some holder) publishBlocks acquisitions =
      holder.callsOn number ++ callsOn number none publishBlocks acquisitions := by
  simp [callsOn]

/-- What a PublishBlock contributes to the views, before and after its replacement. The others
contribute the same both times. -/
theorem views_set {publishBlocks : List PublishBlock} {index : Nat} {old : PublishBlock}
    (found : publishBlocks[index]? = some old) : ∃ others, ∀ (number : Nat) (changed : PublishBlock)
      (mutex : Option Holder) (acquisitions : List Acquisition) (log : List Event),
      (callsOn number mutex publishBlocks acquisitions).Perm
        (old.callsOn number ++ callsOn number mutex others acquisitions) ∧
      (callsOn number mutex (publishBlocks.set index changed) acquisitions).Perm
        (changed.callsOn number ++ callsOn number mutex others acquisitions) ∧
      (reservationsOn number publishBlocks log).Perm
        (old.reservationsOn number ++ reservationsOn number others log) ∧
      (reservationsOn number (publishBlocks.set index changed) log).Perm
        (changed.reservationsOn number ++ reservationsOn number others log) := by
  obtain ⟨others, before, after⟩ := set_perm found
  refine ⟨others, fun number changed mutex acquisitions log => ?_⟩
  have calls {block : PublishBlock} {blocks : List PublishBlock}
      (same : blocks.Perm (block :: others)) : (callsOn number mutex blocks acquisitions).Perm
        (block.callsOn number ++ callsOn number mutex others acquisitions) := by
    refine (((same.flatMap_right _).append_right _).append_left _).trans ?_
    refine List.perm_iff_count.mpr fun call => ?_
    simp [callsOn]
    omega
  have reservations {block : PublishBlock} {blocks : List PublishBlock}
      (same : blocks.Perm (block :: others)) : (reservationsOn number blocks log).Perm
        (block.reservationsOn number ++ reservationsOn number others log) := by
    refine ((same.flatMap_right _).append_right _).trans (.of_eq ?_)
    simp [reservationsOn]
  exact ⟨calls before, calls (after changed), reservations before, reservations (after changed)⟩

/-- What a subscriber contributes to the views, before and after its replacement. The others
contribute the same both times. -/
theorem views_set_acquisition {acquisitions : List Acquisition} {index : Nat} {old : Acquisition}
    (found : acquisitions[index]? = some old) : ∃ others, ∀ (number : Nat) (changed : Acquisition)
      (mutex : Option Holder) (publishBlocks : List PublishBlock),
      (callsOn number mutex publishBlocks acquisitions).Perm
        (old.callsOn number ++ callsOn number mutex publishBlocks others) ∧
      (callsOn number mutex publishBlocks (acquisitions.set index changed)).Perm
        (changed.callsOn number ++ callsOn number mutex publishBlocks others) ∧
      (refsOn number acquisitions).Perm (old.refsOn number ++ refsOn number others) ∧
      (refsOn number (acquisitions.set index changed)).Perm
        (changed.refsOn number ++ refsOn number others) := by
  obtain ⟨others, before, after⟩ := set_perm found
  refine ⟨others, fun number changed mutex publishBlocks => ?_⟩
  have calls {acquisition : Acquisition} {list : List Acquisition}
      (same : list.Perm (acquisition :: others)) : (callsOn number mutex publishBlocks list).Perm
        (acquisition.callsOn number ++ callsOn number mutex publishBlocks others) := by
    refine (((same.flatMap_right _).append_left _).append_left _).trans ?_
    refine List.perm_iff_count.mpr fun call => ?_
    simp [callsOn]
    omega
  have refs {acquisition : Acquisition} {list : List Acquisition}
      (same : list.Perm (acquisition :: others)) : (refsOn number list).Perm
        (acquisition.refsOn number ++ refsOn number others) :=
    same.flatMap_right _
  exact ⟨calls before, calls (after changed), refs before, refs (after changed)⟩

/-- A quarantining event adds its reservation to the unsettled ones of its object. -/
theorem reservationsOn_note (number : Nat) (publishBlocks : List PublishBlock) (event : Event)
    (log : List Event) : (reservationsOn number publishBlocks (event :: log)).Perm
      (event.failedOn number ++ reservationsOn number publishBlocks log) := by
  refine List.perm_iff_count.mpr fun uid => ?_
  simp [reservationsOn]
  omega

/-- Further events without a quarantine add no unsettled reservation to any object. -/
theorem reservationsOn_silent (number : Nat) (publishBlocks : List PublishBlock)
    {events : List Event} (log : List Event)
    (silent : events.flatMap (Event.failedOn number) = []) :
    reservationsOn number publishBlocks (events ++ log) =
      reservationsOn number publishBlocks log := by
  simp [reservationsOn, silent]

/-- The events of a decrement neither quarantine nor grant a reservation, of whichever object. -/
theorem decrements_unrelated (number : Nat) (mapping : Option Nat) (call : SettleCall) :
    (decrements mapping call).flatMap (Event.failedOn number) = [] ∧
      (decrements mapping call).flatMap (Event.grantedOn number) = [] := by
  unfold decrements
  split <;> exact ⟨rfl, rfl⟩

/-- The events which end an `initialise` say nothing about a reservation of any object. -/
theorem Outcomes.unrelated {events : List Event} (outcomes : Outcomes events) (number : Nat) :
    events.flatMap (Event.failedOn number) = [] ∧ events.flatMap (Event.grantedOn number) = [] ∧
      events.flatMap (Event.settledOn number) = [] := by
  simp only [List.flatMap_eq_nil_iff]
  refine ⟨fun event member => ?_, fun event member => ?_, fun event member => ?_⟩
  all_goals
    obtain ⟨succeeded, rfl⟩ := outcomes event member
    rfl

variable {state next : State} {number : Nat}

/-- An action elsewhere leaves the view of an object: its words and everything collected for it
are the same. -/
theorem State.Views.elsewhere (views : state.Views number)
    (read : next.read (some number) = state.read (some number))
    (calls : (callsOn number state.mutex state.publishBlocks state.acquisitions).Perm
      (callsOn number next.mutex next.publishBlocks next.acquisitions))
    (reservations : (reservationsOn number state.publishBlocks state.log).Perm
      (reservationsOn number next.publishBlocks next.log))
    (refs : (refsOn number state.acquisitions).Perm (refsOn number next.acquisitions))
    (granted : next.grantedOn number = state.grantedOn number)
    (settled : next.settledOn number = state.settledOn number) : next.Views number := by
  intro metadata found
  rw [granted, settled]
  exact (views metadata (read ▸ found)).permute calls reservations refs

/-- What a write to the object itself leaves to read is what was written. -/
theorem read_written {metadata : BlockMetadata} (found : state.read (some number) = some metadata)
    (changed : BlockMetadata) :
    (state.write (some number) changed).read (some number) = some changed := by
  rw [read_write, if_pos rfl, found]
  rfl

/-- What a write to another object leaves to read is what was there before. -/
theorem read_unwritten {mapping : Option Nat} (other : mapping ≠ some number)
    (changed : BlockMetadata) :
    (state.write mapping changed).read (some number) = state.read (some number) := by
  rw [read_write, if_neg other]

/-- The operation of a running call, on the object or on another one. On the object it is one step
of the block. -/
theorem State.Views.operate (view : state.Views number) {mapping : Option Nat}
    {metadata changed : BlockMetadata} {call : Call} {progress : Progress} {clock : Nat}
    {spurious : Bool} (rest : List Call) (found : state.read mapping = some metadata)
    (moved : call.step clock spurious metadata = (changed, progress))
    (written : next.objects = (state.write mapping changed).objects)
    (running : (callsOn number state.mutex state.publishBlocks state.acquisitions).Perm
      ((if mapping = some number then [call] else []) ++ rest))
    (calls : (callsOn number next.mutex next.publishBlocks next.acquisitions).Perm
      ((if mapping = some number then progress.calls else []) ++ rest))
    (reservations : (reservationsOn number next.publishBlocks next.log).Perm
      ((if mapping = some number then progress.reservations else []) ++
        reservationsOn number state.publishBlocks state.log))
    (refs : (refsOn number next.acquisitions).Perm
      ((if mapping = some number then progress.refs.filter BufferRef.valid else []) ++
        refsOn number state.acquisitions))
    (granted : next.grantedOn number =
      (if mapping = some number then progress.reservations else []) ++ state.grantedOn number)
    (settled : mapping = some number →
      next.settledOn number = progress.settledUids ++ state.settledOn number)
    (unsettled : mapping ≠ some number → next.settledOn number = state.settledOn number) :
    next.Views number := by
  have read : next.read (some number) = (state.write mapping changed).read (some number) := by
    simp only [State.read, written]
  by_cases same : mapping = some number
  · subst same
    rw [if_pos rfl] at running calls reservations refs granted
    intro words readNext
    rw [read, read_written found, Option.some.injEq] at readNext
    subst readNext
    rw [granted, settled rfl]
    exact ((view metadata found).advance running moved).permute calls.symm reservations.symm
      (List.perm_append_comm.trans refs.symm)
  · rw [if_neg same, List.nil_append] at running calls reservations refs granted
    exact view.elsewhere (read.trans (read_unwritten same changed)) (running.trans calls.symm)
      reservations.symm refs.symm granted (unsettled same)

attribute [local simp] Holder.callsOn PublishBlock.callsOn PublishBlock.reservationsOn
  Event.failedOn Event.grantedOn Event.settledOn Acquisition.callsOn Acquisition.refsOn
  Progress.calls Progress.reservations Progress.refs Progress.settledUids Progress.settlements
  reserveProgress settleProgress acquireProgress State.grantedOn State.settledOn

/-- A stage outside a commit or cancel has no running call on any object. -/
theorem callsOn_quiet {block : PublishBlock} (quiet : block.stage.settling = false) :
    block.callsOn number = [] := by
  obtain ⟨reservation, stage⟩ := block
  cases stage <;> simp_all [Stage.settling]

/-- A stage without a reservation of its own contributes no unsettled one. -/
theorem reservationsOn_vacant {block : PublishBlock} (vacant : block.stage.reserved = false) :
    block.reservationsOn number = [] := by
  simp [PublishBlock.reservationsOn, vacant]

/-- A step of a reservation attempt inside the mutex, whether it goes on or returns. -/
theorem State.Views.reserving (view : state.Views number) {offset index mapping : Nat}
    {call : ReserveCall} {metadata changed : BlockMetadata}
    {outcome : Outcome ReserveCall (Option Nat)}
    (inside : state.mutex = some (.reserving offset index mapping call))
    (found : state.read (some mapping) = some metadata)
    (operation : call.Operation state.clock metadata changed outcome)
    (written : next.objects = (state.write (some mapping) changed).objects)
    (acquisitions : next.acquisitions = state.acquisitions)
    (calls : (callsOn number next.mutex next.publishBlocks state.acquisitions).Perm
      ((if some mapping = some number then (reserveProgress outcome).calls else []) ++
        callsOn number none state.publishBlocks state.acquisitions))
    (reservations : (reservationsOn number next.publishBlocks next.log).Perm
      ((if some mapping = some number then (reserveProgress outcome).reservations else []) ++
        reservationsOn number state.publishBlocks state.log))
    (granted : next.grantedOn number =
      (if some mapping = some number then (reserveProgress outcome).reservations else []) ++
        state.grantedOn number)
    (settled : next.settledOn number = state.settledOn number) : next.Views number := by
  refine view.operate (callsOn number none state.publishBlocks state.acquisitions) found
    (reserve_step operation false) written (.of_eq ?_) (acquisitions ▸ calls) reservations
    (.of_eq ?_) granted (fun _ => settled.trans ?_) (fun _ => settled)
  · rw [inside, callsOn_holder]
    simp
  · rw [acquisitions]
    cases outcome <;> simp
  · cases outcome <;> rfl

/-- A step of a commit or cancel, whether it goes on or returns; the reservation it settles is no
longer an unsettled one.

Proof: the decrement is the last operation, and every call comes to it. -/
theorem State.Views.settling (view : state.Views number) {mapping : Option Nat} {call : SettleCall}
    {metadata changed : BlockMetadata} {outcome : Outcome SettleCall Bool} (rest : List Call)
    (found : state.read mapping = some metadata)
    (operation : call.Operation state.clock metadata changed outcome)
    (written : next.objects = (state.write mapping changed).objects)
    (acquisitions : next.acquisitions = state.acquisitions)
    (running : (callsOn number state.mutex state.publishBlocks state.acquisitions).Perm
      ((if mapping = some number then [.settle call] else []) ++ rest))
    (calls : (callsOn number next.mutex next.publishBlocks state.acquisitions).Perm
      ((if mapping = some number then
        (settleProgress call.uid call.published outcome).calls else []) ++ rest))
    (reservations : (reservationsOn number next.publishBlocks next.log).Perm
      (reservationsOn number state.publishBlocks state.log))
    (granted : next.grantedOn number = state.grantedOn number)
    (settled : next.settledOn number =
      (decrements mapping call).flatMap (Event.settledOn number) ++ state.settledOn number) :
    next.Views number := by
  refine view.operate rest found (settle_step operation false) written running
    (acquisitions ▸ calls) (reservations.trans (.of_eq ?_)) (.of_eq ?_) (granted.trans ?_)
    (fun same => settled.trans ?_) (fun other => settled.trans ?_)
  · cases outcome <;> simp
  · rw [acquisitions]
    cases outcome <;> simp
  · cases outcome <;> simp
  · subst same
    rw [if_pos rfl] at running
    have member : Call.settle call ∈ callsOn number state.mutex state.publishBlocks
        state.acquisitions := running.mem_iff.mpr (List.mem_append_left _ (by simp))
    cases outcome with
    | running following =>
      have early := (view metadata found).settle_running member operation
      simp [decrements, early]
    | returned released =>
      obtain ⟨-, last⟩ := (view metadata found).settle_released member operation
      simp [decrements, last]
  · unfold decrements
    split <;> simp [other]

/-- A returning commit or cancel quarantines nothing, since its operation has not refused it. -/
theorem State.Views.unfailed (view : state.Views number) {reservation : BlockReservation}
    {call : SettleCall} {metadata changed : BlockMetadata} {released : Bool} {rest : List Call}
    (found : state.read reservation.mapping = some metadata)
    (operation : call.Operation state.clock metadata changed (.returned released))
    (running : (callsOn number state.mutex state.publishBlocks state.acquisitions).Perm
      ((if reservation.mapping = some number then [.settle call] else []) ++ rest))
    {success failure : Event} (succeeded : success.failedOn number = [])
    (failed : failure = .prepareFailed reservation ∨ failure = .cancelFailed reservation) :
    (if released then success else failure).failedOn number = [] := by
  by_cases same : reservation.mapping = some number
  · rw [if_pos same] at running
    have member : Call.settle call ∈ callsOn number state.mutex state.publishBlocks
        state.acquisitions := running.mem_iff.mpr (List.mem_append_left _ (by simp))
    obtain ⟨rfl, -⟩ := (view metadata (same ▸ found)).settle_released member operation
    exact succeeded
  · cases released with
    | true => exact succeeded
    | false => rcases failed with rfl | rfl <;> simp [same]

/-- A reservation is handed to a commit or a cancel: it leaves the unsettled ones and becomes that
call's. -/
theorem State.Views.settleBegun (view : state.Views number) (reservation : BlockReservation)
    (published : Bool) (others : List Nat) (objects : next.objects = state.objects)
    (acquisitions : next.acquisitions = state.acquisitions)
    (held : (reservationsOn number state.publishBlocks state.log).Perm
      ((if reservation.mapping = some number then [reservation.uid] else []) ++ others))
    (reservations : (reservationsOn number next.publishBlocks next.log).Perm others)
    (calls : (callsOn number next.mutex next.publishBlocks state.acquisitions).Perm
      ((if reservation.mapping = some number then
        [.settle ⟨reservation.uid, published, 0, .loadUid⟩] else []) ++
          callsOn number state.mutex state.publishBlocks state.acquisitions))
    (log : next.log = state.log) : next.Views number := by
  have granted : next.grantedOn number = state.grantedOn number := by
    simp only [State.grantedOn, log]
  have settled : next.settledOn number = state.settledOn number := by
    simp only [State.settledOn, log]
  have read : next.read (some number) = state.read (some number) := by
    simp only [State.read, objects]
  by_cases same : reservation.mapping = some number
  · rw [if_pos same] at held calls
    intro metadata found
    rw [granted, settled]
    refine ((view metadata (read ▸ found)).settle held published).permute
      (acquisitions ▸ calls.symm)
      reservations.symm (.of_eq (by rw [acquisitions]))
  · rw [if_neg same, List.nil_append] at held calls
    exact view.elsewhere read (acquisitions ▸ calls.symm) (held.trans reservations.symm)
      (.of_eq (by rw [acquisitions])) granted settled

/-- Nobody operates on an object which was not created, and nothing was granted or settled of it. -/
theorem State.Formed.unused (formed : state.Formed) :
    callsOn state.objects.length state.mutex state.publishBlocks state.acquisitions = [] ∧
      reservationsOn state.objects.length state.publishBlocks state.log = [] ∧
      refsOn state.objects.length state.acquisitions = [] ∧
      state.grantedOn state.objects.length = [] ∧ state.settledOn state.objects.length = [] := by
  have length : state.blockIds.length = state.objects.length := List.length_map ..
  have unknown {reservation : BlockReservation} (known : reservation.Known state.blockIds) :
      reservation.mapping ≠ some state.objects.length := by
    intro named
    have below := known _ named
    omega
  have elsewhere (acquisition : Acquisition) (member : acquisition ∈ state.acquisitions) :
      acquisition.mapping ≠ state.objects.length := by
    have below := formed.acquisitions acquisition member
    omega
  have unlogged (event : Event) (member : event ∈ state.log) :
      event.mapping ≠ some state.objects.length := by
    intro about
    have below := (formed.events event member).below about
    omega
  refine ⟨?_, ?_, ?_, ?_, ?_⟩
  · simp only [callsOn, List.append_eq_nil_iff, List.flatMap_eq_nil_iff]
    refine ⟨fun holder inside => ?_, fun block member => ?_, fun acquisition member => ?_⟩
    · have fits := formed.holder holder (Option.mem_toList.mp inside)
      cases holder with
      | scanning offset => rfl
      | reserving offset index mapping call =>
        have apart : mapping ≠ state.objects.length := by
          have below : mapping < state.blockIds.length := fits
          omega
        simp [apart]
      | committing index reservation descriptor call =>
        have linked := formed.linked _ _ _ _ (Option.mem_toList.mp inside)
        simp [unknown (formed.blocks _ (List.mem_of_getElem? linked)).known]
    · have apart := unknown (formed.blocks block member).known
      obtain ⟨reservation, stage⟩ := block
      cases stage <;> simp_all
    · have apart := elsewhere acquisition member
      obtain ⟨mapping, uid, phase⟩ := acquisition
      cases phase <;> simp_all
  · simp only [reservationsOn, List.append_eq_nil_iff, List.flatMap_eq_nil_iff]
    refine ⟨fun block member => ?_, fun event member => ?_⟩
    · simp [unknown (formed.blocks block member).known]
    · have apart := unlogged event member
      cases event <;> simp_all [Event.mapping]
  · simp only [refsOn, List.flatMap_eq_nil_iff]
    intro acquisition member
    have apart := elsewhere acquisition member
    obtain ⟨mapping, uid, phase⟩ := acquisition
    cases phase <;> simp_all
  · simp only [State.grantedOn, List.flatMap_eq_nil_iff]
    intro event member
    have apart := unlogged event member
    cases event <;> simp_all [Event.mapping]
  · simp only [State.settledOn, List.flatMap_eq_nil_iff]
    intro event member
    have apart := unlogged event member
    cases event <;> simp_all [Event.mapping]

/-- A created object is a fresh block: it has the words of its creation, and nobody is on it. -/
theorem views_created (formed : state.Formed) {index blockId : Nat} {value : UInt64} :
    State.Views { state with
      objects := state.objects ++ [⟨blockId, BlockMetadata.create value⟩]
      pool := state.pool.identify index blockId state.objects.length
      initialising := some (.loading (index + 1)) } state.objects.length := by
  obtain ⟨calls, reservations, refs, granted, settled⟩ := formed.unused
  intro metadata found
  obtain rfl : BlockMetadata.create value = metadata := by simpa [State.read] using found
  simp only [State.grantedOn, State.settledOn] at granted settled ⊢
  simp only [calls, reservations, refs, granted, settled]
  exact viewed_create value

/-- A new object is the view of a block nobody has used yet. Every other object keeps its view,
because the list of objects only grows at its end. -/
theorem State.Views.created (view : state.Views number) (formed : state.Formed)
    {index blockId : Nat} {value : UInt64} :
    State.Views { state with
      objects := state.objects ++ [⟨blockId, BlockMetadata.create value⟩]
      pool := state.pool.identify index blockId state.objects.length
      initialising := some (.loading (index + 1)) } number := by
  by_cases same : number = state.objects.length
  · subst same
    exact views_created formed
  · refine view.elsewhere ?_ (.refl _) (.refl _) (.refl _) rfl rfl
    simp only [State.read, Option.bind_some, List.getElem?_append, List.getElem?_singleton]
    split
    · rfl
    · rw [if_neg (by omega), List.getElem?_eq_none (by omega)]

/-- The scan begins a reservation attempt on the object of the block it visits, and on no other. -/
theorem State.Views.visited (view : state.Views number) {offset index mapping : Nat}
    (inside : state.mutex = some (.scanning offset)) :
    State.Views { state with
      mutex := some (.reserving offset index mapping ReserveCall.start) } number := by
  by_cases same : mapping = number
  · subst same
    intro metadata found
    refine (view metadata found).reserve.permute (.of_eq ?_) (.refl _) (.refl _)
    simp [inside, callsOn]
  · refine view.elsewhere rfl (.of_eq ?_) (.refl _) (.refl _) rfl rfl
    simp [inside, same, callsOn]

/-- A reservation which can no longer be settled moves from its PublishBlock into the log. For the
object it stays unsettled, so nothing has happened to the view. -/
theorem State.Views.quarantined (view : state.Views number) {index : Nat}
    {reservation : BlockReservation} {stage next : Stage} {event : Event}
    (found : state.publishBlocks[index]? = some ⟨reservation, stage⟩)
    (unsettled : stage.reserved = true) (vacant : next.reserved = false ∧ next.settling = false)
    (failed : event = .prepareFailed reservation ∨ event = .cancelFailed reservation ∧
      (reservation.publisherPid ≠ state.pool.publisherPid ∨ reservation.mapping = none)) :
    State.Views ((state.put index ⟨reservation, next⟩).note event) number := by
  obtain ⟨others, parts⟩ := views_set found
  obtain ⟨calls, setCalls, reservations, setReservations⟩ :=
    parts number ⟨reservation, next⟩ state.mutex state.acquisitions state.log
  have quiet : stage.settling = false := by
    cases stage <;> simp_all [Stage.reserved, Stage.settling]
  have own : (PublishBlock.mk reservation next).reservationsOn number = [] :=
    reservationsOn_vacant vacant.1
  obtain ⟨about, ungranted, unsettling⟩ : event.failedOn number =
      (PublishBlock.mk reservation stage).reservationsOn number ∧
        event.grantedOn number = [] ∧ event.settledOn number = [] := by
    rcases failed with rfl | ⟨rfl, -⟩
    · simp [unsettled]
    · simp [unsettled]
  refine view.elsewhere rfl (calls.trans (.trans (.of_eq ?_) setCalls.symm))
    (reservations.trans ?_) (.refl _) ?_ ?_
  · rw [callsOn_quiet quiet, callsOn_quiet vacant.2]
  · rw [own, List.nil_append] at setReservations
    rw [← about]
    exact (setReservations.symm.append_left _).trans (reservationsOn_note number _ event _).symm
  · simp only [State.grantedOn, State.note, List.flatMap_cons, ungranted, List.nil_append]
    rfl
  · simp only [State.settledOn, State.note, List.flatMap_cons, unsettling, List.nil_append]
    rfl

/-- A commit takes the mutex with a reservation of its own. The call it runs on the object is the
one which the reservation gives the right to. -/
theorem State.Views.commitBegun (view : state.Views number) {index : Nat}
    {reservation : BlockReservation} {descriptor : BufferDescriptor}
    (found : state.publishBlocks[index]? = some ⟨reservation, .described descriptor⟩)
    (free : state.mutex = none) :
    State.Views ({ state with
      mutex := some (.committing index reservation descriptor
        (SettleCall.commitPublish reservation.uid)) }.put index ⟨reservation, .committing⟩)
      number := by
  obtain ⟨others, parts⟩ := views_set found
  obtain ⟨outside, setOutside, reservations, setReservations⟩ :=
    parts number ⟨reservation, .committing⟩ none state.acquisitions state.log
  refine view.settleBegun reservation true (reservationsOn number others state.log) rfl rfl
    (reservations.trans (.of_eq ?_)) (setReservations.trans (.of_eq ?_)) ?_ rfl
  · simp [Stage.reserved]
  · simp [Stage.reserved]
  · rw [free]
    refine (List.Perm.of_eq (callsOn_holder ..)).trans (.append (.of_eq rfl) ?_)
    exact setOutside.trans outside.symm

/-- A commit operates on its object, and its next operation is that of the block's call. -/
theorem State.Views.committing (view : state.Views number) {index : Nat}
    {reservation : BlockReservation} {descriptor : BufferDescriptor} {call next : SettleCall}
    {metadata changed : BlockMetadata}
    (inside : state.mutex = some (.committing index reservation descriptor call))
    (found : state.read reservation.mapping = some metadata)
    (operation : call.Operation state.clock metadata changed (.running next)) :
    State.Views { state.settle reservation.mapping call changed with
      mutex := some (.committing index reservation descriptor next) } number := by
  obtain ⟨unfailed, ungranted⟩ := decrements_unrelated number reservation.mapping call
  refine view.settling (callsOn number none state.publishBlocks state.acquisitions) found
    operation rfl rfl (.of_eq ?_) (.of_eq ?_) (.of_eq ?_) ?_ ?_
  · rw [inside, callsOn_holder]
    simp
  · simp [callsOn, State.settle, State.write]
  · exact reservationsOn_silent _ _ _ unfailed
  · simp [State.settle, ungranted]
  · simp [State.settle]

/-- The last operation of a commit ends it. Its PublishBlock is empty then, and a failed commit
would leave the reservation in the log; it does not fail, because the count is above zero. -/
theorem State.Views.committed (view : state.Views number) (formed : state.Formed) {index : Nat}
    {reservation : BlockReservation} {descriptor : BufferDescriptor} {call : SettleCall}
    {metadata changed : BlockMetadata} {released : Bool}
    (inside : state.mutex = some (.committing index reservation descriptor call))
    (found : state.read reservation.mapping = some metadata)
    (operation : call.Operation state.clock metadata changed (.returned released)) :
    State.Views (({ state.settle reservation.mapping call changed with mutex := none }.put index
      ⟨reservation, .idle false⟩).note
      (if released then .prepared descriptor reservation.mapping call.now
        else .prepareFailed reservation)) number := by
  obtain ⟨unfailed, ungranted⟩ := decrements_unrelated number reservation.mapping call
  obtain ⟨others, parts⟩ := views_set (formed.linked _ _ _ _ inside)
  obtain ⟨calls, setCalls, reservations, setReservations⟩ :=
    parts number ⟨reservation, .idle false⟩ none state.acquisitions
      (decrements reservation.mapping call ++ state.log)
  have running : (callsOn number state.mutex state.publishBlocks state.acquisitions).Perm
      ((if reservation.mapping = some number then [.settle call] else []) ++
        callsOn number none state.publishBlocks state.acquisitions) := by
    rw [inside, callsOn_holder]
    exact .of_eq (by simp)
  refine view.settling _ found operation rfl rfl running ?_ ?_ ?_ ?_
  · refine (setCalls.trans calls.symm).trans (.of_eq ?_)
    simp
  · refine (reservationsOn_note number _ _ _).trans ?_
    rw [view.unfailed found operation running rfl (.inl rfl)]
    refine (setReservations.trans reservations.symm).trans (.of_eq ?_)
    exact reservationsOn_silent _ _ _ unfailed
  · cases released <;> simp [State.note, State.put, State.settle, ungranted]
  · cases released <;> simp [State.note, State.put, State.settle]

/-- A cancel runs outside the mutex, on a reservation of its own, so it may begin whoever is
inside. -/
theorem State.Views.cancelBegun (view : state.Views number) {index : Nat}
    {reservation : BlockReservation} {after : AfterCancel}
    (found : state.publishBlocks[index]? = some ⟨reservation, .idle true⟩) :
    State.Views (state.put index
      ⟨reservation, .cancelling (SettleCall.cancelPublish reservation.uid) after⟩) number := by
  obtain ⟨others, parts⟩ := views_set found
  obtain ⟨calls, setCalls, reservations, setReservations⟩ :=
    parts number ⟨reservation, .cancelling (SettleCall.cancelPublish reservation.uid) after⟩
      state.mutex state.acquisitions state.log
  refine view.settleBegun reservation false (reservationsOn number others state.log) rfl rfl
    (reservations.trans (.of_eq ?_)) (setReservations.trans (.of_eq ?_))
    (setCalls.trans (.append (.of_eq rfl) calls.symm)) rfl
  · simp [Stage.reserved]
  · simp [Stage.reserved]

/-- A cancel operates on its object, and its next operation is that of the block's call. -/
theorem State.Views.cancelling (view : state.Views number) {index : Nat}
    {reservation : BlockReservation} {after : AfterCancel} {call next : SettleCall}
    {metadata changed : BlockMetadata}
    (block : state.publishBlocks[index]? = some ⟨reservation, .cancelling call after⟩)
    (found : state.read reservation.mapping = some metadata)
    (operation : call.Operation state.clock metadata changed (.running next)) :
    State.Views ((state.settle reservation.mapping call changed).put index
      ⟨reservation, .cancelling next after⟩) number := by
  obtain ⟨unfailed, ungranted⟩ := decrements_unrelated number reservation.mapping call
  obtain ⟨others, parts⟩ := views_set block
  obtain ⟨calls, setCalls, reservations, setReservations⟩ :=
    parts number ⟨reservation, .cancelling next after⟩ state.mutex state.acquisitions
      (decrements reservation.mapping call ++ state.log)
  refine view.settling _ found operation rfl rfl calls (setCalls.trans (.of_eq ?_)) ?_ ?_ ?_
  · simp
  · refine (setReservations.trans reservations.symm).trans (.of_eq ?_)
    exact reservationsOn_silent _ _ _ unfailed
  · simp [State.put, State.settle, ungranted]
  · simp [State.put, State.settle]

/-- The last operation of a cancel ends it. What its PublishBlock does next needs no reservation. -/
theorem State.Views.cancelled (view : state.Views number) {index : Nat}
    {reservation : BlockReservation} {after : AfterCancel} {call : SettleCall}
    {metadata changed : BlockMetadata} {released : Bool}
    (block : state.publishBlocks[index]? = some ⟨reservation, .cancelling call after⟩)
    (found : state.read reservation.mapping = some metadata)
    (operation : call.Operation state.clock metadata changed (.returned released)) :
    State.Views (((state.settle reservation.mapping call changed).put index
      ⟨reservation, after.stage⟩).note
        (if released then .cancelled reservation else .cancelFailed reservation)) number := by
  obtain ⟨unfailed, ungranted⟩ := decrements_unrelated number reservation.mapping call
  obtain ⟨others, parts⟩ := views_set block
  obtain ⟨calls, setCalls, reservations, setReservations⟩ :=
    parts number ⟨reservation, after.stage⟩ state.mutex state.acquisitions
      (decrements reservation.mapping call ++ state.log)
  refine view.settling _ found operation rfl rfl calls (setCalls.trans (.of_eq ?_)) ?_ ?_ ?_
  · rw [callsOn_quiet (AfterCancel.stage_settling after)]
    simp
  · refine (reservationsOn_note number _ _ _).trans ?_
    rw [view.unfailed found operation calls rfl (.inr rfl)]
    refine setReservations.trans (.trans ?_ (reservations.symm.trans (.of_eq ?_)))
    · rw [reservationsOn_vacant (AfterCancel.stage_reserved after)]
      exact .of_eq (by simp [Stage.reserved])
    · exact reservationsOn_silent _ _ _ unfailed
  · cases released <;> simp [State.note, State.put, State.settle, ungranted]
  · cases released <;> simp [State.note, State.put, State.settle]

/-- A move assignment hands the source's reservation to the target, whose own was cancelled. No
object sees the difference.

Proof: target and source exchange the reservation; what is beside them is the same. -/
theorem State.Views.movedFrom (view : state.Views number) {target source : Nat}
    {old reservation : BlockReservation} {owner : Bool}
    (assigned : state.publishBlocks[target]? = some ⟨old, .assigning source⟩)
    (found : state.publishBlocks[source]? = some ⟨reservation, .idle owner⟩) :
    State.Views ((state.put target ⟨reservation, .idle owner⟩).put source
      ⟨reservation.moved, .idle false⟩) number := by
  have apart : target ≠ source := by
    rintro rfl
    simp [assigned] at found
  have still : (state.publishBlocks.set target ⟨reservation, .idle owner⟩)[source]? =
      some ⟨reservation, .idle owner⟩ := by
    rw [List.getElem?_set_ne apart, found]
  obtain ⟨others, parts⟩ := views_set assigned
  obtain ⟨calls, setCalls, reservations, setReservations⟩ :=
    parts number ⟨reservation, .idle owner⟩ state.mutex state.acquisitions state.log
  obtain ⟨left, leftParts⟩ := views_set still
  obtain ⟨again, lastCalls, heldAgain, lastReservations⟩ :=
    leftParts number ⟨reservation.moved, .idle false⟩ state.mutex state.acquisitions state.log
  have callsAgree := calls.trans (setCalls.symm.trans (again.trans lastCalls.symm))
  have beside := (List.perm_append_left_iff _).mp (setReservations.symm.trans heldAgain)
  refine view.elsewhere rfl callsAgree ((reservations.trans (.trans (.of_eq ?_) beside)).trans
    (.trans (.of_eq ?_) lastReservations.symm)) (.refl _) rfl rfl
  · simp [Stage.reserved]
  · simp [Stage.reserved]

/-- A move construction hands the source's reservation to a new PublishBlock, which the view does
not tell apart. -/
theorem State.Views.moveConstructed (view : state.Views number) {source : Nat}
    {reservation : BlockReservation} {owner : Bool}
    (found : state.publishBlocks[source]? = some ⟨reservation, .idle owner⟩) :
    State.Views { state with
      publishBlocks := state.publishBlocks.set source ⟨reservation.moved, .idle false⟩ ++
        [⟨reservation, .idle owner⟩] } number := by
  obtain ⟨others, parts⟩ := views_set found
  obtain ⟨calls, setCalls, reservations, setReservations⟩ :=
    parts number ⟨reservation.moved, .idle false⟩ state.mutex state.acquisitions state.log
  refine view.elsewhere rfl (calls.trans (setCalls.symm.trans (.of_eq ?_))) ?_ (.refl _) rfl rfl
  · simp [callsOn]
  · refine reservations.trans ((setReservations.symm.append_left _).trans ?_)
    refine List.perm_iff_count.mpr fun uid => ?_
    simp [reservationsOn]
    omega

/-- An acquire begins on the object it names, whatever uid it asks for, as one more call of the
block. -/
theorem State.Views.acquireBegun (view : state.Views number) {mapping uid : Nat} :
    State.Views { state with
      acquisitions := state.acquisitions ++ [⟨mapping, uid, .acquiring .loadUid⟩] } number := by
  by_cases same : mapping = number
  · subst same
    intro metadata found
    refine ((view metadata found).acquire uid).permute ?_ (.refl _) (.of_eq ?_)
    · refine List.perm_iff_count.mpr fun call => ?_
      simp [callsOn, AcquireCall.start, List.count_cons]
      omega
    · simp [refsOn]
  · refine view.elsewhere rfl (.of_eq ?_) (.refl _) (.of_eq ?_) rfl rfl
    · simp [same, callsOn]
    · simp [refsOn]

/-- An acquire operates on its object, and its next operation is that of the block's call. -/
theorem State.Views.acquiring (view : state.Views number) {index mapping : Nat}
    {call next : AcquireCall} {metadata changed : BlockMetadata}
    (running : state.acquisitions[index]? = some ⟨mapping, call.uid, .acquiring call.pc⟩)
    (found : state.read (some mapping) = some metadata)
    (operation : call.Operation metadata changed (.running next)) :
    State.Views { state.write (some mapping) changed with
      acquisitions := state.acquisitions.set index ⟨mapping, call.uid, .acquiring next.pc⟩ }
      number := by
  obtain ⟨others, parts⟩ := views_set_acquisition running
  obtain ⟨calls, setCalls, refs, setRefs⟩ :=
    parts number ⟨mapping, call.uid, .acquiring next.pc⟩ state.mutex state.publishBlocks
  obtain ⟨spurious, moved⟩ := acquire_step operation state.clock
  have same : next = ⟨call.uid, next.pc⟩ := by
    rw [← acquire_uid operation rfl]
  refine view.operate (callsOn number state.mutex state.publishBlocks others) found moved rfl
    (calls.trans (.of_eq ?_)) (setCalls.trans (.of_eq ?_)) (.of_eq (by simp; rfl))
    (setRefs.trans (.trans (.of_eq ?_) (refs.symm.append_left _))) (by simp; rfl) (fun _ => rfl)
    (fun _ => rfl)
  · simp
  · simp [← same]
  · simp

/-- The last operation of an acquire ends it, with a BufferRef if it was valid. An empty one is no
reference to the object and drops out of the view. -/
theorem State.Views.acquired (view : state.Views number) {index mapping : Nat}
    {call : AcquireCall} {metadata changed : BlockMetadata} {valid : Bool}
    (running : state.acquisitions[index]? = some ⟨mapping, call.uid, .acquiring call.pc⟩)
    (found : state.read (some mapping) = some metadata)
    (operation : call.Operation metadata changed (.returned valid)) :
    State.Views { state.write (some mapping) changed with
      acquisitions := state.acquisitions.set index
        ⟨mapping, call.uid, if valid then .holding else .refused⟩ } number := by
  obtain ⟨others, parts⟩ := views_set_acquisition running
  obtain ⟨calls, setCalls, refs, setRefs⟩ :=
    parts number ⟨mapping, call.uid, if valid then .holding else .refused⟩ state.mutex
      state.publishBlocks
  obtain ⟨spurious, moved⟩ := acquire_step operation state.clock
  refine view.operate (callsOn number state.mutex state.publishBlocks others) found moved rfl
    (calls.trans (.of_eq ?_)) (setCalls.trans (.of_eq ?_)) (.of_eq (by simp; rfl))
    (setRefs.trans (.trans (.of_eq ?_) (refs.symm.append_left _))) (by simp; rfl) (fun _ => rfl)
    (fun _ => rfl)
  · simp
  · cases valid <;> simp
  · cases valid <;> simp [acquiredRef, BufferRef.valid, BufferRef.empty, List.filter_cons]

/-- The second operation of an underflowed release stores the zero, as the block's call does. -/
theorem State.Views.zeroed (view : state.Views number) {index mapping uid : Nat}
    {metadata : BlockMetadata}
    (running : state.acquisitions[index]? = some ⟨mapping, uid, .underflowed⟩)
    (found : state.read (some mapping) = some metadata) :
    State.Views { state.write (some mapping) { metadata with refcount := 0 } with
      acquisitions := state.acquisitions.set index ⟨mapping, uid, .released⟩ } number := by
  obtain ⟨others, parts⟩ := views_set_acquisition running
  obtain ⟨calls, setCalls, refs, setRefs⟩ :=
    parts number ⟨mapping, uid, .released⟩ state.mutex state.publishBlocks
  have moved : Call.underflowedRelease.step state.clock false metadata =
      ({ metadata with refcount := 0 }, .released) := rfl
  refine view.operate (callsOn number state.mutex state.publishBlocks others) found moved rfl
    (calls.trans (.of_eq ?_)) (setCalls.trans (.of_eq ?_)) (.of_eq (by simp; rfl))
    (setRefs.trans (.trans (.of_eq ?_) (refs.symm.append_left _))) (by simp; rfl) (fun _ => rfl)
    (fun _ => rfl)
  · simp
  · simp
  · simp

/-- A BufferRef ends. Where the count was zero already the subscriber has one more operation to do,
and is among the running calls of the object until then. -/
theorem State.Views.released (view : state.Views number) {index mapping uid : Nat}
    {metadata : BlockMetadata}
    (holding : state.acquisitions[index]? = some ⟨mapping, uid, .holding⟩)
    (found : state.read (some mapping) = some metadata) :
    State.Views { state.write (some mapping) metadata.fetchSub with
      acquisitions := state.acquisitions.set index
        ⟨mapping, uid, if metadata.refcount = 0 then .underflowed else .released⟩ } number := by
  obtain ⟨others, parts⟩ := views_set_acquisition holding
  obtain ⟨calls, setCalls, refs, setRefs⟩ := parts number
    ⟨mapping, uid, if metadata.refcount = 0 then .underflowed else .released⟩ state.mutex
      state.publishBlocks
  by_cases same : mapping = number
  · subst same
    intro words read
    obtain rfl : words = metadata.fetchSub :=
      Option.some.inj (read.symm.trans (read_written found metadata.fetchSub))
    have held : (refsOn mapping state.acquisitions).Perm (⟨true, uid⟩ :: refsOn mapping others) :=
      refs.trans (.of_eq (by simp))
    refine ((view metadata found).release held).permute ?_ (.refl _)
      (.trans (.of_eq ?_) setRefs.symm)
    · refine (calls.append_left _).trans (.trans (.of_eq ?_) setCalls.symm)
      split <;> simp
    · split <;> simp
  · have other : some mapping ≠ some number := by simpa using same
    refine view.elsewhere (read_unwritten other _)
      (calls.trans (.trans (.of_eq ?_) setCalls.symm)) (.refl _)
      (refs.trans (.trans (.of_eq ?_) setRefs.symm)) rfl rfl
    · split <;> simp [same]
    · split <;> simp [same]

/-- Every action keeps the views. Those which operate on an object have their lemma above; the
others change no view. -/
theorem views_transition (formed : state.Formed) (view : state.Views number)
    (transition : Transition state next) : next.Views number := by
  cases transition with
  | environment => exact view
  | reconfigured pool initialising events same pid _ outcomes =>
    obtain ⟨unfailed, ungranted, unsettled⟩ := outcomes.unrelated number
    refine view.elsewhere rfl (.refl _) (.of_eq ?_) (.refl _) ?_ ?_
    · exact (reservationsOn_silent _ _ _ unfailed).symm
    · simp [ungranted]
    · simp [unsettled]
  | retired pool initialising events free empty pid _ outcomes =>
    obtain ⟨unfailed, ungranted, unsettled⟩ := outcomes.unrelated number
    refine view.elsewhere rfl (.refl _) (.of_eq ?_) (.refl _) ?_ ?_
    · simp only [reservationsOn_silent _ _ _ unfailed]
      simp [reservationsOn]
    · simp [ungranted]
    · simp [unsettled]
  | allocated index below running =>
    exact view.elsewhere rfl (.refl _) (.of_eq (by simp [reservationsOn])) (.refl _) (by simp)
      (by simp)
  | created index blockId value running => exact view.created formed
  | scanned mutex outside goes =>
    refine view.elsewhere rfl (.of_eq ?_) (.refl _) (.refl _) rfl rfl
    rcases outside with outside | ⟨offset, outside⟩ <;> rcases goes with rfl | ⟨after, rfl⟩ <;>
      simp [outside, callsOn]
  | visited offset index mapping inside within present => exact view.visited inside
  | reserving offset index mapping call next metadata changed inside found operation =>
    refine view.reserving inside found operation rfl rfl (.of_eq ?_) (.of_eq ?_) ?_ rfl
    · simp [callsOn, State.write]
    · simp [State.write]
    · simp [State.write]
  | passed offset index mapping call metadata changed inside found operation =>
    refine view.reserving inside found operation rfl rfl (.of_eq ?_) (.of_eq ?_) ?_ rfl
    · simp [callsOn, State.write]
    · simp [State.write]
    · simp [State.write]
  | reserved offset index mapping uid call metadata changed block inside found operation =>
    refine view.reserving inside found operation rfl rfl (.of_eq ?_) ?_ ?_ ?_
    · simp [callsOn]
    · refine List.perm_iff_count.mpr fun other => ?_
      simp [reservationsOn, Stage.reserved]
      omega
    · simp
    · simp
  | handled pool index reservation stage next same pid found quiet kept described =>
    obtain ⟨others, parts⟩ := views_set found
    obtain ⟨calls, setCalls, reservations, setReservations⟩ :=
      parts number ⟨reservation, next⟩ state.mutex state.acquisitions state.log
    refine view.elsewhere rfl (calls.trans (.trans (.of_eq ?_) setCalls.symm))
      (reservations.trans (.trans (.of_eq ?_) setReservations.symm)) (.refl _) rfl rfl
    · rw [callsOn_quiet quiet.1, callsOn_quiet quiet.2]
    · simp [kept]
  | quarantined index reservation stage next event found unsettled vacant failed =>
    exact view.quarantined found unsettled vacant failed
  | commitBegun index reservation descriptor found free owned => exact view.commitBegun found free
  | committing index reservation descriptor call next metadata changed inside found operation =>
    exact view.committing inside found operation
  | committed index reservation descriptor call metadata changed released inside found operation =>
    exact view.committed formed inside found operation
  | cancelBegun index reservation after found pid mapped => exact view.cancelBegun found
  | cancelling index reservation after call next metadata changed block found operation =>
    exact view.cancelling block found operation
  | cancelled index reservation after call metadata changed released block found operation =>
    exact view.cancelled block found operation
  | movedFrom target source old reservation owner assigned found =>
    exact view.movedFrom assigned found
  | moveConstructed source reservation owner found => exact view.moveConstructed found
  | acquireBegun mapping uid present => exact view.acquireBegun
  | acquiring index mapping call next metadata changed running found operation =>
    exact view.acquiring running found operation
  | acquired index mapping call metadata changed valid running found operation =>
    exact view.acquired running found operation
  | zeroed index mapping uid metadata running found => exact view.zeroed running found
  | released index mapping uid metadata holding found => exact view.released holding found

/-- In every reachable state every metadata object is a reachable block. By induction on the run,
with the references beside it. -/
theorem reachable_views {admitted : State → Action → Prop} {state : State}
    (reached : Reachable step admitted Initial state) (number : Nat) : state.Views number := by
  refine Reachable.invariant (?_ : ∀ start, Initial start → ∀ number, start.Views number) ?_ reached
    number
  · rintro start ⟨config, blockCount, publisherPid, nextBlockId, clock, -, -, rfl⟩ number
    simp [State.Views, State.read]
  · intro earlier later action before views _ moved number
    exact views_transition (reachable_formed before) (views number) (step_transition moved)

end Ros2CudaIpc.GpuBufferManager
