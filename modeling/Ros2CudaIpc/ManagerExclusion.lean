import Ros2CudaIpc.PublicationRace
import Ros2CudaIpc.GracePeriod

/-!
# A held BufferRef keeps every PublishBlock away from its object

Subscribers acquire what was published: the uid of a message is the uid of a
descriptor some `prepare_publish` returned for that object. Outside the one race of a
second uid check with a claim, a valid BufferRef then has the current uid of its
object, in every run of the manager. That uid is published, so its reservation is
settled, and there is no younger one: no PublishBlock holds a reservation of the
object, none is being committed or cancelled, and no reservation attempt has
claimed it.

What an action does to the subscribers' acquires stands in one lemma; the words and the
window follow from the transitions.
-/

namespace Ros2CudaIpc

/-- An acquire returns a valid BufferRef behind its second uid check alone, which has just read
the uid it asked for. -/
theorem AcquireCall.Operation.confirms {metadata changed : BlockMetadata} {call : AcquireCall}
    {outcome : Outcome AcquireCall Bool} (operation : call.Operation metadata changed outcome)
    (returns : outcome = .returned true) : call.pc = .recheckUid ∧ metadata.uid = call.uid := by
  have retried {uid observed : Nat} (again : AcquireCall.retry uid observed = .returned true) :
      False := by
    rcases AcquireCall.retry_cases uid observed with refused | running
    · simp [refused] at again
    · simp [running] at again
  cases operation with
  | confirmed uid same => exact ⟨rfl, same⟩
  | observed uid | refused uid => exact (retried returns).elim
  | stale | matched | exchanged | superseded | rolledBack => simp at returns

/-- An unreferenced block below the largest uid has no valid BufferRef, as each of these holds one
count. -/
theorem BlockProtocol.Viewed.unread {metadata : BlockMetadata} {calls : List BlockProtocol.Call}
    {reservations granted settled : List Nat} {refs : List BufferRef}
    (viewed : BlockProtocol.Viewed metadata calls reservations refs granted settled)
    (unreferenced : metadata.refcount = 0) (below : metadata.uid ≠ uint64Max) : refs = [] := by
  obtain ⟨⟨block, reached, rfl, -, -, refsAgree⟩, -⟩ := viewed
  rcases BlockProtocol.reachable_regime reached with accounted | exhausted
  · have unread := accounted.unread unreferenced
    have empty : block.refs.filter BufferRef.valid = [] := by
      refine List.filter_eq_nil_iff.mpr fun reference alive => ?_
      simp [unread reference alive]
    exact (empty ▸ refsAgree).nil_eq.symm
  · exact absurd exhausted.last below

/-- A reservation attempt which gives its claim back has met the largest uid. No other position
stores a count. -/
theorem BlockProtocol.Viewed.exhausts {metadata : BlockMetadata} {calls : List BlockProtocol.Call}
    {reservations granted settled : List Nat} {refs : List BufferRef} {call : ReserveCall}
    (viewed : BlockProtocol.Viewed metadata calls reservations refs granted settled)
    (running : .reserve call ∈ calls) (position : call.pc = .storeRefcount) :
    metadata.uid = uint64Max := by
  obtain ⟨⟨block, reached, rfl, callsAgree, -, -⟩, -⟩ := viewed
  rcases BlockProtocol.reachable_regime reached with accounted | exhausted
  · have sound := accounted.sound _ (callsAgree.mem_iff.mpr running)
    simpa only [BlockProtocol.Call.Sound, position] using sound
  · exact exhausted.last

namespace GpuBufferManager

open Reachability BlockProtocol Lifecycle

/-- The descriptor of this publication was returned to the publisher's caller, who may send it to
subscribers. -/
def Event.announces (mapping uid : Nat) : Event → Bool
  | .prepared descriptor named _ => named = some mapping && descriptor.uid = uid
  | _ => false

/-- A publication of an object was announced at some time so far, under a given uid. -/
def State.Announced (state : State) (mapping uid : Nat) : Prop :=
  ∃ event ∈ state.log, event.announces mapping uid = true

instance (state : State) (mapping uid : Nat) : Decidable (state.Announced mapping uid) :=
  inferInstanceAs (Decidable (∃ _ ∈ _, _))

/-- The reservation attempt inside the mutex stands between its claim of an object and
its uid store. -/
def State.InWindow (state : State) (mapping uid : Nat) : Prop :=
  ∃ holder ∈ state.mutex, ∃ call ∈ holder.callsOn mapping, call.inWindow uid

instance (state : State) (mapping uid : Nat) : Decidable (state.InWindow mapping uid) :=
  match inside : state.mutex with
  | none => isFalse (by simp [State.InWindow, inside])
  | some holder =>
    decidable_of_iff ((holder.callsOn mapping).any (fun call => decide (call.inWindow uid)) = true)
      (by simp [State.InWindow, inside])

/-- Subscribers acquire announced publications, and no acquire passes its second uid
check inside a publisher's window. -/
def Disciplined (state : State) : Action → Prop
  | .acquire mapping uid => state.Announced mapping uid
  | .advanceAcquisition number _ => ∀ acquisition ∈ state.acquisitions[number]?,
      acquisition.phase = .acquiring .recheckUid →
        ¬ state.InWindow acquisition.mapping acquisition.uid
  | _ => True

instance (state : State) (action : Action) : Decidable (Disciplined state action) :=
  match action with
  | .acquire mapping uid => inferInstanceAs (Decidable (state.Announced mapping uid))
  | .advanceAcquisition number _ =>
    match found : state.acquisitions[number]? with
    | none => isTrue (by simp [Disciplined, found])
    | some acquisition => decidable_of_iff (acquisition.phase = .acquiring .recheckUid →
        ¬ state.InWindow acquisition.mapping acquisition.uid) (by simp [Disciplined, found])
  | .tick _ | .allocateElsewhere | .initialise _ | .advanceInitialise _ | .reset _
  | .acquireForPublish _ | .advanceHolder | .preparePublish .. | .buildDescriptor .. | .commit ..
  | .cancel _ | .advanceCancel _ | .moveConstruct _ | .moveAssign .. | .moveFrom _ | .destroy _
  | .release _ => isTrue trivial

variable {state next : State} {number : Nat}

/-- The acquires behind an action: as they were, one more, or one of them a step
further. An acquire becomes valid in its second uid check alone, and a valid one changes
in its release alone. -/
inductive Subscribed (state : State) : Action → List Acquisition → Prop where
  | kept (action : Action) : Subscribed state action state.acquisitions
  | acquired (mapping uid : Nat) : Subscribed state (.acquire mapping uid)
      (state.acquisitions ++ [⟨mapping, uid, .acquiring .loadUid⟩])
  | advanced (number : Nat) (spurious : Bool) (mapping uid : Nat) (before after : Phase)
      (found : state.acquisitions[number]? = some ⟨mapping, uid, before⟩)
      (unheld : before ≠ .holding)
      (confirmed : after = .holding → before = .acquiring .recheckUid ∧
        ∃ metadata, state.read (some mapping) = some metadata ∧ metadata.uid = uid) :
      Subscribed state (.advanceAcquisition number spurious)
        (state.acquisitions.set number ⟨mapping, uid, after⟩)
  | released (number mapping uid : Nat) (after : Phase)
      (found : state.acquisitions[number]? = some ⟨mapping, uid, .holding⟩)
      (unheld : after ≠ .holding) :
      Subscribed state (.release number) (state.acquisitions.set number ⟨mapping, uid, after⟩)

/-- Ending a generation touches neither PublishBlocks nor acquires, which keep what they refer to.
-/
theorem destroyBlocks_users {locked : Bool}
    (destroyed : state.destroyBlocks locked = some next) :
    next.publishBlocks = state.publishBlocks ∧ next.acquisitions = state.acquisitions := by
  rcases destroyBlocks_cases destroyed with rfl | ⟨-, rfl⟩
  · exact ⟨rfl, rfl⟩
  · exact ⟨rfl, rfl⟩

/-- Nor does a step of `initialise`, at whichever position it is. -/
theorem advanceInitialise_users {supply : Supply} {frame : Initialising}
    (moved : state.advanceInitialise supply frame = some next) :
    next.publishBlocks = state.publishBlocks ∧ next.acquisitions = state.acquisitions := by
  cases frame with
  | checking =>
    simp only [State.advanceInitialise] at moved
    split at moved
    · exact (Option.some.inj moved) ▸ ⟨rfl, rfl⟩
    · obtain ⟨cleared, destroyed, rfl⟩ := Option.map_eq_some_iff.mp moved
      split at destroyed
      · have kept := destroyBlocks_users destroyed
        exact kept
      · exact (Option.some.inj destroyed) ▸ ⟨rfl, rfl⟩
  | retaining =>
    simp only [State.advanceInitialise] at moved
    split at moved
    · exact (Option.some.inj moved) ▸ ⟨rfl, rfl⟩
    · split at moved
      · simp at moved
      · exact (Option.some.inj moved) ▸ ⟨rfl, rfl⟩
  | loading index =>
    simp only [State.advanceInitialise] at moved
    split at moved <;> exact (Option.some.inj moved) ▸ ⟨rfl, rfl⟩
  | allocating index current =>
    simp only [State.advanceInitialise] at moved
    split at moved
    · obtain ⟨cleared, destroyed, rfl⟩ := Option.map_eq_some_iff.mp moved
      have kept := destroyBlocks_users destroyed
      exact kept
    · split at moved <;> exact (Option.some.inj moved) ▸ ⟨rfl, rfl⟩
  | creating index blockId =>
    simp only [State.advanceInitialise] at moved
    split at moved
    · obtain ⟨cleared, destroyed, rfl⟩ := Option.map_eq_some_iff.mp moved
      have kept := destroyBlocks_users destroyed
      exact kept
    · exact (Option.some.inj moved) ▸ ⟨rfl, rfl⟩
  | equipping =>
    simp only [State.advanceInitialise] at moved
    split at moved
    · obtain ⟨cleared, destroyed, rfl⟩ := Option.map_eq_some_iff.mp moved
      have kept := destroyBlocks_users destroyed
      exact kept
    · exact (Option.some.inj moved) ▸ ⟨rfl, rfl⟩

/-- The call inside the mutex leaves the acquires alone, also when it changes the count they
share. -/
theorem advanceHolder_acquisitions {holder : Holder}
    (moved : state.advanceHolder holder = some next) :
    next.acquisitions = state.acquisitions := by
  cases holder with
  | scanning offset =>
    simp only [State.advanceHolder] at moved
    split at moved
    · split at moved <;> exact (Option.some.inj moved) ▸ rfl
    · exact (Option.some.inj moved) ▸ rfl
  | reserving offset index mapping call =>
    obtain ⟨metadata, -, moved⟩ := Option.bind_eq_some_iff.mp moved
    generalize call.step state.clock metadata = after at moved
    obtain ⟨changed, outcome⟩ := after
    cases outcome with
    | running following => exact (Option.some.inj moved) ▸ rfl
    | returned result =>
      cases result with
      | none => exact (Option.some.inj moved) ▸ rfl
      | some uid =>
        obtain ⟨block, -, rfl⟩ := Option.map_eq_some_iff.mp moved
        rfl
  | committing index reservation descriptor call =>
    obtain ⟨metadata, -, rfl⟩ := Option.map_eq_some_iff.mp moved
    generalize call.step state.clock metadata = after
    obtain ⟨changed, outcome⟩ := after
    cases outcome <;> rfl

/-- So do the operations of the PublishBlocks: the three calls of a publication, the beginning of
a cancel, and the moves. -/
theorem publishBlock_acquisitions {index : Nat} {block : PublishBlock}
    (moved : (∃ locked recorded stream,
        state.preparePublish index locked recorded stream block = some next) ∨
      (∃ locked copied, state.buildDescriptor index locked copied block = some next) ∨
      (∃ locked, state.commit index locked block = some next) ∨
      (∃ after, state.beginCancel index after block = some next) ∨
      state.moveConstruct index block = some next ∨ state.moveFrom index block = some next) :
    next.acquisitions = state.acquisitions := by
  rcases moved with ⟨_, _, _, moved⟩ | ⟨_, _, moved⟩ | ⟨_, moved⟩ | ⟨_, moved⟩ | moved | moved
  · unfold State.preparePublish at moved
    split at moved <;> grind [State.put, State.quarantine, State.note]
  · unfold State.buildDescriptor at moved
    split at moved <;> grind [State.put, State.quarantine, State.note]
  · unfold State.commit at moved
    split at moved <;> grind [State.put, State.quarantine, State.note]
  · unfold State.beginCancel at moved
    split at moved <;> grind [State.put, State.note]
  · unfold State.moveConstruct at moved
    split at moved <;> grind [State.put]
  · unfold State.moveFrom at moved
    split at moved <;> grind [State.put]

/-- A running cancel writes words, not acquires, even where it decrements the count they share. -/
theorem advanceCancel_acquisitions {index : Nat} {block : PublishBlock}
    (moved : state.advanceCancel index block = some next) :
    next.acquisitions = state.acquisitions := by
  obtain ⟨reservation, stage⟩ := block
  cases stage with
  | cancelling call after =>
    obtain ⟨metadata, -, rfl⟩ := Option.map_eq_some_iff.mp moved
    generalize call.step state.clock metadata = result
    obtain ⟨changed, outcome⟩ := result
    cases outcome <;> rfl
  | _ => simp [State.advanceCancel] at moved

/-- An acquire or an underflowed release a step further changes that one acquire and no other. -/
theorem advanceAcquisition_subscribed {spurious : Bool} {acquisition : Acquisition}
    (found : state.acquisitions[number]? = some acquisition)
    (moved : state.advanceAcquisition number spurious acquisition = some next) :
    Subscribed state (.advanceAcquisition number spurious) next.acquisitions := by
  obtain ⟨mapping, uid, phase⟩ := acquisition
  cases phase with
  | acquiring pc =>
    obtain ⟨metadata, present, rfl⟩ := Option.map_eq_some_iff.mp moved
    have operation := AcquireCall.step_operation spurious metadata ⟨uid, pc⟩
    generalize AcquireCall.step spurious metadata ⟨uid, pc⟩ = after at operation
    obtain ⟨changed, outcome⟩ := after
    refine .advanced number spurious mapping uid _ _ found (by simp) fun valid => ?_
    cases outcome with
    | running following => simp at valid
    | returned result =>
      have returns : result = true := by
        cases result with
        | true => rfl
        | false => simp at valid
      obtain ⟨position, same⟩ := operation.confirms (congrArg Outcome.returned returns)
      exact ⟨congrArg Phase.acquiring position, metadata, present, same⟩
  | underflowed =>
    obtain ⟨metadata, -, rfl⟩ := Option.map_eq_some_iff.mp moved
    exact .advanced number spurious mapping uid _ _ found (by simp) (by simp)
  | _ => simp [State.advanceAcquisition] at moved

/-- What an action does to the acquires, stated for all actions at once; the proof takes them one
by one. -/
theorem step_subscribed {action : Action} (moved : step state action = some next) :
    Subscribed state action next.acquisitions := by
  have kept (same : next.acquisitions = state.acquisitions) :
      Subscribed state action next.acquisitions := same ▸ .kept action
  cases action with
  | tick elapsed => exact kept ((Option.some.inj moved) ▸ rfl)
  | allocateElsewhere =>
    simp only [step] at moved
    split at moved
    · exact kept ((Option.some.inj moved) ▸ rfl)
    · simp at moved
  | initialise locked =>
    simp only [step] at moved
    split at moved
    · simp at moved
    · obtain ⟨cleared, destroyed, rfl⟩ := Option.map_eq_some_iff.mp moved
      have same := (destroyBlocks_users destroyed).2
      exact kept same
  | advanceInitialise supply =>
    obtain ⟨frame, -, moved⟩ := Option.bind_eq_some_iff.mp moved
    exact kept (advanceInitialise_users moved).2
  | reset locked =>
    simp only [step] at moved
    split at moved
    · simp at moved
    · exact kept (destroyBlocks_users moved).2
  | acquireForPublish locked =>
    simp only [step] at moved
    split at moved
    · exact kept ((Option.some.inj moved) ▸ rfl)
    · split at moved
      · simp at moved
      · split at moved <;> exact kept ((Option.some.inj moved) ▸ rfl)
  | advanceHolder =>
    obtain ⟨holder, -, moved⟩ := Option.bind_eq_some_iff.mp moved
    exact kept (advanceHolder_acquisitions moved)
  | preparePublish index locked recorded stream =>
    obtain ⟨block, -, moved⟩ := Option.bind_eq_some_iff.mp moved
    exact kept (publishBlock_acquisitions (.inl ⟨_, _, _, moved⟩))
  | buildDescriptor index locked copied =>
    obtain ⟨block, -, moved⟩ := Option.bind_eq_some_iff.mp moved
    exact kept (publishBlock_acquisitions (.inr (.inl ⟨_, _, moved⟩)))
  | commit index locked =>
    obtain ⟨block, -, moved⟩ := Option.bind_eq_some_iff.mp moved
    exact kept (publishBlock_acquisitions (.inr (.inr (.inl ⟨_, moved⟩))))
  | cancel index | destroy index =>
    obtain ⟨block, -, moved⟩ := Option.bind_eq_some_iff.mp moved
    exact kept (publishBlock_acquisitions (.inr (.inr (.inr (.inl ⟨_, moved⟩)))))
  | advanceCancel index =>
    obtain ⟨block, -, moved⟩ := Option.bind_eq_some_iff.mp moved
    exact kept (advanceCancel_acquisitions moved)
  | moveConstruct source =>
    obtain ⟨block, -, moved⟩ := Option.bind_eq_some_iff.mp moved
    exact kept (publishBlock_acquisitions (.inr (.inr (.inr (.inr (.inl moved))))))
  | moveAssign target source =>
    simp only [step] at moved
    split at moved
    · exact kept ((Option.some.inj moved) ▸ rfl)
    · obtain ⟨block, -, moved⟩ := Option.bind_eq_some_iff.mp moved
      exact kept (publishBlock_acquisitions (.inr (.inr (.inr (.inl ⟨_, moved⟩)))))
  | moveFrom target =>
    obtain ⟨block, -, moved⟩ := Option.bind_eq_some_iff.mp moved
    exact kept (publishBlock_acquisitions (.inr (.inr (.inr (.inr (.inr moved))))))
  | acquire mapping uid =>
    simp only [step] at moved
    split at moved
    · exact (Option.some.inj moved) ▸ .acquired mapping uid
    · simp at moved
  | advanceAcquisition number spurious =>
    obtain ⟨acquisition, found, moved⟩ := Option.bind_eq_some_iff.mp moved
    exact advanceAcquisition_subscribed found moved
  | release number =>
    obtain ⟨⟨mapping, uid, phase⟩, found, moved⟩ := Option.bind_eq_some_iff.mp moved
    cases phase with
    | holding =>
      obtain ⟨metadata, -, rfl⟩ := Option.map_eq_some_iff.mp moved
      exact .released number mapping uid _ found (by split <;> simp)
    | _ => simp [State.release] at moved

/-- A subscriber has a valid BufferRef on an object, under whatever uid it was acquired. -/
def State.Held (state : State) (mapping : Nat) : Prop :=
  ∃ uid, ⟨mapping, uid, .holding⟩ ∈ state.acquisitions

/-- Valid BufferRefs have the current uid of their object, and their object is in no
publisher's window. -/
structure State.Separated (state : State) : Prop where
  current : ∀ mapping uid, ⟨mapping, uid, .holding⟩ ∈ state.acquisitions →
    ∀ metadata, state.read (some mapping) = some metadata → metadata.uid = uid
  window : ∀ mapping, state.Held mapping → ∀ metadata, state.read (some mapping) = some metadata →
    ¬ state.InWindow mapping metadata.uid

/-- A valid BufferRef on an object is a reference of its view, so it is counted there. -/
theorem State.Held.referenced (held : state.Held number) :
    refsOn number state.acquisitions ≠ [] := by
  obtain ⟨uid, member⟩ := held
  intro empty
  have own := List.flatMap_eq_nil_iff.mp empty _ member
  simp [Acquisition.refsOn] at own

/-- The uid of a created object stays, and nobody comes into the window of a claim on it, unless
somebody was in the window or found the object unreferenced. -/
def Steady (state next : State) (mapping : Nat) : Prop :=
  ∀ metadata, next.read (some mapping) = some metadata →
    ∃ before, state.read (some mapping) = some before ∧
      (state.InWindow mapping before.uid ∨ before.refcount = 0 ∧ before.uid ≠ uint64Max ∨
        before.uid = metadata.uid ∧ ¬ next.InWindow mapping metadata.uid)

/-- Nobody new came inside the mutex, so nobody has entered the window of a claim. -/
theorem steady_mutex {mapping : Nat} (mutex : next.mutex = state.mutex)
    (words : ∀ metadata, next.read (some mapping) = some metadata →
      ∃ before, state.read (some mapping) = some before ∧ before.uid = metadata.uid) :
    Steady state next mapping := by
  intro metadata found
  obtain ⟨before, earlier, same⟩ := words metadata found
  refine ⟨before, earlier, ?_⟩
  by_cases inside : state.InWindow mapping before.uid
  · exact .inl inside
  · refine .inr (.inr ⟨same, ?_⟩)
    rw [← same, State.InWindow, mutex]
    exact inside

/-- Whoever is inside the mutex is not in the window of a claim, so the uid stays as it is read. -/
theorem steady_outside {mapping : Nat} (outside : ∀ uid, ¬ next.InWindow mapping uid)
    (words : ∀ metadata, next.read (some mapping) = some metadata →
      ∃ before, state.read (some mapping) = some before ∧ before.uid = metadata.uid) :
    Steady state next mapping := by
  intro metadata found
  obtain ⟨before, earlier, same⟩ := words metadata found
  exact ⟨before, earlier, .inr (.inr ⟨same, outside metadata.uid⟩)⟩

/-- With nobody inside the mutex, or no reservation attempt, nobody is in the window of a claim. -/
theorem not_inWindow {mapping uid : Nat} (outside : ∀ offset index named call,
    state.mutex ≠ some (.reserving offset index named call)) : ¬ state.InWindow mapping uid := by
  rintro ⟨holder, inside, call, member, window⟩
  cases holder with
  | scanning offset => simp [Holder.callsOn] at member
  | reserving offset index named attempt => exact outside offset index named attempt inside
  | committing index reservation descriptor attempt =>
    simp only [Holder.callsOn] at member
    split at member
    · rw [List.mem_singleton.mp member] at window
      exact window
    · simp at member

/-- The attempt inside the mutex is in the window of its own object alone. -/
theorem inWindow_reserving {offset index named mapping uid : Nat} {call : ReserveCall}
    (inside : state.mutex = some (.reserving offset index named call)) :
    state.InWindow mapping uid ↔ named = mapping ∧ (Call.reserve call).inWindow uid := by
  simp only [State.InWindow, inside, Option.mem_some_iff, Holder.callsOn]
  by_cases same : named = mapping
  · simp [same]
  · simp [same]

/-- A write which keeps the uid leaves every object's uid as it was, its own included. -/
theorem write_keeps {mapping : Nat} {named : Option Nat} {before changed : BlockMetadata}
    (found : state.read named = some before) (same : changed.uid = before.uid)
    (written : next.objects = (state.write named changed).objects) (metadata : BlockMetadata)
    (read : next.read (some mapping) = some metadata) :
    ∃ before, state.read (some mapping) = some before ∧ before.uid = metadata.uid := by
  have readNext : (state.write named changed).read (some mapping) = some metadata := by
    rw [← read, State.read, State.read, written]
  rw [read_write] at readNext
  split at readNext
  · next own =>
    subst own
    rw [found, Option.map_some, Option.some.injEq] at readNext
    exact ⟨before, found, by rw [← readNext, same]⟩
  · exact ⟨metadata, readNext, rfl⟩

/-- A commit or cancel keeps the uid of its object over each of its operations. -/
theorem settle_uid {clock : Nat} {metadata changed : BlockMetadata} {call : SettleCall}
    {outcome : Outcome SettleCall Bool}
    (operation : call.Operation clock metadata changed outcome) :
    changed.uid = metadata.uid := by
  cases operation <;> rfl

/-- A reservation attempt a step further. Only behind its claim does it change the uid, and then
it is in the window. -/
theorem steady_reserving {offset index named mapping : Nat} {call : ReserveCall}
    {before changed : BlockMetadata} {outcome : Outcome ReserveCall (Option Nat)}
    (inside : state.mutex = some (.reserving offset index named call))
    (found : state.read (some named) = some before)
    (operation : call.Operation state.clock before changed outcome)
    (written : next.objects = (state.write (some named) changed).objects)
    (goes : ∀ following, outcome = .running following →
      next.mutex = some (.reserving offset index named following))
    (ends : ∀ result, outcome = .returned result →
      ∀ offset index named call, next.mutex ≠ some (.reserving offset index named call)) :
    Steady state next mapping := by
  intro metadata read
  have readNext : (state.write (some named) changed).read (some mapping) = some metadata := by
    rw [← read, State.read, State.read, written]
  by_cases same : named = mapping
  · subst same
    rw [read_written found, Option.some.injEq] at readNext
    subst readNext
    refine ⟨before, found, ?_⟩
    have leave (result : Option Nat) (returns : outcome = .returned result)
        (uid : before.uid = changed.uid) : before.uid = changed.uid ∧
          ¬ next.InWindow named changed.uid :=
      ⟨uid, not_inWindow (ends result returns)⟩
    have proceed {following : ReserveCall} (runs : outcome = .running following)
        (uid : before.uid = changed.uid)
        (outside : ¬ (Call.reserve following).inWindow changed.uid) :
        before.uid = changed.uid ∧ ¬ next.InWindow named changed.uid :=
      ⟨uid, fun window => outside ((inWindow_reserving (goes following runs)).mp window).2⟩
    rw [inWindow_reserving inside]
    cases operation with
    | sampled | idle | aged => exact .inr (.inr (proceed rfl rfl (by simp [Call.inWindow])))
    | exhausted now last => exact .inr (.inr (proceed rfl rfl (by simp [Call.inWindow])))
    | busy | young | lost => exact .inr (.inr (leave _ rfl rfl))
    | overflowed => exact .inr (.inr (leave _ rfl rfl))
    | reserved => exact .inr (.inr (leave _ rfl rfl))
    | claimed now unreferenced =>
      by_cases last : before.uid = uint64Max
      · exact .inr (.inr (proceed rfl rfl (by simp [Call.inWindow, last])))
      · exact .inr (.inl ⟨unreferenced, last⟩)
    | loaded now room => exact .inl ⟨rfl, .inl ⟨rfl, room⟩⟩
    | renewed now nextUid => exact .inl ⟨rfl, .inr ⟨nextUid, rfl⟩⟩
  · rw [read_unwritten (by simpa using same)] at readNext
    refine ⟨metadata, readNext, .inr (.inr ⟨rfl, ?_⟩)⟩
    cases outcome with
    | running following =>
      exact fun window => same ((inWindow_reserving (goes following rfl)).mp window).1
    | returned result => exact not_inWindow (ends result rfl)

/-- Every action leaves the created objects steady. Only a reservation attempt changes a uid, and
it is in the window of its claim then. -/
theorem transition_steady {mapping : Nat} (present : mapping < state.objects.length)
    (transition : Transition state next) : Steady state next mapping := by
  have untouched {other : State} (same : other.objects = state.objects) (metadata : BlockMetadata)
      (read : other.read (some mapping) = some metadata) :
      ∃ before, state.read (some mapping) = some before ∧ before.uid = metadata.uid := by
    refine ⟨metadata, ?_, rfl⟩
    rw [← read, State.read, State.read, same]
  cases transition with
  | environment | reconfigured | retired | allocated => exact steady_mutex rfl (untouched rfl)
  | handled | quarantined | cancelBegun => exact steady_mutex rfl (untouched rfl)
  | movedFrom | moveConstructed | acquireBegun => exact steady_mutex rfl (untouched rfl)
  | created index blockId value running =>
    refine steady_mutex rfl fun metadata read => ⟨metadata, ?_, rfl⟩
    rw [← read]
    simp [State.read, List.getElem?_append_left present]
  | scanned mutex outside goes =>
    refine steady_outside (fun uid => not_inWindow ?_) (untouched rfl)
    rintro offset index named call rfl
    rcases goes with outside | ⟨_, inside⟩
    · simp at outside
    · simp at inside
  | visited offset index named inside within present =>
    refine steady_outside (fun uid window => ?_) (untouched rfl)
    have position := ((inWindow_reserving rfl).mp window).2
    simp [Call.inWindow, ReserveCall.start] at position
  | reserving offset index named call following before changed inside found operation =>
    refine steady_reserving inside found operation rfl ?_ (by simp)
    rintro _ ⟨⟩
    rfl
  | passed offset index named call before changed inside found operation =>
    exact steady_reserving inside found operation rfl (by simp) (by simp)
  | reserved offset index named uid call before changed block inside found operation =>
    exact steady_reserving inside found operation rfl (by simp) (by simp)
  | commitBegun =>
    exact steady_outside (fun uid => not_inWindow (by simp [State.put])) (untouched rfl)
  | committing index reservation descriptor call following before changed inside found operation =>
    exact steady_outside (fun uid => not_inWindow (by simp))
      (write_keeps found (settle_uid operation) rfl)
  | committed index reservation descriptor call before changed released inside found operation =>
    exact steady_outside (fun uid => not_inWindow (by simp [State.put, State.note]))
      (write_keeps found (settle_uid operation) rfl)
  | cancelling index reservation after call following before changed block found operation =>
    exact steady_mutex rfl (write_keeps found (settle_uid operation) rfl)
  | cancelled index reservation after call before changed released block found operation =>
    exact steady_mutex rfl (write_keeps found (settle_uid operation) rfl)
  | acquiring index named call following before changed running found operation =>
    exact steady_mutex rfl (write_keeps found operation.count.1 rfl)
  | acquired index named call before changed valid running found operation =>
    exact steady_mutex rfl (write_keeps found operation.count.1 rfl)
  | zeroed index named uid before running found =>
    have same : ({ before with refcount := 0 } : BlockMetadata).uid = before.uid := rfl
    exact steady_mutex rfl (write_keeps found same rfl)
  | released index named uid before holding found =>
    exact steady_mutex rfl (write_keeps found before.fetchSub_uid rfl)

/-- A reference on an object was there before, or its second uid check has just
passed. -/
theorem Subscribed.holding {action : Action} {acquisitions : List Acquisition} {mapping uid : Nat}
    (subscribed : Subscribed state action acquisitions)
    (holds : ⟨mapping, uid, .holding⟩ ∈ acquisitions) :
    ⟨mapping, uid, .holding⟩ ∈ state.acquisitions ∨
      ∃ number spurious, action = .advanceAcquisition number spurious ∧
        state.acquisitions[number]? = some ⟨mapping, uid, .acquiring .recheckUid⟩ ∧
        ∃ metadata, state.read (some mapping) = some metadata ∧ metadata.uid = uid := by
  cases subscribed with
  | kept action => exact .inl holds
  | acquired other named =>
    rcases List.mem_append.mp holds with before | new
    · exact .inl before
    · simp at new
  | advanced number spurious other named before after found unheld confirmed =>
    rcases List.mem_or_eq_of_mem_set holds with earlier | same
    · exact .inl earlier
    · obtain ⟨rfl, rfl, rfl⟩ := Acquisition.mk.inj same
      obtain ⟨rfl, checked⟩ := confirmed rfl
      exact .inr ⟨number, spurious, rfl, found, checked⟩
  | released number other named after found unheld =>
    rcases List.mem_or_eq_of_mem_set holds with earlier | same
    · exact .inl earlier
    · obtain ⟨-, -, rfl⟩ := Acquisition.mk.inj same
      exact absurd rfl unheld

/-- A disciplined action keeps the separation.

Proof: on an object somebody holds, what a transition leaves is its uid outside the window. A
passing check changes no word, and nobody is in the window of its object. -/
theorem separated_step {action : Action} (formed : state.Formed)
    (views : ∀ number, state.Views number) (separated : state.Separated)
    (allowed : Disciplined state action) (moved : step state action = some next) :
    next.Separated := by
  have calm {mapping : Nat} (held : state.Held mapping) {metadata : BlockMetadata}
      (read : next.read (some mapping) = some metadata) :
      ∃ before, state.read (some mapping) = some before ∧ before.uid = metadata.uid ∧
        ¬ next.InWindow mapping metadata.uid := by
    obtain ⟨uid, member⟩ := held
    have present : mapping < state.objects.length := by
      simpa [State.blockIds] using formed.acquisitions _ member
    obtain ⟨before, found, inside | ⟨unreferenced, below⟩ | calm⟩ :=
      transition_steady present (step_transition moved) metadata read
    · exact absurd inside (separated.window mapping ⟨uid, member⟩ before found)
    · have unread := (views mapping before found).unread unreferenced below
      exact absurd unread (State.Held.referenced ⟨uid, member⟩)
    · exact ⟨before, found, calm⟩
  have checked {number mapping uid : Nat} {spurious : Bool}
      (performs : action = .advanceAcquisition number spurious)
      (running : state.acquisitions[number]? = some ⟨mapping, uid, .acquiring .recheckUid⟩)
      {metadata : BlockMetadata} (read : next.read (some mapping) = some metadata) :
      (∃ before, state.read (some mapping) = some before ∧ before.uid = metadata.uid) ∧
        ∀ other, next.InWindow mapping other → state.InWindow mapping other := by
    subst performs
    simp only [step, running, Option.bind_some] at moved
    obtain ⟨before, found, rfl⟩ := Option.map_eq_some_iff.mp moved
    have operation := AcquireCall.step_operation spurious before ⟨uid, .recheckUid⟩
    exact ⟨write_keeps found operation.count.1 rfl metadata read, fun other window => window⟩
  have subscribed := step_subscribed moved
  constructor
  · intro mapping uid holds metadata read
    rcases subscribed.holding holds with before | ⟨number, spurious, performs, running, words⟩
    · obtain ⟨earlier, found, same, -⟩ := calm ⟨uid, before⟩ read
      exact same ▸ separated.current mapping uid before earlier found
    · obtain ⟨⟨earlier, found, same⟩, -⟩ := checked performs running read
      obtain ⟨current, present, rfl⟩ := words
      rw [found, Option.some.injEq] at present
      rw [← same, present]
  · rintro mapping ⟨uid, holds⟩ metadata read
    rcases subscribed.holding holds with before | ⟨number, spurious, performs, running, words⟩
    · obtain ⟨earlier, found, same, outside⟩ := calm ⟨uid, before⟩ read
      exact outside
    · obtain ⟨⟨earlier, found, same⟩, still⟩ := checked performs running read
      obtain ⟨current, present, rfl⟩ := words
      rw [found, Option.some.injEq] at present
      subst performs present
      intro window
      exact allowed _ running rfl (same ▸ still _ window)

/-- Every acquire is one of an announced publication: its uid came from a descriptor of that
object. -/
def State.Subscribers (state : State) : Prop :=
  ∀ acquisition ∈ state.acquisitions, state.Announced acquisition.mapping acquisition.uid

/-- A disciplined action keeps it so, since it begins acquires of announced publications only. -/
theorem subscribers_step {action : Action} (subscribers : state.Subscribers)
    (allowed : Disciplined state action) (moved : step state action = some next) :
    next.Subscribers := by
  obtain ⟨events, logged⟩ := transition_log (step_transition moved)
  have onward {mapping uid : Nat} (announced : state.Announced mapping uid) :
      next.Announced mapping uid := by
    obtain ⟨event, member, announces⟩ := announced
    exact ⟨event, by rw [logged]; exact List.mem_append_right _ member, announces⟩
  have known {number mapping uid : Nat} {phase : Phase}
      (found : state.acquisitions[number]? = some ⟨mapping, uid, phase⟩) :
      next.Announced mapping uid :=
    onward (subscribers _ (List.mem_of_getElem? found))
  have subscribed := step_subscribed moved
  intro acquisition member
  generalize next.acquisitions = acquisitions at subscribed member
  cases subscribed with
  | kept action => exact onward (subscribers acquisition member)
  | acquired mapping uid =>
    rcases List.mem_append.mp member with before | new
    · exact onward (subscribers acquisition before)
    · rw [List.mem_singleton.mp new]
      exact onward allowed
  | advanced number spurious mapping uid before after found unheld confirmed =>
    rcases List.mem_or_eq_of_mem_set member with earlier | rfl
    · exact onward (subscribers acquisition earlier)
    · exact known found
  | released number mapping uid after found unheld =>
    rcases List.mem_or_eq_of_mem_set member with earlier | rfl
    · exact onward (subscribers acquisition earlier)
    · exact known found

/-- Every disciplined run keeps valid BufferRefs apart from the publishers. By induction on the
run, with the views beside it. -/
theorem reachable_separated (reached : Reachable step Disciplined Initial state) :
    state.Separated ∧ state.Subscribers := by
  have kept : ∀ state next action, Reachable step Disciplined Initial state →
      state.Separated ∧ state.Subscribers → Disciplined state action →
        step state action = some next → next.Separated ∧ next.Subscribers := by
    intro earlier later action before ⟨separated, subscribers⟩ allowed moved
    exact ⟨separated_step (reachable_formed before) (reachable_views before) separated allowed
      moved, subscribers_step subscribers allowed moved⟩
  refine Reachable.invariant ?_ kept reached
  rintro start ⟨config, blockCount, publisherPid, nextBlockId, clock, -, -, rfl⟩
  refine ⟨⟨?_, ?_⟩, ?_⟩
  · simp
  · rintro mapping ⟨uid, member⟩
    simp at member
  · simp [State.Subscribers]

/-- While the last uid of an object is an announced one, no reservation of the object
is at hand, and no attempt has renewed its uid. -/
theorem announced_vacant {mapping uid : Nat} {metadata : BlockMetadata}
    (reached : Reachable step Disciplined Initial state) (announced : state.Announced mapping uid)
    (read : state.read (some mapping) = some metadata) (current : metadata.uid = uid) :
    heldOn mapping state.mutex state.publishBlocks = [] ∧
      ∀ now nextUid,
        workOn mapping state.mutex ≠ some (.reserving ⟨now, .storeTimestamp nextUid⟩) := by
  obtain ⟨life, lived, tracks⟩ := (reachable_lives reached mapping).2 metadata read
  obtain ⟨event, member, announces⟩ := announced
  cases event with
  | prepared descriptor named timestamp =>
    obtain ⟨rfl, rfl⟩ : named = some mapping ∧ descriptor.uid = uid := by
      simpa [Event.announces] using announces
    obtain ⟨below, strictly⟩ := lived.recorded.announced descriptor (some mapping) timestamp
      (mem_historyOn member rfl)
    have bounded := tracks.uid
    have settled : life.tenure = .free := by
      by_contra held
      have younger := strictly held
      omega
    have holders := tracks.holders
    rw [settled] at holders
    refine ⟨holders.eq_nil, fun now nextUid renewing => ?_⟩
    have renewed := tracks.renewed now nextUid renewing
    omega
  | _ => simp [Event.announces] at announces

/-- The object of a valid BufferRef has its uid, which is an announced one, and no
reservation of the object is at hand. -/
theorem holding_vacant (reached : Reachable step Disciplined Initial state) {mapping uid : Nat}
    (holds : ⟨mapping, uid, .holding⟩ ∈ state.acquisitions) : ∃ metadata,
      state.read (some mapping) = some metadata ∧ metadata.uid = uid ∧ state.Announced mapping uid ∧
      ¬ state.InWindow mapping uid ∧ heldOn mapping state.mutex state.publishBlocks = [] ∧
      ∀ now nextUid,
        workOn mapping state.mutex ≠ some (.reserving ⟨now, .storeTimestamp nextUid⟩) := by
  obtain ⟨separated, subscribers⟩ := reachable_separated reached
  have below : mapping < state.objects.length := by
    simpa [State.blockIds] using (reachable_formed reached).acquisitions _ holds
  have read : state.read (some mapping) = some state.objects[mapping].metadata := by
    simp [State.read, below]
  have current := separated.current mapping uid holds _ read
  have announced := subscribers _ holds
  obtain ⟨vacant, unrenewed⟩ := announced_vacant reached announced read current
  have outside := separated.window mapping ⟨uid, holds⟩ _ read
  exact ⟨_, read, current, announced, current ▸ outside, vacant, unrenewed⟩

/-- A PublishBlock which can write has no block somebody holds, so its device pointer is none a
subscriber reads. -/
theorem writer_unheld (reached : Reachable step Disciplined Initial state) {mapping uid : Nat}
    (holds : ⟨mapping, uid, .holding⟩ ∈ state.acquisitions) {reservation : BlockReservation}
    (member : ⟨reservation, .idle true⟩ ∈ state.publishBlocks) :
    reservation.mapping ≠ some mapping := by
  obtain ⟨-, -, -, -, -, vacant, -⟩ := holding_vacant reached holds
  intro mapped
  have own := List.flatMap_eq_nil_iff.mp (List.append_eq_nil_iff.mp vacant).2 _ member
  rw [heldOn_stage rfl, if_pos mapped] at own
  exact absurd own (by simp)

/-- A held BufferRef keeps every publisher away. In every run in which subscribers
acquire what was announced and no second uid check passes inside a publisher's window:
as long as a BufferRef is valid, its uid is the current one of its object, no
reservation of the object is in a PublishBlock, in a commit or in a cancel, no
reservation attempt keeps a claim on the object before the uids are exhausted, and no
PublishBlock between two operations hands out the device pointer under a reservation
of it. -/
theorem held_excludes_publishers (reached : Reachable step Disciplined Initial state)
    (mapping uid : Nat) (holds : ⟨mapping, uid, .holding⟩ ∈ state.acquisitions) :
    (∃ metadata, state.read (some mapping) = some metadata ∧ metadata.uid = uid) ∧
    heldOn mapping state.mutex state.publishBlocks = [] ∧
    (∀ offset index call, state.mutex = some (.reserving offset index mapping call) →
      call.share = 0 ∨ uid = uint64Max) ∧
    ∀ reservation owner, ⟨reservation, .idle owner⟩ ∈ state.publishBlocks →
      reservation.mapping = some mapping →
        ∀ locked, state.devicePtr locked ⟨reservation, .idle owner⟩ = 0 := by
  obtain ⟨metadata, read, rfl, -, outside, vacant, unrenewed⟩ := holding_vacant reached holds
  refine ⟨⟨_, read, rfl⟩, vacant, ?_, ?_⟩
  · rintro offset index ⟨now, pc⟩ inside
    rw [inWindow_reserving inside] at outside
    cases pc with
    | loadUid =>
      right
      by_contra other
      exact outside ⟨rfl, .inl ⟨rfl, other⟩⟩
    | storeUid nextUid => exact absurd ⟨rfl, .inr ⟨nextUid, rfl⟩⟩ outside
    | storeTimestamp nextUid => exact absurd (by simp [inside]) (unrenewed now nextUid)
    | storeRefcount =>
      have running : Call.reserve ⟨now, .storeRefcount⟩ ∈
          callsOn mapping state.mutex state.publishBlocks state.acquisitions := by
        rw [inside, callsOn_holder]
        exact List.mem_append_left _ (by simp [Holder.callsOn])
      exact .inr ((reachable_views reached mapping _ read).exhausts running rfl)
    | sampleClock | loadRefcount | loadTimestamp | claim => exact .inl rfl
  · intro reservation owner member mapped locked
    cases owner with
    | false => rfl
    | true => exact absurd mapped (writer_unheld reached holds member)

/-- A publication which a subscriber holds while, a grace period later, a reservation
attempt finds its block referenced. -/
def holdAndAttempt : List Action :=
  initialiseOnce ++ acquireOnce ++ publishOnce 0 ++
    [.acquire 0 5] ++ List.replicate 4 (.advanceAcquisition 0 false) ++
    [.tick 200000, .acquireForPublish true] ++ List.replicate 3 .advanceHolder

/-- The state behind a publication, an acquire of it and a further attempt, a grace period later. -/
def attemptedWhileHeld : State :=
  ⟨⟨64, 0⟩, ⟨1, [⟨0, some 0, 4096, some ⟨Vector.replicate 64 0, [3]⟩, []⟩], 0, 64, 0, 7, true⟩,
    none, some (.scanning 1), [⟨reservationOf 5, .idle false⟩], [⟨0, ⟨5, 1, 1⟩⟩],
    [⟨0, 5, .holding⟩], 1, 200001, publishedLog⟩

/-- The publisher passes the held block on, although the block has aged: its count is not zero. -/
theorem held_excludes_publishers_attempted :
    (∃ metadata, attemptedWhileHeld.read (some 0) = some metadata ∧ metadata.uid = 5) ∧
    heldOn 0 attemptedWhileHeld.mutex attemptedWhileHeld.publishBlocks = [] ∧
    (∀ offset index call, attemptedWhileHeld.mutex = some (.reserving offset index 0 call) →
      call.share = 0 ∨ 5 = uint64Max) ∧
    ∀ reservation owner, ⟨reservation, .idle owner⟩ ∈ attemptedWhileHeld.publishBlocks →
      reservation.mapping = some 0 →
        ∀ locked, attemptedWhileHeld.devicePtr locked ⟨reservation, .idle owner⟩ = 0 := by
  have reached : Reachable step Disciplined Initial attemptedWhileHeld :=
    reachable_run holdAndAttempt oneBlock _
      (.start oneBlock ⟨⟨64, 0⟩, 1, 7, 0, 1, by decide, by decide, rfl⟩) (by decide +kernel)
  exact held_excludes_publishers reached 0 5 (by decide)

end GpuBufferManager

end Ros2CudaIpc
