import Ros2CudaIpc.ManagerTransitions

/-!
# What the manager's data refer to

Every number a reservation, a call, an acquire or an event carries names a metadata
object which was created; a block of the pool and the object it holds have one
block id; and the commit inside the mutex belongs to a PublishBlock which waits
for it. Objects are only added, and their block ids never change.
-/

namespace Ros2CudaIpc

/-- A reservation names a created object, if any; one which was moved from names none. -/
def BlockReservation.Known (blockIds : List Nat) (reservation : BlockReservation) : Prop :=
  ∀ mapping, reservation.mapping = some mapping → mapping < blockIds.length

/-- A descriptor of a reservation: the block id of its object, and its uid. -/
def BufferDescriptor.Describes (blockIds : List Nat) (reservation : BlockReservation)
    (descriptor : BufferDescriptor) : Prop :=
  descriptor.uid = reservation.uid ∧
    ∃ mapping : Nat, reservation.mapping = some mapping ∧
      blockIds[mapping]? = some descriptor.blockId

namespace SettleCall

/-- A commit of the reservation with this uid, at any of its positions. -/
def Commits (uid : Nat) (call : SettleCall) : Prop := call.uid = uid ∧ call.published = true

/-- A cancel of the reservation with this uid: it never comes to the timestamp. -/
def Cancels (uid : Nat) (call : SettleCall) : Prop :=
  call.uid = uid ∧ call.published = false ∧ call.pc ≠ .sampleClock ∧ call.pc ≠ .storeTimestamp

variable {clock uid : Nat} {metadata changed : BlockMetadata} {call next : SettleCall}

/-- A running commit goes on as one: no operation changes its uid or its kind. -/
theorem Commits.running (commits : call.Commits uid)
    (operation : call.Operation clock metadata changed (.running next)) : next.Commits uid := by
  cases operation <;> simp_all [Commits]

/-- A running cancel goes on as one, and never comes to the positions which only a commit has. -/
theorem Cancels.running (cancels : call.Cancels uid)
    (operation : call.Operation clock metadata changed (.running next)) : next.Cancels uid := by
  cases operation <;> simp_all [Cancels]

/-- Before its decrement a running cancel writes nothing, since only a commit stores a timestamp. -/
theorem Cancels.unwritten (cancels : call.Cancels uid)
    (operation : call.Operation clock metadata changed (.running next))
    (early : call.pc ≠ .fetchSub) : changed = metadata := by
  cases operation <;> simp_all [Cancels]

end SettleCall

section Append

variable {blockIds : List Nat} {reservation : BlockReservation} {descriptor : BufferDescriptor}

/-- A reservation which names a created object still does when more objects are created. -/
theorem BlockReservation.Known.append (known : reservation.Known blockIds) (more : List Nat) :
    reservation.Known (blockIds ++ more) := by
  intro mapping named
  rw [List.length_append]
  exact Nat.lt_add_right _ (known mapping named)

/-- A descriptor of a reservation still is one when more objects are created. -/
theorem BufferDescriptor.Describes.append (describes : descriptor.Describes blockIds reservation)
    (more : List Nat) : descriptor.Describes (blockIds ++ more) reservation := by
  obtain ⟨uid, mapping, named, found⟩ := describes
  refine ⟨uid, mapping, named, ?_⟩
  rw [List.getElem?_append_left (List.getElem?_eq_some_iff.mp found).1, found]

end Append

namespace GpuBufferManager

open Reachability

/-- The block ids of the created objects, by their numbers. -/
def State.blockIds (state : State) : List Nat := state.objects.map MetadataObject.blockId

/-- Writing words changes no block id. -/
@[simp] theorem writeObject_blockIds (objects : List MetadataObject) (mapping : Option Nat)
    (metadata : BlockMetadata) : (writeObject objects mapping metadata).map MetadataObject.blockId =
      objects.map MetadataObject.blockId := by
  cases mapping with
  | none => rfl
  | some number =>
    apply List.ext_getElem?
    intro index
    simp only [writeObject, List.getElem?_map, List.getElem?_modify]
    cases objects[index]? with
    | none => rfl
    | some object => split <;> rfl

/-- The object an event is about, none for the events of a pool as a whole. -/
def Event.mapping : Event → Option Nat
  | .reserved reservation _ | .prepareFailed reservation | .cancelled reservation
  | .cancelFailed reservation => reservation.mapping
  | .decremented mapping _ | .prepared _ mapping _ => mapping
  | _ => none

/-- An event about a reservation is about a created object, so its number can be looked up. -/
def Event.Known (blockIds : List Nat) : Event → Prop
  | .allocated _ | .retired | .initialised _ => True
  | event => ∃ number, event.mapping = some number ∧ number < blockIds.length

/-- What a stage says about the reservation: an unsettled one has its object, and
the descriptor and the running cancel are its own. -/
def Stage.Fits (blockIds : List Nat) (reservation : BlockReservation) : Stage → Prop
  | .described descriptor => descriptor.Describes blockIds reservation
  | .cancelling call _ => reservation.mapping ≠ none ∧ call.Cancels reservation.uid
  | stage => stage.reserved = true → reservation.mapping ≠ none

/-- A PublishBlock of this process with a known reservation in a fitting stage, whichever
generation it is from. -/
structure PublishBlock.Fits (blockIds : List Nat) (publisherPid : Nat) (block : PublishBlock) :
    Prop where
  known : block.reservation.Known blockIds
  pid : block.reservation.publisherPid = publisherPid
  staged : block.stage.Fits blockIds block.reservation

/-- The call inside the mutex operates on a created object, and a commit does so with the uid of
its reservation. -/
def Holder.Fits (blockIds : List Nat) : Holder → Prop
  | .scanning _ => True
  | .reserving _ _ mapping _ => mapping < blockIds.length
  | .committing _ reservation descriptor call =>
    descriptor.Describes blockIds reservation ∧ call.Commits reservation.uid

/-- What refers to what: every number in the pool, the calls, the PublishBlocks, the acquires and
the log names a created object. -/
structure Formed (blockIds : List Nat) (pool : GpuBufferPool) (mutex : Option Holder)
    (publishBlocks : List PublishBlock) (acquisitions : List Acquisition) (log : List Event) :
    Prop where
  identified : ∀ (blockId mapping : Nat), (blockId, some mapping) ∈ pool.identities →
    blockIds[mapping]? = some blockId
  linked : ∀ index reservation descriptor call,
    mutex = some (.committing index reservation descriptor call) →
      publishBlocks[index]? = some ⟨reservation, .committing⟩
  holder : ∀ holder, mutex = some holder → holder.Fits blockIds
  blocks : ∀ block ∈ publishBlocks, block.Fits blockIds pool.publisherPid
  acquisitions : ∀ acquisition ∈ acquisitions, acquisition.mapping < blockIds.length
  events : ∀ event ∈ log, event.Known blockIds

/-- What refers to what in a state, whose objects alone say which numbers name something. -/
def State.Formed (state : State) : Prop :=
  GpuBufferManager.Formed state.blockIds state.pool state.mutex state.publishBlocks
    state.acquisitions state.log

variable {blockIds : List Nat} {pool : GpuBufferPool} {mutex : Option Holder}
  {publishBlocks : List PublishBlock} {acquisitions : List Acquisition} {log : List Event}
  {reservation : BlockReservation} {descriptor : BufferDescriptor}

/-- The object an event is about was created, so its number is below that of the next one. -/
theorem Event.Known.below {event : Event} (known : event.Known blockIds) {number : Nat}
    (about : event.mapping = some number) : number < blockIds.length := by
  cases event with
  | allocated | retired | initialised => simp [Event.mapping] at about
  | _ =>
    obtain ⟨other, same, below⟩ := known
    obtain rfl : other = number := Option.some.inj (same.symm.trans about)
    exact below

/-- An unsettled reservation has its object, since a move takes the object and the ownership
together. -/
theorem Stage.Fits.mapped {stage : Stage} (fits : stage.Fits blockIds reservation)
    (unsettled : stage.reserved = true) : reservation.mapping ≠ none := by
  cases stage with
  | described descriptor =>
    obtain ⟨-, mapping, named, -⟩ := fits
    simp [named]
  | cancelling call after => exact fits.1
  | _ => exact fits unsettled

/-- A stage without a reservation and without a cancel says nothing about its reservation. -/
theorem Stage.fits_vacant {stage : Stage} (vacant : stage.reserved = false)
    (uncancelled : ∀ call after, stage ≠ .cancelling call after) :
    stage.Fits blockIds reservation := by
  cases stage with
  | described descriptor => simp [Stage.reserved] at vacant
  | cancelling call after => exact absurd rfl (uncancelled call after)
  | _ =>
    intro unsettled
    simp [vacant] at unsettled

/-- A PublishBlock which waits for its commit says nothing; the call inside the mutex does. -/
theorem Stage.fits_committing : Stage.committing.Fits blockIds reservation :=
  Stage.fits_vacant rfl (by simp)

/-- A PublishBlock without an owner says nothing about the reservation it once had. -/
theorem Stage.fits_released : (Stage.idle false).Fits blockIds reservation :=
  Stage.fits_vacant rfl (by simp)

/-- A running cancel of a mapped reservation fits it, with the uid it was begun with. -/
theorem Stage.fits_cancelling {call : SettleCall} {after : AfterCancel}
    (mapped : reservation.mapping ≠ none) (cancels : call.Cancels reservation.uid) :
    (Stage.cancelling call after).Fits blockIds reservation :=
  ⟨mapped, cancels⟩

/-- A stage behind a cancel says nothing, whatever the PublishBlock goes on with. -/
theorem AfterCancel.stage_fits (after : AfterCancel) : after.stage.Fits blockIds reservation := by
  refine Stage.fits_vacant after.stage_reserved fun call rest same => ?_
  have settling := after.stage_settling
  simp [same, Stage.settling] at settling

/-- An event about a created object still is when more objects are created. -/
theorem Event.Known.append {event : Event} (known : event.Known blockIds) (more : List Nat) :
    event.Known (blockIds ++ more) := by
  cases event with
  | allocated | retired | initialised => trivial
  | _ =>
    obtain ⟨number, about, below⟩ := known
    exact ⟨number, about, by rw [List.length_append]; exact Nat.lt_add_right _ below⟩

/-- A stage which fits its reservation still does when more objects are created. -/
theorem Stage.Fits.append {stage : Stage} (fits : stage.Fits blockIds reservation)
    (more : List Nat) : stage.Fits (blockIds ++ more) reservation := by
  cases stage with
  | described descriptor => exact BufferDescriptor.Describes.append fits more
  | _ => exact fits

/-- A call on a created object still is when more objects are created. -/
theorem Holder.Fits.append {holder : Holder} (fits : holder.Fits blockIds) (more : List Nat) :
    holder.Fits (blockIds ++ more) := by
  cases holder with
  | scanning offset => trivial
  | reserving offset index mapping call =>
    exact Nat.lt_of_lt_of_le fits (by rw [List.length_append]; exact Nat.le_add_right ..)
  | committing index reservation descriptor call =>
    exact ⟨fits.1.append more, fits.2⟩

/-- Identities of a pool one of whose blocks was identified: the new one, and those it had. -/
theorem identify_identities {pool : GpuBufferPool} {index blockId mapping : Nat}
    {identity : Nat × Option Nat}
    (member : identity ∈ (pool.identify index blockId mapping).identities) :
    identity = (blockId, some mapping) ∨ identity ∈ pool.identities := by
  obtain ⟨position, found⟩ := List.getElem?_of_mem member
  simp only [GpuBufferPool.identities, GpuBufferPool.identify, List.getElem?_map,
    List.getElem?_modify] at found
  cases stored : pool.blocks[position]? with
  | none => simp [stored] at found
  | some block =>
    simp only [stored, Option.map_eq_map, Option.map_some, Option.some.injEq] at found
    split at found
    · exact .inl found.symm
    · exact .inr (List.mem_map.mpr ⟨block, List.mem_of_getElem? stored, found⟩)

/-- A mapping of a formed pool names a created object, the one of the block with that identity. -/
theorem Formed.mapping_known
    (formed : Formed blockIds pool mutex publishBlocks acquisitions log) {mapping : Nat}
    (present : mapping ∈ pool.mappings) : mapping < blockIds.length := by
  obtain ⟨block, member, shared⟩ := List.mem_filterMap.mp present
  have identity : (block.blockId, some mapping) ∈ pool.identities :=
    List.mem_map.mpr ⟨block, member, by rw [shared]⟩
  exact (List.getElem?_eq_some_iff.mp (formed.identified _ _ identity)).1

/-- An idle or preparing PublishBlock is not the one inside the mutex, so replacing it leaves that
one waiting. -/
theorem Formed.linked_set (formed : Formed blockIds pool mutex publishBlocks acquisitions log)
    {index : Nat} {old changed : PublishBlock} (found : publishBlocks[index]? = some old)
    (outside : old.stage ≠ .committing) {other : Nat} {call : SettleCall}
    (inside : mutex = some (.committing other reservation descriptor call)) :
    (publishBlocks.set index changed)[other]? = some ⟨reservation, .committing⟩ := by
  have linked := formed.linked other reservation descriptor call inside
  have apart : index ≠ other := by
    rintro rfl
    obtain rfl : old = ⟨reservation, .committing⟩ := Option.some.inj (found.symm.trans linked)
    exact outside rfl
  rw [List.getElem?_set_ne apart, linked]

/-- Replacing a PublishBlock outside the mutex by one which fits leaves everything else referring
to what it did. -/
theorem Formed.put (formed : Formed blockIds pool mutex publishBlocks acquisitions log)
    {index : Nat} {old changed : PublishBlock} (found : publishBlocks[index]? = some old)
    (outside : old.stage ≠ .committing) (fits : changed.Fits blockIds pool.publisherPid) :
    Formed blockIds pool mutex (publishBlocks.set index changed) acquisitions log := by
  refine { formed with linked := ?_, blocks := ?_ }
  · intro other reservation descriptor call inside
    exact formed.linked_set found outside inside
  · intro block member
    rcases List.mem_or_eq_of_mem_set member with before | rfl
    · exact formed.blocks block before
    · exact fits

/-- Further events about created objects, in front of those already logged. -/
theorem Formed.append (formed : Formed blockIds pool mutex publishBlocks acquisitions log)
    {events : List Event} (known : ∀ event ∈ events, event.Known blockIds) :
    Formed blockIds pool mutex publishBlocks acquisitions (events ++ log) := by
  refine { formed with events := ?_ }
  intro event member
  rcases List.mem_append.mp member with new | before
  · exact known event new
  · exact formed.events event before

/-- One further event about a created object, in front of those already logged. -/
theorem Formed.note (formed : Formed blockIds pool mutex publishBlocks acquisitions log)
    {event : Event} (known : event.Known blockIds) :
    Formed blockIds pool mutex publishBlocks acquisitions (event :: log) := by
  have single : ∀ other ∈ [event], other.Known blockIds := by simpa using known
  exact formed.append single

/-- The call inside the mutex leaves or goes on as a scan, and neither refers to an object. -/
theorem Formed.leave (formed : Formed blockIds pool mutex publishBlocks acquisitions log)
    {left : Option Holder} (goes : left = none ∨ ∃ offset, left = some (.scanning offset)) :
    Formed blockIds pool left publishBlocks acquisitions log := by
  refine { formed with linked := ?_, holder := ?_ }
  · rintro index reservation descriptor call rfl
    rcases goes with outside | ⟨offset, scans⟩
    · simp at outside
    · simp at scans
  · rintro holder rfl
    rcases goes with outside | ⟨offset, scans⟩
    · simp at outside
    · obtain rfl : holder = .scanning offset := Option.some.inj scans
      trivial

/-- A pool with the same blocks and process, whatever its cursor and its sizes are. -/
theorem Formed.repool (formed : Formed blockIds pool mutex publishBlocks acquisitions log)
    {changed : GpuBufferPool} (same : changed.identities = pool.identities)
    (pid : changed.publisherPid = pool.publisherPid) :
    Formed blockIds changed mutex publishBlocks acquisitions log := by
  refine { formed with identified := ?_, blocks := ?_ }
  · rw [same]
    exact formed.identified
  · rw [pid]
    exact formed.blocks

/-- An acquire of the same object in another phase refers to what it did. -/
theorem Formed.acquisition (formed : Formed blockIds pool mutex publishBlocks acquisitions log)
    {number : Nat} {old changed : Acquisition} (found : acquisitions[number]? = some old)
    (same : changed.mapping = old.mapping) :
    Formed blockIds pool mutex publishBlocks (acquisitions.set number changed) log := by
  refine { formed with acquisitions := ?_ }
  intro acquisition member
  rcases List.mem_or_eq_of_mem_set member with before | rfl
  · exact formed.acquisitions acquisition before
  · exact same ▸ formed.acquisitions old (List.mem_of_getElem? found)

/-- A known reservation with its object names a created one by its number. -/
theorem known_mapping (known : reservation.Known blockIds) (mapped : reservation.mapping ≠ none) :
    ∃ number, reservation.mapping = some number ∧ number < blockIds.length := by
  obtain ⟨number, named⟩ := Option.ne_none_iff_exists'.mp mapped
  exact ⟨number, named, known number named⟩

/-- Reading through a mapping needs one, so a reservation whose words were read has its object. -/
theorem mapped_of_read {state : State} {metadata : BlockMetadata}
    (found : state.read reservation.mapping = some metadata) : reservation.mapping ≠ none := by
  intro unmapped
  simp [unmapped, State.read] at found

/-- The events of a decrement are about its object, which was created. -/
theorem decrements_known (known : reservation.Known blockIds) (mapped : reservation.mapping ≠ none)
    (call : SettleCall) : ∀ event ∈ decrements reservation.mapping call, event.Known blockIds := by
  intro event member
  unfold decrements at member
  split at member
  · obtain rfl := List.mem_singleton.mp member
    exact known_mapping known mapped
  · simp at member

/-- The events which end an `initialise` are about no object, so there is nothing to know of them.
-/
theorem Outcomes.known {events : List Event} (outcomes : Outcomes events) :
    ∀ event ∈ events, event.Known blockIds := by
  intro event member
  obtain ⟨succeeded, rfl⟩ := outcomes event member
  trivial

/-- A PublishBlock of the pool's process in another fitting stage, with the reservation it has. -/
theorem PublishBlock.Fits.restage {publisherPid : Nat} {block : PublishBlock}
    (fits : block.Fits blockIds publisherPid) {stage : Stage}
    (staged : stage.Fits blockIds block.reservation) :
    PublishBlock.Fits blockIds publisherPid ⟨block.reservation, stage⟩ :=
  ⟨fits.known, fits.pid, staged⟩

/-- A created object with the block it was created for. Its number is behind those of all others. -/
theorem Formed.created (formed : Formed blockIds pool mutex publishBlocks acquisitions log)
    (index blockId : Nat) :
    Formed (blockIds ++ [blockId]) (pool.identify index blockId blockIds.length) mutex
      publishBlocks acquisitions log := by
  constructor
  · intro other mapping member
    rcases identify_identities member with same | before
    · obtain ⟨rfl, rfl⟩ : other = blockId ∧ mapping = blockIds.length := by simpa using same
      simp
    · have found := formed.identified other mapping before
      rw [List.getElem?_append_left (List.getElem?_eq_some_iff.mp found).1, found]
  · exact formed.linked
  · exact fun holder inside => (formed.holder holder inside).append _
  · intro block member
    have fits := formed.blocks block member
    exact ⟨fits.known.append _, fits.pid, fits.staged.append _⟩
  · intro acquisition member
    rw [List.length_append]
    exact Nat.lt_add_right _ (formed.acquisitions acquisition member)
  · exact fun event member => (formed.events event member).append _

/-- The returned reservation of the visited block joins the PublishBlocks and the log, and names
the block's object. -/
theorem Formed.reserve (formed : Formed blockIds pool mutex publishBlocks acquisitions log)
    {mapping : Nat} (known : mapping < blockIds.length) (blockId uid index now nextBlock : Nat) :
    Formed blockIds { pool with nextBlock := nextBlock } none
      (publishBlocks ++ [⟨⟨some mapping, blockId, uid, pool.publisherPid, index⟩, .idle true⟩])
      acquisitions
      (.reserved ⟨some mapping, blockId, uid, pool.publisherPid, index⟩ now :: log) := by
  have knows : BlockReservation.Known blockIds
      ⟨some mapping, blockId, uid, pool.publisherPid, index⟩ := by
    intro other named
    exact Option.some.inj named ▸ known
  constructor
  · exact formed.identified
  · simp
  · simp
  · intro block member
    rcases List.mem_append.mp member with before | own
    · exact formed.blocks block before
    · obtain rfl := List.mem_singleton.mp own
      exact ⟨knows, rfl, fun _ => by simp⟩
  · exact formed.acquisitions
  · intro event member
    rcases List.mem_cons.mp member with rfl | before
    · exact ⟨mapping, rfl, known⟩
    · exact formed.events event before

/-- A PublishBlock's moved reservation, and the one it leaves: the new one fits, and the old one
names nothing. -/
theorem Formed.moved (formed : Formed blockIds pool mutex publishBlocks acquisitions log)
    {source : Nat} {owner : Bool}
    (found : publishBlocks[source]? = some ⟨reservation, .idle owner⟩) :
    PublishBlock.Fits blockIds pool.publisherPid ⟨reservation, .idle owner⟩ ∧
      PublishBlock.Fits blockIds pool.publisherPid ⟨reservation.moved, .idle false⟩ := by
  have fits := formed.blocks _ (List.mem_of_getElem? found)
  exact ⟨fits, fun mapping named => by simp [BlockReservation.moved] at named, fits.pid,
    Stage.fits_released⟩

variable {state next : State}

/-- Where a generation of blocks ends the pool refers to no object. What was handed out before keeps
its own references, so nothing else has to hold of the new pool. -/
theorem State.Formed.retired (formed : state.Formed) {pool : GpuBufferPool}
    {initialising : Option Initialising} {events : List Event} (empty : pool.mappings = [])
    (pid : pool.publisherPid = state.pool.publisherPid) (outcomes : Outcomes events) :
    State.Formed { state with
      pool := pool, initialising := initialising, log := events ++ .retired :: state.log } := by
  unfold State.Formed State.blockIds at *
  have ended : Event.Known (List.map MetadataObject.blockId state.objects) .retired := trivial
  refine { (formed.note ended).append outcomes.known with identified := ?_, blocks := ?_ }
  · intro blockId mapping member
    obtain ⟨block, inside, same⟩ := List.mem_map.mp member
    obtain ⟨-, shared⟩ := Prod.mk.inj same
    have present : mapping ∈ pool.mappings := List.mem_filterMap.mpr ⟨block, inside, shared⟩
    simp [empty] at present
  · rw [pid]
    exact formed.blocks

/-- An operation of a PublishBlock outside a commit or cancel refers to what it referred to before.
A new descriptor names an object of the pool with the id it was created under. -/
theorem State.Formed.handled (formed : state.Formed) {pool : GpuBufferPool} {index : Nat}
    {reservation : BlockReservation} {stage next : Stage}
    (same : pool.identities = state.pool.identities)
    (pid : pool.publisherPid = state.pool.publisherPid)
    (found : state.publishBlocks[index]? = some ⟨reservation, stage⟩)
    (quiet : stage.settling = false ∧ next.settling = false)
    (kept : next.reserved = stage.reserved)
    (described : ∀ descriptor, next = .described descriptor → ∃ locked copied,
      state.pool.tryBuildDescriptor locked reservation copied = some descriptor) :
    State.Formed ({ state with pool := pool }.put index ⟨reservation, next⟩) := by
  unfold State.Formed State.blockIds at *
  have fits := formed.blocks _ (List.mem_of_getElem? found)
  have outside : stage ≠ .committing := by
    rintro rfl
    simp [Stage.settling] at quiet
  refine Formed.put (formed.repool same pid) found outside (pid ▸ fits.restage ?_)
  cases next with
  | described descriptor =>
    obtain ⟨locked, copied, built⟩ := described descriptor rfl
    obtain ⟨owns, uid, identity, -⟩ := GpuBufferPool.tryBuildDescriptor_built built
    obtain ⟨mapping, named, member⟩ := GpuBufferPool.owns_identity owns
    exact ⟨uid, mapping, named, identity ▸ formed.identified _ mapping member⟩
  | cancelling call after => simp [Stage.settling] at quiet
  | _ => exact fun unsettled => fits.staged.mapped (kept ▸ unsettled)

/-- A quarantined reservation still refers to an object, from the log, although its PublishBlock
has given it up. -/
theorem State.Formed.quarantined (formed : state.Formed) {index : Nat}
    {reservation : BlockReservation} {stage next : Stage} {event : Event}
    (found : state.publishBlocks[index]? = some ⟨reservation, stage⟩)
    (unsettled : stage.reserved = true) (vacant : next.reserved = false ∧ next.settling = false)
    (failed : event = .prepareFailed reservation ∨ event = .cancelFailed reservation ∧
      (reservation.publisherPid ≠ state.pool.publisherPid ∨ reservation.mapping = none)) :
    State.Formed ((state.put index ⟨reservation, next⟩).note event) := by
  unfold State.Formed State.blockIds at *
  have fits := formed.blocks _ (List.mem_of_getElem? found)
  have outside : stage ≠ .committing := by
    rintro rfl
    simp [Stage.reserved] at unsettled
  have known := known_mapping fits.known (fits.staged.mapped unsettled)
  refine Formed.note (formed.put found outside (fits.restage ?_)) ?_
  · refine Stage.fits_vacant vacant.1 fun call after same => ?_
    simp [same, Stage.settling] at vacant
  · rcases failed with rfl | ⟨rfl, -⟩
    · exact known
    · exact known

/-- The PublishBlock of a commit is the one which the mutex names, for as long as it runs. -/
theorem State.Formed.commitBegun (formed : state.Formed) {index : Nat}
    {reservation : BlockReservation} {descriptor : BufferDescriptor}
    (found : state.publishBlocks[index]? = some ⟨reservation, .described descriptor⟩) :
    State.Formed ({ state with
      mutex := some (.committing index reservation descriptor
        (SettleCall.commitPublish reservation.uid)) }.put index ⟨reservation, .committing⟩) := by
  unfold State.Formed State.blockIds at *
  have fits := formed.blocks _ (List.mem_of_getElem? found)
  have put := formed.put found (by simp) (fits.restage Stage.fits_committing)
  simp only [State.put]
  refine { put with linked := ?_, holder := ?_ }
  · rintro other otherReservation otherDescriptor call same
    obtain ⟨rfl, rfl, -⟩ := Holder.committing.inj (Option.some.inj same)
    rw [List.getElem?_set_self (List.getElem?_eq_some_iff.mp found).1]
  · rintro holder same
    obtain rfl := Option.some.inj same
    exact ⟨fits.staged, rfl, rfl⟩

/-- An operation of a commit changes no reference, and the commit is still the one it was. -/
theorem State.Formed.committing (formed : state.Formed) {index : Nat}
    {reservation : BlockReservation} {descriptor : BufferDescriptor} {call next : SettleCall}
    {metadata changed : BlockMetadata}
    (inside : state.mutex = some (.committing index reservation descriptor call))
    (found : state.read reservation.mapping = some metadata)
    (operation : call.Operation state.clock metadata changed (.running next)) :
    State.Formed { state.settle reservation.mapping call changed with
      mutex := some (.committing index reservation descriptor next) } := by
  unfold State.Formed State.blockIds at *
  obtain ⟨describes, commits⟩ := formed.holder _ inside
  simp only [State.settle, State.write, writeObject_blockIds]
  have linked := formed.linked _ _ _ _ inside
  have known := (formed.blocks _ (List.mem_of_getElem? linked)).known
  have events := decrements_known known (mapped_of_read found) call
  refine { formed.append events with linked := ?_, holder := ?_ }
  · rintro other otherReservation otherDescriptor otherCall same
    obtain ⟨rfl, rfl, -⟩ := Holder.committing.inj (Option.some.inj same)
    exact linked
  · rintro holder same
    obtain rfl := Option.some.inj same
    exact ⟨describes, commits.running operation⟩

/-- At its end a commit leaves the mutex, and its PublishBlock holds nothing any more. -/
theorem State.Formed.committed (formed : state.Formed) {index : Nat}
    {reservation : BlockReservation} {descriptor : BufferDescriptor} {call : SettleCall}
    {metadata changed : BlockMetadata} {released : Bool}
    (inside : state.mutex = some (.committing index reservation descriptor call))
    (found : state.read reservation.mapping = some metadata)
    (operation : call.Operation state.clock metadata changed (.returned released)) :
    State.Formed (({ state.settle reservation.mapping call changed with mutex := none }.put index
      ⟨reservation, .idle false⟩).note
      (if released then .prepared descriptor reservation.mapping call.now
        else .prepareFailed reservation)) := by
  unfold State.Formed State.blockIds at *
  have linked := formed.linked _ _ _ _ inside
  have fits := formed.blocks _ (List.mem_of_getElem? linked)
  simp only [State.settle, State.put, State.note, State.write, writeObject_blockIds]
  have known := known_mapping fits.known (mapped_of_read found)
  have left := (formed.leave (.inl rfl)).append
    (decrements_known fits.known (mapped_of_read found) call)
  refine Formed.note { left with linked := by simp, blocks := ?_ } ?_
  · intro block member
    rcases List.mem_or_eq_of_mem_set member with before | rfl
    · exact formed.blocks block before
    · exact fits.restage Stage.fits_released
  · cases released with
    | true => exact known
    | false => exact known

/-- A cancel begins with the uid of its reservation, and before the timestamp's positions. -/
theorem State.Formed.cancelBegun (formed : state.Formed) {index : Nat}
    {reservation : BlockReservation} {after : AfterCancel}
    (found : state.publishBlocks[index]? = some ⟨reservation, .idle true⟩)
    (mapped : reservation.mapping ≠ none) :
    State.Formed (state.put index
      ⟨reservation, .cancelling (SettleCall.cancelPublish reservation.uid) after⟩) := by
  unfold State.Formed State.blockIds at *
  have fits := formed.blocks _ (List.mem_of_getElem? found)
  have cancels : (SettleCall.cancelPublish reservation.uid).Cancels reservation.uid := by
    simp [SettleCall.Cancels, SettleCall.cancelPublish]
  exact formed.put found (by simp) (fits.restage (Stage.fits_cancelling mapped cancels))

/-- An operation of a cancel changes no reference, and the cancel is still the one it was. -/
theorem State.Formed.cancelling (formed : state.Formed) {index : Nat}
    {reservation : BlockReservation} {after : AfterCancel} {call next : SettleCall}
    {metadata changed : BlockMetadata}
    (block : state.publishBlocks[index]? = some ⟨reservation, .cancelling call after⟩)
    (found : state.read reservation.mapping = some metadata)
    (operation : call.Operation state.clock metadata changed (.running next)) :
    State.Formed ((state.settle reservation.mapping call changed).put index
      ⟨reservation, .cancelling next after⟩) := by
  unfold State.Formed State.blockIds at *
  have fits := formed.blocks _ (List.mem_of_getElem? block)
  simp only [State.settle, State.put, State.write, writeObject_blockIds]
  refine Formed.append (formed.put block (by simp) (fits.restage ?_))
    (decrements_known fits.known (mapped_of_read found) call)
  exact Stage.fits_cancelling fits.staged.1 (fits.staged.2.running operation)

/-- At its end a cancel leaves its PublishBlock to what comes behind it, and logs whether the
count was given back. -/
theorem State.Formed.cancelled (formed : state.Formed) {index : Nat}
    {reservation : BlockReservation} {after : AfterCancel} {call : SettleCall}
    {metadata changed : BlockMetadata} {released : Bool}
    (block : state.publishBlocks[index]? = some ⟨reservation, .cancelling call after⟩)
    (found : state.read reservation.mapping = some metadata)
    (operation : call.Operation state.clock metadata changed (.returned released)) :
    State.Formed (((state.settle reservation.mapping call changed).put index
      ⟨reservation, after.stage⟩).note
        (if released then .cancelled reservation else .cancelFailed reservation)) := by
  unfold State.Formed State.blockIds at *
  have fits := formed.blocks _ (List.mem_of_getElem? block)
  simp only [State.settle, State.put, State.note, State.write, writeObject_blockIds]
  have known := known_mapping fits.known (mapped_of_read found)
  have put := formed.put block (by simp) (fits.restage after.stage_fits)
  refine Formed.note (put.append (decrements_known fits.known (mapped_of_read found) call)) ?_
  cases released with
  | true => exact known
  | false => exact known

/-- A move assignment exchanges what two PublishBlocks refer to, the source keeping no object. -/
theorem State.Formed.movedFrom (formed : state.Formed) {target source : Nat}
    {old reservation : BlockReservation} {owner : Bool}
    (assigned : state.publishBlocks[target]? = some ⟨old, .assigning source⟩)
    (found : state.publishBlocks[source]? = some ⟨reservation, .idle owner⟩) :
    State.Formed ((state.put target ⟨reservation, .idle owner⟩).put source
      ⟨reservation.moved, .idle false⟩) := by
  unfold State.Formed State.blockIds at *
  obtain ⟨taken, left⟩ := formed.moved found
  have first := formed.put assigned (by simp) taken
  have apart : target ≠ source := by
    rintro rfl
    simp [assigned] at found
  have still : (state.publishBlocks.set target ⟨reservation, .idle owner⟩)[source]? =
      some ⟨reservation, .idle owner⟩ := by
    rw [List.getElem?_set_ne apart, found]
  exact first.put still (by simp) left

/-- A move construction gives a new PublishBlock what another one referred to. No index of an older
one changes. -/
theorem State.Formed.moveConstructed (formed : state.Formed) {source : Nat}
    {reservation : BlockReservation} {owner : Bool}
    (found : state.publishBlocks[source]? = some ⟨reservation, .idle owner⟩) :
    State.Formed { state with
      publishBlocks := state.publishBlocks.set source ⟨reservation.moved, .idle false⟩ ++
        [⟨reservation, .idle owner⟩] } := by
  unfold State.Formed State.blockIds at *
  obtain ⟨taken, left⟩ := formed.moved found
  have first := formed.put found (by simp) left
  refine { first with linked := ?_, blocks := ?_ }
  · intro index reservation descriptor call inside
    have linked := first.linked index reservation descriptor call inside
    rw [List.getElem?_append_left (List.getElem?_eq_some_iff.mp linked).1, linked]
  · intro block member
    rcases List.mem_append.mp member with before | own
    · exact first.blocks block before
    · exact List.mem_singleton.mp own ▸ taken

/-- An acquire begins on an object which exists, whatever uid it asks for. -/
theorem State.Formed.acquireBegun (formed : state.Formed) {mapping uid : Nat}
    (present : mapping < state.objects.length) :
    State.Formed { state with
      acquisitions := state.acquisitions ++ [⟨mapping, uid, .acquiring .loadUid⟩] } := by
  unfold State.Formed State.blockIds at *
  refine { formed with acquisitions := ?_ }
  intro acquisition member
  rcases List.mem_append.mp member with before | own
  · exact formed.acquisitions acquisition before
  · obtain rfl := List.mem_singleton.mp own
    simpa using present

/-- Every action keeps the references. The cases are the kinds of change, each with its lemma
above. -/
theorem formed_transition (formed : state.Formed) (transition : Transition state next) :
    next.Formed := by
  unfold State.Formed State.blockIds at *
  cases transition with
  | environment => exact formed
  | reconfigured pool initialising events same pid _ outcomes =>
    exact (formed.repool same pid).append outcomes.known
  | retired pool initialising events free empty pid _ outcomes =>
    exact State.Formed.retired formed empty pid outcomes
  | allocated index below running =>
    exact formed.note trivial
  | created index blockId value running =>
    simpa using formed.created index blockId
  | scanned mutex outside goes => exact formed.leave goes
  | visited offset index mapping inside within present =>
    refine { formed with linked := by simp, holder := ?_ }
    rintro holder same
    obtain rfl := Option.some.inj same
    exact formed.mapping_known present
  | reserving offset index mapping call next metadata changed inside found operation =>
    simp only [State.write, writeObject_blockIds]
    have known : mapping < _ := formed.holder _ inside
    refine { formed with linked := by simp, holder := ?_ }
    rintro holder same
    obtain rfl := Option.some.inj same
    exact known
  | passed offset index mapping call metadata changed inside found operation =>
    simp only [State.write, writeObject_blockIds]
    exact formed.leave (.inr ⟨offset + 1, rfl⟩)
  | reserved offset index mapping uid call metadata changed block inside found operation =>
    simp only [State.write, writeObject_blockIds]
    exact formed.reserve (formed.holder _ inside) _ _ _ _ _
  | handled pool index reservation stage next same pid found quiet kept described =>
    exact State.Formed.handled formed same pid found quiet kept described
  | quarantined index reservation stage next event found unsettled vacant failed =>
    exact State.Formed.quarantined formed found unsettled vacant failed
  | commitBegun index reservation descriptor found free owned =>
    exact State.Formed.commitBegun formed found
  | committing index reservation descriptor call next metadata changed inside found operation =>
    exact State.Formed.committing formed inside found operation
  | committed index reservation descriptor call metadata changed released inside found operation =>
    exact State.Formed.committed formed inside found operation
  | cancelBegun index reservation after found pid mapped =>
    exact State.Formed.cancelBegun formed found mapped
  | cancelling index reservation after call next metadata changed block found operation =>
    exact State.Formed.cancelling formed block found operation
  | cancelled index reservation after call metadata changed released block found operation =>
    exact State.Formed.cancelled formed block found operation
  | movedFrom target source old reservation owner assigned found =>
    exact State.Formed.movedFrom formed assigned found
  | moveConstructed source reservation owner found =>
    exact State.Formed.moveConstructed formed found
  | acquireBegun mapping uid present => exact State.Formed.acquireBegun formed present
  | acquiring number mapping call next metadata changed running found operation =>
    simp only [State.write, writeObject_blockIds]
    exact formed.acquisition running rfl
  | acquired number mapping call metadata changed valid running found operation =>
    simp only [State.write, writeObject_blockIds]
    exact formed.acquisition running rfl
  | zeroed number mapping uid metadata running found =>
    simp only [State.write, writeObject_blockIds]
    exact formed.acquisition running rfl
  | released number mapping uid metadata holding found =>
    simp only [State.write, writeObject_blockIds]
    exact formed.acquisition holding rfl

/-- The references are right in every reachable state, whatever the actions admitted. By induction
on the run. -/
theorem reachable_formed {admitted : State → Action → Prop} {state : State}
    (reached : Reachable step admitted Initial state) : state.Formed := by
  refine Reachable.invariant ?_ ?_ reached
  · rintro start ⟨config, blockCount, publisherPid, nextBlockId, clock, -, -, rfl⟩
    constructor <;> simp [GpuBufferPool.construct, GpuBufferPool.identities]
  · intro earlier later action _ formed _ moved
    exact formed_transition formed (step_transition moved)

end GpuBufferManager

end Ros2CudaIpc
