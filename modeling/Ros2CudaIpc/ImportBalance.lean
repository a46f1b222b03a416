import Ros2CudaIpc.MemoryImporter
import Ros2CudaIpc.Reachability
import Ros2CudaIpc.VirtualMemory
import Ros2CudaIpc.WeightedLists

/-!
# Imported memory is balanced

A subscriber process imports blocks and releases them in any order. An import receives a
descriptor, and gives back what it has acquired wherever a later call fails; a release
takes everything an import left. The driver's answers are arbitrary as far as a driver
can give them, and cleanup calls succeed where their arguments are right.

What the process has is at any time what it had at the beginning and what the resources
need which are not released, nothing less and nothing more. No call of an import or a
release is ever on something which is not there.
-/

namespace Ros2CudaIpc

open Reachability VirtualMemory WeightedLists

/-- A driver call of an import with its answer, as a call on the process's memory. -/
def ImportOutcomes.performed (outcomes : ImportOutcomes) : DriverCall → Call
  | .closeFd fd => .close fd
  | .memImportFromShareableHandle fd => .importHandle fd outcomes.allocation
  | .memGetAllocationGranularity _ => .query
  | .memAddressReserve size => .reserve size.toNat (outcomes.address.map UInt64.toNat)
  | .memMap address size allocation => .map address.toNat size.toNat allocation outcomes.mapped
  | .memSetAccess address size => .setAccess address.toNat size.toNat outcomes.accessible
  | .ipcOpenEventHandle _ => .openEvent outcomes.event
  | .memUnmap address size => .unmap address.toNat size.toNat
  | .memAddressFree address size => .free address.toNat size.toNat
  | .memRelease allocation => .release allocation

/-- The descriptor an import receives over the publisher's socket. A path which is too long is
refused before a descriptor arrives. -/
def ImportOutcomes.received (outcomes : ImportOutcomes) (msg : BufferCore) : List Call :=
  if sunPathSize ≤ msg.vmmSocketPath.length then [] else outcomes.fd.toList.map .receive

/-- `release_imported_resources`: its calls, and its result. `pushed` says whether the
context could be activated. -/
def releaseImportedResources (pushed : Bool) (imported : ImportedResources) : List Call × Bool :=
  match imported.context with
  | none => ([], true)
  | some _ =>
    if pushed = false then ([], false)
    else
      ((if imported.vmmAddress ≠ 0 ∧ imported.allocationSize ≠ 0 then
          [.unmap imported.vmmAddress.toNat imported.allocationSize.toNat,
            .free imported.vmmAddress.toNat imported.allocationSize.toNat]
        else []) ++
        (if imported.vmmAllocation ≠ 0 then [.release imported.vmmAllocation] else []) ++
        (if imported.event ≠ 0 then [.destroyEvent imported.event] else []), true)

namespace ImportBalance

/-- The process, the resources which are imported and not released, and those whose
release could not activate their context. -/
structure World where
  process : VirtualMemory.State
  live : List ImportedResources
  abandoned : List ImportedResources
deriving DecidableEq, Repr

/-- The resources a process still needs something for: the live ones, and those whose release
could not activate their context. -/
def World.held (world : World) : List ImportedResources := world.live ++ world.abandoned

/-- An import of a message's memory, or the release of one of the imported resources. -/
inductive Action where
  | importFrom (outcomes : ImportOutcomes) (msg : BufferCore) (eventHandle : Vector UInt8 64)
  | release (index : Nat) (pushed : Bool)
deriving DecidableEq, Repr

/-- One action. A call on something which is not there makes the action impossible, which the
results exclude. -/
def step (world : World) : Action → Option World
  | .importFrom outcomes msg eventHandle =>
    let imported := VmmFdMemoryImporter.importFrom outcomes msg eventHandle
    (run perform world.process (outcomes.received msg ++ imported.1.map outcomes.performed)).map
      fun process => { world with process := process, live := world.live ++ imported.2.toList }
  | .release index pushed =>
    world.live[index]?.bind fun imported =>
      let released := releaseImportedResources pushed imported
      (run perform world.process released.1).map fun process =>
        { process := process
          live := world.live.eraseIdx index
          abandoned := if released.2 then world.abandoned else imported :: world.abandoned }

/-- A process which has not imported anything yet, and may have something else, whose ranges do
not overlap. -/
def Initial (base : VirtualMemory.State) (world : World) : Prop :=
  base.Disjoint ∧ world = ⟨base, [], []⟩

/-- The mapped range of imported resources. -/
def rangeOf (imported : ImportedResources) : Range :=
  ⟨imported.vmmAddress.toNat, imported.allocationSize.toNat, some imported.vmmAllocation, true⟩

/-- Resources as an import returns them: with a context and an address, a size, an allocation and
an event. -/
structure Complete (imported : ImportedResources) : Prop where
  context : imported.context ≠ none
  address : imported.vmmAddress ≠ 0
  size : imported.allocationSize ≠ 0
  allocation : imported.vmmAllocation ≠ 0
  event : imported.event ≠ 0
  pointer : imported.devPtr = imported.vmmAddress

/-- A process has what it had at the beginning and what imported resources need. -/
structure Balanced (base : VirtualMemory.State) (held : List ImportedResources)
    (process : VirtualMemory.State) : Prop where
  disjoint : process.Disjoint
  complete : ∀ imported ∈ held, Complete imported
  descriptors : process.descriptors = base.descriptors
  allocations : process.allocations.Perm
    (held.map ImportedResources.vmmAllocation ++ base.allocations)
  ranges : process.ranges.Perm (held.map rangeOf ++ base.ranges)
  events : process.events.Perm (held.map ImportedResources.event ++ base.events)

/-- The answers a driver can give to an import: a new descriptor, no null handle, and a
range of the size which overlaps no other one. -/
structure Possible (process : VirtualMemory.State) (outcomes : ImportOutcomes) (msg : BufferCore) :
    Prop where
  fd : ∀ fd ∈ outcomes.fd, fd ∉ process.descriptors
  allocation : outcomes.allocation ≠ some 0
  event : outcomes.event ≠ some 0
  address : ∀ address ∈ outcomes.address, ∀ granularity ∈ outcomes.granularity,
    0 < address.toNat ∧ 0 < (mappedSize msg.byteSize granularity).toNat ∧
      ∀ other ∈ process.ranges,
        Range.Apart ⟨address.toNat, (mappedSize msg.byteSize granularity).toNat, none, false⟩ other

/-- It is decided on the answers, and not by trying each address and granularity there is. -/
theorem possible_iff (process : VirtualMemory.State) (outcomes : ImportOutcomes)
    (msg : BufferCore) :
    (outcomes.fd.all (fun fd => fd ∉ process.descriptors) ∧
      outcomes.allocation ≠ some 0 ∧ outcomes.event ≠ some 0 ∧
      outcomes.address.all fun address => outcomes.granularity.all fun granularity =>
        0 < address.toNat ∧ 0 < (mappedSize msg.byteSize granularity).toNat ∧
          ∀ other ∈ process.ranges, Range.Apart
            ⟨address.toNat, (mappedSize msg.byteSize granularity).toNat, none, false⟩ other) ↔
      Possible process outcomes msg := by
  simp only [Option.all_eq_true, decide_eq_true_eq]
  constructor
  · rintro ⟨fd, allocation, event, address⟩
    exact ⟨fd, allocation, event, address⟩
  · intro possible
    exact ⟨possible.fd, possible.allocation, possible.event, possible.address⟩

instance (process : VirtualMemory.State) (outcomes : ImportOutcomes) (msg : BufferCore) :
    Decidable (Possible process outcomes msg) :=
  decidable_of_iff _ (possible_iff process outcomes msg)

/-- An import is admitted with answers a driver can give: a new descriptor, a new address range
that overlaps no other, and handles which are not null. Releases always are. -/
def Admitted (world : World) : Action → Prop
  | .importFrom outcomes msg _ => Possible world.process outcomes msg
  | .release _ _ => True

instance (world : World) : ∀ action, Decidable (Admitted world action)
  | .importFrom outcomes msg _ => inferInstanceAs (Decidable (Possible world.process outcomes msg))
  | .release _ _ => inferInstanceAs (Decidable True)

/-- A process with the needs of imported resources added to its own: one allocation, one mapped
range and one event. -/
def hold (process : VirtualMemory.State) (imported : ImportedResources) : VirtualMemory.State :=
  { process with
    allocations := imported.vmmAllocation :: process.allocations
    ranges := rangeOf imported :: process.ranges
    events := imported.event :: process.events }

/-- The part of an import behind its size goes through, and leaves what it returns. -/
theorem mapAllocation_performs (outcomes : ImportOutcomes) (eventHandle : Vector UInt8 64)
    (context : CudaDeviceContext) (allocation : Nat) (size : UInt64)
    (process : VirtualMemory.State) (named : outcomes.event ≠ some 0)
    (free : ∀ address ∈ outcomes.address, 0 < address.toNat ∧ 0 < size.toNat ∧
      ∀ other ∈ process.ranges, Range.Apart ⟨address.toNat, size.toNat, none, false⟩ other) :
    let mapping := VmmFdMemoryImporter.mapAllocation outcomes eventHandle context allocation size
    run perform { process with allocations := allocation :: process.allocations }
        (mapping.1.map outcomes.performed) =
      some (mapping.2.elim process (hold process)) := by
  obtain ⟨descriptors, allocations, ranges, events⟩ := process
  obtain ⟨fd, _, pushed, _, granularity, address, mapped, accessible, event⟩ := outcomes
  simp only [VmmFdMemoryImporter.mapAllocation]
  cases address with
  | none => simp [run, ImportOutcomes.performed, perform]
  | some address =>
    have reserved : perform ⟨descriptors, allocation :: allocations, ranges, events⟩
        (.reserve size.toNat (some address.toNat)) = some ⟨descriptors, allocation :: allocations,
          ⟨address.toNat, size.toNat, none, false⟩ :: ranges, events⟩ :=
      perform_reserve (free address rfl)
    cases mapped with
    | false =>
      simp only [if_true, List.map_cons, ImportOutcomes.performed, Option.map_some, run, reserved,
        Option.bind_some]
      simp [run, perform]
    | true =>
      simp only [Bool.true_eq_false, if_false]
      cases accessible with
      | false =>
        simp only [if_true, List.map_cons, ImportOutcomes.performed, Option.map_some, run, reserved,
          Option.bind_some]
        simp [run, perform]
      | true =>
        simp only [Bool.true_eq_false, if_false]
        cases event with
        | none =>
          simp only [List.map_cons, ImportOutcomes.performed, Option.map_some, run, reserved,
            Option.bind_some]
          simp [run, perform]
        | some event =>
          simp only [List.map_cons, ImportOutcomes.performed, Option.map_some, run, reserved,
            Option.bind_some]
          simp [run, perform, hold, rangeOf, named]

/-- So does the whole import: no call of it is on something which is not there, and what
it does not return it gives back. -/
theorem importFrom_performs {process : VirtualMemory.State} {outcomes : ImportOutcomes}
    {msg : BufferCore} (possible : Possible process outcomes msg)
    (eventHandle : Vector UInt8 64) :
    let imported := VmmFdMemoryImporter.importFrom outcomes msg eventHandle
    run perform process (outcomes.received msg ++ imported.1.map outcomes.performed) =
      some (imported.2.elim process (hold process)) := by
  have behind := mapAllocation_performs outcomes eventHandle
  obtain ⟨fd, context, pushed, allocation, granularity, address, mapped, accessible, event⟩ :=
    outcomes
  simp only [VmmFdMemoryImporter.importFrom, ImportOutcomes.received]
  split
  · rfl
  cases fd with
  | none => rfl
  | some fd =>
    have received := perform_receive (possible.fd fd rfl)
    simp only [Option.toList_some, List.map_cons, List.map_nil, List.singleton_append, run,
      received, Option.bind_some]
    cases context with
    | none => simp [run, perform, ImportOutcomes.performed]
    | some context =>
      cases pushed with
      | false => simp [run, perform, ImportOutcomes.performed]
      | true =>
        cases allocation with
        | none => simp [run, perform, ImportOutcomes.performed]
        | some allocation =>
          have named : allocation ≠ 0 := fun null => possible.allocation (congrArg some null)
          cases granularity with
          | none => simp [run, perform, ImportOutcomes.performed, named]
          | some granularity =>
            have free := possible.address
            simp only [Option.mem_some_iff, forall_eq'] at free
            have mapping := behind context allocation (mappedSize msg.byteSize granularity) process
              possible.event free
            simp only [Bool.true_eq_false, if_false, List.map_append, run_append]
            rw [show run perform _ _ = some { process with
                allocations := allocation :: process.allocations } by
              simp [run, perform, ImportOutcomes.performed, named]]
            exact mapping

/-- The part of an import behind its size returns what the driver has answered. -/
theorem mapAllocation_returned {outcomes : ImportOutcomes} {eventHandle : Vector UInt8 64}
    {context : CudaDeviceContext} {allocation : Nat} {size : UInt64} {imported : ImportedResources}
    (returned : (VmmFdMemoryImporter.mapAllocation outcomes eventHandle context allocation size).2 =
      some imported) :
    ∃ address ∈ outcomes.address, ∃ event ∈ outcomes.event,
      imported = ⟨address, event, some context, address, allocation, size⟩ := by
  simp only [VmmFdMemoryImporter.mapAllocation] at returned
  split at returned
  · cases returned
  next address reserved =>
    split at returned
    · cases returned
    split at returned
    · cases returned
    split at returned
    · cases returned
    next event opened =>
      exact ⟨address, reserved, event, opened, (Option.some.inj returned).symm⟩

/-- What an import returns consists of the answers it was given. Every one of them was a success. -/
theorem importFrom_returned {outcomes : ImportOutcomes} {msg : BufferCore}
    {eventHandle : Vector UInt8 64} {imported : ImportedResources}
    (returned : (VmmFdMemoryImporter.importFrom outcomes msg eventHandle).2 = some imported) :
    ∃ context, ∃ allocation ∈ outcomes.allocation, ∃ granularity ∈ outcomes.granularity,
      ∃ address ∈ outcomes.address, ∃ event ∈ outcomes.event, imported =
        ⟨address, event, some context, address, allocation,
          mappedSize msg.byteSize granularity⟩ := by
  simp only [VmmFdMemoryImporter.importFrom] at returned
  split at returned
  · cases returned
  split at returned
  · cases returned
  split at returned
  · cases returned
  next context _ =>
    split at returned
    · cases returned
    split at returned
    · cases returned
    next allocation received =>
      split at returned
      · cases returned
      next granularity known =>
        exact ⟨context, allocation, received, granularity, known, mapAllocation_returned returned⟩

/-- What an import returns is complete, and its range overlaps no other one of the process, as the
driver reserves no address twice. -/
theorem importFrom_complete {process : VirtualMemory.State} {outcomes : ImportOutcomes}
    {msg : BufferCore} (possible : Possible process outcomes msg) {eventHandle : Vector UInt8 64}
    {imported : ImportedResources}
    (returned : (VmmFdMemoryImporter.importFrom outcomes msg eventHandle).2 = some imported) :
    Complete imported ∧ ∀ other ∈ process.ranges, (rangeOf imported).Apart other := by
  obtain ⟨context, allocation, received, granularity, known, address, reserved, event, opened,
    rfl⟩ := importFrom_returned returned
  obtain ⟨positive, sized, apart⟩ := possible.address address reserved granularity known
  refine ⟨⟨Option.some_ne_none context, ?_, ?_, ?_, ?_, rfl⟩, apart⟩
  · rintro rfl
    exact absurd positive (by decide)
  · intro null
    rw [show mappedSize msg.byteSize granularity = 0 from null] at sized
    exact absurd sized (by decide)
  · rintro rfl
    exact possible.allocation received
  · rintro rfl
    exact possible.event opened

/-- An import keeps the balance, with what it returns among the resources. Nothing the process had
before changes. -/
theorem Balanced.imported {base process : VirtualMemory.State} {held : List ImportedResources}
    (balanced : Balanced base held process) {imported : ImportedResources}
    (complete : Complete imported)
    (apart : ∀ other ∈ process.ranges, (rangeOf imported).Apart other) :
    Balanced base (imported :: held) (hold process imported) := by
  refine ⟨⟨?_, List.pairwise_cons.mpr ⟨apart, balanced.disjoint.apart⟩⟩, ?_, balanced.descriptors,
    balanced.allocations.cons _, balanced.ranges.cons _, balanced.events.cons _⟩
  · intro range member
    rcases List.mem_cons.mp member with rfl | old
    · exact Nat.pos_of_ne_zero fun sizeless => complete.size (UInt64.toNat_inj.mp sizeless)
    · exact balanced.disjoint.positive range old
  · intro other member
    rcases List.mem_cons.mp member with rfl | old
    · exact complete
    · exact balanced.complete other old

/-- The order of the resources does not matter, for the needs are counted and not listed in an
order. -/
theorem Balanced.permute {base process : VirtualMemory.State} {held others : List ImportedResources}
    (balanced : Balanced base held process) (same : held.Perm others) :
    Balanced base others process :=
  ⟨balanced.disjoint, fun imported member => balanced.complete imported (same.mem_iff.mpr member),
    balanced.descriptors, balanced.allocations.trans ((same.map _).append_right _),
    balanced.ranges.trans ((same.map _).append_right _),
    balanced.events.trans ((same.map _).append_right _)⟩

/-- The release of imported resources takes what they need and nothing else, and each of
its calls is on something which is there. -/
theorem Balanced.released {base process : VirtualMemory.State} {held : List ImportedResources}
    {imported : ImportedResources} (balanced : Balanced base (imported :: held) process) :
    ∃ after, run perform process (releaseImportedResources true imported).1 = some after ∧
      (releaseImportedResources true imported).2 = true ∧ Balanced base held after := by
  obtain ⟨context, address, size, allocation, event, _⟩ :=
    balanced.complete imported List.mem_cons_self
  obtain ⟨descriptors, allocations, ranges, events⟩ := process
  have mapped : rangeOf imported ∈ ranges := balanced.ranges.mem_iff.mpr (by simp)
  have referenced : imported.vmmAllocation ∈ allocations :=
    balanced.allocations.mem_iff.mpr (by simp)
  have opened : imported.event ∈ events := balanced.events.mem_iff.mpr (by simp)
  have found : State.at ⟨descriptors, allocations, ranges, events⟩ imported.vmmAddress.toNat
      imported.allocationSize.toNat = some (rangeOf imported) := balanced.disjoint.at_mem mapped
  let unmapped : Range := ⟨imported.vmmAddress.toNat, imported.allocationSize.toNat, none, false⟩
  have unmaps : perform ⟨descriptors, allocations, ranges, events⟩
      (.unmap imported.vmmAddress.toNat imported.allocationSize.toNat) =
        some ⟨descriptors, allocations, unmapped :: ranges.erase (rangeOf imported), events⟩ := by
    simp only [perform, found]
    rfl
  obtain ⟨device, known⟩ := Option.ne_none_iff_exists'.mp context
  refine ⟨⟨descriptors, allocations.erase imported.vmmAllocation,
    ranges.erase (rangeOf imported), events.erase imported.event⟩, ?_, ?_, ?_⟩
  · simp only [releaseImportedResources, known, Bool.true_eq_false, if_false, address, size,
      allocation, event, ne_eq, not_false_eq_true, and_self, if_true, List.cons_append,
      List.nil_append, run, unmaps, Option.bind_some]
    simp [perform, unmapped, referenced, opened]
  · simp [releaseImportedResources, known]
  have fewer : (ranges.erase (rangeOf imported)).Sublist ranges := List.erase_sublist
  refine ⟨⟨fun range member => balanced.disjoint.positive range (fewer.subset member),
    balanced.disjoint.apart.sublist fewer⟩,
    fun other member => balanced.complete other (List.mem_cons_of_mem _ member),
    balanced.descriptors, ?_, ?_, ?_⟩
  · simpa using balanced.allocations.erase imported.vmmAllocation
  · simpa using balanced.ranges.erase (rangeOf imported)
  · simpa using balanced.events.erase imported.event

/-- Without a context which can be activated nothing is released, and the call says so. -/
theorem releaseImportedResources_inactive {imported : ImportedResources}
    (complete : Complete imported) : releaseImportedResources false imported = ([], false) := by
  obtain ⟨context, known⟩ := Option.ne_none_iff_exists'.mp complete.context
  simp [releaseImportedResources, known]

section Step

variable {base : VirtualMemory.State} {world : World}
  (balanced : Balanced base world.held world.process)

include balanced

/-- An import goes through and keeps the balance; one which returns nothing leaves the process as
it was. -/
theorem Balanced.importStep {outcomes : ImportOutcomes} {msg : BufferCore}
    (possible : Possible world.process outcomes msg) (eventHandle : Vector UInt8 64) :
    ∃ next, step world (.importFrom outcomes msg eventHandle) = some next ∧
      Balanced base next.held next.process ∧
      ((VmmFdMemoryImporter.importFrom outcomes msg eventHandle).2 = none → next = world) := by
  have performs := importFrom_performs possible eventHandle
  simp only [step]
  rw [performs]
  cases returned : (VmmFdMemoryImporter.importFrom outcomes msg eventHandle).2 with
  | none => exact ⟨_, rfl, by simpa [World.held] using balanced, fun _ => by simp⟩
  | some imported =>
    obtain ⟨whole, apart⟩ := importFrom_complete possible returned
    refine ⟨_, rfl, ?_, fun absent => by cases absent⟩
    refine (balanced.imported whole apart).permute ?_
    simpa [World.held] using List.perm_middle.symm

/-- So does a release, which leaves the process as it is where its context cannot be
activated. -/
theorem Balanced.releaseStep {index : Nat} (inside : index < world.live.length) (pushed : Bool) :
    ∃ next, step world (.release index pushed) = some next ∧
      Balanced base next.held next.process ∧
      next.live = world.live.eraseIdx index ∧
      (pushed = false → next.process = world.process) ∧
      (pushed = true → next.abandoned = world.abandoned) := by
  have there : world.live[index]? = some world.live[index] := List.getElem?_eq_getElem inside
  have taken : (world.live[index] :: world.live.eraseIdx index).Perm world.live :=
    List.getElem_cons_eraseIdx_perm inside
  cases pushed with
  | false =>
    have complete := balanced.complete world.live[index]
      (List.mem_append_left _ (List.getElem_mem inside))
    refine ⟨⟨world.process, world.live.eraseIdx index, world.live[index] :: world.abandoned⟩, ?_,
      balanced.permute ?_, rfl, fun _ => rfl, fun active => absurd active (by decide)⟩
    · simp [step, there, releaseImportedResources_inactive complete, run]
    · exact ((taken.append_right _).symm).trans List.perm_middle.symm
  | true =>
    obtain ⟨after, executed, succeeded, less⟩ :=
      (balanced.permute (taken.append_right world.abandoned).symm).released
    refine ⟨⟨after, world.live.eraseIdx index, world.abandoned⟩, ?_, less, rfl,
      fun inactive => absurd inactive (by decide), fun _ => rfl⟩
    simp [step, there, executed, succeeded]

end Step

/-- The balance holds in every reachable world. By induction on the imports and releases. -/
theorem reachable_balanced {base : VirtualMemory.State} {world : World}
    (reached : Reachable step Admitted (Initial base) world) :
    Balanced base world.held world.process := by
  refine Reachable.invariant (?_ : ∀ start, Initial base start →
    Balanced base start.held start.process) ?_ reached
  · rintro _ ⟨disjoint, rfl⟩
    exact ⟨disjoint, by simp [World.held], rfl, .refl _, .refl _, .refl _⟩
  · intro state next action _ balanced allowed moved
    cases action with
    | importFrom outcomes msg eventHandle =>
      obtain ⟨other, goes, kept, -⟩ := balanced.importStep allowed eventHandle
      exact Option.some.inj (goes.symm.trans moved) ▸ kept
    | release index pushed =>
      have inside : index < state.live.length := by
        by_contra outside
        simp [step, List.getElem?_eq_none (Nat.le_of_not_lt outside)] at moved
      obtain ⟨other, goes, kept, -⟩ := balanced.releaseStep inside pushed
      exact Option.some.inj (goes.symm.trans moved) ▸ kept

/-- Answers with which an import returns resources: nothing is refused, and the granularity is one
page. -/
def goodOutcomes (allocation : Nat) (address : UInt64) (event : Nat) : ImportOutcomes :=
  ⟨some 5, some ⟨0⟩, true, some allocation, some 4096, some address, true, true, some event⟩

/-- A message of three kilobytes, which one page of 4096 bytes holds. -/
def smallMessage : BufferCore := ⟨[47], Vector.replicate 64 0, 100, 0, 0, 1, 3000⟩

/-- A process with a descriptor, and with nothing else: no allocation, no range and no event. -/
def bare : VirtualMemory.State := ⟨[3], [], [], []⟩

/-- Two imports of one allocation, a third one which cannot map it, and the release of one of the
resources. -/
def importTwice : List Action :=
  [.importFrom (goodOutcomes 9 8192 1) smallMessage smallMessage.eventHandle,
    .importFrom (goodOutcomes 9 4096 2) smallMessage smallMessage.eventHandle,
    .importFrom { goodOutcomes 9 65536 3 with mapped := false } smallMessage
      smallMessage.eventHandle,
    .release 0 true]

end ImportBalance

end Ros2CudaIpc
