import Mathlib.Data.List.Perm.Basic
import Mathlib.Data.List.Pairwise

/-!
# What a process has of shared memory

A process receives a descriptor of memory which another process has allocated, imports
the allocation behind it, reserves an address range and maps the allocation there. It
gives everything back by itself: a mapping before its range, a reference to an allocation
as often as it was imported, every descriptor and every event.

A call carries the answer to it. One which fails changes nothing. Refused are a call on
what is not there or not in the right condition, and an answer no driver gives: a null
handle, a descriptor which is open already, and a range which overlaps another one.
-/

namespace Ros2CudaIpc.VirtualMemory

/-- A reserved address range, the allocation mapped there, and whether it may be accessed. -/
structure Range where
  address : Nat
  size : Nat
  mapped : Option Nat
  accessible : Bool
deriving DecidableEq, Repr

/-- Ranges without a common address: one ends before the other begins. -/
def Range.Apart (left right : Range) : Prop :=
  left.address + left.size ≤ right.address ∨ right.address + right.size ≤ left.address

instance (left right : Range) : Decidable (left.Apart right) :=
  inferInstanceAs (Decidable (_ ∨ _))

/-- What a process has. An allocation is there as often as it was imported. -/
structure State where
  descriptors : List Nat
  allocations : List Nat
  ranges : List Range
  events : List Nat
deriving DecidableEq, Repr

/-- The calls of a process, with their answers. An answer of `none` is a failure, which changes
nothing. -/
inductive Call where
  | receive (descriptor : Nat)
  | close (descriptor : Nat)
  | importHandle (descriptor : Nat) (answer : Option Nat)
  | query
  | reserve (size : Nat) (answer : Option Nat)
  | map (address size allocation : Nat) (succeeded : Bool)
  | setAccess (address size : Nat) (succeeded : Bool)
  | openEvent (answer : Option Nat)
  | unmap (address size : Nat)
  | free (address size : Nat)
  | release (allocation : Nat)
  | destroyEvent (event : Nat)
deriving DecidableEq, Repr

/-- The range at an address with a size, as a call names it. -/
def State.at (state : State) (address size : Nat) : Option Range :=
  state.ranges.find? fun range => range.address = address ∧ range.size = size

/-- Replace a range by what a call has made of it. -/
def State.replace (state : State) (old changed : Range) : State :=
  { state with ranges := changed :: state.ranges.erase old }

/-- One call. It is refused when it is on what is not there, or when no driver gives its answer. -/
def perform (state : State) : Call → Option State
  | .receive descriptor =>
    if descriptor ∈ state.descriptors then none
    else some { state with descriptors := descriptor :: state.descriptors }
  | .close descriptor =>
    if descriptor ∈ state.descriptors then
      some { state with descriptors := state.descriptors.erase descriptor }
    else none
  | .importHandle descriptor answer =>
    if descriptor ∈ state.descriptors ∧ answer ≠ some 0 then
      some { state with allocations := answer.toList ++ state.allocations }
    else none
  | .query => some state
  | .reserve _ none => some state
  | .reserve size (some address) =>
    let range : Range := ⟨address, size, none, false⟩
    if 0 < address ∧ 0 < size ∧ ∀ other ∈ state.ranges, range.Apart other then
      some { state with ranges := range :: state.ranges }
    else none
  | .map address size allocation succeeded =>
    (state.at address size).bind fun range =>
      if range.mapped = none ∧ allocation ∈ state.allocations then
        some (if succeeded then state.replace range { range with mapped := some allocation }
          else state)
      else none
  | .setAccess address size succeeded =>
    (state.at address size).bind fun range =>
      if range.mapped ≠ none then
        some (if succeeded then state.replace range { range with accessible := true } else state)
      else none
  | .openEvent answer =>
    if answer ≠ some 0 then some { state with events := answer.toList ++ state.events } else none
  | .unmap address size =>
    (state.at address size).bind fun range =>
      if range.mapped ≠ none then
        some (state.replace range ⟨address, size, none, false⟩)
      else none
  | .free address size =>
    (state.at address size).bind fun range =>
      if range.mapped = none then some { state with ranges := state.ranges.erase range } else none
  | .release allocation =>
    if allocation ∈ state.allocations then
      some { state with allocations := state.allocations.erase allocation }
    else none
  | .destroyEvent event =>
    if event ∈ state.events then some { state with events := state.events.erase event } else none

/-- The ranges of a process have bytes, and no two have one in common. -/
structure State.Disjoint (state : State) : Prop where
  positive : ∀ range ∈ state.ranges, 0 < range.size
  apart : state.ranges.Pairwise Range.Apart

variable {state : State}

instance : Std.Symm Range.Apart := ⟨fun _ _ => Or.symm⟩

/-- A descriptor which is not open already can be received. -/
theorem perform_receive {descriptor : Nat} (fresh : descriptor ∉ state.descriptors) :
    perform state (.receive descriptor) =
      some { state with descriptors := descriptor :: state.descriptors } :=
  if_neg fresh

/-- A range which overlaps no other one can be reserved, without a mapping at first. -/
theorem perform_reserve {address size : Nat} (free : 0 < address ∧ 0 < size ∧
    ∀ other ∈ state.ranges, Range.Apart ⟨address, size, none, false⟩ other) :
    perform state (.reserve size (some address)) =
      some { state with ranges := ⟨address, size, none, false⟩ :: state.ranges } :=
  if_pos free

section Front

variable {descriptors allocations events : List Nat} {rest : List Range} {address size : Nat}
  {mapped : Option Nat} {accessible : Bool}

/-- The range in front is found at its address and size. -/
@[simp] theorem at_front :
    (State.mk descriptors allocations (⟨address, size, mapped, accessible⟩ :: rest) events).at
      address size = some ⟨address, size, mapped, accessible⟩ := by
  simp [State.at]

/-- The range in front is replaced in its place. -/
@[simp] theorem replace_front (range changed : Range) :
    (State.mk descriptors allocations (range :: rest) events).replace range changed =
      ⟨descriptors, allocations, changed :: rest, events⟩ := by
  simp [State.replace]

end Front

/-- So is every other range found at its address and size, where no two overlap. -/
theorem State.Disjoint.at_mem (disjoint : state.Disjoint) {range : Range}
    (member : range ∈ state.ranges) : state.at range.address range.size = some range := by
  cases found : state.at range.address range.size with
  | none =>
    have absent := List.find?_eq_none.mp found range member
    simp at absent
  | some other =>
    have same : other.address = range.address ∧ other.size = range.size := by
      simpa using List.find?_some found
    by_contra apart
    have different : other ≠ range := fun equal => apart (congrArg some equal)
    have positive := disjoint.positive range member
    rcases disjoint.apart.forall (List.mem_of_find?_eq_some found) member different with
      before | behind
    · omega
    · omega

end Ros2CudaIpc.VirtualMemory
