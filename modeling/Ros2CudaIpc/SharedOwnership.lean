import Mathlib.Data.List.Count

/-!
# Shared ownership through control blocks

A control block counts the references to its object. Copying a reference adds
one; dropping the last reference invokes the object's deleter. The references
themselves are scattered over a program. Listing them all, the counts are right
when each block's count is the number of its references, and the deleter has run
once on the blocks which nothing refers to any more and on no others.

The three operations keep this when the list of references changes with them,
whatever the order in which the program lists its references.
-/

namespace Ros2CudaIpc.SharedOwnership

/-- A use count, and how often the deleter has been invoked, which should be once in the end. -/
structure ControlBlock where
  useCount : Nat
  releases : Nat
deriving DecidableEq, Repr

namespace ControlBlock

/-- The block of a newly owned object, with its one reference. -/
def construct : ControlBlock := ⟨1, 0⟩

/-- One reference more, by a copy of a shared pointer. -/
def copy (block : ControlBlock) : ControlBlock := { block with useCount := block.useCount + 1 }

/-- The block has one reference left, whose drop invokes the deleter. -/
def isLast (block : ControlBlock) : Bool := block.useCount = 1

/-- One reference less; the last one invokes the deleter. -/
def drop (block : ControlBlock) : ControlBlock :=
  ⟨block.useCount - 1, if block.isLast then block.releases + 1 else block.releases⟩

end ControlBlock

/-- The blocks after one more reference to a number, and as they were for every other number. -/
def copyReference (blocks : List ControlBlock) (number : Nat) : List ControlBlock :=
  blocks.modify number ControlBlock.copy

/-- The blocks after one reference less to a number, and as they were for every other number. -/
def dropReference (blocks : List ControlBlock) (number : Nat) : List ControlBlock :=
  blocks.modify number ControlBlock.drop

/-- Dropping a reference to a number invokes the deleter, as it is the last one. -/
def dropsLast (blocks : List ControlBlock) (number : Nat) : Bool :=
  match blocks[number]? with
  | none => false
  | some block => block.isLast

/-- Every count is the number of references, and the deleter has run once on the
unreferenced blocks only. -/
structure Counted (blocks : List ControlBlock) (references : List Nat) : Prop where
  counts : ∀ number block, blocks[number]? = some block →
    block.useCount = references.count number ∧
      block.releases = if references.count number = 0 then 1 else 0
  stored : ∀ number ∈ references, number < blocks.length

variable {blocks : List ControlBlock} {references changed : List Nat} {number : Nat}

/-- Where the references are does not matter, only how many of each number there are. -/
theorem Counted.permute (counted : Counted blocks references) (moved : changed.Perm references) :
    Counted blocks changed := by
  refine ⟨fun number block found => ?_, fun number member => ?_⟩
  · rw [moved.count_eq]
    exact counted.counts number block found
  · exact counted.stored number (moved.mem_iff.mp member)

/-- A new block starts with its one reference, under the next number. -/
theorem Counted.construct (counted : Counted blocks references)
    (added : changed.Perm (blocks.length :: references)) :
    Counted (blocks ++ [ControlBlock.construct]) changed := by
  have fresh : references.count blocks.length = 0 := by
    apply List.count_eq_zero_of_not_mem
    intro member
    exact Nat.lt_irrefl _ (counted.stored _ member)
  refine Counted.permute ⟨?_, ?_⟩ added
  · intro number block found
    by_cases older : number < blocks.length
    · rw [List.getElem?_append_left older] at found
      have apart : blocks.length ≠ number := by omega
      rw [List.count_cons_of_ne apart]
      exact counted.counts number block found
    · rw [List.getElem?_append_right (Nat.le_of_not_lt older), List.getElem?_singleton] at found
      split at found
      · have same : number = blocks.length := by omega
        subst same
        obtain rfl := Option.some.inj found
        simp [fresh, ControlBlock.construct]
      · simp at found
  · intro number member
    rw [List.length_append, List.length_singleton]
    rcases List.mem_cons.mp member with rfl | older
    · omega
    · exact Nat.lt_succ_of_lt (counted.stored number older)

/-- A reference is copied from one which exists, so the block was not released yet. -/
theorem Counted.copy (counted : Counted blocks references) (held : number ∈ references)
    (added : changed.Perm (number :: references)) :
    Counted (copyReference blocks number) changed := by
  refine Counted.permute ⟨?_, ?_⟩ added
  · intro other block found
    rw [copyReference, List.getElem?_modify] at found
    obtain ⟨old, stored, rfl⟩ := Option.map_eq_some_iff.mp found
    obtain ⟨count, releases⟩ := counted.counts other old stored
    by_cases same : number = other
    · subst same
      have positive : 0 < references.count number := List.count_pos_iff.mpr held
      have unreleased : references.count number ≠ 0 := by omega
      simp [ControlBlock.copy, count, releases, unreleased]
    · simp only [same, if_false, List.count_cons_of_ne same]
      exact ⟨count, releases⟩
  · intro other member
    rw [copyReference, List.length_modify]
    rcases List.mem_cons.mp member with rfl | older
    · exact counted.stored _ held
    · exact counted.stored other older

/-- A dropped reference is counted off; the last one invokes the deleter, for the first time. -/
theorem Counted.drop (counted : Counted blocks references)
    (removed : references.Perm (number :: changed)) :
    Counted (dropReference blocks number) changed := by
  have ordered := counted.permute removed.symm
  refine ⟨?_, ?_⟩
  · intro other block found
    rw [dropReference, List.getElem?_modify] at found
    obtain ⟨old, stored, rfl⟩ := Option.map_eq_some_iff.mp found
    obtain ⟨count, releases⟩ := ordered.counts other old stored
    by_cases same : number = other
    · subst same
      rw [List.count_cons_self] at count releases
      simp only [if_true, ControlBlock.drop, ControlBlock.isLast, count, releases]
      by_cases last : changed.count number = 0
      · simp [last]
      · simp [last]
    · rw [List.count_cons_of_ne same] at count releases
      simp only [same, if_false]
      exact ⟨count, releases⟩
  · intro other member
    rw [dropReference, List.length_modify]
    exact ordered.stored other (List.mem_cons_of_mem _ member)

/-- Dropping a reference invokes the deleter exactly when no other is left anywhere. -/
theorem Counted.dropsLast_iff (counted : Counted blocks references)
    (removed : references.Perm (number :: changed)) :
    dropsLast blocks number = true ↔ number ∉ changed := by
  have ordered := counted.permute removed.symm
  have inside := ordered.stored number (List.mem_cons_self ..)
  obtain ⟨count, _⟩ := ordered.counts number _ (List.getElem?_eq_getElem inside)
  rw [List.count_cons_self] at count
  simp [dropsLast, List.getElem?_eq_getElem inside, ControlBlock.isLast, count,
    List.count_eq_zero]

end Ros2CudaIpc.SharedOwnership
