import Mathlib.Data.List.Count

/-!
# Resources with one owner

A program acquires resources one after another. Each has one owner, through which it is
released. Listing what the owners hold, the accounts are right when every resource was
released as often as it has left its owner: not at all while it is held, and once
afterwards. A second release would be counted, and so would a lost resource.

Resources are numbered in the order in which they were acquired. Whatever the order in
which the program lists its owners, the three operations keep the accounts right.
-/

namespace Ros2CudaIpc.UniqueOwnership

universe u
variable {κ : Type u}

/-- A resource of a kind, and how often it has been released, which should be once in the end. -/
structure Resource (κ : Type u) where
  kind : κ
  releases : Nat
deriving DecidableEq, Repr

/-- One resource more, behind the others and not released yet. -/
def acquire (resources : List (Resource κ)) (kind : κ) : List (Resource κ) :=
  resources ++ [⟨kind, 0⟩]

/-- The resource of a number is released, once more if it was before. -/
def release (resources : List (Resource κ)) (number : Nat) : List (Resource κ) :=
  resources.modify number fun resource => { resource with releases := resource.releases + 1 }

/-- Every resource is held by one owner or was released once, and nobody holds what was never
acquired. -/
structure Accounted (resources : List (Resource κ)) (held : List Nat) : Prop where
  settled : ∀ number resource, resources[number]? = some resource →
    resource.releases + held.count number = 1
  stored : ∀ number ∈ held, number < resources.length

variable {resources : List (Resource κ)} {held changed : List Nat} {number : Nat}

/-- At first there is nothing to account for, and nobody holds anything. -/
theorem Accounted.empty : Accounted ([] : List (Resource κ)) [] := ⟨by simp, by simp⟩

/-- Who holds what does not matter, only that each resource is held once. -/
theorem Accounted.permute (accounted : Accounted resources held) (moved : changed.Perm held) :
    Accounted resources changed := by
  refine ⟨fun number resource found => ?_, fun number member => ?_⟩
  · rw [moved.count_eq]
    exact accounted.settled number resource found
  · exact accounted.stored number (moved.mem_iff.mp member)

/-- An acquired resource has its owner, under the next number. -/
theorem Accounted.acquire (accounted : Accounted resources held) (kind : κ) :
    Accounted (UniqueOwnership.acquire resources kind) (resources.length :: held) := by
  have fresh : held.count resources.length = 0 := by
    apply List.count_eq_zero_of_not_mem
    intro member
    exact Nat.lt_irrefl _ (accounted.stored _ member)
  refine ⟨?_, ?_⟩
  · intro number resource found
    rw [UniqueOwnership.acquire] at found
    by_cases older : number < resources.length
    · rw [List.getElem?_append_left older] at found
      have apart : resources.length ≠ number := by omega
      rw [List.count_cons_of_ne apart]
      exact accounted.settled number resource found
    · rw [List.getElem?_append_right (Nat.le_of_not_lt older), List.getElem?_singleton] at found
      split at found
      · have same : number = resources.length := by omega
        subst same
        obtain rfl := Option.some.inj found
        simp [fresh]
      · simp at found
  · intro number member
    rw [UniqueOwnership.acquire, List.length_append, List.length_singleton]
    rcases List.mem_cons.mp member with rfl | older
    · omega
    · exact Nat.lt_succ_of_lt (accounted.stored number older)

/-- A released resource has left its owner, and is accounted for by its one release. -/
theorem Accounted.release (accounted : Accounted resources (number :: held)) :
    Accounted (UniqueOwnership.release resources number) held := by
  refine ⟨?_, ?_⟩
  · intro other resource found
    rw [UniqueOwnership.release, List.getElem?_modify] at found
    obtain ⟨old, stored, rfl⟩ := Option.map_eq_some_iff.mp found
    have settled := accounted.settled other old stored
    by_cases same : number = other
    · subst same
      rw [List.count_cons_self] at settled
      simp only [if_true]
      omega
    · rw [List.count_cons_of_ne same] at settled
      simp only [same, if_false]
      exact settled
  · intro other member
    rw [UniqueOwnership.release, List.length_modify]
    exact accounted.stored other (List.mem_cons_of_mem _ member)

/-- Without owners every resource has been released, once and not more often. -/
theorem Accounted.released (accounted : Accounted resources []) :
    ∀ resource ∈ resources, resource.releases = 1 := by
  intro resource member
  obtain ⟨number, found⟩ := List.getElem?_of_mem member
  simpa using accounted.settled number resource found

end Ros2CudaIpc.UniqueOwnership
