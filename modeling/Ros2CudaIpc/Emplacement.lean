/-!
# Association lists in which the first entry of a key wins

An emplacing map never replaces an entry: emplacing a present key leaves the map
as it is, and an absent key is appended. Looking a key up afterwards therefore
answers what it answered before, or the new value for a key that was absent.
Erasing the entry of a key leaves the other keys alone; while no key has two
entries, the erased key is absent, and membership is looking up.
-/

namespace Ros2CudaIpc.Emplacement

universe u v
variable {κ : Type u} {ν : Type v} [DecidableEq κ]

/-- Add an entry behind the others unless its key is present, in which case the entries stay as
they are. -/
def emplace (key : κ) (value : ν) (entries : List (κ × ν)) : List (κ × ν) :=
  if (entries.lookup key).isSome then entries else entries ++ [(key, value)]

/-- The first entry of a key wins: emplacing answers an absent key with the new value and every
other key as before. -/
theorem lookup_emplace (entries : List (κ × ν)) (key other : κ) (value : ν) :
    (emplace key value entries).lookup other =
      (entries.lookup other).or (if key = other then some value else none) := by
  unfold emplace
  split
  · next present =>
    by_cases same : key = other
    · subst same
      obtain ⟨stored, found⟩ := Option.isSome_iff_exists.mp present
      simp [found]
    · simp [same]
  · rw [List.lookup_append]
    congr 1
    simp only [List.lookup_cons, List.lookup_nil]
    by_cases same : key = other
    · simp [same]
    · have different : (other == key) = false := by simpa using fun equal => same equal.symm
      simp [same, different]

/-- After emplacing a key, it is answered by its first entry, which is the new one only when the
key was absent. -/
theorem lookup_emplace_self (entries : List (κ × ν)) (key : κ) (value : ν) :
    (emplace key value entries).lookup key = some ((entries.lookup key).getD value) := by
  rw [lookup_emplace]
  cases entries.lookup key <;> simp

/-- Remove the entry of a key, the first one should there be several. -/
def erase (key : κ) (entries : List (κ × ν)) : List (κ × ν) :=
  entries.eraseP fun entry => entry.1 = key

/-- No key has two entries. It holds of every list built from the empty one by emplacing and
erasing. -/
def UniqueKeys (entries : List (κ × ν)) : Prop := (entries.map Prod.fst).Nodup

/-- Without a second entry for any key, membership of an entry is looking up its key. -/
theorem mem_iff_lookup {entries : List (κ × ν)} (unique : UniqueKeys entries) (key : κ)
    (value : ν) :
    (key, value) ∈ entries ↔ entries.lookup key = some value := by
  induction entries with
  | nil => simp
  | cons entry rest inductionHypothesis =>
    obtain ⟨first, stored⟩ := entry
    simp only [UniqueKeys, List.map_cons, List.nodup_cons] at unique
    rw [List.mem_cons, inductionHypothesis unique.2, List.lookup_cons]
    by_cases same : key = first
    · subst same
      have absent : rest.lookup key ≠ some value := by
        intro found
        rw [← inductionHypothesis unique.2] at found
        exact unique.1 (List.mem_map_of_mem found)
      simp [absent, eq_comm]
    · have different : (key == first) = false := by simpa using same
      simp [same, different]

/-- Looking up behind an erasure answers the erased key with nothing and every other key as
before. -/
theorem lookup_erase {entries : List (κ × ν)} (unique : UniqueKeys entries) (key other : κ) :
    (erase key entries).lookup other = if other = key then none else entries.lookup other := by
  induction entries with
  | nil => simp [erase]
  | cons entry rest inductionHypothesis =>
    obtain ⟨first, stored⟩ := entry
    simp only [UniqueKeys, List.map_cons, List.nodup_cons] at unique
    by_cases same : first = key
    · subst same
      have erased : erase first ((first, stored) :: rest) = rest := by simp [erase]
      rw [erased, List.lookup_cons]
      by_cases asked : other = first
      · subst asked
        simp only [if_true, List.lookup_eq_none_iff]
        intro entry member
        have different : entry.1 ≠ other := fun equal =>
          unique.1 (equal ▸ List.mem_map_of_mem member)
        simpa using Ne.symm different
      · have different : (other == first) = false := by simpa using asked
        simp [asked, different]
    · have kept : erase key ((first, stored) :: rest) = (first, stored) :: erase key rest := by
        simp [erase, same]
      rw [kept, List.lookup_cons, List.lookup_cons, inductionHypothesis unique.2]
      by_cases asked : other = first
      · subst asked
        simp [same]
      · have different : (other == first) = false := by simpa using asked
        simp [different]

/-- Erasing keeps keys unique, as it only takes an entry away. -/
theorem UniqueKeys.erase {entries : List (κ × ν)} (unique : UniqueKeys entries) (key : κ) :
    UniqueKeys (erase key entries) :=
  unique.sublist (List.eraseP_sublist.map Prod.fst)

/-- Emplacing keeps keys unique: it adds an entry only for a key that is absent. -/
theorem UniqueKeys.emplace {entries : List (κ × ν)} (unique : UniqueKeys entries) (key : κ)
    (value : ν) : UniqueKeys (emplace key value entries) := by
  unfold Emplacement.emplace
  split
  · exact unique
  · next absent =>
    simp only [UniqueKeys, List.map_append, List.map_cons, List.map_nil]
    refine List.nodup_append.mpr ⟨unique, by simp, ?_⟩
    intro other member same only equal
    obtain rfl : same = key := by simpa using only
    obtain ⟨entry, held, rfl⟩ := List.mem_map.mp member
    have found := (mem_iff_lookup unique entry.1 entry.2).mp held
    simp [← equal, found] at absent

end Ros2CudaIpc.Emplacement
