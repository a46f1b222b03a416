import Mathlib.Algebra.BigOperators.Group.List.Basic
import Mathlib.Algebra.GroupWithZero.Nat

/-!
# Weights of list entries under single-entry changes

A system that keeps its parties in a list changes one entry, appends one entry
or removes one entry in a step. Splitting the list around that entry turns
every such change into an equation between appended lists, for which totals and
membership are computed entry by entry.

The weight is an arbitrary natural-number measure of an entry. No order of the
entries and no distinctness is assumed.
-/

namespace Ros2CudaIpc.WeightedLists

universe u v
variable {α : Type u}

/-- A found entry splits its list. The same split describes replacing and
removing the entry. -/
theorem focus (entries : List α) (index : Nat) (entry : α) (found : entries[index]? = some entry) :
    ∃ before after, entries = before ++ entry :: after ∧
      entries.eraseIdx index = before ++ after ∧
      ∀ changed, entries.set index changed = before ++ changed :: after := by
  obtain ⟨inside, same⟩ := List.getElem?_eq_some_iff.mp found
  refine ⟨entries.take index, entries.drop (index + 1), ?_, ?_, ?_⟩
  · rw [← same, List.getElem_cons_drop, List.take_append_drop]
  · exact List.eraseIdx_eq_take_drop_succ entries index
  · intro changed
    exact List.set_eq_take_append_cons_drop.trans (if_pos inside)

/-- A found entry stands between the entries before and after its position. -/
theorem split_found (entries : List α) (index : Nat) (entry : α)
    (found : entries[index]? = some entry) :
    entries = entries.take index ++ entry :: entries.drop (index + 1) := by
  obtain ⟨inside, same⟩ := List.getElem?_eq_some_iff.mp found
  rw [← same, List.getElem_cons_drop, List.take_append_drop]

/-- Changing the entry behind some others changes no other one. The position is given as the
number of the entries before it. -/
theorem modify_middle (change : α → α) (before after : List α) (entry : α) :
    (before ++ entry :: after).modify before.length change = before ++ change entry :: after := by
  rw [List.modify_eq_take_cons_drop (by simp)]
  simp

/-- Changing an entry of a front part leaves the rest of the list as it is. -/
theorem modify_front (change : α → α) {front : List α} {index : Nat} (inside : index < front.length)
    (rest : List α) : (front ++ rest).modify index change = front.modify index change ++ rest := by
  have reaches : index < (front ++ rest).length := by
    rw [List.length_append]
    omega
  rw [List.modify_eq_take_cons_drop reaches, List.modify_eq_take_cons_drop inside]
  simp [List.take_append_of_le_length (Nat.le_of_lt inside),
    List.drop_append_of_le_length (Nat.succ_le_of_lt inside), List.getElem_append_left inside]

/-- Changing an entry changes one of its parts alone. The part's change may be none, where the
entry's change leaves the part as it is. -/
theorem map_modify {β : Type v} (part : α → β) (change : α → α) (changed : β → β)
    (same : ∀ entry, part (change entry) = changed (part entry)) (entries : List α) (index : Nat) :
    (entries.modify index change).map part = (entries.map part).modify index changed := by
  refine List.ext_getElem? fun other => ?_
  simp only [List.getElem?_map, List.getElem?_modify]
  cases entries[other]? with
  | none => rfl
  | some entry =>
    by_cases here : index = other
    · simp [here, same]
    · simp [here]

/-- A found entry comes first in a permutation of its list, and so does what
replaces it. -/
theorem set_perm {entries : List α} {index : Nat} {old : α}
    (found : entries[index]? = some old) : ∃ others, entries.Perm (old :: others) ∧
      ∀ changed, (entries.set index changed).Perm (changed :: others) := by
  obtain ⟨before, after, split, -, replaced⟩ := focus entries index old found
  refine ⟨before ++ after, ?_, fun changed => ?_⟩
  · rw [split]
    exact List.perm_middle
  · rw [replaced]
    exact List.perm_middle

/-- Total weight of the entries, each weighed by itself. -/
def total (weight : α → Nat) (entries : List α) : Nat := (entries.map weight).sum

/-- Without entries there is no weight. -/
@[simp] theorem total_nil (weight : α → Nat) : total weight [] = 0 := rfl

/-- The first entry adds its weight to that of the others. -/
@[simp] theorem total_cons (weight : α → Nat) (entry : α) (rest : List α) :
    total weight (entry :: rest) = weight entry + total weight rest := by
  simp [total]

/-- Two lists together weigh what they weigh apart. -/
@[simp] theorem total_append (weight : α → Nat) (left right : List α) :
    total weight (left ++ right) = total weight left + total weight right := by
  simp [total]

/-- The order of entries does not matter for their weight. -/
theorem total_perm (weight : α → Nat) {entries changed : List α} (same : entries.Perm changed) :
    total weight entries = total weight changed :=
  (same.map weight).sum_eq

/-- An entry weighs no more than its list, as no weight is negative. -/
theorem weight_le_total (weight : α → Nat) (entries : List α) (entry : α)
    (member : entry ∈ entries) : weight entry ≤ total weight entries := by
  obtain ⟨before, after, rfl⟩ := List.append_of_mem member
  simp only [total_append, total_cons]
  omega

/-- A list whose entries weigh nothing has no weight. -/
theorem total_eq_zero (weight : α → Nat) (entries : List α)
    (weightless : ∀ entry ∈ entries, weight entry = 0) : total weight entries = 0 := by
  induction entries with
  | nil => rfl
  | cons entry rest inductionHypothesis =>
    rw [total_cons, weightless entry (by simp), inductionHypothesis (fun other member =>
      weightless other (List.mem_cons_of_mem entry member))]

/-- Two weights which agree on the entries give the same total. -/
theorem total_congr (left right : α → Nat) (entries : List α)
    (agree : ∀ entry ∈ entries, left entry = right entry) :
    total left entries = total right entries := by
  induction entries with
  | nil => rfl
  | cons entry rest inductionHypothesis =>
    rw [total_cons, total_cons, agree entry (by simp), inductionHypothesis (fun other member =>
      agree other (List.mem_cons_of_mem entry member))]

/-- A weight below another on every entry has the smaller total. -/
theorem total_mono (lighter heavier : α → Nat) (entries : List α)
    (below : ∀ entry ∈ entries, lighter entry ≤ heavier entry) :
    total lighter entries ≤ total heavier entries := by
  induction entries with
  | nil => exact Nat.le_refl 0
  | cons entry rest inductionHypothesis =>
    have first := below entry (by simp)
    have others := inductionHypothesis (fun other member =>
      below other (List.mem_cons_of_mem entry member))
    simp only [total_cons]
    omega

/-- Totals add entry by entry, so two weights may be totalled apart. -/
theorem total_add (left right : α → Nat) (entries : List α) :
    total (fun entry => left entry + right entry) entries =
      total left entries + total right entries := by
  induction entries with
  | nil => rfl
  | cons entry rest inductionHypothesis =>
    simp only [total_cons, inductionHypothesis]
    omega

/-- The total of an indicator counts the entries it marks. -/
theorem total_toNat (marked : α → Bool) (entries : List α) :
    total (fun entry => (marked entry).toNat) entries = entries.countP marked := by
  induction entries with
  | nil => rfl
  | cons entry rest inductionHypothesis =>
    rw [total_cons, inductionHypothesis, List.countP_cons]
    cases marked entry <;> simp [Nat.add_comm]

/-- Replacing an entry exchanges its weight, written as a sum so that nothing is subtracted. -/
theorem total_set (weight : α → Nat) (entries : List α) (index : Nat) (entry changed : α)
    (found : entries[index]? = some entry) :
    total weight (entries.set index changed) + weight entry =
      total weight entries + weight changed := by
  obtain ⟨before, after, same, _, replaced⟩ := focus entries index entry found
  rw [replaced, same]
  simp only [total_append, total_cons]
  omega

/-- Removing an entry removes its weight, written as a sum so that nothing is subtracted. -/
theorem total_erase (weight : α → Nat) (entries : List α) (index : Nat) (entry : α)
    (found : entries[index]? = some entry) :
    total weight (entries.eraseIdx index) + weight entry = total weight entries := by
  obtain ⟨before, after, same, removed, _⟩ := focus entries index entry found
  rw [removed, same]
  simp only [total_append, total_cons]
  omega

/-- Looking up after a replacement at a found position finds the new entry there and the old ones
elsewhere. -/
theorem getElem?_set_found (entries : List α) (index other : Nat) (entry changed : α)
    (found : entries[index]? = some entry) :
    (entries.set index changed)[other]? =
      if index = other then some changed else entries[other]? := by
  obtain ⟨inside, _⟩ := List.getElem?_eq_some_iff.mp found
  rw [List.getElem?_set]
  split
  · rfl
  · rfl

end Ros2CudaIpc.WeightedLists
