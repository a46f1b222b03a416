import Mathlib.Data.List.Range
import Mathlib.Data.List.Perm.Basic

/-!
# Objects and their histories in one event log

Numbered objects pass through the hands of a system, which logs one event for
every change of an object's standing. A ledger is consistent when every number
handed out so far belongs to exactly one standing, and each standing fits the
events logged for its number, newest first.

Moving an object from hand to hand permutes the standings. Changing a standing
replaces one of them and logs one event; it is enough that every history which
fits the old standing fits the new one with that event in front. What holds of
every history of a standing then holds of the log, in every state such changes
lead to.
-/

namespace Ros2CudaIpc.Ledger

universe u v
variable {τ : Type u} {ε : Type v}

/-- The events of one object, newest first, with those of other objects left out. -/
def trace (subject : ε → Nat) (number : Nat) (log : List ε) : List ε :=
  log.filter (fun event => subject event = number)

/-- Each number below the bound has exactly one standing, which fits its events;
no event is about another number. -/
structure Consistent (number : τ → Nat) (subject : ε → Nat) (fits : τ → List ε → Prop)
    (standings : List τ) (log : List ε) (created : Nat) : Prop where
  numbered : (standings.map number).Perm (List.range created)
  fitting : ∀ standing ∈ standings, fits standing (trace subject (number standing) log)
  known : ∀ event ∈ log, subject event < created

variable {number : τ → Nat} {subject : ε → Nat} {fits : τ → List ε → Prop}
  {standings changed rest : List τ} {log : List ε} {created : Nat}

/-- Before the first object there is nothing to log, and no number has a standing. -/
theorem Consistent.empty : Consistent number subject fits [] [] 0 :=
  ⟨List.Perm.refl _, by simp, by simp⟩

/-- Objects which only change hands keep the ledger consistent: the standings are permuted, and
nothing is logged. -/
theorem Consistent.permute (consistent : Consistent number subject fits standings log created)
    (moved : changed.Perm standings) : Consistent number subject fits changed log created := by
  refine ⟨(moved.map number).trans consistent.numbered, ?_, consistent.known⟩
  intro standing member
  exact consistent.fitting standing (moved.mem_iff.mp member)

/-- A new object gets the next number and its first event, which has to fit the standing it begins
with. -/
theorem Consistent.create (consistent : Consistent number subject fits standings log created)
    (standing : τ) {event : ε} (fresh : number standing = created)
    (about : subject event = created) (fitting : fits standing [event])
    (added : changed.Perm (standing :: standings)) :
    Consistent number subject fits changed (event :: log) (created + 1) := by
  have untouched : trace subject created log = [] := by
    apply List.filter_eq_nil_iff.mpr
    intro other member
    have below := consistent.known other member
    simp only [decide_eq_true_eq]
    omega
  refine ⟨?_, ?_, ?_⟩
  · refine (added.map number).trans ?_
    rw [List.map_cons, fresh, List.range_succ]
    exact (consistent.numbered.cons created).trans (List.perm_append_singleton _ _).symm
  · intro other member
    rcases List.mem_cons.mp (added.mem_iff.mp member) with rfl | older
    · rw [fresh, trace, List.filter_cons_of_pos (by simpa using about), ← trace, untouched]
      exact fitting
    · have below : number other < created :=
        List.mem_range.mp (consistent.numbered.mem_iff.mp (List.mem_map_of_mem older))
      have elsewhere : ¬ subject event = number other := by omega
      rw [trace, List.filter_cons_of_neg (by simpa using elsewhere)]
      exact consistent.fitting other older
  · intro other member
    rcases List.mem_cons.mp member with rfl | older
    · omega
    · exact Nat.lt_succ_of_lt (consistent.known other older)

/-- No two standings of a consistent ledger have one number, so an object is in one pair of hands.
-/
theorem Consistent.distinct (consistent : Consistent number subject fits standings log created) :
    (standings.map number).Nodup :=
  consistent.numbered.nodup_iff.mpr List.nodup_range

/-- Replacing one standing and logging events about it. The new standing has to fit whatever the
old one fitted, with these in front. -/
theorem Consistent.extend (consistent : Consistent number subject fits standings log created)
    (old new : τ) {events : List ε} (before : standings.Perm (old :: rest))
    (after : changed.Perm (new :: rest)) (same : number new = number old)
    (about : ∀ event ∈ events, subject event = number old)
    (fitting : ∀ history, fits old history → fits new (events ++ history)) :
    Consistent number subject fits changed (events ++ log) created := by
  have ordered := consistent.permute before.symm
  have apart : number old ∉ rest.map number := (List.nodup_cons.mp ordered.distinct).1
  refine ⟨?_, ?_, ?_⟩
  · refine (after.map number).trans ?_
    rw [List.map_cons, same, ← List.map_cons]
    exact ordered.numbered
  · intro other member
    rcases List.mem_cons.mp (after.mem_iff.mp member) with rfl | kept
    · have own : trace subject (number old) events = events :=
        List.filter_eq_self.mpr fun event logged => by simpa using about event logged
      rw [same, trace, List.filter_append, ← trace, ← trace, own]
      exact fitting _ (ordered.fitting old (List.mem_cons_self ..))
    · have elsewhere : trace subject (number other) events = [] := by
        apply List.filter_eq_nil_iff.mpr
        intro event logged
        simp only [decide_eq_true_eq]
        intro equal
        exact apart (List.mem_map.mpr ⟨other, kept, equal.symm.trans (about event logged)⟩)
      rw [trace, List.filter_append, ← trace, ← trace, elsewhere, List.nil_append]
      exact ordered.fitting other (List.mem_cons_of_mem old kept)
  · intro other member
    rcases List.mem_append.mp member with recent | older
    · rw [about other recent]
      exact List.mem_range.mp (ordered.numbered.mem_iff.mp (List.mem_cons_self ..))
    · exact consistent.known other older

/-- Replacing one standing and logging one event about it, the case of a single step. -/
theorem Consistent.advance (consistent : Consistent number subject fits standings log created)
    (old new : τ) {event : ε} (before : standings.Perm (old :: rest))
    (after : changed.Perm (new :: rest)) (same : number new = number old)
    (about : subject event = number old)
    (fitting : ∀ history, fits old history → fits new (event :: history)) :
    Consistent number subject fits changed (event :: log) created := by
  have one : ∀ other ∈ [event], subject other = number old := by simpa using about
  exact consistent.extend old new before after same one fitting

/-- Every logged event belongs to the history of a standing, so no event is about an object which
is not there. -/
theorem Consistent.history (consistent : Consistent number subject fits standings log created)
    {event : ε} (logged : event ∈ log) : ∃ standing ∈ standings,
      number standing = subject event ∧ event ∈ trace subject (number standing) log ∧
      fits standing (trace subject (number standing) log) := by
  have member : subject event ∈ standings.map number :=
    consistent.numbered.mem_iff.mpr (List.mem_range.mpr (consistent.known event logged))
  obtain ⟨standing, present, same⟩ := List.mem_map.mp member
  refine ⟨standing, present, same, ?_, consistent.fitting standing present⟩
  exact List.mem_filter.mpr ⟨logged, by simpa using same.symm⟩

/-- An object's events occur in the log in the order of its history; events of others may stand
between them. -/
theorem trace_sublist (subject : ε → Nat) (number : Nat) (log : List ε) :
    (trace subject number log).Sublist log :=
  List.filter_sublist

/-- An event occurs as often in the log as in its object's history, as no other object has it. -/
theorem count_trace [DecidableEq ε] (subject : ε → Nat) (event : ε) (log : List ε) :
    (trace subject (subject event) log).count event = log.count event :=
  List.count_filter (by simp)

end Ros2CudaIpc.Ledger
