/-!
# Reachable states of a partial step function

A step function answers one label in one state, or refuses it. A state is
reachable when finitely many answered steps lead to it from a start state and
each step was admitted in the state from which it was taken. The admission
relation carries side conditions on a run, such as an operating bound or the
exclusion of one named race; the constantly true relation admits every run.

Executable runs fold the same step function over a list of labels. They produce
reachable states from concrete schedules; they are not a second semantics.
-/

namespace Ros2CudaIpc.Reachability

universe u v
variable {σ : Type u} {α : Type v}

/-- States reached by admitted steps from a start state. The order and the number of the steps are
arbitrary. -/
inductive Reachable (step : σ → α → Option σ) (admitted : σ → α → Prop) (start : σ → Prop) :
    σ → Prop where
  | start (state : σ) (initial : start state) : Reachable step admitted start state
  | step (state next : σ) (label : α) (reached : Reachable step admitted start state)
      (allowed : admitted state label) (moved : step state label = some next) :
      Reachable step admitted start next

variable {step : σ → α → Option σ} {admitted : σ → α → Prop} {start : σ → Prop}

/-- An invariant of the start states which every admitted step keeps holds in
every reachable state. The kept step may use that its source is reachable. -/
theorem Reachable.invariant {holds : σ → Prop}
    (initially : ∀ state, start state → holds state)
    (kept : ∀ state next label, Reachable step admitted start state → holds state →
      admitted state label → step state label = some next → holds next)
    {state : σ} (reached : Reachable step admitted start state) : holds state := by
  induction reached with
  | start state initial => exact initially state initial
  | step state next label reached allowed moved inductionHypothesis =>
    exact kept state next label reached inductionHypothesis allowed moved

/-- Continuing from a reachable state reaches only reachable states. -/
theorem Reachable.trans {middle state : σ}
    (first : Reachable step admitted start middle)
    (second : Reachable step admitted (fun origin => origin = middle) state) :
    Reachable step admitted start state := by
  induction second with
  | start origin same => exact same ▸ first
  | step state next label _ allowed moved inductionHypothesis =>
    exact .step state next label inductionHypothesis allowed moved

/-- Execute a schedule from a state, stopping at the first refused label. -/
def run (step : σ → α → Option σ) : σ → List α → Option σ
  | state, [] => some state
  | state, label :: rest => (step state label).bind (fun next => run step next rest)

/-- Executing one schedule after another is executing the two in a row. -/
theorem run_append (before after : List α) (state : σ) :
    run step state (before ++ after) =
      (run step state before).bind (fun middle => run step middle after) := by
  induction before generalizing state with
  | nil => rfl
  | cons label rest inductionHypothesis =>
    simp only [List.cons_append, run]
    cases step state label with
    | none => rfl
    | some next => exact inductionHypothesis next

/-- A property which every step keeps holds at the end of an executed schedule. -/
theorem run_invariant {holds : σ → Prop}
    (kept : ∀ state next label, holds state → step state label = some next → holds next)
    (labels : List α) (state final : σ) (initially : holds state)
    (executed : run step state labels = some final) : holds final := by
  induction labels generalizing state with
  | nil => exact Option.some.inj executed ▸ initially
  | cons label rest inductionHypothesis =>
    obtain ⟨next, moved, following⟩ := Option.bind_eq_some_iff.mp executed
    exact inductionHypothesis next (kept state next label initially moved) following

/-- A schedule each of whose labels is admitted where it is executed ends in a
reachable state. -/
theorem reachable_executed (labels : List α) (state final : σ)
    (reached : Reachable step admitted start state)
    (allowed : ∀ before label after middle, labels = before ++ label :: after →
      run step state before = some middle → admitted middle label)
    (executed : run step state labels = some final) : Reachable step admitted start final := by
  induction labels generalizing state with
  | nil => exact Option.some.inj executed ▸ reached
  | cons label rest inductionHypothesis =>
    obtain ⟨next, moved, following⟩ := Option.bind_eq_some_iff.mp executed
    have first : admitted state label := allowed [] label rest state rfl rfl
    refine inductionHypothesis next (.step state next label reached first moved) ?_ following
    intro before other after middle split taken
    refine allowed (label :: before) other after middle (by rw [split]; rfl) ?_
    rw [run, moved, Option.bind_some, taken]

/-- The step function which also refuses a label outside the admission, so that its runs are the
admitted ones. -/
def guarded (step : σ → α → Option σ) (admitted : σ → α → Prop)
    [∀ state label, Decidable (admitted state label)] (state : σ) (label : α) : Option σ :=
  if admitted state label then step state label else none

/-- Executing a schedule under the guarded step extends reachability by every
one of its labels. -/
theorem reachable_run [∀ state label, Decidable (admitted state label)]
    (labels : List α) (state final : σ) (reached : Reachable step admitted start state)
    (executed : run (guarded step admitted) state labels = some final) :
    Reachable step admitted start final := by
  induction labels generalizing state with
  | nil =>
    have same : state = final := Option.some.inj executed
    exact same ▸ reached
  | cons label rest inductionHypothesis =>
    simp only [run] at executed
    cases taken : guarded step admitted state label with
    | none => simp [taken] at executed
    | some next =>
      rw [taken, Option.bind_some] at executed
      have allowed : admitted state label := by
        by_cases fits : admitted state label
        · exact fits
        · simp [guarded, fits] at taken
      have moved : step state label = some next := by
        simpa only [guarded, allowed, if_true] using taken
      exact inductionHypothesis next (.step state next label reached allowed moved) executed

end Ros2CudaIpc.Reachability
