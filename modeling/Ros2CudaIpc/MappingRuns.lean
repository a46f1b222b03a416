import Mathlib.Data.List.Nodup
import Ros2CudaIpc.MapReferences

/-!
# What a call of `map` meets in a run of the metadata cache

A mapping asks the metadata cache step by step, on the mappings which are cached at each
of its steps. An `Environment` lists them, and carries that no block has two of them and
that each belongs to the block it is under. Neither is an assumption on the cache: every
run of it in which objects are found by name gives such an environment for each of its
calls, and `getOrAttach` on the steps listed has the result which the call had in the run.

The steps of other calls, and the removals of `clear`, come in between in any order. They
are seen in the mappings of the next step only.
-/

namespace Ros2CudaIpc.MapReferences

open BufferMetadataCache Emplacement Reachability

/-- The answers a step asks for. The attach function answers the attach step alone. -/
def asked (call : GetCall) (answers : Answers) : Answers :=
  { answers with attached := if call.pc = .attach then answers.attached else .ok none }

/-- The other answers make no difference to the step: it reads those which `asked` keeps. -/
theorem step_asked (call : GetCall) (answers : Answers) (mappings : Mappings) :
    call.step (asked call answers) mappings = call.step answers mappings := by
  obtain ⟨number, key, expectedUid, pc⟩ := call
  cases pc <;> rfl

/-- The same outcome under another number, which is passed on and asked nowhere. -/
def renumbered (number : Nat) : Outcome GetCall (Except Exception (Option Nat)) →
    Outcome GetCall (Except Exception (Option Nat))
  | .running call => .running { call with number := number }
  | .returned result => .returned result

/-- A call of another number makes the same step, with its own number in what it leaves. -/
theorem step_renumbered (call : GetCall) (number : Nat) (answers : Answers) (mappings : Mappings) :
    (GetCall.step { call with number := number } answers mappings).outcome =
      renumbered number (call.step answers mappings).outcome := by
  obtain ⟨own, key, expectedUid, pc⟩ := call
  cases pc with
  | lookup =>
    simp only [GetCall.step]
    split
    · rfl
    split
    · rfl
    · rfl
  | attach =>
    simp only [GetCall.step]
    split
    · rfl
    · rfl
    · rfl
  | readCandidate candidate =>
    simp only [GetCall.step]
    split
    · rfl
    · rfl
  | insert candidate =>
    have stores (after : Mappings) (events others : List Event) :
        (GetCall.emplaces ⟨number, key, expectedUid, .insert candidate⟩ answers candidate after
          events).outcome =
        renumbered number (GetCall.emplaces ⟨own, key, expectedUid, .insert candidate⟩ answers
          candidate after others).outcome := by
      unfold GetCall.emplaces
      split
      · rfl
      · rfl
    simp only [GetCall.step]
    split
    · exact stores _ _ _
    split
    · rfl
    · exact stores _ _ _

/-- A call keeps its number over each of its steps, by which it is found again in later states. -/
theorem step_number (call : GetCall) (answers : Answers) (mappings : Mappings)
    {following : GetCall} (goes : (call.step answers mappings).outcome = .running following) :
    following.number = call.number := by
  have same := step_renumbered call call.number answers mappings
  rw [goes] at same
  change Outcome.running following = .running { following with number := call.number } at same
  have equal := Outcome.running.inj same
  rw [equal]

/-- So the result of a call does not depend on its number, and one numbered zero may stand for it.
-/
theorem getOrAttach_renumbered (call : GetCall) (number : Nat)
    (lookups : List (Answers × Mappings)) :
    getOrAttach { call with number := number } lookups = getOrAttach call lookups := by
  induction lookups generalizing call with
  | nil => rfl
  | cons lookup rest inductionHypothesis =>
    obtain ⟨answers, mappings⟩ := lookup
    simp only [getOrAttach, step_renumbered]
    cases (call.step answers mappings).outcome with
    | running following => exact inductionHypothesis following
    | returned result => rfl

/-- The steps of the call of a number in a run: what each asks for and what is cached
then. -/
def lookupsOf (number : Nat) : BufferMetadataCache.State → List Action →
    List (Answers × Mappings)
  | _, [] => []
  | state, action :: rest =>
    let later := match step state action with
      | none => []
      | some next => lookupsOf number next rest
    match action with
    | .advance index answers =>
      match state.calls[index]? with
      | none => later
      | some call =>
        if call.number = number then (asked call answers, state.mappings) :: later else later
    | .getOrAttach _ _ | .clear => later

variable {state next final : BufferMetadataCache.State} {blockOf : Nat → Key} {number : Nat}
  {key : Key} {call : GetCall}

/-- The call of a number, if there is one yet, is for a block. -/
structure Asks (number : Nat) (key : Key) (state : BufferMetadataCache.State) : Prop where
  created : number < state.created
  block : ∀ call ∈ state.calls, call.number = number → call.key = key

/-- It is for the same block behind every action. New calls have other numbers. -/
theorem Asks.step (asks : Asks number key state) {action : Action}
    (moved : BufferMetadataCache.step state action = some next) : Asks number key next := by
  cases action with
  | getOrAttach block expectedUid =>
    obtain rfl := Option.some.inj moved
    refine ⟨Nat.lt_succ_of_lt asks.created, fun call member same => ?_⟩
    rcases List.mem_append.mp member with older | added
    · exact asks.block call older same
    · obtain rfl := List.mem_singleton.mp added
      exact absurd same (Nat.ne_of_gt asks.created)
  | clear =>
    obtain rfl := Option.some.inj moved
    exact ⟨asks.created, asks.block⟩
  | advance index answers =>
    simp only [BufferMetadataCache.step] at moved
    split at moved
    · cases moved
    next running found =>
    obtain rfl := Option.some.inj moved
    refine ⟨by simpa using asks.created, fun call member same => ?_⟩
    unfold State.deliver at member
    cases outcome : (running.step answers state.mappings).outcome with
    | returned result =>
      rw [outcome] at member
      exact asks.block call (List.mem_of_mem_eraseIdx member) same
    | running following =>
      rw [outcome] at member
      rcases List.mem_or_eq_of_mem_set member with older | rfl
      · exact asks.block call older same
      · obtain ⟨sameKey, -, -⟩ := running.step_following answers state.mappings outcome
        have sameNumber := step_number running answers state.mappings outcome
        exact sameKey.trans
          (asks.block running (List.mem_of_getElem? found) (sameNumber ▸ same))

/-- What a call meets along a run in which objects are found by name: no block has two
mappings, each is of the block it is under, and the attached object is of the call's. -/
theorem lookupsOf_meet (actions : List Action)
    (reached : Reachable step (Named blockOf) (fun start => start = initial) state)
    (asks : Asks number key state)
    (named : ∀ before action after middle, actions = before ++ action :: after →
      run step state before = some middle → Named blockOf middle action) :
    ∀ lookup ∈ lookupsOf number state actions, UniqueKeys lookup.2 ∧
      (∀ other mapping, lookup.2.lookup other = some mapping → blockOf mapping = other) ∧
      ∀ candidate, lookup.1.attached = .ok (some candidate) → blockOf candidate = key := by
  induction actions generalizing state with
  | nil => simp [lookupsOf]
  | cons action rest inductionHypothesis =>
    have admitted : Named blockOf state action := named [] action rest state rfl rfl
    have later : ∀ lookup ∈ (match step state action with
        | none => []
        | some next => lookupsOf number next rest), UniqueKeys lookup.2 ∧
        (∀ other mapping, lookup.2.lookup other = some mapping → blockOf mapping = other) ∧
        ∀ candidate, lookup.1.attached = .ok (some candidate) → blockOf candidate = key := by
      cases moved : step state action with
      | none => simp
      | some next =>
        refine inductionHypothesis (.step state next action reached admitted moved)
          (asks.step moved) fun before other after middle split taken => ?_
        refine named (action :: before) other after middle (by rw [split]; rfl) ?_
        rw [run, moved, Option.bind_some, taken]
    cases action with
    | getOrAttach block expectedUid => exact later
    | clear => exact later
    | advance index answers =>
      simp only [lookupsOf]
      cases found : state.calls[index]? with
      | none => exact later
      | some call =>
        simp only
        split
        · next own =>
          intro lookup member
          rcases List.mem_cons.mp member with rfl | following
          · obtain ⟨unique, cached⟩ := reachable_named reached
            refine ⟨unique, cached, fun candidate attached => ?_⟩
            by_cases attaching : call.pc = .attach
            · simp only [asked, attaching, if_true] at attached
              exact (admitted call candidate found attaching attached).trans
                (asks.block call (List.mem_of_getElem? found) own)
            · simp [asked, attaching] at attached
          · exact later lookup following
        · exact later

/-- Two calls of a state with one number are the same call, running or ended. -/
theorem standing_unique (consistent : state.Consistent) {first second : Standing}
    (one : first ∈ state.standings) (other : second ∈ state.standings)
    (same : first.number = second.number) : first = second := by
  have distinct : (state.standings.map Standing.number).Nodup :=
    consistent.ledger.numbered.nodup_iff.mpr (List.nodup_range)
  exact List.inj_on_of_nodup_map distinct one other same

/-- A call which has returned stays as it is, with its result, in every later state. -/
theorem finished_stays {finished : Finished} {action : Action}
    (moved : step state action = some next)
    (member : finished ∈ state.finished) : finished ∈ next.finished := by
  cases action with
  | getOrAttach block expectedUid =>
    obtain rfl := Option.some.inj moved
    exact member
  | clear =>
    obtain rfl := Option.some.inj moved
    exact member
  | advance index answers =>
    simp only [step] at moved
    split at moved
    · cases moved
    obtain rfl := Option.some.inj moved
    unfold State.deliver
    split
    · exact member
    · exact List.mem_cons_of_mem _ member

/-- A running call of another number is running behind the step of a call. -/
theorem running_stays {index : Nat} {other : GetCall}
    (found : state.calls[index]? = some other) (running : call ∈ state.calls)
    (apart : other.number ≠ call.number) (progress : Progress) :
    call ∈ (state.deliver index other progress).calls := by
  obtain ⟨rest, before, behind⟩ := deliver_standings found progress
  have stood : Standing.running call ∈ state.standings :=
    List.mem_append_left _ (List.mem_map_of_mem running)
  have kept : Standing.running call ∈ rest := by
    rcases List.mem_cons.mp (before.mem_iff.mp stood) with same | kept
    · exact absurd (congrArg Standing.number same).symm apart
    · exact kept
  have stands := behind.mem_iff.mpr (List.mem_cons_of_mem _ kept)
  rcases List.mem_append.mp stands with calls | finished
  · obtain ⟨same, member, equal⟩ := List.mem_map.mp calls
    exact Standing.running.inj equal ▸ member
  · obtain ⟨_, _, equal⟩ := List.mem_map.mp finished
    cases equal

/-- The result which a running call comes to in a run is that of `getOrAttach` on the steps it
makes there.

Proof: by induction on the actions. The step of another call leaves this one running as it is,
and its own step is the next which `getOrAttach` takes. -/
theorem getOrAttach_run (actions : List Action) (consistent : state.Consistent)
    (running : call ∈ state.calls) (executed : run step state actions = some final)
    {finished : Finished} (ended : finished ∈ final.finished)
    (own : finished.number = call.number) :
    getOrAttach call (lookupsOf call.number state actions) = some finished.result := by
  induction actions generalizing state call with
  | nil =>
    obtain rfl := Option.some.inj executed
    have same := standing_unique consistent
      (List.mem_append_left _ (List.mem_map_of_mem running))
      (List.mem_append_right _ (List.mem_map_of_mem ended)) own.symm
    cases same
  | cons action rest inductionHypothesis =>
    obtain ⟨next, moved, following⟩ := Option.bind_eq_some_iff.mp executed
    have consistentNext := step_consistent state next action consistent moved
    cases action with
    | getOrAttach block expectedUid =>
      simp only [lookupsOf, moved]
      obtain rfl := Option.some.inj moved
      exact inductionHypothesis consistentNext (List.mem_append_left _ running) following own
    | clear =>
      simp only [lookupsOf, moved]
      obtain rfl := Option.some.inj moved
      exact inductionHypothesis consistentNext running following own
    | advance index answers =>
      simp only [lookupsOf, moved]
      have delivered := moved
      simp only [step] at delivered
      cases found : state.calls[index]? with
      | none => simp [found] at delivered
      | some other =>
        simp only [found, Option.some.injEq] at delivered
        simp only
        split
        · next same =>
          have equal := standing_unique consistent
            (List.mem_append_left _ (List.mem_map_of_mem (List.mem_of_getElem? found)))
            (List.mem_append_left _ (List.mem_map_of_mem running)) same
          obtain rfl := Standing.running.inj equal
          simp only [getOrAttach, step_asked]
          subst delivered
          cases outcome : (other.step answers state.mappings).outcome with
          | running goes =>
            have number := step_number other answers state.mappings outcome
            have member : goes ∈ (state.deliver index other
                (other.step answers state.mappings)).calls := by
              unfold State.deliver
              rw [outcome]
              exact List.mem_set (List.getElem?_eq_some_iff.mp found).1 goes
            simp only
            rw [← number]
            exact inductionHypothesis consistentNext member following (own.trans number.symm)
          | returned result =>
            simp only
            let returned : Finished := ⟨other.number, other.key, other.expectedUid, result⟩
            have stays : returned ∈ final.finished := by
              refine run_invariant (fun earlier _ _ (member : returned ∈ earlier.finished) taken =>
                finished_stays taken member) rest _ final ?_ following
              unfold State.deliver
              rw [outcome]
              exact List.mem_cons_self
            have consistentFinal := run_invariant (fun earlier later action consistent taken =>
              step_consistent earlier later action consistent taken) rest _ final consistentNext
              following
            have equal := standing_unique consistentFinal
              (List.mem_append_right _ (List.mem_map_of_mem stays))
              (List.mem_append_right _ (List.mem_map_of_mem ended)) own.symm
            rw [← Standing.ended.inj equal]
        · next apart =>
          subst delivered
          exact inductionHypothesis consistentNext (running_stays found running apart _)
            following own

/-- The same environment, except that the metadata cache is met like this: on these mappings,
which keep one mapping a block. -/
def Environment.meeting {msg : BufferCore} (environment : Environment msg) (blockOf : Nat → Key)
    (lookups : List (Answers × Mappings))
    (meets : ∀ lookup ∈ lookups, UniqueKeys lookup.2 ∧
      (∀ other mapping, lookup.2.lookup other = some mapping → blockOf mapping = other) ∧
      ∀ candidate, lookup.1.attached = .ok (some candidate) → blockOf candidate = blockKey msg) :
    Environment msg :=
  { environment with
    blockOf := blockOf
    lookups := lookups
    unique := fun lookup member => (meets lookup member).1
    cached := fun lookup member => (meets lookup member).2.1
    attached := fun lookup member => (meets lookup member).2.2 }

/-- A call for a message's block which is made in a reachable state of the metadata cache
meets an environment, whatever the run goes on with and whatever else the mapping meets.
If the call comes to a result there, that is the result of the mapping's own
`getOrAttach`.

Objects are found by name: the one which an attach step is answered is of the block the
call asks for. Nothing is assumed about uids, other calls or `clear`. -/
theorem Environment.ofRun {msg : BufferCore} (environment : Environment msg)
    (reached : Reachable step (Named blockOf) (fun start => start = initial) state)
    (actions : List Action)
    (started : step state (.getOrAttach (blockKey msg) msg.uid.toNat) = some next)
    (named : ∀ before action after middle, actions = before ++ action :: after →
      run step next before = some middle → Named blockOf middle action)
    (executed : run step next actions = some final) :
    ∃ meets, let met := environment.meeting blockOf (lookupsOf state.created next actions) meets
      ∀ finished ∈ final.finished, finished.number = state.created →
        getOrAttach ⟨0, blockKey msg, msg.uid.toNat, .lookup⟩ met.lookups =
          some finished.result := by
  have consistent := reachable_consistent reached
  have reachedNext : Reachable step (Named blockOf) (fun start => start = initial) next :=
    .step state next (.getOrAttach (blockKey msg) msg.uid.toNat) reached trivial started
  have created : next = { state with
      calls := state.calls ++ [⟨state.created, blockKey msg, msg.uid.toNat, .lookup⟩]
      created := state.created + 1
      log := .called state.created (blockKey msg) msg.uid.toNat :: state.log } :=
    (Option.some.inj started).symm
  have asks : Asks state.created (blockKey msg) next := by
    subst created
    refine ⟨Nat.lt_succ_self _, fun call member same => ?_⟩
    rcases List.mem_append.mp member with older | added
    · have stood : Standing.running call ∈ state.standings :=
        List.mem_append_left _ (List.mem_map_of_mem older)
      have known : Standing.number (.running call) ∈ List.range state.created :=
        consistent.ledger.numbered.mem_iff.mp (List.mem_map_of_mem stood)
      exact absurd same (Nat.ne_of_lt (List.mem_range.mp known))
    · obtain rfl := List.mem_singleton.mp added
      rfl
  have running : (⟨state.created, blockKey msg, msg.uid.toNat, .lookup⟩ : GetCall) ∈
      next.calls := by
    subst created
    exact List.mem_append_right _ (List.mem_singleton.mpr rfl)
  refine ⟨lookupsOf_meet actions reachedNext asks named, fun finished member own => ?_⟩
  exact (getOrAttach_renumbered ⟨state.created, blockKey msg, msg.uid.toNat, .lookup⟩ 0 _).trans
    (getOrAttach_run actions (reachable_consistent reachedNext) running executed member own)

end Ros2CudaIpc.MapReferences
