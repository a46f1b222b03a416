import Ros2CudaIpc.MetadataCacheSafety

/-!
# Calls for one block which agree on its mapping

While the calls for a block expect one uid, every object they ask keeps its uid and
nothing clears the cache, a mapping stored for the block is found equal by every later
call. It stays cached, and it is what each successful call returned. Nothing is
asked of the calls for other blocks or of the objects they ask.
-/

namespace Ros2CudaIpc.BufferMetadataCache

open Emplacement Reachability WeightedLists

/-- The calls for a block expect one uid, the objects they ask have fixed uids, and
nothing clears the cache. -/
def Steady (key : Key) (expectedUid : Nat) (uidOf : Nat → Option Nat) (state : State) :
    Action → Prop
  | .getOrAttach block uid => block = key → uid = expectedUid
  | .advance index answers => ∀ call mapping, state.calls[index]? = some call → call.key = key →
      call.asks state.mappings = some mapping → answers.uid = uidOf mapping
  | .clear => False

/-- What steady runs keep for a block: its calls expect one uid, and the cached mapping is the one
every successful call has returned. -/
structure Agreed (key : Key) (expectedUid : Nat) (uidOf : Nat → Option Nat) (state : State) :
    Prop where
  calls : ∀ call ∈ state.calls, call.key = key → call.expectedUid = expectedUid ∧
    ∀ candidate, call.pc = .insert candidate → uidOf candidate = some expectedUid
  cached : ∀ mapping, state.mappings.lookup key = some mapping →
    uidOf mapping = some expectedUid
  returned : ∀ finished ∈ state.finished, finished.key = key → ∀ mapping,
    finished.result = .ok (some mapping) → state.mappings.lookup key = some mapping

variable {key : Key} {expectedUid : Nat} {uidOf : Nat → Option Nat} {state : State}

/-- The step of a call keeps a cached mapping of the block, since it finds the mapping's uid
equal. -/
theorem Agreed.stays (agreed : Agreed key expectedUid uidOf state)
    (consistent : state.Consistent) {index : Nat} {answers : Answers}
    (steady : Steady key expectedUid uidOf state (.advance index answers)) {call : GetCall}
    (running : state.calls[index]? = some call) {mapping : Nat}
    (held : state.mappings.lookup key = some mapping) :
    (call.step answers state.mappings).mappings.lookup key = some mapping := by
  by_contra lost
  obtain ⟨same, asked, other, -⟩ :=
    (call.step_changes answers state.mappings).evicts consistent.unique held lost
  have expects := (agreed.calls call (List.mem_of_getElem? running) same).1
  have read := steady call mapping running same asked
  exact other (by rw [read, agreed.cached mapping held, expects])

/-- The mapping of the block behind the step of a call has the uid. -/
theorem Agreed.cached_step (agreed : Agreed key expectedUid uidOf state)
    (consistent : state.Consistent) {index : Nat} {call : GetCall}
    (running : state.calls[index]? = some call) (answers : Answers) {mapping : Nat}
    (found : (call.step answers state.mappings).mappings.lookup key = some mapping) :
    uidOf mapping = some expectedUid := by
  obtain held | ⟨same, position⟩ :=
    (call.step_changes answers state.mappings).lookup consistent.unique found
  · exact agreed.cached mapping held
  · exact (agreed.calls call (List.mem_of_getElem? running) same.symm).2 mapping position

/-- The call goes on with the uid it expects, and with a candidate which has it. -/
theorem Agreed.following (agreed : Agreed key expectedUid uidOf state) {index : Nat}
    {answers : Answers} (steady : Steady key expectedUid uidOf state (.advance index answers))
    {call following : GetCall} (running : state.calls[index]? = some call)
    (goes : (call.step answers state.mappings).outcome = .running following)
    (block : following.key = key) : following.expectedUid = expectedUid ∧
      ∀ candidate, following.pc = .insert candidate → uidOf candidate = some expectedUid := by
  obtain ⟨sameKey, sameUid, comes⟩ := call.step_following answers state.mappings goes
  have same : call.key = key := sameKey.symm.trans block
  have expects := (agreed.calls call (List.mem_of_getElem? running) same).1
  refine ⟨sameUid.trans expects, fun candidate position => ?_⟩
  simp only [GetCall.ComesFrom, position] at comes
  obtain ⟨reading, read⟩ := comes
  have asked : call.asks state.mappings = some candidate := by simp only [GetCall.asks, reading]
  rw [← steady call candidate running same asked, read, expects]

/-- The step of a call keeps the agreement. A call for another block changes nothing of it. -/
theorem Agreed.advance (agreed : Agreed key expectedUid uidOf state)
    (consistent : state.Consistent) {index : Nat} {answers : Answers}
    (steady : Steady key expectedUid uidOf state (.advance index answers)) {call : GetCall}
    (running : state.calls[index]? = some call) :
    Agreed key expectedUid uidOf
      (state.deliver index call (call.step answers state.mappings)) := by
  have older (finished : Finished) (member : finished ∈ state.finished)
      (block : finished.key = key) (mapping : Nat)
      (result : finished.result = .ok (some mapping)) :=
    agreed.stays consistent steady running (agreed.returned finished member block mapping result)
  refine ⟨?_, ?_, ?_⟩
  · intro other member block
    unfold State.deliver at member
    cases outcome : (call.step answers state.mappings).outcome with
    | running following =>
      rw [outcome] at member
      cases List.mem_or_eq_of_mem_set member with
      | inl kept => exact agreed.calls other kept block
      | inr same =>
        subst same
        exact agreed.following steady running outcome block
    | returned result =>
      rw [outcome] at member
      exact agreed.calls other (List.mem_of_mem_eraseIdx member) block
  · intro mapping found
    rw [deliver_mappings] at found
    exact agreed.cached_step consistent running answers found
  · intro finished member block mapping result
    rw [deliver_mappings]
    unfold State.deliver at member
    cases outcome : (call.step answers state.mappings).outcome with
    | running following =>
      rw [outcome] at member
      exact older finished member block mapping result
    | returned own =>
      rw [outcome] at member
      cases List.mem_cons.mp member with
      | inr earlier => exact older finished earlier block mapping result
      | inl same =>
        subst same
        obtain rfl : own = .ok (some mapping) := result
        obtain rfl : call.key = key := block
        exact (call.step_result answers consistent.unique outcome).2

/-- Every reachable state of a steady run agrees. By induction on the run, with the calls'
histories beside it. -/
theorem reachable_agreed
    (reached : Reachable step (Steady key expectedUid uidOf) (fun start => start = initial) state) :
    Agreed key expectedUid uidOf state := by
  refine reached.invariant ?_ ?_
  · rintro start rfl
    exact ⟨by simp [initial], by simp [initial], by simp [initial]⟩
  · intro state next action earlier agreed steady moved
    cases action with
    | getOrAttach block uid =>
      obtain rfl := Option.some.inj moved
      refine ⟨?_, agreed.cached, agreed.returned⟩
      intro call member same
      simp only [List.mem_append, List.mem_singleton] at member
      cases member with
      | inl older => exact agreed.calls call older same
      | inr added =>
        subst added
        exact ⟨steady same, by simp⟩
    | advance index answers =>
      simp only [step] at moved
      split at moved
      · simp at moved
      · next call running =>
        obtain rfl := Option.some.inj moved
        exact agreed.advance (reachable_consistent earlier) steady running
    | clear => exact steady.elim

/-- Over every interleaving of lookups and clears, with any attach function and any
change of the stored uids, the metadata cache is safe; and the successful calls for
a block agree on its mapping while they expect one uid, the uids stay as they are and
nothing clears the cache. -/
theorem metadataCache_safe :
    (∀ state, Reachable step (fun _ _ => True) (fun start => start = initial) state → Safe state) ∧
    (∀ key expectedUid uidOf state,
      Reachable step (Steady key expectedUid uidOf) (fun start => start = initial) state →
      ∀ first ∈ state.finished, ∀ second ∈ state.finished, first.key = key → second.key = key →
        ∀ one other, first.result = .ok (some one) → second.result = .ok (some other) →
          one = other) := by
  refine ⟨fun state reached => (reachable_consistent reached).safe, ?_⟩
  intro key expectedUid uidOf state reached first early second late firstKey secondKey one other
    firstResult secondResult
  have agreed := reachable_agreed reached
  have stored := agreed.returned first early firstKey one firstResult
  have again := agreed.returned second late secondKey other secondResult
  exact Option.some.inj (stored.symm.trans again)

/-- Two calls for one block which both attach before either stores, so that the second finds the
first one's mapping. -/
def racingCalls : List Action :=
  let answers (candidate : Nat) : Answers := ⟨some 5, .ok (some candidate), true⟩
  [.getOrAttach ⟨1, 2⟩ 5, .getOrAttach ⟨1, 2⟩ 5, .advance 0 (answers 7), .advance 1 (answers 8),
    .advance 0 (answers 7), .advance 1 (answers 8), .advance 0 (answers 7), .advance 1 (answers 8),
    .advance 0 (answers 7), .advance 0 (answers 8)]

/-- The second call finds what the first has stored, and drops its own candidate. Both return
one mapping, as every two successful calls of such a run do: both expect the uid which both
objects have. -/
theorem metadataCache_safe_raced : ∃ state, run step initial racingCalls = some state ∧
    state.finished.map Finished.result = [.ok (some 7), .ok (some 7)] ∧ Safe state ∧
    ∀ first ∈ state.finished, ∀ second ∈ state.finished,
      first.key = ⟨1, 2⟩ → second.key = ⟨1, 2⟩ → ∀ one other,
        first.result = .ok (some one) → second.result = .ok (some other) → one = other := by
  have steady : ∀ middle, ∀ label ∈ racingCalls,
      Steady ⟨1, 2⟩ 5 (fun _ => some 5) middle label := by
    intro middle label member
    simp only [racingCalls, List.mem_cons, List.not_mem_nil, or_false] at member
    rcases member with rfl | rfl | rfl | rfl | rfl | rfl | rfl | rfl | rfl | rfl
    all_goals simp [Steady]
  refine ⟨_, rfl, rfl, metadataCache_safe.1 _ (reachable_executed racingCalls initial _
    (.start _ rfl) (fun _ _ _ _ _ _ => trivial) rfl), ?_⟩
  refine metadataCache_safe.2 ⟨1, 2⟩ 5 (fun _ => some 5) _ (reachable_executed racingCalls initial _
    (.start _ rfl) (fun before label after middle split _ => ?_) rfl)
  exact steady middle label (by rw [split]; simp)

end Ros2CudaIpc.BufferMetadataCache
