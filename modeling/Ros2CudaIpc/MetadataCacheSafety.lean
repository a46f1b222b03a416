import Ros2CudaIpc.BufferMetadataCache
import Ros2CudaIpc.Ledger
import Ros2CudaIpc.WeightedLists

/-!
# What the metadata cache guarantees

The history of a call determines what it may return. Ahead of its attach a call has
read nothing or evicted the one cached mapping whose uid it found different; a candidate it
stores has been read equal to the expected uid before. Over all
interleavings every returned mapping was therefore attached for the block and read
equal to the expected uid by the returning call itself.

While the calls for a block expect one uid, the uids of the objects stay as they
are and nothing clears the cache, the first stored mapping is never found
different: it stays, and every later call returns it.
-/

namespace Ros2CudaIpc.BufferMetadataCache

open Emplacement Ledger Reachability WeightedLists

/-- The history of a call ahead of its attach: the block was absent, or the one cached mapping was
read with another uid and evicted. -/
inductive Sought (number : Nat) (key : Key) (expectedUid : Nat) : List Event → Prop where
  | absent : Sought number key expectedUid [.called number key expectedUid]
  | evicted (mapping : Nat) (uid : Option Nat) (other : uid ≠ some expectedUid) :
      Sought number key expectedUid [.evicted number key mapping, .readCached number mapping uid,
        .called number key expectedUid]

/-- The history of a call which has read its candidate equal to the expected uid, up
to the end of its second critical section; an entry found different is evicted. -/
inductive Validated (number : Nat) (key : Key) (expectedUid candidate : Nat) :
    List Event → Prop where
  | read (before : List Event) (sought : Sought number key expectedUid before) :
      Validated number key expectedUid candidate
        (.readCandidate number candidate (some expectedUid) ::
          .attached number key candidate :: before)
  | evicted (before : List Event) (sought : Sought number key expectedUid before)
      (mapping : Nat) (uid : Option Nat) (other : uid ≠ some expectedUid) :
      Validated number key expectedUid candidate
        (.evicted number key mapping :: .readCached number mapping uid ::
          .readCandidate number candidate (some expectedUid) ::
          .attached number key candidate :: before)

/-- The history of a running call at its position, the latest event first. -/
def GetCall.Fits (call : GetCall) (history : List Event) : Prop :=
  match call.pc with
  | .lookup => history = [.called call.number call.key call.expectedUid]
  | .attach => Sought call.number call.key call.expectedUid history
  | .readCandidate candidate => ∃ before, Sought call.number call.key call.expectedUid before ∧
      history = .attached call.number call.key candidate :: before
  | .insert candidate => ∃ before, Sought call.number call.key call.expectedUid before ∧
      history = .readCandidate call.number candidate (some call.expectedUid) ::
        .attached call.number call.key candidate :: before

/-- The history of a call which has ended with a result. Each constructor is one way through the
call. -/
inductive Ended (number : Nat) (key : Key) (expectedUid : Nat) :
    Except Exception (Option Nat) → List Event → Prop where
  | hit (mapping : Nat) :
      Ended number key expectedUid (.ok (some mapping))
        [.readCached number mapping (some expectedUid), .called number key expectedUid]
  | threw (exception : Exception) (before : List Event)
      (sought : Sought number key expectedUid before) :
      Ended number key expectedUid (.error exception) before
  | failed (before : List Event) (sought : Sought number key expectedUid before) :
      Ended number key expectedUid (.ok none) (.attachFailed number :: before)
  | mismatched (candidate : Nat) (uid : Option Nat) (other : uid ≠ some expectedUid)
      (before : List Event) (sought : Sought number key expectedUid before) :
      Ended number key expectedUid (.ok none)
        (.readCandidate number candidate uid :: .attached number key candidate :: before)
  | preceded (mapping candidate : Nat) (before : List Event)
      (sought : Sought number key expectedUid before) :
      Ended number key expectedUid (.ok (some mapping))
        (.readCached number mapping (some expectedUid) ::
          .readCandidate number candidate (some expectedUid) ::
          .attached number key candidate :: before)
  | unstored (exception : Exception) (candidate : Nat) (before : List Event)
      (validated : Validated number key expectedUid candidate before) :
      Ended number key expectedUid (.error exception) before
  | stored (candidate : Nat) (before : List Event)
      (validated : Validated number key expectedUid candidate before) :
      Ended number key expectedUid (.ok (some candidate))
        (.inserted number key candidate :: before)

/-- A call, running or ended, which keeps its history in either case. -/
inductive Standing where
  | running (call : GetCall)
  | ended (finished : Finished)

/-- The number of a call, by which its events are found in the log. -/
def Standing.number : Standing → Nat
  | .running call => call.number
  | .ended finished => finished.number

/-- The histories of a standing: those of its position, or those of its result. -/
def Standing.Fits : Standing → List Event → Prop
  | .running call => call.Fits
  | .ended finished => Ended finished.number finished.key finished.expectedUid finished.result

/-- The standings of all calls, the running ones first. -/
def State.standings (state : State) : List Standing :=
  state.calls.map .running ++ state.finished.map .ended

/-- Every call's history fits, no block has two mappings, and every mapping was
attached for its block. -/
structure State.Consistent (state : State) : Prop where
  ledger : Ledger.Consistent Standing.number Event.call Standing.Fits state.standings state.log
    state.created
  unique : UniqueKeys state.mappings
  attachedFor : ∀ key mapping, (key, mapping) ∈ state.mappings →
    ∃ number, .attached number key mapping ∈ state.log
  returned : ∀ finished ∈ state.finished, ∀ mapping, finished.result = .ok (some mapping) →
    ∃ number, .attached number finished.key mapping ∈ state.log

/-- What the step of a call does: its events are its own, and its history goes on to
fit. -/
structure GetCall.Moves (call : GetCall) (progress : Progress) : Prop where
  own : ∀ event ∈ progress.events, event.call = call.number
  fitting : ∀ history, call.Fits history → match progress.outcome with
    | .running following => following.number = call.number ∧ following.key = call.key ∧
        following.expectedUid = call.expectedUid ∧ following.Fits (progress.events ++ history)
    | .returned result =>
        Ended call.number call.key call.expectedUid result (progress.events ++ history)

/-- Every step of a call moves it this way, with the events that `Moves` lists for the position. -/
theorem GetCall.step_moves (call : GetCall) (answers : Answers) (mappings : Mappings) :
    call.Moves (call.step answers mappings) := by
  obtain ⟨number, key, expectedUid, pc⟩ := call
  unfold GetCall.step
  cases pc with
  | lookup =>
    simp only
    split
    · refine ⟨by simp [GetCall.goes], fun history fits => ⟨rfl, rfl, rfl, ?_⟩⟩
      obtain rfl : history = _ := fits
      exact .absent
    next mapping found =>
    split
    · next same =>
      refine ⟨by simp [Progress.returns, Event.call], fun history fits => ?_⟩
      obtain rfl : history = _ := fits
      rw [same]
      exact .hit mapping
    · next other =>
      refine ⟨by simp [GetCall.goes, Event.call], fun history fits => ⟨rfl, rfl, rfl, ?_⟩⟩
      obtain rfl : history = _ := fits
      exact .evicted mapping answers.uid other
  | attach =>
    simp only
    split
    · next exception _ =>
      exact ⟨by simp [Progress.returns], fun history fits => .threw exception history fits⟩
    · exact ⟨by simp [Progress.returns, Event.call], fun history fits => .failed history fits⟩
    · next candidate _ =>
      exact ⟨by simp [GetCall.goes, Event.call],
        fun history fits => ⟨rfl, rfl, rfl, history, fits, rfl⟩⟩
  | readCandidate candidate =>
    simp only
    split
    · next same =>
      refine ⟨by simp [GetCall.goes, Event.call], fun history fits => ⟨rfl, rfl, rfl, ?_⟩⟩
      obtain ⟨before, sought, rfl⟩ := fits
      rw [same]
      exact ⟨before, sought, rfl⟩
    · next other =>
      refine ⟨by simp [Progress.returns, Event.call], fun history fits => ?_⟩
      obtain ⟨before, sought, rfl⟩ := fits
      exact .mismatched candidate answers.uid other before sought
  | insert candidate =>
    simp only
    split
    · unfold GetCall.emplaces
      split
      · refine ⟨by simp [Progress.returns], fun history fits => ?_⟩
        obtain ⟨before, sought, rfl⟩ := fits
        exact .unstored .badAlloc candidate _ (.read before sought)
      · refine ⟨by simp [Progress.returns, Event.call], fun history fits => ?_⟩
        obtain ⟨before, sought, rfl⟩ := fits
        exact .stored candidate _ (.read before sought)
    next mapping found =>
    split
    · next same =>
      refine ⟨by simp [Progress.returns, Event.call], fun history fits => ?_⟩
      obtain ⟨before, sought, rfl⟩ := fits
      rw [same]
      exact .preceded mapping candidate before sought
    · next other =>
      unfold GetCall.emplaces
      split
      · refine ⟨by simp [Progress.returns, Event.call], fun history fits => ?_⟩
        obtain ⟨before, sought, rfl⟩ := fits
        exact .unstored .badAlloc candidate _ (.evicted before sought mapping answers.uid other)
      · refine ⟨by simp [Progress.returns, Event.call], fun history fits => ?_⟩
        obtain ⟨before, sought, rfl⟩ := fits
        exact .stored candidate _ (.evicted before sought mapping answers.uid other)

/-- What the step of a call does to the map: nothing, or it evicts the mapping of its
block whose uid it read different, or stores its candidate for an absent block,
or both. -/
inductive GetCall.Changes (call : GetCall) (answers : Answers) (mappings : Mappings)
    (events : List Event) : Mappings → Prop where
  | kept : GetCall.Changes call answers mappings events mappings
  | evicted (mapping : Nat) (found : mappings.lookup call.key = some mapping)
      (other : answers.uid ≠ some call.expectedUid) (asked : call.asks mappings = some mapping)
      (logged : .readCached call.number mapping answers.uid ∈ events) :
      GetCall.Changes call answers mappings events (erase call.key mappings)
  | stored (candidate : Nat) (position : call.pc = .insert candidate)
      (absent : mappings.lookup call.key = none) :
      GetCall.Changes call answers mappings events (emplace call.key candidate mappings)
  | replaced (candidate mapping : Nat) (position : call.pc = .insert candidate)
      (found : mappings.lookup call.key = some mapping)
      (other : answers.uid ≠ some call.expectedUid) (asked : call.asks mappings = some mapping)
      (logged : .readCached call.number mapping answers.uid ∈ events) :
      GetCall.Changes call answers mappings events
        (emplace call.key candidate (erase call.key mappings))

/-- Every step of a call changes the map this way: an eviction, an insertion, or nothing. -/
theorem GetCall.step_changes (call : GetCall) (answers : Answers) (mappings : Mappings) :
    call.Changes answers mappings (call.step answers mappings).events
      (call.step answers mappings).mappings := by
  obtain ⟨number, key, expectedUid, pc⟩ := call
  unfold GetCall.step
  cases pc with
  | lookup =>
    simp only
    split
    · exact .kept
    next mapping found =>
    split
    · exact .kept
    · next other => exact .evicted mapping found other found (by simp [GetCall.goes])
  | attach =>
    simp only
    split
    · exact .kept
    · exact .kept
    · exact .kept
  | readCandidate candidate =>
    simp only
    split
    · exact .kept
    · exact .kept
  | insert candidate =>
    simp only
    split
    · next absent =>
      unfold GetCall.emplaces
      split
      · exact .kept
      · exact .stored candidate rfl absent
    next mapping found =>
    split
    · exact .kept
    · next other =>
      unfold GetCall.emplaces
      split
      · exact .evicted mapping found other found (by simp [Progress.returns])
      · exact .replaced candidate mapping rfl found other found (by simp [Progress.returns])

/-- A step returns the mapping of the call's block, or the candidate it stores; behind
it the block has that mapping. -/
theorem GetCall.step_result (call : GetCall) (answers : Answers) {mappings : Mappings}
    (unique : UniqueKeys mappings) {mapping : Nat}
    (returned : (call.step answers mappings).outcome = .returned (.ok (some mapping))) :
    (mappings.lookup call.key = some mapping ∨ call.pc = .insert mapping) ∧
      (call.step answers mappings).mappings.lookup call.key = some mapping := by
  obtain ⟨number, key, expectedUid, pc⟩ := call
  unfold GetCall.step at returned ⊢
  cases pc with
  | lookup =>
    simp only at returned ⊢
    split at returned
    · simp [GetCall.goes] at returned
    next found =>
    split at returned
    · next same =>
      simp only [Progress.returns, Outcome.returned.injEq, Except.ok.injEq,
        Option.some.injEq] at returned
      subst returned
      simp [same, Progress.returns, found]
    · simp [GetCall.goes] at returned
  | attach =>
    simp only at returned
    split at returned
    · simp [Progress.returns] at returned
    · simp [Progress.returns] at returned
    · simp [GetCall.goes] at returned
  | readCandidate candidate =>
    simp only at returned
    split at returned
    · simp [GetCall.goes] at returned
    · simp [Progress.returns] at returned
  | insert candidate =>
    have stores {after : Mappings} {events : List Event} (absent : after.lookup key = none)
        (stored : (GetCall.emplaces ⟨number, key, expectedUid, .insert candidate⟩ answers candidate
          after events).outcome = .returned (.ok (some mapping))) :
        candidate = mapping ∧ (GetCall.emplaces ⟨number, key, expectedUid, .insert candidate⟩
          answers candidate after events).mappings.lookup key = some mapping := by
      unfold GetCall.emplaces at stored ⊢
      split at stored
      · simp [Progress.returns] at stored
      · next allocated =>
        obtain rfl : candidate = mapping := by simpa [Progress.returns] using stored
        simp [allocated, Progress.returns, lookup_emplace, absent]
    simp only at returned ⊢
    split at returned
    · next absent =>
      obtain ⟨rfl, cached⟩ := stores absent returned
      exact ⟨.inr rfl, cached⟩
    next found =>
    split at returned
    · next same =>
      simp only [Progress.returns, Outcome.returned.injEq, Except.ok.injEq,
        Option.some.injEq] at returned
      subst returned
      simp [same, Progress.returns, found]
    · next other =>
      have absent : (erase key mappings).lookup key = none := by simp [lookup_erase unique]
      obtain ⟨rfl, cached⟩ := stores absent returned
      exact ⟨.inr rfl, by simpa [other] using cached⟩

/-- What a call which goes on has come from. No step leads back to the first lookup. -/
def GetCall.ComesFrom (following call : GetCall) (answers : Answers) : Prop :=
  match following.pc with
  | .lookup => False
  | .attach => call.pc = .lookup
  | .readCandidate candidate => call.pc = .attach ∧ answers.attached = .ok (some candidate)
  | .insert candidate =>
    call.pc = .readCandidate candidate ∧ answers.uid = some call.expectedUid

/-- A call goes on for its block and uid, with the candidate it attached, and to its
second critical section only behind an equal read of it. -/
theorem GetCall.step_following (call : GetCall) (answers : Answers) (mappings : Mappings)
    {following : GetCall} (goes : (call.step answers mappings).outcome = .running following) :
    following.key = call.key ∧ following.expectedUid = call.expectedUid ∧
      following.ComesFrom call answers := by
  obtain ⟨number, key, expectedUid, pc⟩ := call
  unfold GetCall.step at goes
  cases pc with
  | lookup =>
    simp only at goes
    split at goes
    · obtain rfl := Outcome.running.inj goes
      exact ⟨rfl, rfl, rfl⟩
    split at goes
    · simp [Progress.returns] at goes
    · obtain rfl := Outcome.running.inj goes
      exact ⟨rfl, rfl, rfl⟩
  | attach =>
    simp only at goes
    split at goes
    · simp [Progress.returns] at goes
    · simp [Progress.returns] at goes
    · next candidate attached =>
      obtain rfl := Outcome.running.inj goes
      exact ⟨rfl, rfl, rfl, attached⟩
  | readCandidate candidate =>
    simp only at goes
    split at goes
    · next same =>
      obtain rfl := Outcome.running.inj goes
      exact ⟨rfl, rfl, rfl, same⟩
    · simp [Progress.returns] at goes
  | insert candidate =>
    have ends {after : Mappings} {events : List Event}
        (running : (GetCall.emplaces ⟨number, key, expectedUid, .insert candidate⟩ answers
          candidate after events).outcome = .running following) : False := by
      unfold GetCall.emplaces at running
      split at running <;> simp [Progress.returns] at running
    simp only at goes
    split at goes
    · exact (ends goes).elim
    split at goes
    · simp [Progress.returns] at goes
    · exact (ends goes).elim

/-- A changed map keeps one mapping a block, since a mapping is stored for an absent block only. -/
theorem GetCall.Changes.unique {call : GetCall} {answers : Answers} {mappings after : Mappings}
    {events : List Event} (changes : call.Changes answers mappings events after)
    (unique : UniqueKeys mappings) : UniqueKeys after := by
  cases changes with
  | kept => exact unique
  | evicted => exact unique.erase call.key
  | stored candidate => exact unique.emplace call.key candidate
  | replaced candidate => exact (unique.erase call.key).emplace call.key candidate

/-- The mapping of a block in a changed map is the one before, or the call's candidate
for its own block. -/
theorem GetCall.Changes.lookup {call : GetCall} {answers : Answers} {mappings after : Mappings}
    {events : List Event} (changes : call.Changes answers mappings events after)
    (unique : UniqueKeys mappings) {key : Key} {mapping : Nat}
    (found : after.lookup key = some mapping) :
    mappings.lookup key = some mapping ∨ (key = call.key ∧ call.pc = .insert mapping) := by
  cases changes with
  | kept => exact .inl found
  | evicted =>
    rw [lookup_erase unique] at found
    split at found
    · simp at found
    · exact .inl found
  | stored candidate position absent =>
    rw [lookup_emplace] at found
    cases held : mappings.lookup key with
    | some other => exact .inl (by simpa [held] using found)
    | none =>
      by_cases same : call.key = key
      · obtain rfl : candidate = mapping := by simpa [held, same] using found
        exact .inr ⟨same.symm, position⟩
      · simp [held, same] at found
  | replaced candidate other position =>
    rw [lookup_emplace, lookup_erase unique] at found
    by_cases same : key = call.key
    · obtain rfl : candidate = mapping := by simpa [same] using found
      exact .inr ⟨same, position⟩
    · have different : ¬ call.key = key := fun equal => same equal.symm
      exact .inl (by simpa [same, different] using found)

/-- A mapping leaves the map only when the call of its block reads another uid in it. -/
theorem GetCall.Changes.evicts {call : GetCall} {answers : Answers} {mappings after : Mappings}
    {events : List Event} (changes : call.Changes answers mappings events after)
    (unique : UniqueKeys mappings) {key : Key} {mapping : Nat}
    (held : mappings.lookup key = some mapping) (lost : after.lookup key ≠ some mapping) :
    call.key = key ∧ call.asks mappings = some mapping ∧
      answers.uid ≠ some call.expectedUid ∧
      .readCached call.number mapping answers.uid ∈ events := by
  have elsewhere {other : Mappings} (same : other.lookup key = mappings.lookup key)
      (changed : after = other) : False := lost (changed ▸ same.trans held)
  have erased (different : ¬ key = call.key) :
      (erase call.key mappings).lookup key = mappings.lookup key := by
    rw [lookup_erase unique, if_neg different]
  cases changes with
  | kept => exact absurd held lost
  | evicted other found differs asked logged =>
    by_cases same : key = call.key
    · subst same
      obtain rfl : other = mapping := Option.some.inj (found.symm.trans held)
      exact ⟨rfl, asked, differs, logged⟩
    · exact (elsewhere (erased same) rfl).elim
  | stored candidate position absent =>
    have kept : (emplace call.key candidate mappings).lookup key = mappings.lookup key := by
      rw [lookup_emplace, held]
      rfl
    exact (elsewhere kept rfl).elim
  | replaced candidate other position found differs asked logged =>
    by_cases same : key = call.key
    · subst same
      obtain rfl : other = mapping := Option.some.inj (found.symm.trans held)
      exact ⟨rfl, asked, differs, logged⟩
    · have kept : (emplace call.key candidate (erase call.key mappings)).lookup key =
          mappings.lookup key := by
        have different : ¬ call.key = key := fun equal => same equal.symm
        rw [lookup_emplace, erased same, if_neg different, Option.or_none]
      exact (elsewhere kept rfl).elim

/-- The standings around the call at an index, before and behind its step; those of the others are
the same. -/
theorem deliver_standings {state : State} {index : Nat} {call : GetCall}
    (running : state.calls[index]? = some call) (progress : Progress) :
    ∃ rest, state.standings.Perm (.running call :: rest) ∧
      (state.deliver index call progress).standings.Perm
        ((match progress.outcome with
          | .running following => .running following
          | .returned result =>
            .ended ⟨call.number, call.key, call.expectedUid, result⟩) :: rest) := by
  obtain ⟨before, after, split, erased, replaced⟩ := focus state.calls index call running
  refine ⟨before.map .running ++ after.map .running ++ state.finished.map .ended, ?_, ?_⟩
  · simp only [State.standings, split, List.map_append, List.map_cons, List.append_assoc,
      List.cons_append]
    exact List.perm_middle
  · unfold State.deliver
    cases progress.outcome with
    | running following =>
      simp only [State.standings, replaced, List.map_append, List.map_cons, List.append_assoc,
        List.cons_append]
      exact List.perm_middle
    | returned result =>
      simp only [State.standings, erased, List.map_append, List.map_cons, List.append_assoc]
      rw [← List.append_assoc, ← List.append_assoc]
      exact List.perm_middle

/-- Delivering a step puts its events in front of the log. -/
@[simp] theorem deliver_log (state : State) (index : Nat) (call : GetCall) (progress : Progress) :
    (state.deliver index call progress).log = progress.events ++ state.log := by
  unfold State.deliver
  split <;> rfl

/-- Delivering a step leaves the mappings as the step has left them. -/
@[simp] theorem deliver_mappings (state : State) (index : Nat) (call : GetCall)
    (progress : Progress) :
    (state.deliver index call progress).mappings = progress.mappings := by
  unfold State.deliver
  split <;> rfl

/-- Delivering a step begins no new call. -/
@[simp] theorem deliver_created (state : State) (index : Nat) (call : GetCall)
    (progress : Progress) : (state.deliver index call progress).created = state.created := by
  unfold State.deliver
  split <;> rfl

/-- A running call's history fits its position in a consistent state. -/
theorem State.Consistent.running {state : State} (consistent : state.Consistent) {index : Nat}
    {call : GetCall} (running : state.calls[index]? = some call) :
    call.Fits (trace Event.call call.number state.log) := by
  have member : Standing.running call ∈ state.standings :=
    List.mem_append_left _ (List.mem_map_of_mem (List.mem_of_getElem? running))
  exact consistent.ledger.fitting _ member

/-- A candidate about to be stored was attached for its block, by the call itself. -/
theorem State.Consistent.candidate {state : State} (consistent : state.Consistent) {index : Nat}
    {call : GetCall} (running : state.calls[index]? = some call) {candidate : Nat}
    (position : call.pc = .insert candidate) :
    .attached call.number call.key candidate ∈ state.log := by
  have fits := consistent.running running
  rw [GetCall.Fits, position] at fits
  obtain ⟨before, -, history⟩ := fits
  refine (trace_sublist Event.call call.number state.log).subset ?_
  rw [history]
  simp

/-- The step of a call keeps the state consistent: its history grows by what the position allows,
and those of others stay. -/
theorem State.Consistent.advance {state : State} (consistent : state.Consistent) {index : Nat}
    {call : GetCall} (running : state.calls[index]? = some call) (answers : Answers) :
    (state.deliver index call (call.step answers state.mappings)).Consistent := by
  have moves := call.step_moves answers state.mappings
  have changes := call.step_changes answers state.mappings
  obtain ⟨rest, before, after⟩ :=
    deliver_standings running (call.step answers state.mappings)
  refine ⟨?_, ?_, ?_, ?_⟩
  · rw [deliver_log, deliver_created]
    refine consistent.ledger.extend _ _ before after ?_ moves.own ?_
    · have fitting := moves.fitting _ (consistent.running running)
      split at fitting
      · exact fitting.1
      · rfl
    · intro history fits
      have fitting := moves.fitting history fits
      split at fitting
      · exact fitting.2.2.2
      · exact fitting
  · rw [deliver_mappings]
    exact changes.unique consistent.unique
  · intro key mapping member
    rw [deliver_mappings] at member
    have found := (mem_iff_lookup (changes.unique consistent.unique) key mapping).mp member
    rw [deliver_log]
    cases changes.lookup consistent.unique found with
    | inl held =>
      have older := (mem_iff_lookup consistent.unique key mapping).mpr held
      obtain ⟨number, attached⟩ := consistent.attachedFor key mapping older
      exact ⟨number, List.mem_append_right _ attached⟩
    | inr own =>
      obtain ⟨rfl, position⟩ := own
      exact ⟨call.number, List.mem_append_right _ (consistent.candidate running position)⟩
  · intro finished member mapping result
    rw [deliver_log]
    have earlier (older : finished ∈ state.finished) :
        ∃ number, .attached number finished.key mapping ∈
          (call.step answers state.mappings).events ++ state.log := by
      obtain ⟨number, attached⟩ := consistent.returned finished older mapping result
      exact ⟨number, List.mem_append_right _ attached⟩
    unfold State.deliver at member
    split at member
    · exact earlier member
    · next own outcome =>
      cases List.mem_cons.mp member with
      | inr older => exact earlier older
      | inl same =>
        subst same
        obtain rfl : own = .ok (some mapping) := result
        cases (call.step_result answers consistent.unique outcome).1 with
        | inl found =>
          have held := (mem_iff_lookup consistent.unique call.key mapping).mpr found
          obtain ⟨number, attached⟩ := consistent.attachedFor call.key mapping held
          exact ⟨number, List.mem_append_right _ attached⟩
        | inr position =>
          exact ⟨call.number, List.mem_append_right _ (consistent.candidate running position)⟩

/-- Every action keeps the state consistent: a call begins or steps, or the cache is cleared. -/
theorem step_consistent (state next : State) (action : Action) (consistent : state.Consistent)
    (moved : step state action = some next) : next.Consistent := by
  cases action with
  | getOrAttach key expectedUid =>
    obtain rfl := Option.some.inj moved
    refine ⟨?_, consistent.unique, ?_, ?_⟩
    · refine consistent.ledger.create (.running ⟨state.created, key, expectedUid, .lookup⟩) rfl rfl
        rfl ?_
      simp only [State.standings, List.map_append, List.map_cons, List.map_nil, List.append_assoc,
        List.singleton_append]
      exact List.perm_middle
    · intro other mapping member
      obtain ⟨number, attached⟩ := consistent.attachedFor other mapping member
      exact ⟨number, List.mem_cons_of_mem _ attached⟩
    · intro finished member mapping result
      obtain ⟨number, attached⟩ := consistent.returned finished member mapping result
      exact ⟨number, List.mem_cons_of_mem _ attached⟩
  | advance index answers =>
    simp only [step] at moved
    split at moved
    · simp at moved
    · next call running =>
      obtain rfl := Option.some.inj moved
      exact consistent.advance running answers
  | clear =>
    obtain rfl := Option.some.inj moved
    exact ⟨consistent.ledger, List.nodup_nil, by simp, consistent.returned⟩

/-- Every reachable state is consistent, whatever the actions admitted. By induction on the run. -/
theorem reachable_consistent {admitted : State → Action → Prop} {state : State}
    (reached : Reachable step admitted (fun start => start = initial) state) :
    state.Consistent := by
  refine reached.invariant ?_ fun state next action _ consistent _ moved =>
    step_consistent state next action consistent moved
  rintro start rfl
  exact ⟨Ledger.Consistent.empty, List.nodup_nil, by simp [initial], by simp [initial]⟩

/-- The events ahead of an attach are the call itself, an eviction, and the read behind which it
was evicted. -/
theorem Sought.mem {number : Nat} {key : Key} {expectedUid : Nat} {before : List Event}
    (sought : Sought number key expectedUid before) {event : Event} (member : event ∈ before) :
    event = .called number key expectedUid ∨ (∃ mapping, event = .evicted number key mapping) ∨
      ∃ mapping uid, event = .readCached number mapping uid := by
  cases sought with
  | absent => exact .inl (by simpa using member)
  | evicted mapping uid =>
    simp only [List.mem_cons, List.not_mem_nil, or_false] at member
    obtain rfl | rfl | rfl := member
    · exact .inr (.inl ⟨mapping, rfl⟩)
    · exact .inr (.inr ⟨mapping, uid, rfl⟩)
    · exact .inl rfl

/-- The events up to the end of the second critical section: those ahead of the attach, the
attach, and the read of the candidate. -/
theorem Validated.mem {number : Nat} {key : Key} {expectedUid candidate : Nat}
    {before : List Event} (validated : Validated number key expectedUid candidate before)
    {event : Event} (member : event ∈ before) :
    event = .called number key expectedUid ∨ (∃ mapping, event = .evicted number key mapping) ∨
      (∃ mapping uid, event = .readCached number mapping uid) ∨
      event = .attached number key candidate ∨
      event = .readCandidate number candidate (some expectedUid) := by
  have earlier {older : List Event} (sought : Sought number key expectedUid older)
      (inside : event ∈ older) := sought.mem inside
  cases validated with
  | read older sought =>
    simp only [List.mem_cons] at member
    obtain rfl | rfl | inside := member
    · simp
    · simp
    · obtain rfl | ⟨mapping, rfl⟩ | ⟨mapping, uid, rfl⟩ := earlier sought inside <;> simp
  | evicted older sought mapping uid =>
    simp only [List.mem_cons] at member
    obtain rfl | rfl | rfl | rfl | inside := member
    · simp
    · simp
    · simp
    · simp
    · obtain rfl | ⟨mapping, rfl⟩ | ⟨mapping, uid, rfl⟩ := earlier sought inside <;> simp

/-- A call which returned a mapping has read it equal to the expected uid. -/
theorem Ended.read {number : Nat} {key : Key} {expectedUid mapping : Nat} {history : List Event}
    (ended : Ended number key expectedUid (.ok (some mapping)) history) :
    .readCached number mapping (some expectedUid) ∈ history ∨
      .readCandidate number mapping (some expectedUid) ∈ history := by
  cases ended with
  | hit => exact .inl (by simp)
  | preceded => exact .inl (by simp)
  | stored candidate before validated =>
    cases validated with
    | read => exact .inr (by simp)
    | evicted => exact .inr (by simp)

/-- The uid a call expects, from its beginning to its end. -/
def Standing.expectedUid : Standing → Nat
  | .running call => call.expectedUid
  | .ended finished => finished.expectedUid

/-- The event by which a call finds nothing usable: a failed attach, or another uid in
the object it attached. -/
def Event.Refuses (event : Event) (expectedUid : Nat) : Prop :=
  match event with
  | .attachFailed _ => True
  | .readCandidate _ _ uid => uid ≠ some expectedUid
  | _ => False

/-- No such event stands ahead of an attach or up to the end of the second critical
section. -/
theorem Sought.accepts {number : Nat} {key : Key} {expectedUid : Nat} {before : List Event}
    (sought : Sought number key expectedUid before) {event : Event} (member : event ∈ before) :
    ¬ event.Refuses expectedUid := by
  obtain rfl | ⟨mapping, rfl⟩ | ⟨mapping, uid, rfl⟩ := sought.mem member <;> exact id

/-- A call whose candidate was read equal has met no event by which it finds nothing usable. -/
theorem Validated.accepts {number : Nat} {key : Key} {expectedUid candidate : Nat}
    {before : List Event} (validated : Validated number key expectedUid candidate before)
    {event : Event} (member : event ∈ before) : ¬ event.Refuses expectedUid := by
  obtain rfl | ⟨mapping, rfl⟩ | ⟨mapping, uid, rfl⟩ | rfl | rfl := validated.mem member
  · exact id
  · exact id
  · exact id
  · exact id
  · exact fun other => other rfl

/-- A call which found nothing usable has returned null, and has inserted nothing, for no way
through the call goes on from there. -/
theorem Standing.refuses {standing : Standing} {history : List Event}
    (fits : standing.Fits history) {event : Event} (member : event ∈ history)
    (refuses : event.Refuses standing.expectedUid) :
    ∃ finished, standing = .ended finished ∧ finished.result = .ok none ∧
      ∀ number key candidate, .inserted number key candidate ∉ history := by
  have quiet {number : Nat} {key : Key} {expectedUid : Nat} {before : List Event}
      (sought : Sought number key expectedUid before) (other : Nat) (block : Key)
      (candidate : Nat) : .inserted other block candidate ∉ before := by
    intro inserted
    obtain same | ⟨mapping, same⟩ | ⟨mapping, uid, same⟩ := sought.mem inserted <;> simp at same
  cases standing with
  | running call =>
    obtain ⟨number, key, expectedUid, pc⟩ := call
    exfalso
    cases pc with
    | lookup =>
      obtain rfl : history = _ := fits
      obtain rfl : event = _ := by simpa using member
      exact refuses
    | attach => exact Sought.accepts fits member refuses
    | readCandidate candidate =>
      obtain ⟨before, sought, rfl⟩ := fits
      cases List.mem_cons.mp member with
      | inl same => subst same; exact refuses
      | inr older => exact sought.accepts older refuses
    | insert candidate =>
      obtain ⟨before, sought, rfl⟩ := fits
      exact (Validated.read before sought).accepts member refuses
  | ended finished =>
    obtain ⟨number, key, expectedUid, result⟩ := finished
    simp only [Standing.Fits] at fits
    cases fits with
    | hit mapping =>
      simp only [List.mem_cons, List.not_mem_nil, or_false] at member
      obtain rfl | rfl := member <;> exact refuses.elim
    | threw exception before sought => exact (sought.accepts member refuses).elim
    | failed before sought =>
      refine ⟨_, rfl, rfl, fun other block candidate => ?_⟩
      simpa using quiet sought other block candidate
    | mismatched candidate uid other before sought =>
      refine ⟨_, rfl, rfl, fun other block candidate => ?_⟩
      simpa using quiet sought other block candidate
    | preceded mapping candidate before sought =>
      cases List.mem_cons.mp member with
      | inl same => subst same; exact refuses.elim
      | inr older => exact ((Validated.read before sought).accepts older refuses).elim
    | unstored exception candidate before validated =>
      exact (validated.accepts member refuses).elim
    | stored candidate before validated =>
      cases List.mem_cons.mp member with
      | inl same => subst same; exact refuses.elim
      | inr older => exact (validated.accepts older refuses).elim

/-- The call of a number has returned null, and has inserted nothing, under any key. -/
def State.Refused (state : State) (number : Nat) : Prop :=
  (∃ finished ∈ state.finished, finished.number = number ∧ finished.result = .ok none) ∧
    ∀ key candidate, .inserted number key candidate ∉ state.log

/-- What the cache guarantees in a state, of every call which has ended and every mapping which is
cached. -/
structure Safe (state : State) : Prop where
  /-- A returned mapping was attached for the block, and the call read its uid equal to
  the expected one. -/
  validated : ∀ finished ∈ state.finished, ∀ mapping, finished.result = .ok (some mapping) →
    (∃ number, .attached number finished.key mapping ∈ state.log) ∧
      (.readCached finished.number mapping (some finished.expectedUid) ∈ state.log ∨
        .readCandidate finished.number mapping (some finished.expectedUid) ∈ state.log)
  /-- A call whose attach failed. -/
  failed : ∀ number, .attachFailed number ∈ state.log → state.Refused number
  /-- A call whose attached object has another uid. -/
  mismatched : ∀ number key expectedUid candidate uid, .called number key expectedUid ∈ state.log →
    .readCandidate number candidate uid ∈ state.log → uid ≠ some expectedUid →
    state.Refused number
  /-- A block has one mapping at most. -/
  unique : UniqueKeys state.mappings
  /-- A mapping was attached for its block. -/
  attachedFor : ∀ key mapping, (key, mapping) ∈ state.mappings →
    ∃ number, .attached number key mapping ∈ state.log
  /-- A mapping goes by a clear, or by a call of the block which reads another uid in it. -/
  replaced : ∀ action next, step state action = some next → ∀ key mapping,
    (key, mapping) ∈ state.mappings → (key, mapping) ∉ next.mappings →
    action = .clear ∨ ∃ index answers call, action = .advance index answers ∧
      state.calls[index]? = some call ∧ call.key = key ∧
      call.asks state.mappings = some mapping ∧ answers.uid ≠ some call.expectedUid

/-- A refusing event in the log belongs to a call which has returned null. -/
theorem State.Consistent.refused {state : State} (consistent : state.Consistent) {event : Event}
    (logged : event ∈ state.log)
    (refuses : ∀ standing : Standing, standing.number = event.call →
      standing.Fits (trace Event.call standing.number state.log) →
        event.Refuses standing.expectedUid) : state.Refused event.call := by
  obtain ⟨standing, present, same, member, fits⟩ := consistent.ledger.history logged
  obtain ⟨finished, rfl, result, uninserted⟩ :=
    standing.refuses fits member (refuses standing same fits)
  refine ⟨⟨finished, ?_, same, result⟩, fun key candidate inserted => ?_⟩
  · simpa [State.standings] using present
  · refine uninserted event.call key candidate ?_
    exact List.mem_filter.mpr ⟨inserted, decide_eq_true same.symm⟩

/-- A call expects the uid it was called with, since its history has one call event only. -/
theorem Standing.called {standing : Standing} {history : List Event} (fits : standing.Fits history)
    {number : Nat} {key : Key} {expectedUid : Nat}
    (member : .called number key expectedUid ∈ history) : standing.expectedUid = expectedUid := by
  have inSought {own : Nat} {block : Key} {uid : Nat} {before : List Event}
      (sought : Sought own block uid before) (inside : .called number key expectedUid ∈ before) :
      uid = expectedUid := by
    obtain same | ⟨mapping, same⟩ | ⟨mapping, read, same⟩ := sought.mem inside
    · exact (Event.called.inj same).2.2.symm
    · simp at same
    · simp at same
  have inValidated {own : Nat} {block : Key} {uid candidate : Nat} {before : List Event}
      (validated : Validated own block uid candidate before)
      (inside : .called number key expectedUid ∈ before) : uid = expectedUid := by
    obtain same | ⟨mapping, same⟩ | ⟨mapping, read, same⟩ | same | same := validated.mem inside
    · exact (Event.called.inj same).2.2.symm
    · simp at same
    · simp at same
    · simp at same
    · simp at same
  cases standing with
  | running call =>
    obtain ⟨own, block, uid, pc⟩ := call
    cases pc with
    | lookup =>
      obtain rfl : history = _ := fits
      exact (Event.called.inj (List.mem_singleton.mp member)).2.2.symm
    | attach => exact inSought fits member
    | readCandidate candidate =>
      obtain ⟨before, sought, rfl⟩ := fits
      exact inSought sought (by simpa using member)
    | insert candidate =>
      obtain ⟨before, sought, rfl⟩ := fits
      exact inSought sought (by simpa using member)
  | ended finished =>
    obtain ⟨own, block, uid, result⟩ := finished
    simp only [Standing.Fits] at fits
    cases fits with
    | hit mapping =>
      have same : number = own ∧ key = block ∧ expectedUid = uid := by simpa using member
      exact same.2.2.symm
    | threw exception before sought => exact inSought sought member
    | failed before sought => exact inSought sought (by simpa using member)
    | mismatched candidate read other before sought =>
      exact inSought sought (by simpa using member)
    | preceded mapping candidate before sought => exact inSought sought (by simpa using member)
    | unstored exception candidate before validated => exact inValidated validated member
    | stored candidate before validated => exact inValidated validated (by simpa using member)

/-- A consistent state is safe. Each guarantee is read off the histories of the calls concerned. -/
theorem State.Consistent.safe {state : State} (consistent : state.Consistent) : Safe state := by
  refine ⟨?_, ?_, ?_, consistent.unique, consistent.attachedFor, ?_⟩
  · intro finished member mapping result
    refine ⟨consistent.returned finished member mapping result, ?_⟩
    have present : Standing.ended finished ∈ state.standings :=
      List.mem_append_right _ (List.mem_map_of_mem member)
    have ended := consistent.ledger.fitting _ present
    simp only [Standing.Fits, result] at ended
    have logged := (trace_sublist Event.call finished.number state.log).subset
    exact ended.read.imp (fun read => logged read) (fun read => logged read)
  · intro number failed
    exact consistent.refused failed fun _ _ _ => trivial
  · intro number key expectedUid candidate uid called read other
    refine consistent.refused read fun standing same fits => ?_
    have own : .called number key expectedUid ∈ trace Event.call standing.number state.log :=
      List.mem_filter.mpr ⟨called, decide_eq_true same.symm⟩
    rw [standing.called fits own]
    exact other
  · intro action next moved key mapping member gone
    have held := (mem_iff_lookup consistent.unique key mapping).mp member
    cases action with
    | getOrAttach block expectedUid =>
      obtain rfl := Option.some.inj moved
      exact absurd member gone
    | clear => exact .inl rfl
    | advance index answers =>
      simp only [step] at moved
      split at moved
      · simp at moved
      next call running =>
      obtain rfl := Option.some.inj moved
      rw [deliver_mappings] at gone
      have changes := call.step_changes answers state.mappings
      have lost : (call.step answers state.mappings).mappings.lookup key ≠ some mapping :=
        fun found =>
          gone ((mem_iff_lookup (changes.unique consistent.unique) key mapping).mpr found)
      obtain ⟨same, asked, other, -⟩ := changes.evicts consistent.unique held lost
      exact .inr ⟨index, answers, call, rfl, running, same, asked, other⟩

/-- Each attached object is one of the calling block, as the objects found by name are. -/
def Named (blockOf : Nat → Key) (state : State) : Action → Prop
  | .advance index answers => ∀ call candidate, state.calls[index]? = some call →
      call.pc = .attach → answers.attached = .ok (some candidate) → blockOf candidate = call.key
  | .getOrAttach _ _ | .clear => True

/-- Only the attach step logs an attached object, under the key of its own call. -/
theorem GetCall.step_attached (call : GetCall) (answers : Answers) (mappings : Mappings)
    {number : Nat} {key : Key} {candidate : Nat}
    (logged : .attached number key candidate ∈ (call.step answers mappings).events) :
    key = call.key ∧ call.pc = .attach ∧ answers.attached = .ok (some candidate) := by
  obtain ⟨own, block, expectedUid, pc⟩ := call
  unfold GetCall.step at logged
  cases pc with
  | lookup =>
    simp only at logged
    split at logged
    · simp [GetCall.goes] at logged
    split at logged
    · simp [Progress.returns] at logged
    · simp [GetCall.goes] at logged
  | attach =>
    simp only at logged
    split at logged
    · simp [Progress.returns] at logged
    · simp [Progress.returns] at logged
    · next object attached =>
      simp only [GetCall.goes, List.mem_singleton, Event.attached.injEq] at logged
      obtain ⟨-, rfl, rfl⟩ := logged
      exact ⟨rfl, rfl, attached⟩
  | readCandidate object =>
    simp only at logged
    split at logged
    · simp [GetCall.goes] at logged
    · simp [Progress.returns] at logged
  | insert object =>
    simp only at logged
    split at logged
    · unfold GetCall.emplaces at logged
      split at logged <;> simp [Progress.returns] at logged
    split at logged
    · simp [Progress.returns] at logged
    · unfold GetCall.emplaces at logged
      split at logged <;> simp [Progress.returns] at logged

/-- With objects found by name, the cached mapping of a block is one of the block. -/
theorem reachable_named {blockOf : Nat → Key} {state : State}
    (reached : Reachable step (Named blockOf) (fun start => start = initial) state) :
    UniqueKeys state.mappings ∧
      ∀ key mapping, state.mappings.lookup key = some mapping → blockOf mapping = key := by
  have named : ∀ number key candidate, .attached number key candidate ∈ state.log →
      blockOf candidate = key := by
    refine reached.invariant (?_ : ∀ start, start = initial → ∀ number key candidate,
      .attached number key candidate ∈ start.log → blockOf candidate = key) ?_
    · rintro start rfl
      simp [initial]
    · intro state next action _ named admitted moved number key candidate logged
      cases action with
      | getOrAttach block expectedUid =>
        obtain rfl := Option.some.inj moved
        exact named number key candidate (by simpa using logged)
      | clear =>
        obtain rfl := Option.some.inj moved
        exact named number key candidate logged
      | advance index answers =>
        simp only [step] at moved
        split at moved
        · simp at moved
        next call running =>
        obtain rfl := Option.some.inj moved
        rw [deliver_log, List.mem_append] at logged
        cases logged with
        | inr older => exact named number key candidate older
        | inl own =>
          obtain ⟨rfl, attaching, attached⟩ := call.step_attached answers state.mappings own
          exact admitted call candidate running attaching attached
  have consistent := reachable_consistent reached
  refine ⟨consistent.unique, fun key mapping found => ?_⟩
  have member := (mem_iff_lookup consistent.unique key mapping).mpr found
  obtain ⟨number, attached⟩ := consistent.attachedFor key mapping member
  exact named number key mapping attached

end Ros2CudaIpc.BufferMetadataCache
