import Ros2CudaIpc.CacheAgreement

/-!
# First import wins, agreement, no premature release

The two invariants read together: which resource an answer names, when its
release function runs, and who can be waiting for whom.
-/

namespace Ros2CudaIpc.IpcHandleCache

open Emplacement SharedOwnership Reachability WeightedLists

/-- The frames which wait for the mutex. Every other step of a call is possible whoever holds it. -/
def Frame.waits : Frame → Bool
  | .findLock _ | .insertLock _ _ | .clearLock => true
  | _ => false

/-- Steps to the unlock of a critical section, at most. It is the measure by which the holder of
the mutex comes to release it. -/
def Frame.toUnlock : Frame → Nat
  | .findLookup _ | .clearSwap => 2
  | .findUnlock _ _ | .insertUnlock _ _ _ | .clearUnlock _ => 1
  | .insertEmplace _ _ => 4
  | .insertDropNode _ _ _ => 3
  | .insertCopy _ _ _ => 2
  | _ => 0

/-- What every run of the cache shows. The log is newest first: in
`later ++ event :: earlier` the event follows everything in `earlier`. -/
structure CacheSafe (state : State) : Prop where
  firstWins : ∀ later event earlier key number, state.log = later ++ event :: earlier →
    event.answer = some (key, number) → firstEmplaced key (event :: earlier) = some number
  agreement : ∀ later event middle other earlier key number result,
    state.log = later ++ event :: (middle ++ other :: earlier) → .cleared ∉ middle →
    event.answer = some (key, number) → other.answer = some (key, result) → number = result
  delivered : (state.log.filterMap Event.answer).Perm
    (state.activities.flatMap Activity.answered ++ state.returned.map Entry.answer)
  imported : ∀ event ∈ state.log, ∀ key number, event.answer = some (key, number) →
    ∃ imported, state.resources[number]? = some (key, imported)
  releasedOnce : ∀ number block, state.blocks[number]? = some block →
    block.releases ≤ 1 ∧ (block.releases = 1 ↔ number ∉ state.references)
  releasing : ∀ number resume, .releasing number resume ∈ state.activities →
    number ∉ state.cache.map Prod.snd ∧ number ∉ state.entries.map Entry.number
  losers : ∀ key candidate result, .inserted key candidate result ∈ state.log →
    candidate ≠ result → candidate ∉ state.cache.map Prod.snd ∧
      candidate ∉ state.returned.map Entry.number ∧
      ((∀ activity ∈ state.activities, candidate ∉ activity.held) →
        ∃ block, state.blocks[candidate]? = some block ∧ block.releases = 1)
  unlocked : ∀ number resume, .releasing number resume ∈ state.activities →
    (Activity.releasing number resume).holdsMutex = false
  onlyLocksWait : ∀ (index : Nat) activity, state.activities[index]? = some activity →
    (step state (.advance index)).isSome ∨
      state.mutex = true ∧ ∃ frame, activity = .running frame ∧ frame.waits = true
  holderUnlocks : state.mutex = true → ∃ (index : Nat) (frame : Frame) (after : Progress),
    state.activities[index]? = some (.running frame) ∧ frame.holdsMutex = true ∧
      state.advance frame = some after ∧ (after.state.mutex = false ∨
        ∃ next, after.activity = some (.running next) ∧ next.toUnlock < frame.toUnlock)

/-- A step of a call outside the locks is always possible, and one at a lock is possible as soon
as the mutex is free. -/
theorem advance_isSome (state : State) (frame : Frame)
    (free : frame.waits = false ∨ state.mutex = false) : (state.advance frame).isSome := by
  cases frame with
  | findLock | insertLock | clearLock =>
    rcases free with never | open_
    · simp [Frame.waits] at never
    · simp [State.advance, open_]
  | findLookup key | insertEmplace key =>
    simp only [State.advance]
    split <;> rfl
  | clearDrop entries => cases entries <;> rfl
  | _ => rfl

/-- A release function whose activity is running has been counted in the control block of its
resource. -/
def ReleasesCounted (state : State) : Prop :=
  ∀ number resume, .releasing number resume ∈ state.activities →
    ∃ block, state.blocks[number]? = some block ∧ 0 < block.releases

/-- Releases are not taken back: each control block is still there, with at least as many releases
as before. -/
def Forward (before after : List ControlBlock) : Prop :=
  ∀ (number : Nat) (block : ControlBlock), before[number]? = some block →
    ∃ later, after[number]? = some later ∧ block.releases ≤ later.releases

/-- A step which leaves the control blocks alone takes no release back. -/
theorem forward_refl (blocks : List ControlBlock) : Forward blocks blocks :=
  fun _ block found => ⟨block, found, Nat.le_refl _⟩

/-- Copying a reference raises the use count of one control block and takes no release back from
any. -/
theorem forward_copy (blocks : List ControlBlock) (number : Nat) :
    Forward blocks (copyReference blocks number) := by
  intro other block found
  refine ⟨if number = other then block.copy else block, ?_, ?_⟩
  · simp [copyReference, List.getElem?_modify, found]
  · split <;> simp [ControlBlock.copy]

/-- Dropping a reference can only add a release, to the control block whose last reference it was.
-/
theorem forward_drop (blocks : List ControlBlock) (number : Nat) :
    Forward blocks (dropReference blocks number) := by
  intro other block found
  refine ⟨if number = other then block.drop else block, ?_, ?_⟩
  · simp [dropReference, List.getElem?_modify, found]
  · split
    · simp only [ControlBlock.drop]
      split <;> omega
    · exact Nat.le_refl _

/-- A new control block stands behind the old ones, which keep their numbers and their releases. -/
theorem forward_construct (blocks : List ControlBlock) (block : ControlBlock) :
    Forward blocks (blocks ++ [block]) := by
  intro other block found
  refine ⟨block, ?_, Nat.le_refl _⟩
  rw [List.getElem?_append_left (List.getElem?_eq_some_iff.mp found).1, found]

/-- A dropped reference which starts a release function counts it, in the control block of the
resource the function is given. -/
theorem drop_counts {state : State} {number other : Nat} {resume rest : Option Frame}
    (started : (state.drop number resume).2 = some (.releasing other rest)) :
    ∃ block, (state.drop number resume).1.blocks[other]? = some block ∧ 0 < block.releases := by
  unfold State.drop at started ⊢
  split at started
  · next last =>
    obtain ⟨rfl, -⟩ : number = other ∧ resume = rest := by simpa using started
    unfold dropsLast at last
    cases found : state.blocks[number]? with
    | none => simp [found] at last
    | some block =>
      simp only [found] at last
      refine ⟨block.drop, by simp [dropReference, found], ?_⟩
      simp [ControlBlock.drop, last]
  · cases resume <;> simp at started

/-- A step of a call takes no release back, and counts the one it starts. -/
theorem advance_forward {state : State} {frame : Frame} {after : Progress}
    (moved : state.advance frame = some after) : Forward state.blocks after.state.blocks ∧
      ∀ number resume, after.activity = some (.releasing number resume) →
        ∃ block, after.state.blocks[number]? = some block ∧ 0 < block.releases := by
  cases frame with
  | findLock | insertLock | clearLock =>
    simp only [State.advance] at moved
    split at moved
    · simp at moved
    · obtain rfl := Option.some.inj moved
      exact ⟨forward_refl _, by simp [State.goes]⟩
  | findLookup key =>
    simp only [State.advance] at moved
    split at moved
    · obtain rfl := Option.some.inj moved
      exact ⟨forward_refl _, by simp [State.goes]⟩
    · obtain rfl := Option.some.inj moved
      exact ⟨forward_copy _ _, by simp [State.goes]⟩
  | insertEmplace key candidate =>
    simp only [State.advance] at moved
    split at moved
    · obtain rfl := Option.some.inj moved
      exact ⟨forward_copy _ _, by simp [State.goes]⟩
    · obtain rfl := Option.some.inj moved
      exact ⟨forward_copy _ _, by simp [State.goes]⟩
  | insertConstruct key imported =>
    obtain rfl := Option.some.inj moved
    exact ⟨forward_construct _ _, by simp [State.goes]⟩
  | insertCopy key candidate stored =>
    obtain rfl := Option.some.inj moved
    exact ⟨forward_copy _ _, by simp [State.goes]⟩
  | insertDropNode | insertDropCandidate =>
    obtain rfl := Option.some.inj moved
    exact ⟨forward_drop _ _, fun number resume started => drop_counts started⟩
  | clearDrop entries =>
    cases entries with
    | nil =>
      obtain rfl := Option.some.inj moved
      exact ⟨forward_refl _, by simp⟩
    | cons number rest =>
      obtain rfl := Option.some.inj moved
      exact ⟨forward_drop _ _, fun number resume started => drop_counts started⟩
  | _ =>
    obtain rfl := Option.some.inj moved
    exact ⟨forward_refl _, by simp [State.goes]⟩

/-- Every action keeps the running releases counted.

Proof: an activity from before keeps its counted release. -/
theorem step_releasesCounted (state next : State) (action : Action)
    (counted : ReleasesCounted state) (moved : step state action = some next) :
    ReleasesCounted next := by
  have older {blocks : List ControlBlock} (forward : Forward state.blocks blocks) {number : Nat}
      {resume : Option Frame} (member : .releasing number resume ∈ state.activities) :
      ∃ block, blocks[number]? = some block ∧ 0 < block.releases := by
    obtain ⟨block, found, positive⟩ := counted number resume member
    obtain ⟨later, still, more⟩ := forward number block found
    exact ⟨later, still, Nat.lt_of_lt_of_le positive more⟩
  cases action with
  | find | insertOrDiscardDuplicate | clear =>
    obtain rfl := Option.some.inj moved
    intro number resume member
    rcases List.mem_append.mp member with before | own
    · exact older (forward_refl _) before
    · simp at own
  | advance index =>
    simp only [step] at moved
    split at moved
    · simp at moved
    · next other rest found =>
      obtain rfl := Option.some.inj moved
      intro number resume member
      simp only [State.deliver, List.append_assoc, List.mem_append] at member
      rcases member with earlier | own | following
      · exact older (forward_refl _) (List.mem_of_mem_take earlier)
      · cases rest <;> simp at own
      · exact older (forward_refl _) (List.mem_of_mem_drop following)
    · next frame found =>
      obtain ⟨after, advanced, rfl⟩ := Option.map_eq_some_iff.mp moved
      obtain ⟨forward, started⟩ := advance_forward advanced
      intro number resume member
      simp only [State.deliver, (advance_outside advanced).1, List.append_assoc,
        List.mem_append] at member
      rcases member with earlier | own | following
      · exact older forward (List.mem_of_mem_take earlier)
      · exact started number resume (Option.mem_toList.mp own)
      · exact older forward (List.mem_of_mem_drop following)
  | copyEntry index =>
    simp only [step] at moved
    split at moved
    · simp at moved
    · obtain rfl := Option.some.inj moved
      exact fun number resume member => older (forward_copy _ _) member
  | dropEntry index =>
    simp only [step] at moved
    split at moved
    · simp at moved
    · obtain rfl := Option.some.inj moved
      intro number resume member
      rcases List.mem_append.mp member with before | own
      · exact older (forward_drop _ _) before
      · exact drop_counts (Option.mem_toList.mp own)

/-- Running releases are counted in every reachable state. A release function starts in the step
which counts it, and the count never falls. -/
theorem reachable_releasesCounted {admitted : State → Action → Prop} {state : State}
    (reached : Reachable step admitted (· = initial) state) : ReleasesCounted state := by
  refine Reachable.invariant ?_ ?_ reached
  · rintro start rfl
    simp [ReleasesCounted, initial]
  · intro earlier later action _ counted _ moved
    exact step_releasesCounted earlier later action counted moved

section Reached

variable {state : State} {event other : Event} {key : IpcHandleKey} {number : Nat}

/-- A logged candidate was imported for the key it was inserted under, so an answer never refers
to a resource of another key. -/
theorem Agreed.imported (agreed : Agreed state) (logged : event ∈ state.log)
    (candidate : event.candidate = some (key, number)) :
    ∃ imported, state.resources[number]? = some (key, imported) := by
  have inside : (key, number) ∈ (state.resources.map Prod.fst).zipIdx := by
    apply agreed.logs.registered.mem_iff.mp
    apply List.mem_append_right
    exact List.mem_filterMap.mpr ⟨event, logged, candidate⟩
  rw [List.mem_zipIdx_iff_getElem?, List.getElem?_map] at inside
  obtain ⟨⟨same, imported⟩, found, rfl⟩ := Option.map_eq_some_iff.mp inside
  exact ⟨imported, found⟩

/-- A candidate is inserted once: two events with one candidate are the same event, also under two
keys. -/
theorem Agreed.insertedOnce (agreed : Agreed state) {otherKey : IpcHandleKey}
    (logged : event ∈ state.log) (candidate : event.candidate = some (key, number))
    (otherLogged : other ∈ state.log) (otherCandidate : other.candidate = some (otherKey, number)) :
    event = other := by
  have once : (state.log.filterMap fun event => event.candidate.map Prod.snd).Nodup := by
    have all : ((state.resources.map Prod.fst).zipIdx.map Prod.snd).Nodup := by
      rw [List.zipIdx_map_snd]
      exact List.nodup_range'
    have numbers := (agreed.logs.registered.map Prod.snd).nodup_iff.mpr all
    rw [List.map_append, List.map_filterMap] at numbers
    exact numbers.of_append_right
  have own : event.candidate.map Prod.snd = some number := by rw [candidate]; rfl
  have otherOwn : other.candidate.map Prod.snd = some number := by rw [otherCandidate]; rfl
  exact filterMap_unique once logged otherLogged own otherOwn

/-- An answer is the winner of its key: some logged event inserted that very resource and answered
with it. -/
theorem Agreed.winner (agreed : Agreed state) (logged : event ∈ state.log)
    (answer : event.answer = some (key, number)) : .inserted key number number ∈ state.log :=
  agreed.logs.firstWins.answered logged answer

/-- A returned Entry was the answer of an event, so the resource it refers to is a winner of its
key. -/
theorem Agreed.returned_winner (agreed : Agreed state) {entry : Entry}
    (returned : entry ∈ state.returned) :
    .inserted entry.key entry.number entry.number ∈ state.log := by
  have answered : entry.answer ∈ state.log.filterMap Event.answer := by
    apply agreed.logs.delivered.mem_iff.mpr
    apply List.mem_append_right
    exact List.mem_map_of_mem returned
  obtain ⟨event, logged, answer⟩ := List.mem_filterMap.mp answered
  exact agreed.winner logged answer

/-- A candidate which lost is nobody's answer: neither the map nor any Entry returned so far
refers to it. -/
theorem Agreed.loser (agreed : Agreed state) {candidate result : Nat}
    (logged : .inserted key candidate result ∈ state.log) (lost : candidate ≠ result) :
    candidate ∉ state.cache.map Prod.snd ∧ candidate ∉ state.returned.map Entry.number := by
  have unanswered (otherKey : IpcHandleKey) :
      .inserted otherKey candidate candidate ∉ state.log := by
    intro won
    have same := agreed.insertedOnce logged (by rfl) won (by rfl)
    obtain ⟨-, -, equal⟩ := Event.inserted.inj same
    exact lost equal.symm
  constructor
  · intro member
    obtain ⟨⟨otherKey, _⟩, inside, rfl⟩ := List.mem_map.mp member
    exact unanswered otherKey (agreed.logs.cached otherKey _ inside)
  · intro member
    obtain ⟨entry, inside, rfl⟩ := List.mem_map.mp member
    exact unanswered entry.key (agreed.returned_winner inside)

/-- A running release function is on a resource nothing refers to: its count is zero, and the
count lists every reference. -/
theorem Sound.releasing (sound : Sound state) (counted : ReleasesCounted state)
    {resume : Option Frame} (running : .releasing number resume ∈ state.activities) :
    number ∉ state.references := by
  obtain ⟨block, found, positive⟩ := counted number resume running
  obtain ⟨-, releases⟩ := sound.counted.counts number block found
  intro member
  have referenced : state.references.count number ≠ 0 :=
    Nat.ne_of_gt (List.count_pos_iff.mpr member)
  rw [if_neg referenced] at releases
  omega

/-- While the mutex is held, its holder is a running call and steps to its unlock. -/
theorem Sound.holderUnlocks (sound : Sound state) (locked : state.mutex = true) :
    ∃ (index : Nat) (frame : Frame) (after : Progress),
      state.activities[index]? = some (.running frame) ∧ frame.holdsMutex = true ∧
        state.advance frame = some after ∧ (after.state.mutex = false ∨
          ∃ next, after.activity = some (.running next) ∧ next.toUnlock < frame.toUnlock) := by
  have one := sound.exclusive
  rw [locked, Bool.toNat_true] at one
  obtain ⟨activity, member, holds⟩ : ∃ activity ∈ state.activities,
      activity.holdsMutex = true := by
    apply Classical.byContradiction
    intro nobody
    have unheld : total (Bool.toNat ∘ Activity.holdsMutex) state.activities = 0 := by
      apply total_eq_zero
      intro activity member
      cases free : activity.holdsMutex with
      | false => simp [free]
      | true => exact absurd ⟨activity, member, free⟩ nobody
    omega
  cases activity with
  | releasing other resume => simp [sound.unlocked other resume member] at holds
  | running frame =>
    obtain ⟨index, found⟩ := List.getElem?_of_mem member
    have proceeds : frame.waits = false := by
      cases frame <;> simp_all [Frame.waits, Activity.holdsMutex, Frame.holdsMutex]
    obtain ⟨after, moved⟩ := Option.isSome_iff_exists.mp
      (advance_isSome state frame (.inl proceeds))
    refine ⟨index, frame, after, found, holds, moved, ?_⟩
    have unlocked := (sound.stepped (split_found _ _ _ found) moved).unlocked
    cases frame with
    | findLookup key | insertEmplace key candidate =>
      simp only [State.advance] at moved
      split at moved
      · obtain rfl := Option.some.inj moved
        exact .inr ⟨_, rfl, by simp [Frame.toUnlock]⟩
      · obtain rfl := Option.some.inj moved
        exact .inr ⟨_, rfl, by simp [Frame.toUnlock]⟩
    | insertCopy | clearSwap =>
      obtain rfl := Option.some.inj moved
      exact .inr ⟨_, rfl, by simp [Frame.toUnlock]⟩
    | findUnlock | insertUnlock | clearUnlock =>
      obtain rfl := Option.some.inj moved
      exact .inl rfl
    | insertDropNode key candidate stored =>
      obtain rfl := Option.some.inj moved
      cases last : dropsLast state.blocks candidate with
      | true => simp [State.drop, last, Activity.holdsMutex, Frame.holdsMutex] at unlocked
      | false =>
        refine .inr ⟨.insertCopy key candidate stored, ?_, by simp [Frame.toUnlock]⟩
        simp [State.drop, last]
    | _ => simp [Activity.holdsMutex, Frame.holdsMutex] at holds

end Reached

/-- In every interleaving of finds, insertions, clears, copies and drops of
Entries, the first import of a key wins until the next clear, everyone gets it, a
resource is released once and only when nothing refers to it, and no release
function runs under the mutex. -/
theorem cache_safe (state : State)
    (reached : Reachable step (fun _ _ => True) (· = initial) state) : CacheSafe state := by
  have sound := reachable_sound reached
  have agreed := reachable_agreed reached
  have counted := reachable_releasesCounted reached
  constructor
  · intro later event earlier key number split answer
    have wins := agreed.logs.firstWins
    rw [split] at wins
    exact wins.suffix.2 key number answer
  · intro later event middle other earlier key number result split uncleared answer otherAnswer
    have wins := agreed.logs.firstWins
    rw [split] at wins
    have first := wins.suffix.2 key number answer
    have earlierWins : FirstWins (other :: earlier) := wins.suffix.1.suffix
    have otherFirst := earlierWins.2 key result otherAnswer
    have kept := firstEmplaced_append (event :: middle) _ ?_ otherFirst
    · exact Option.some.inj (first.symm.trans kept)
    · intro member
      rcases List.mem_cons.mp member with same | inside
      · simp [← same, Event.answer] at answer
      · exact uncleared inside
  · exact agreed.logs.delivered
  · intro event logged key number answer
    exact agreed.imported (agreed.winner logged answer) rfl
  · intro number block found
    obtain ⟨-, releases⟩ := sound.counted.counts number block found
    rw [← List.count_eq_zero]
    split at releases <;> omega
  · intro number resume running
    have gone := sound.releasing counted running
    simp only [State.references, List.mem_append, not_or] at gone
    exact gone.1
  · intro key candidate result logged lost
    obtain ⟨uncached, unreturned⟩ := agreed.loser logged lost
    refine ⟨uncached, unreturned, fun unheld => ?_⟩
    have inserted : Event.candidate (.inserted key candidate result) = some (key, candidate) := rfl
    obtain ⟨imported, found⟩ := agreed.imported logged inserted
    have inside : candidate < state.blocks.length := by
      rw [sound.sized]
      exact (List.getElem?_eq_some_iff.mp found).1
    refine ⟨_, List.getElem?_eq_getElem inside, ?_⟩
    obtain ⟨-, releases⟩ := sound.counted.counts candidate _ (List.getElem?_eq_getElem inside)
    rw [releases, if_pos]
    apply List.count_eq_zero_of_not_mem
    simp only [State.references, List.mem_append, not_or]
    refine ⟨⟨uncached, fun member => ?_⟩, fun member => ?_⟩
    · obtain ⟨entry, kept, same⟩ := List.mem_map.mp member
      exact unreturned (List.mem_map.mpr ⟨entry, agreed.kept entry kept, same⟩)
    · obtain ⟨activity, running, held⟩ := List.mem_flatMap.mp member
      exact unheld activity running held
  · exact sound.unlocked
  · intro index activity found
    cases activity with
    | releasing number resume => exact .inl (by simp [step, found])
    | running frame =>
      cases waits : frame.waits with
      | false => exact .inl (by simp [step, found, advance_isSome state frame (.inl waits)])
      | true =>
        cases locked : state.mutex with
        | false => exact .inl (by simp [step, found, advance_isSome state frame (.inr locked)])
        | true => exact .inr ⟨rfl, frame, rfl, waits⟩
  · exact sound.holderUnlocks

/-- Two insertions of one key race, the cache is cleared, and the Entries are
dropped. -/
def raceAndClear : List Action :=
  let key : IpcHandleKey := ⟨42, 7, 0, [], Vector.replicate 64 0⟩
  let imported : ImportedResources := ⟨8192, 1, none, 8192, 2, 4096⟩
  [.insertOrDiscardDuplicate key imported, .insertOrDiscardDuplicate key imported] ++
    [.advance 0, .advance 1] ++ List.replicate 6 (.advance 1) ++ List.replicate 8 (.advance 0) ++
      [.clear] ++ List.replicate 5 (.advance 0) ++ [.dropEntry 0, .dropEntry 0, .advance 0]

/-- Both insertions return the resource which was constructed second, and each
resource is released once. -/
theorem cache_safe_raced : ∃ state,
    run (guarded step (fun _ _ => True)) initial raceAndClear = some state ∧
      state.returned.map Entry.number = [1, 1] ∧
      state.blocks.map ControlBlock.releases = [1, 1] ∧ CacheSafe state := by
  refine ⟨_, rfl, by decide, by decide, cache_safe _ ?_⟩
  exact reachable_run raceAndClear initial _ (.start initial rfl) rfl

end Ros2CudaIpc.IpcHandleCache
