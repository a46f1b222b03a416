import Ros2CudaIpc.CacheReferences
import Mathlib.Data.List.Nodup

/-!
# The first import of a key wins

Between two clears the map answers every find and every insertion of a key with
the candidate which was emplaced first. The log of the critical sections shows
this answer by answer, and each call returns the answer its own critical section
gave. A candidate is logged once, with the key its resource was imported for;
one which lost is therefore never an answer, and nothing but its own insertion
ever refers to it.
-/

namespace Ros2CudaIpc.IpcHandleCache

open Emplacement SharedOwnership Reachability WeightedLists

/-- The key and the resource an event answers. An insertion answers with the stored resource,
which may be another call's candidate. -/
def Event.answer : Event → Option (IpcHandleKey × Nat)
  | .found key number => some (key, number)
  | .inserted key _ result => some (key, result)
  | .cleared => none

/-- The key and the candidate an event inserts, whether the candidate wins or loses against what
is stored. -/
def Event.candidate : Event → Option (IpcHandleKey × Nat)
  | .inserted key candidate _ => some (key, candidate)
  | _ => none

/-- The candidate first inserted for a key since the latest clear. Later insertions of the key do
not change it, since they find it stored. -/
def firstEmplaced (key : IpcHandleKey) : List Event → Option Nat
  | [] | .cleared :: _ => none
  | .found _ _ :: earlier => firstEmplaced key earlier
  | .inserted other candidate _ :: earlier =>
    (firstEmplaced key earlier).or (if other = key then some candidate else none)

/-- Every answer of a log is the candidate first inserted since the latest clear,
an insertion's own candidate included. -/
def FirstWins : List Event → Prop
  | [] => True
  | event :: earlier => FirstWins earlier ∧ ∀ key number, event.answer = some (key, number) →
      firstEmplaced key (event :: earlier) = some number

/-- The resource an insertion has constructed and not yet logged: it waits for the mutex, or has
just taken it. -/
def Frame.pending : Frame → List (IpcHandleKey × Nat)
  | .insertLock key candidate | .insertEmplace key candidate => [(key, candidate)]
  | _ => []

/-- The answer a call has been given and not yet returned. It is fixed inside the critical section
and carried through the rest of the call. -/
def Frame.answered : Frame → List (IpcHandleKey × Nat)
  | .findUnlock key result => result.toList.map (key, ·)
  | .insertDropNode key _ result | .insertCopy key _ result | .insertUnlock key _ result
  | .insertDropCandidate key _ result | .insertReturn key result => [(key, result)]
  | _ => []

/-- The pending resource of an activity. A running release function has the one of the call it
interrupts. -/
def Activity.pending (activity : Activity) : List (IpcHandleKey × Nat) :=
  activity.frame.toList.flatMap Frame.pending

/-- The unreturned answer of an activity. A running release function has the one of the call it
interrupts. -/
def Activity.answered (activity : Activity) : List (IpcHandleKey × Nat) :=
  activity.frame.toList.flatMap Frame.answered

/-- A returned Entry as an answer: the key it was asked for, and the resource it refers to. -/
def Entry.answer (entry : Entry) : IpcHandleKey × Nat := (entry.key, entry.number)

/-- What the log shows about the map, the resources and the answers, given the
resources to be logged and the answers to be returned. -/
structure Logs (state : State) (pending answered : List (IpcHandleKey × Nat)) : Prop where
  current : ∀ key, state.cache.lookup key = firstEmplaced key state.log
  firstWins : FirstWins state.log
  registered : (pending ++ state.log.filterMap Event.candidate).Perm
    (state.resources.map Prod.fst).zipIdx
  delivered : (state.log.filterMap Event.answer).Perm
    (answered ++ state.returned.map Entry.answer)
  cached : ∀ key number, (key, number) ∈ state.cache → .inserted key number number ∈ state.log

/-- The log accounts for all running calls, and every Entry was returned. A moved or dropped Entry
stays in the list of returned ones. -/
structure Agreed (state : State) : Prop where
  logs : Logs state (state.activities.flatMap Activity.pending)
    (state.activities.flatMap Activity.answered)
  kept : ∀ entry ∈ state.entries, entry ∈ state.returned

/-- A step which logs nothing may return an answer it owed: what is owed and what was returned
keep their sum, and all else reads an unchanged state. -/
theorem Logs.quiet {state next : State} {pending answered waiting owed : List (IpcHandleKey × Nat)}
    (logs : Logs state pending answered)
    (same : next.cache = state.cache ∧ next.log = state.log ∧ next.resources = state.resources)
    (waits : waiting.Perm pending)
    (owes : (owed ++ next.returned.map Entry.answer).Perm
      (answered ++ state.returned.map Entry.answer)) : Logs next waiting owed := by
  obtain ⟨cache, log, resources⟩ := same
  constructor
  · rw [cache, log]
    exact logs.current
  · rw [log]
    exact logs.firstWins
  · rw [log, resources]
    exact (waits.append_right _).trans logs.registered
  · rw [log]
    exact logs.delivered.trans owes.symm
  · rw [cache, log]
    exact logs.cached

/-- What remains of a call after a dropped reference is still pending and owed. -/
theorem drop_remains (state : State) (number : Nat) (resume : Option Frame) :
    (state.drop number resume).2.toList.flatMap Activity.pending =
      resume.toList.flatMap Frame.pending ∧
    (state.drop number resume).2.toList.flatMap Activity.answered =
      resume.toList.flatMap Frame.answered := by
  unfold State.drop
  split
  · exact ⟨by simp [Activity.pending, Activity.frame], by simp [Activity.answered, Activity.frame]⟩
  · cases resume <;> simp [Activity.pending, Activity.answered, Activity.frame]

/-- A progress with its returned Entry listed, as delivering the step to its call lists it. -/
def Progress.listed (after : Progress) : State :=
  { after.state with returned := after.returned.toList ++ after.state.returned }

/-- A dropped reference logs nothing, whether or not it was the last one. A release function it
starts interrupts the call and keeps its answer. -/
theorem Logs.drop {state : State} {frame following : Frame} {number : Nat}
    {pending answered : List (IpcHandleKey × Nat)}
    (logs : Logs state (frame.pending ++ pending) (frame.answered ++ answered))
    (waiting : following.pending = frame.pending) (owed : following.answered = frame.answered) :
    Logs (Progress.listed ⟨(state.drop number (some following)).1,
        (state.drop number (some following)).2, none⟩)
      ((state.drop number (some following)).2.toList.flatMap Activity.pending ++ pending)
      ((state.drop number (some following)).2.toList.flatMap Activity.answered ++ answered) := by
  obtain ⟨waits, owes⟩ := drop_remains state number (some following)
  refine logs.quiet ⟨rfl, rfl, rfl⟩ (List.Perm.of_eq ?_) (List.Perm.of_eq ?_)
  · rw [waits]
    simp [waiting]
  · rw [owes]
    simp [owed, Progress.listed, State.drop]

/-- A step which only goes on at a frame logs nothing, and the frame it goes on at has the same
candidate and the same answer. -/
theorem Logs.goes {state next : State} {frame following : Frame}
    {pending answered : List (IpcHandleKey × Nat)}
    (logs : Logs state (frame.pending ++ pending) (frame.answered ++ answered))
    (same : next.cache = state.cache ∧ next.log = state.log ∧ next.resources = state.resources)
    (returned : next.returned = state.returned)
    (waiting : following.pending = frame.pending) (owed : following.answered = frame.answered) :
    Logs (next.goes following).listed
      ((next.goes following).activity.toList.flatMap Activity.pending ++ pending)
      ((next.goes following).activity.toList.flatMap Activity.answered ++ answered) := by
  refine logs.quiet same (List.Perm.of_eq ?_) (List.Perm.of_eq ?_)
  · simp [State.goes, Activity.pending, Activity.frame, waiting]
  · simp [State.goes, Activity.answered, Activity.frame, owed, Progress.listed, returned]

/-- A found entry is the one which its key's first insertion emplaced, so the answer which the
call owes from now on agrees with every other one for the key. -/
theorem Logs.found {state : State} {key : IpcHandleKey} {number : Nat}
    {pending answered : List (IpcHandleKey × Nat)}
    (logs : Logs state (Frame.pending (.findLookup key) ++ pending)
      (Frame.answered (.findLookup key) ++ answered))
    (found : state.cache.lookup key = some number) :
    let after := State.goes { state.copy number with log := .found key number :: state.log }
      (.findUnlock key (some number))
    Logs after.listed (after.activity.toList.flatMap Activity.pending ++ pending)
      (after.activity.toList.flatMap Activity.answered ++ answered) := by
  have first : firstEmplaced key state.log = some number := (logs.current key).symm.trans found
  constructor
  · exact logs.current
  · refine ⟨logs.firstWins, fun other result same => ?_⟩
    obtain ⟨rfl, rfl⟩ : key = other ∧ number = result := by simpa [Event.answer] using same
    exact first
  · exact logs.registered
  · simpa [Progress.listed, State.goes, State.copy, Event.answer, Activity.answered,
      Activity.frame, Frame.answered] using logs.delivered
  · intro other result member
    exact List.mem_cons_of_mem _ (logs.cached other result member)

/-- A constructed candidate is pending until its insertion is logged. Its number is new, so no
event names it yet. -/
theorem Logs.constructed {state : State} {key : IpcHandleKey} {imported : ImportedResources}
    {pending answered : List (IpcHandleKey × Nat)}
    (logs : Logs state (Frame.pending (.insertConstruct key imported) ++ pending)
      (Frame.answered (.insertConstruct key imported) ++ answered)) :
    let after := State.goes { state with
        resources := state.resources ++ [(key, imported)]
        blocks := state.blocks ++ [ControlBlock.construct] }
      (.insertLock key state.resources.length)
    Logs after.listed (after.activity.toList.flatMap Activity.pending ++ pending)
      (after.activity.toList.flatMap Activity.answered ++ answered) := by
  refine ⟨logs.current, logs.firstWins, ?_, logs.delivered, logs.cached⟩
  have registered := logs.registered
  simp only [Progress.listed, State.goes, List.map_append, List.zipIdx_append, List.map_cons,
    List.map_nil, List.length_map]
  refine List.Perm.trans ?_ (registered.append_right _)
  refine List.perm_iff_count.mpr fun link => ?_
  simp [Activity.pending, Activity.frame, Frame.pending, List.count_cons]
  omega

/-- Without an entry for its key a candidate leaves the pending ones for the log and for the map,
and wins its key. -/
theorem Logs.emplaced {state : State} {key : IpcHandleKey} {candidate : Nat}
    {pending answered : List (IpcHandleKey × Nat)}
    (logs : Logs state (Frame.pending (.insertEmplace key candidate) ++ pending)
      (Frame.answered (.insertEmplace key candidate) ++ answered))
    (found : state.cache.lookup key = none) :
    let after := State.goes { state.copy candidate with
        cache := emplace key candidate state.cache
        log := .inserted key candidate candidate :: state.log }
      (.insertCopy key candidate candidate)
    Logs after.listed (after.activity.toList.flatMap Activity.pending ++ pending)
      (after.activity.toList.flatMap Activity.answered ++ answered) := by
  have registered : (pending ++ (key, candidate) :: state.log.filterMap Event.candidate).Perm
      (state.resources.map Prod.fst).zipIdx :=
    List.perm_middle.trans logs.registered
  have absent : firstEmplaced key state.log = none := (logs.current key).symm.trans found
  constructor
  · intro other
    simp only [Progress.listed, State.goes, State.copy, lookup_emplace, firstEmplaced,
      logs.current other]
  · refine ⟨logs.firstWins, fun other result same => ?_⟩
    obtain ⟨rfl, rfl⟩ : key = other ∧ candidate = result := by
      simpa [Event.answer] using same
    simp [firstEmplaced, absent]
  · simpa [Progress.listed, State.goes, State.copy, Event.candidate, Activity.pending,
      Activity.frame, Frame.pending] using registered
  · simpa [Progress.listed, State.goes, State.copy, Event.answer, Activity.answered,
      Activity.frame, Frame.answered] using logs.delivered
  · intro other result member
    have appended : emplace key candidate state.cache = state.cache ++ [(key, candidate)] := by
      simp [emplace, found]
    simp only [Progress.listed, State.goes, State.copy, appended] at member ⊢
    rcases List.mem_append.mp member with older | own
    · exact List.mem_cons_of_mem _ (logs.cached other result older)
    · obtain ⟨rfl, rfl⟩ : other = key ∧ result = candidate := by simpa using own
      exact List.mem_cons_self ..

/-- Behind an entry for its key a candidate leaves the pending ones for the log only. The answer is
the entry, as it is for every other call with the key. -/
theorem Logs.discarded {state : State} {key : IpcHandleKey} {candidate stored : Nat}
    {pending answered : List (IpcHandleKey × Nat)}
    (logs : Logs state (Frame.pending (.insertEmplace key candidate) ++ pending)
      (Frame.answered (.insertEmplace key candidate) ++ answered))
    (found : state.cache.lookup key = some stored) :
    let after := State.goes { state.copy candidate with
        log := .inserted key candidate stored :: state.log }
      (.insertDropNode key candidate stored)
    Logs after.listed (after.activity.toList.flatMap Activity.pending ++ pending)
      (after.activity.toList.flatMap Activity.answered ++ answered) := by
  have registered : (pending ++ (key, candidate) :: state.log.filterMap Event.candidate).Perm
      (state.resources.map Prod.fst).zipIdx :=
    List.perm_middle.trans logs.registered
  have first : firstEmplaced key state.log = some stored := (logs.current key).symm.trans found
  have unchanged (other : IpcHandleKey) :
      firstEmplaced other (.inserted key candidate stored :: state.log) =
        firstEmplaced other state.log := by
    by_cases same : key = other
    · subst same
      simp [firstEmplaced, first]
    · simp [firstEmplaced, same]
  constructor
  · intro other
    exact (logs.current other).trans (unchanged other).symm
  · refine ⟨logs.firstWins, fun other result same => ?_⟩
    obtain ⟨rfl, rfl⟩ : key = other ∧ stored = result := by simpa [Event.answer] using same
    exact (unchanged key).trans first
  · simpa [Progress.listed, State.goes, State.copy, Event.candidate, Activity.pending,
      Activity.frame, Frame.pending] using registered
  · simpa [Progress.listed, State.goes, State.copy, Event.answer, Activity.answered,
      Activity.frame, Frame.answered] using logs.delivered
  · intro other result member
    exact List.mem_cons_of_mem _ (logs.cached other result member)

/-- Every step of a call keeps the log's account. The cases are the frames; those which log or
construct have their lemma above, and the others are quiet. -/
theorem Logs.advance {state : State} {frame : Frame} {after : Progress}
    {pending answered : List (IpcHandleKey × Nat)}
    (logs : Logs state (frame.pending ++ pending) (frame.answered ++ answered))
    (moved : state.advance frame = some after) :
    Logs after.listed (after.activity.toList.flatMap Activity.pending ++ pending)
      (after.activity.toList.flatMap Activity.answered ++ answered) := by
  cases frame with
  | findLock key | insertLock key candidate | clearLock =>
    simp only [State.advance] at moved
    split at moved
    · simp at moved
    · obtain rfl := Option.some.inj moved
      exact logs.goes ⟨rfl, rfl, rfl⟩ rfl rfl rfl
  | findLookup key =>
    simp only [State.advance] at moved
    cases found : state.cache.lookup key with
    | none =>
      simp only [found, Option.some.injEq] at moved
      subst moved
      exact logs.goes ⟨rfl, rfl, rfl⟩ rfl rfl rfl
    | some number =>
      simp only [found, Option.some.injEq] at moved
      subst moved
      exact logs.found found
  | findUnlock key result =>
    obtain rfl := Option.some.inj moved
    refine logs.quiet ⟨rfl, rfl, rfl⟩ (List.Perm.refl _) (List.perm_iff_count.mpr fun answer => ?_)
    cases result <;> simp [Progress.listed, Frame.answered, Entry.answer, List.count_cons]
    omega
  | insertConstruct key imported =>
    obtain rfl := Option.some.inj moved
    exact logs.constructed
  | insertEmplace key candidate =>
    simp only [State.advance] at moved
    cases found : state.cache.lookup key with
    | none =>
      simp only [found, Option.some.injEq] at moved
      subst moved
      exact logs.emplaced found
    | some stored =>
      simp only [found, Option.some.injEq] at moved
      subst moved
      exact logs.discarded found
  | insertDropNode key candidate stored =>
    obtain rfl := Option.some.inj moved
    exact logs.drop rfl rfl
  | insertCopy key candidate stored | insertUnlock key candidate result =>
    obtain rfl := Option.some.inj moved
    exact logs.goes ⟨rfl, rfl, rfl⟩ rfl rfl rfl
  | insertDropCandidate key candidate result =>
    obtain rfl := Option.some.inj moved
    exact logs.drop rfl rfl
  | insertReturn key result =>
    obtain rfl := Option.some.inj moved
    refine logs.quiet ⟨rfl, rfl, rfl⟩ (List.Perm.refl _) (List.perm_iff_count.mpr fun answer => ?_)
    simp [Progress.listed, Frame.answered, Entry.answer, List.count_cons]
    omega
  | clearSwap =>
    obtain rfl := Option.some.inj moved
    constructor
    · exact fun _ => rfl
    · exact ⟨logs.firstWins, by simp [Event.answer]⟩
    · exact logs.registered
    · exact logs.delivered
    · simp [Progress.listed, State.goes]
  | clearUnlock entries =>
    obtain rfl := Option.some.inj moved
    exact logs.goes ⟨rfl, rfl, rfl⟩ rfl rfl rfl
  | clearDrop entries =>
    cases entries with
    | nil =>
      obtain rfl := Option.some.inj moved
      exact logs.quiet ⟨rfl, rfl, rfl⟩ (List.Perm.refl _) (List.Perm.refl _)
    | cons number rest =>
      obtain rfl := Option.some.inj moved
      exact logs.drop rfl rfl

/-- Every action keeps the log's account. Beginning a call, dropping an Entry and resuming behind
a release function log nothing. -/
theorem step_agreed (state next : State) (action : Action) (agreed : Agreed state)
    (moved : step state action = some next) : Agreed next := by
  obtain ⟨logs, kept⟩ := agreed
  cases action with
  | find | insertOrDiscardDuplicate | clear =>
    obtain rfl := Option.some.inj moved
    refine ⟨logs.quiet ⟨rfl, rfl, rfl⟩ (List.Perm.of_eq ?_) (List.Perm.of_eq ?_), kept⟩
    · simp [State.begin, Activity.pending, Activity.frame, Frame.pending]
    · simp [State.begin, Activity.answered, Activity.frame, Frame.answered]
  | advance index =>
    simp only [step] at moved
    split at moved
    · simp at moved
    · next number resume found =>
      obtain rfl := Option.some.inj moved
      have split := split_found state.activities index _ found
      simp only [State.deliver]
      generalize state.activities.take index = before at split ⊢
      generalize state.activities.drop (index + 1) = later at split ⊢
      rw [split] at logs
      refine ⟨logs.quiet ⟨rfl, rfl, rfl⟩ (List.Perm.of_eq ?_) (List.Perm.of_eq ?_), ?_⟩
      · cases resume <;> simp [Activity.pending, Activity.frame]
      · cases resume <;> simp [Activity.answered, Activity.frame]
      · intro entry member
        exact kept entry (by simpa using member)
    · next frame found =>
      obtain ⟨after, advanced, rfl⟩ := Option.map_eq_some_iff.mp moved
      obtain ⟨activities, entries, returned⟩ := advance_outside advanced
      have split := split_found state.activities index _ found
      have earlier : Logs state
          (frame.pending ++ (state.activities.eraseIdx index).flatMap Activity.pending)
          (frame.answered ++ (state.activities.eraseIdx index).flatMap Activity.answered) := by
        refine logs.quiet ⟨rfl, rfl, rfl⟩ (List.perm_iff_count.mpr fun link => ?_)
          (List.perm_iff_count.mpr fun link => ?_)
        all_goals
          rw [List.eraseIdx_eq_take_drop_succ]
          nth_rewrite 3 [split]
          simp [Activity.pending, Activity.answered, Activity.frame]
          omega
      have later := earlier.advance advanced
      rw [List.eraseIdx_eq_take_drop_succ] at later
      refine ⟨later.quiet ⟨rfl, rfl, rfl⟩ (List.perm_iff_count.mpr fun link => ?_)
        (List.perm_iff_count.mpr fun link => ?_), ?_⟩
      · simp [State.deliver, activities]
        omega
      · simp [State.deliver, Progress.listed, activities]
        omega
      · intro entry member
        simp only [State.deliver, entries, returned] at member ⊢
        rcases List.mem_append.mp member with older | own
        · exact List.mem_append_right _ (kept entry older)
        · exact List.mem_append_left _ own
  | copyEntry index =>
    simp only [step] at moved
    cases found : state.entries[index]? with
    | none => simp [found] at moved
    | some entry =>
      simp only [found, Option.some.injEq] at moved
      subst moved
      refine ⟨logs.quiet ⟨rfl, rfl, rfl⟩ (List.Perm.refl _) (List.Perm.refl _), ?_⟩
      intro other member
      rcases List.mem_append.mp member with older | own
      · exact kept other older
      · exact (List.mem_singleton.mp own) ▸ kept entry (List.mem_of_getElem? found)
  | dropEntry index =>
    simp only [step] at moved
    cases found : state.entries[index]? with
    | none => simp [found] at moved
    | some entry =>
      simp only [found, Option.some.injEq] at moved
      subst moved
      obtain ⟨waits, owes⟩ := drop_remains state entry.number none
      refine ⟨logs.quiet ⟨rfl, rfl, rfl⟩ (List.Perm.of_eq ?_) (List.Perm.of_eq ?_), ?_⟩
      · simp [waits]
      · rw [List.flatMap_append, owes]
        simp [State.drop]
      · intro other member
        exact kept other (List.mem_of_mem_eraseIdx member)

/-- The log accounts for every reachable state, whatever the callers are admitted to do. By
induction on the run from the empty cache. -/
theorem reachable_agreed {admitted : State → Action → Prop} {state : State}
    (reached : Reachable step admitted (· = initial) state) : Agreed state := by
  refine Reachable.invariant ?_ ?_ reached
  · rintro start rfl
    refine ⟨⟨fun _ => rfl, trivial, List.Perm.refl _, List.Perm.refl _, ?_⟩, ?_⟩
    · simp [initial]
    · simp [initial]
  · intro earlier later action _ agreed _ moved
    exact step_agreed earlier later action agreed moved

/-- The first candidate of a key stays the first until the next clear, however many finds and
insertions are logged in between. -/
theorem firstEmplaced_append {key : IpcHandleKey} {number : Nat} (middle earlier : List Event)
    (uncleared : .cleared ∉ middle) (first : firstEmplaced key earlier = some number) :
    firstEmplaced key (middle ++ earlier) = some number := by
  induction middle with
  | nil => exact first
  | cons event rest inductionHypothesis =>
    have following := inductionHypothesis (fun member => uncleared (List.mem_cons_of_mem _ member))
    cases event with
    | found other answered => exact following
    | inserted other candidate result =>
      simp [firstEmplaced, following]
    | cleared => exact absurd (List.mem_cons_self ..) uncleared

/-- Any suffix of a log in which the first wins is such a log. -/
theorem FirstWins.suffix {later earlier : List Event} (wins : FirstWins (later ++ earlier)) :
    FirstWins earlier := by
  induction later with
  | nil => exact wins
  | cons event rest inductionHypothesis => exact inductionHypothesis wins.1

/-- The first candidate was inserted with itself as the answer. The events between that insertion
and the end of the log do not clear the map. -/
theorem FirstWins.winner {key : IpcHandleKey} {number : Nat} (log : List Event)
    (wins : FirstWins log) (first : firstEmplaced key log = some number) :
    .inserted key number number ∈ log := by
  induction log with
  | nil => simp [firstEmplaced] at first
  | cons event earlier inductionHypothesis =>
    obtain ⟨older, own⟩ := wins
    cases event with
    | found other answered =>
      exact List.mem_cons_of_mem _ (inductionHypothesis older first)
    | cleared => simp [firstEmplaced] at first
    | inserted other candidate result =>
      cases present : firstEmplaced key earlier with
      | some stored =>
        have same : stored = number := by simpa [firstEmplaced, present] using first
        exact List.mem_cons_of_mem _ (inductionHypothesis older (same ▸ present))
      | none =>
        simp only [firstEmplaced, present, Option.none_or] at first
        split at first
        · next same =>
          obtain rfl := Option.some.inj first
          subst same
          have answered := own other result rfl
          simp only [firstEmplaced, present, Option.none_or, if_true,
            Option.some.injEq] at answered
          rw [answered]
          exact List.mem_cons_self ..
        · simp at first

/-- Every answer of the log is a winner of its key: some insertion with that very resource
answered with itself. -/
theorem FirstWins.answered {key : IpcHandleKey} {number : Nat} {log : List Event} {event : Event}
    (wins : FirstWins log) (logged : event ∈ log) (answer : event.answer = some (key, number)) :
    .inserted key number number ∈ log := by
  obtain ⟨later, earlier, rfl⟩ := List.append_of_mem logged
  have own := wins.suffix
  exact List.mem_append_right _ (FirstWins.winner _ own (own.2 key number answer))

/-- An entry of a list of options which occurs once comes from one element. -/
theorem filterMap_unique {α β : Type} {select : α → Option β} {entries : List α} {left right : α}
    {value : β} (once : (entries.filterMap select).Nodup) (leftIn : left ∈ entries)
    (rightIn : right ∈ entries) (leftValue : select left = some value)
    (rightValue : select right = some value) : left = right := by
  obtain ⟨before, after, rfl⟩ := List.append_of_mem leftIn
  rw [List.filterMap_append, List.filterMap_cons_some leftValue, List.nodup_append,
    List.nodup_cons] at once
  obtain ⟨_, ⟨notAfter, _⟩, apart⟩ := once
  rcases List.mem_append.mp rightIn with earlier | rest
  · have inside := List.mem_filterMap.mpr ⟨right, earlier, rightValue⟩
    exact absurd rfl (apart value inside value (List.mem_cons_self ..))
  · rcases List.mem_cons.mp rest with same | later
    · exact same.symm
    · exact absurd (List.mem_filterMap.mpr ⟨right, later, rightValue⟩) notAfter

end Ros2CudaIpc.IpcHandleCache
