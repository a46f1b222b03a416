import Ros2CudaIpc.IpcHandleCache
import Ros2CudaIpc.WeightedLists

/-!
# Who refers to a cached resource, and who holds the mutex

The control blocks count the map's, the callers' and the local references. Every
copy inside a critical section is made from a reference which exists: a hit and
an insertion copy from the map, which nobody else changes while the mutex is
held. A duplicate's map node is destroyed under the mutex, but the candidate is
still held, so its destruction releases nothing; every other pointer is dropped
after its call's unlock.
-/

namespace Ros2CudaIpc.IpcHandleCache

open Emplacement SharedOwnership Reachability WeightedLists

/-- The map entry a frame is about to copy from. A find copies in the step which finds, so only
insertions have one. -/
def Frame.linked : Frame → List (IpcHandleKey × Nat)
  | .insertDropNode key _ stored | .insertCopy key _ stored => [(key, stored)]
  | _ => []

/-- The frame at which an activity goes on: its own, or the one of the call which a release
function interrupts. -/
def Activity.frame : Activity → Option Frame
  | .running frame => some frame
  | .releasing _ resume => resume

/-- The references are counted, the mutex has one holder, a frame's map entry is
there, and no release function runs under the mutex. -/
structure Sound (state : State) : Prop where
  counted : Counted state.blocks state.references
  sized : state.blocks.length = state.resources.length
  exclusive : total (Bool.toNat ∘ Activity.holdsMutex) state.activities = state.mutex.toNat
  linked : ∀ activity ∈ state.activities, ∀ frame, activity.frame = some frame →
    ∀ link ∈ frame.linked, link ∈ state.cache
  unlocked : ∀ number resume, Activity.releasing number resume ∈ state.activities →
    (Activity.releasing number resume).holdsMutex = false

/-- A linked frame is inside its critical section, so nobody else changes the map before it
copies. -/
theorem Frame.linked_holds {frame : Frame} {link : IpcHandleKey × Nat}
    (member : link ∈ frame.linked) : frame.holdsMutex = true := by
  cases frame <;> simp_all [Frame.linked, Frame.holdsMutex]

/-- What remains of a call after a dropped reference, with or without a release
function in between. -/
theorem drop_activity (state : State) (number : Nat) (resume : Option Frame) :
    (state.drop number resume).2.bind Activity.frame = resume ∧
      (state.drop number resume).2.toList.flatMap Activity.held =
        resume.toList.flatMap Frame.held ∧
      (state.drop number resume).2.any Activity.holdsMutex = resume.any Frame.holdsMutex := by
  unfold State.drop
  split
  · exact ⟨rfl, by simp [Activity.held], rfl⟩
  · cases resume with
    | none => exact ⟨rfl, rfl, rfl⟩
    | some frame => exact ⟨rfl, by simp [Activity.held], rfl⟩

/-- What a step of a call does to the references and the mutex, given the references outside it:
the count stays exact, and the mutex has at most one holder. -/
structure Stepped (state : State) (frame : Frame) (outside : List Nat) (after : Progress) :
    Prop where
  counted : Counted after.state.blocks (after.state.cache.map Prod.snd ++
    (after.returned.toList.map Entry.number ++ after.activity.toList.flatMap Activity.held) ++
      outside)
  sized : after.state.blocks.length = after.state.resources.length
  mutex : (after.activity.any Activity.holdsMutex).toNat + state.mutex.toNat =
    frame.holdsMutex.toNat + after.state.mutex.toNat
  cache : after.state.cache = state.cache ∨ frame.holdsMutex = true
  kept : frame ≠ .clearSwap → ∀ link ∈ state.cache, link ∈ after.state.cache
  linked : ∀ next, after.activity.bind Activity.frame = some next → ∀ link ∈ next.linked,
    link ∈ after.state.cache
  unlocked : ∀ number resume, after.activity = some (.releasing number resume) →
    (Activity.releasing number resume).holdsMutex = false

/-- A step which copies, drops and stores nothing keeps the count. The mutex may change hands only
as the two frames say. -/
theorem stepped_goes {state next : State} {frame following : Frame} {outside : List Nat}
    (counted : Counted state.blocks (state.cache.map Prod.snd ++ (frame.held ++ outside)))
    (sized : state.blocks.length = state.resources.length)
    (same : next.blocks = state.blocks ∧ next.resources = state.resources ∧
      next.cache = state.cache)
    (held : following.held = frame.held)
    (mutex : following.holdsMutex.toNat + state.mutex.toNat =
      frame.holdsMutex.toNat + next.mutex.toNat)
    (linked : following.linked = []) : Stepped state frame outside (next.goes following) := by
  obtain ⟨blocks, resources, cache⟩ := same
  constructor
  · refine Counted.permute (blocks ▸ counted) (List.Perm.of_eq ?_)
    simp [State.goes, Activity.held, held, cache]
  · simp only [State.goes, blocks, resources, sized]
  · exact mutex
  · exact .inl cache
  · intro _ link member
    exact cache ▸ member
  · rintro other rest link member
    obtain rfl := Option.some.inj rest
    simp [linked] at member
  · simp [State.goes]

/-- A step which drops a reference and goes on at a frame. Inside a critical section another
reference remains, so no release function can start there. -/
theorem stepped_drop {state : State} {frame following : Frame} {outside : List Nat} {number : Nat}
    (counted : Counted state.blocks (state.cache.map Prod.snd ++ (frame.held ++ outside)))
    (sized : state.blocks.length = state.resources.length)
    (held : frame.held = number :: following.held)
    (mutex : following.holdsMutex = frame.holdsMutex)
    (linked : ∀ link ∈ following.linked, link ∈ state.cache)
    (unlocked : following.holdsMutex = true → number ∈ following.held) :
    Stepped state frame outside ⟨(state.drop number (some following)).1,
      (state.drop number (some following)).2, none⟩ := by
  obtain ⟨rest, references, holds⟩ := drop_activity state number (some following)
  have removed : (state.cache.map Prod.snd ++ (frame.held ++ outside)).Perm
      (number :: (state.cache.map Prod.snd ++ (following.held ++ outside))) := by
    rw [held, List.cons_append]
    exact List.perm_middle
  constructor
  · rw [references]
    refine Counted.permute (counted.drop removed) (List.Perm.of_eq ?_)
    simp [State.drop]
  · simpa [State.drop, dropReference] using sized
  · simp only [holds, Option.any_some, mutex]
    rfl
  · exact .inl rfl
  · exact fun _ link member => member
  · rintro other found link member
    obtain rfl : following = other := Option.some.inj (rest.symm.trans found)
    exact linked link member
  · intro other resume released
    have resumes : some following = resume := by
      rw [← rest]
      simp only at released
      rw [released]
      rfl
    subst resumes
    have last : dropsLast state.blocks number = true := by
      by_cases last : dropsLast state.blocks number = true
      · exact last
      · simp [State.drop, last] at released
    have gone := (counted.dropsLast_iff removed).mp last
    cases inside : following.holdsMutex with
    | false => exact inside
    | true =>
      have present := unlocked inside
      exact absurd (List.mem_append_right _ (List.mem_append_left _ present)) gone

/-- A step which copies a reference and goes on at a frame. It may put the copy into the map, which
only a frame inside the critical section does. -/
theorem stepped_copy {state : State} {frame following : Frame} {outside : List Nat} {number : Nat}
    {cache : List (IpcHandleKey × Nat)} {log : List Event}
    (counted : Counted state.blocks (state.cache.map Prod.snd ++ (frame.held ++ outside)))
    (sized : state.blocks.length = state.resources.length)
    (member : number ∈ state.cache.map Prod.snd ++ (frame.held ++ outside))
    (held : (cache.map Prod.snd ++ (following.held ++ outside)).Perm
      (number :: (state.cache.map Prod.snd ++ (frame.held ++ outside))))
    (mutex : following.holdsMutex = frame.holdsMutex)
    (stored : cache = state.cache ∨ frame.holdsMutex = true)
    (kept : ∀ link ∈ state.cache, link ∈ cache)
    (linked : ∀ link ∈ following.linked, link ∈ cache) :
    Stepped state frame outside
      (State.goes { state.copy number with cache := cache, log := log } following) := by
  constructor
  · refine counted.copy member ((List.Perm.of_eq ?_).trans held)
    simp [State.goes, Activity.held]
  · simpa [State.goes, State.copy, copyReference] using sized
  · simp [State.goes, Activity.holdsMutex, mutex, State.copy]
  · exact stored
  · exact fun _ => kept
  · rintro other rest link present
    obtain rfl := Option.some.inj rest
    exact linked link present
  · simp [State.goes]

/-- A step which ends a call returns the references its frame still holds, or has none. -/
theorem stepped_ends {state : State} {frame : Frame} {outside : List Nat} {mutex : Bool}
    {returned : Option Entry}
    (counted : Counted state.blocks (state.cache.map Prod.snd ++ (frame.held ++ outside)))
    (sized : state.blocks.length = state.resources.length)
    (held : frame.held = returned.toList.map Entry.number)
    (left : state.mutex.toNat = frame.holdsMutex.toNat + mutex.toNat) :
    Stepped state frame outside ⟨{ state with mutex := mutex }, none, returned⟩ := by
  constructor
  · refine counted.permute (List.Perm.of_eq ?_)
    simp [held]
  · exact sized
  · simpa using left
  · exact .inl rfl
  · exact fun _ link member => member
  · simp
  · simp

/-- A found entry is in the map, with the key it was looked up by. -/
theorem lookup_mem {cache : List (IpcHandleKey × Nat)} {key : IpcHandleKey} {number : Nat}
    (found : cache.lookup key = some number) : (key, number) ∈ cache := by
  obtain ⟨before, after, split, -⟩ := List.lookup_eq_some_iff.mp found
  simp [split]

/-- The constructed candidate is a new block with the one pointer of its call. -/
theorem stepped_construct {state : State} {key : IpcHandleKey} {imported : ImportedResources}
    {outside : List Nat} {after : Progress}
    (counted : Counted state.blocks
      (state.cache.map Prod.snd ++ (Frame.held (.insertConstruct key imported) ++ outside)))
    (sized : state.blocks.length = state.resources.length)
    (moved : state.advance (.insertConstruct key imported) = some after) :
    Stepped state (.insertConstruct key imported) outside after := by
  obtain rfl := Option.some.inj moved
  constructor
  · refine counted.construct (List.perm_iff_count.mpr fun n => ?_)
    simp [State.goes, Activity.held, Frame.held, List.count_cons, sized]
    omega
  · simp [State.goes, sized]
  · rfl
  · exact .inl rfl
  · exact fun _ link member => member
  · rintro other rest link member
    obtain rfl := Option.some.inj rest
    simp [Frame.linked] at member
  · simp [State.goes]

/-- The node which `emplace` makes has a copy of the candidate's pointer. It is linked under a
new key, and stays with its call where the key has an entry. -/
theorem stepped_emplace {state : State} {key : IpcHandleKey} {candidate : Nat} {outside : List Nat}
    {after : Progress}
    (counted : Counted state.blocks
      (state.cache.map Prod.snd ++ (Frame.held (.insertEmplace key candidate) ++ outside)))
    (sized : state.blocks.length = state.resources.length)
    (moved : state.advance (.insertEmplace key candidate) = some after) :
    Stepped state (.insertEmplace key candidate) outside after := by
  have own : candidate ∈ state.cache.map Prod.snd ++ (Frame.held (.insertEmplace key candidate) ++
      outside) := by
    simp [Frame.held]
  simp only [State.advance] at moved
  cases found : state.cache.lookup key with
  | none =>
    simp only [found, Option.some.injEq] at moved
    subst moved
    have appended : emplace key candidate state.cache = state.cache ++ [(key, candidate)] := by
      simp [emplace, found]
    refine stepped_copy counted sized own (List.perm_iff_count.mpr fun n => ?_) rfl (.inr rfl)
      (fun link present => ?_) fun link present => ?_
    · simp [Frame.held, List.count_cons, appended]
      omega
    · simp [appended, present]
    · obtain rfl : link = (key, candidate) := by simpa [Frame.linked] using present
      simp [appended]
  | some stored =>
    simp only [found, Option.some.injEq] at moved
    subst moved
    refine stepped_copy counted sized own (List.perm_iff_count.mpr fun n => ?_) rfl (.inl rfl)
      (fun _ present => present) fun link present => ?_
    · simp [Frame.held, List.count_cons, State.copy]
      omega
    · obtain rfl : link = (key, stored) := by simpa [Frame.linked] using present
      exact lookup_mem found

/-- `clear` takes the pointers of the cache over as they are. -/
theorem stepped_swap {state : State} {outside : List Nat} {after : Progress}
    (counted : Counted state.blocks
      (state.cache.map Prod.snd ++ (Frame.held .clearSwap ++ outside)))
    (sized : state.blocks.length = state.resources.length)
    (moved : state.advance .clearSwap = some after) :
    Stepped state .clearSwap outside after := by
  obtain rfl := Option.some.inj moved
  constructor
  · refine counted.permute (List.Perm.of_eq ?_)
    simp [State.goes, Activity.held, Frame.held]
  · exact sized
  · rfl
  · exact .inr rfl
  · exact fun other => absurd rfl other
  · rintro other rest link member
    obtain rfl := Option.some.inj rest
    simp [Frame.linked] at member
  · simp [State.goes]

/-- Every step of a call keeps its references counted and its hold on the mutex known.

Proof: the candidate's own pointer outlives the node, so nothing is released here. -/
theorem stepped_advance {state : State} {frame : Frame} {outside : List Nat} {after : Progress}
    (counted : Counted state.blocks (state.cache.map Prod.snd ++ (frame.held ++ outside)))
    (sized : state.blocks.length = state.resources.length)
    (linked : ∀ link ∈ frame.linked, link ∈ state.cache)
    (holds : frame.holdsMutex = true → state.mutex = true)
    (moved : state.advance frame = some after) : Stepped state frame outside after := by
  cases frame with
  | findLock key | insertLock key candidate | clearLock =>
    simp only [State.advance] at moved
    split at moved
    · simp at moved
    next free =>
      obtain rfl := Option.some.inj moved
      refine stepped_goes counted sized ⟨rfl, rfl, rfl⟩ rfl ?_ rfl
      simp [Frame.holdsMutex, free]
  | findLookup key =>
    simp only [State.advance] at moved
    cases found : state.cache.lookup key with
    | none =>
      simp only [found, Option.some.injEq] at moved
      subst moved
      exact stepped_goes counted sized ⟨rfl, rfl, rfl⟩ rfl rfl rfl
    | some number =>
      simp only [found, Option.some.injEq] at moved
      subst moved
      have member : number ∈ state.cache.map Prod.snd :=
        List.mem_map_of_mem (lookup_mem found)
      refine stepped_copy counted sized (List.mem_append_left _ member)
        (List.perm_iff_count.mpr fun n => ?_) rfl (.inl rfl) (fun _ present => present)
        (by simp [Frame.linked])
      simp [Frame.held, List.count_cons, State.copy]
      omega
  | findUnlock key result =>
    obtain rfl := Option.some.inj moved
    refine stepped_ends counted sized ?_ (by simp [Frame.holdsMutex, holds rfl])
    cases result <;> rfl
  | insertConstruct key imported => exact stepped_construct counted sized moved
  | insertEmplace key candidate => exact stepped_emplace counted sized moved
  | insertDropNode key candidate stored =>
    obtain rfl := Option.some.inj moved
    exact stepped_drop counted sized rfl rfl linked (fun _ => List.mem_singleton.mpr rfl)
  | insertCopy key candidate stored =>
    obtain rfl := Option.some.inj moved
    have member : stored ∈ state.cache.map Prod.snd :=
      List.mem_map_of_mem (linked (key, stored) (by simp [Frame.linked]))
    refine stepped_copy counted sized (List.mem_append_left _ member)
      (List.perm_iff_count.mpr fun n => ?_) rfl (.inl rfl) (fun _ present => present)
      (by simp [Frame.linked])
    simp [Frame.held, List.count_cons]
    omega
  | insertUnlock key candidate result =>
    obtain rfl := Option.some.inj moved
    refine stepped_goes counted sized ⟨rfl, rfl, rfl⟩ rfl ?_ rfl
    simp [Frame.holdsMutex, holds rfl]
  | insertDropCandidate key candidate result =>
    obtain rfl := Option.some.inj moved
    exact stepped_drop counted sized rfl rfl (by simp [Frame.linked]) (by simp [Frame.holdsMutex])
  | insertReturn key result =>
    obtain rfl := Option.some.inj moved
    exact stepped_ends counted sized rfl (by simp [Frame.holdsMutex])
  | clearSwap => exact stepped_swap counted sized moved
  | clearUnlock entries =>
    obtain rfl := Option.some.inj moved
    refine stepped_goes counted sized ⟨rfl, rfl, rfl⟩ rfl ?_ rfl
    simp [Frame.holdsMutex, holds rfl]
  | clearDrop entries =>
    cases entries with
    | nil =>
      obtain rfl := Option.some.inj moved
      exact stepped_ends counted sized rfl (by simp [Frame.holdsMutex])
    | cons number rest =>
      obtain rfl := Option.some.inj moved
      exact stepped_drop counted sized rfl rfl (by simp [Frame.linked]) (by simp [Frame.holdsMutex])

/-- An activity which goes on inside a critical section holds the mutex, also while a release
function interrupts it. -/
theorem Activity.frame_holds {activity : Activity} {frame : Frame}
    (goesOn : activity.frame = some frame) : activity.holdsMutex = frame.holdsMutex := by
  cases activity with
  | running other =>
    obtain rfl := Option.some.inj goesOn
    rfl
  | releasing number resume =>
    obtain rfl : resume = some frame := goesOn
    rfl

/-- While a call holds the mutex, no other call is inside a critical section. -/
theorem Sound.alone {state : State} (sound : Sound state) {before after : List Activity}
    {activity : Activity} (split : state.activities = before ++ activity :: after)
    (holds : activity.holdsMutex = true) :
    state.mutex = true ∧ ∀ other ∈ before ++ after, other.holdsMutex = false := by
  have exclusive := sound.exclusive
  rw [split, total_append, total_cons, Function.comp_apply, holds, Bool.toNat_true] at exclusive
  have bounded := Bool.toNat_le state.mutex
  refine ⟨?_, fun other member => ?_⟩
  · cases locked : state.mutex with
    | true => rfl
    | false =>
      rw [locked, Bool.toNat_false] at exclusive
      omega
  · have light := weight_le_total (Bool.toNat ∘ Activity.holdsMutex) (before ++ after) other member
    rw [total_append, Function.comp_apply] at light
    cases unlocked : other.holdsMutex with
    | false => rfl
    | true =>
      rw [unlocked, Bool.toNat_true] at light
      omega

/-- A step of a call touches neither the other activities nor the Entries; only the delivery of
the step lists what it returns. -/
theorem advance_outside {state : State} {frame : Frame} {after : Progress}
    (moved : state.advance frame = some after) :
    after.state.activities = state.activities ∧ after.state.entries = state.entries ∧
      after.state.returned = state.returned := by
  cases frame with
  | findLock | insertLock | clearLock =>
    simp only [State.advance] at moved
    split at moved
    · simp at moved
    · obtain rfl := Option.some.inj moved
      exact ⟨rfl, rfl, rfl⟩
  | findLookup | insertEmplace =>
    simp only [State.advance] at moved
    split at moved
    · obtain rfl := Option.some.inj moved
      exact ⟨rfl, rfl, rfl⟩
    · obtain rfl := Option.some.inj moved
      exact ⟨rfl, rfl, rfl⟩
  | clearDrop entries =>
    cases entries with
    | nil | cons =>
      obtain rfl := Option.some.inj moved
      exact ⟨rfl, rfl, rfl⟩
  | _ =>
    obtain rfl := Option.some.inj moved
    exact ⟨rfl, rfl, rfl⟩

/-- The references of all other activities and callers are outside a call's step, so the step is
judged against them alone. -/
theorem Sound.stepped {state : State} (sound : Sound state) {before later : List Activity}
    {frame : Frame} (split : state.activities = before ++ .running frame :: later)
    {after : Progress} (moved : state.advance frame = some after) :
    Stepped state frame
      (state.entries.map Entry.number ++ (before ++ later).flatMap Activity.held) after := by
  apply stepped_advance _ sound.sized
  · exact sound.linked (.running frame) (by simp [split]) frame rfl
  · exact fun holds => (sound.alone split holds).1
  · exact moved
  · refine sound.counted.permute (List.perm_iff_count.mpr fun n => ?_)
    simp [State.references, split, Activity.held]
    omega

/-- One step of a running call keeps the invariant. The step's own lemma counts its references,
and the rest of the state is outside it. -/
theorem Sound.advance {state : State} (sound : Sound state) {index : Nat} {frame : Frame}
    {after : Progress} (found : state.activities[index]? = some (.running frame))
    (moved : state.advance frame = some after) :
    Sound (after.state.deliver index after.activity after.returned) := by
  have split := split_found state.activities index _ found
  obtain ⟨activities, entries, returned⟩ := advance_outside moved
  simp only [State.deliver, activities, entries, returned]
  generalize state.activities.take index = before at split ⊢
  generalize state.activities.drop (index + 1) = later at split ⊢
  have stepped := sound.stepped split moved
  constructor
  · refine stepped.counted.permute (List.perm_iff_count.mpr fun n => ?_)
    simp [State.references]
    omega
  · exact stepped.sized
  · have exclusive := sound.exclusive
    have mutex := stepped.mutex
    have own : total (Bool.toNat ∘ Activity.holdsMutex) after.activity.toList =
        (after.activity.any Activity.holdsMutex).toNat := by
      cases after.activity <;> simp
    simp only
    rw [split, total_append, total_cons, Function.comp_apply, Activity.holdsMutex] at exclusive
    rw [total_append, total_append, own]
    omega
  · intro activity member other goesOn link linked
    simp only [List.append_assoc, List.mem_append] at member
    have elsewhere (present : activity ∈ before ++ later) : link ∈ after.state.cache := by
      have inside : activity ∈ state.activities := by
        rw [split]
        rcases List.mem_append.mp present with earlier | following
        · exact List.mem_append_left _ earlier
        · exact List.mem_append_right _ (List.mem_cons_of_mem _ following)
      refine stepped.kept ?_ link (sound.linked activity inside other goesOn link linked)
      rintro rfl
      have unlocked := (sound.alone split rfl).2 activity present
      rw [Activity.frame_holds goesOn, Frame.linked_holds linked] at unlocked
      simp at unlocked
    rcases member with earlier | own | following
    · exact elsewhere (List.mem_append_left _ earlier)
    · refine stepped.linked other ?_ link linked
      rw [Option.mem_toList.mp own]
      exact goesOn
    · exact elsewhere (List.mem_append_right _ following)
  · intro number resume member
    simp only [List.append_assoc, List.mem_append] at member
    rcases member with earlier | own | following
    · exact sound.unlocked number resume (by rw [split]; simp [earlier])
    · exact stepped.unlocked number resume (Option.mem_toList.mp own)
    · exact sound.unlocked number resume (by rw [split]; simp [following])

/-- A new activity which holds neither a reference nor the mutex joins the others without a change
to any count. -/
theorem Sound.begin {state : State} (sound : Sound state) {frame : Frame}
    (fresh : frame.held = [] ∧ frame.holdsMutex = false ∧ frame.linked = []) :
    Sound (state.begin (.running frame)) := by
  obtain ⟨held, holds, unlinked⟩ := fresh
  constructor
  · refine sound.counted.permute (List.Perm.of_eq ?_)
    simp [State.begin, State.references, Activity.held, held]
  · exact sound.sized
  · simp [State.begin, Activity.holdsMutex, holds, sound.exclusive]
  · intro activity member other goesOn link linked
    rcases List.mem_append.mp member with older | own
    · exact sound.linked activity older other goesOn link linked
    · obtain rfl := List.mem_singleton.mp own
      obtain rfl := Option.some.inj goesOn
      simp [unlinked] at linked
  · intro number resume member
    rcases List.mem_append.mp member with older | own
    · exact sound.unlocked number resume older
    · simp at own

/-- A returning release function resumes its call at the frame it interrupted, with the references
that call has held all along. -/
theorem Sound.resume {state : State} (sound : Sound state) {index number : Nat}
    {resume : Option Frame} (found : state.activities[index]? = some (.releasing number resume)) :
    Sound (state.deliver index (resume.map .running) none) := by
  have split := split_found state.activities index _ found
  have unlocked := sound.unlocked number resume (List.mem_of_getElem? found)
  have held : (resume.map Activity.running).toList.flatMap Activity.held =
      (Activity.releasing number resume).held := by
    cases resume <;> simp [Activity.held]
  simp only [State.deliver]
  generalize state.activities.take index = before at split ⊢
  generalize state.activities.drop (index + 1) = later at split ⊢
  constructor
  · refine sound.counted.permute (List.Perm.of_eq ?_)
    simp only [State.references, split, List.flatMap_append, List.flatMap_cons, held]
    simp
  · exact sound.sized
  · have exclusive := sound.exclusive
    rw [split, total_append, total_cons, Function.comp_apply, unlocked, Bool.toNat_false,
      Nat.zero_add] at exclusive
    have own : total (Bool.toNat ∘ Activity.holdsMutex)
        (resume.map Activity.running).toList = 0 := by
      cases resume with
      | none => rfl
      | some frame =>
        have free : frame.holdsMutex = false := unlocked
        simp [Activity.holdsMutex, free]
    rw [total_append, total_append, own]
    exact exclusive
  · intro activity member other goesOn link linked
    simp only [List.append_assoc, List.mem_append] at member
    rcases member with earlier | own | following
    · exact sound.linked activity (by rw [split]; simp [earlier]) other goesOn link linked
    · obtain ⟨frame, rest, same⟩ := Option.map_eq_some_iff.mp (Option.mem_toList.mp own)
      subst same
      obtain rfl : frame = other := Option.some.inj goesOn
      exact sound.linked (.releasing number resume) (List.mem_of_getElem? found) frame rest link
        linked
    · exact sound.linked activity (by rw [split]; simp [following]) other goesOn link linked
  · intro other rest member
    simp only [List.append_assoc, List.mem_append] at member
    rcases member with earlier | own | following
    · exact sound.unlocked other rest (by rw [split]; simp [earlier])
    · cases resume <;> simp at own
    · exact sound.unlocked other rest (by rw [split]; simp [following])

/-- Dropping a returned Entry, with the release function it may start, takes one reference from
the callers and from the count. -/
theorem Sound.dropEntry {state : State} (sound : Sound state) {index : Nat} {entry : Entry}
    (found : state.entries[index]? = some entry) :
    Sound { (state.drop entry.number none).1 with
      entries := state.entries.eraseIdx index
      activities := state.activities ++ (state.drop entry.number none).2.toList } := by
  obtain ⟨before, after, split, removed, -⟩ := focus state.entries index entry found
  obtain ⟨rest, held, holds⟩ := drop_activity state entry.number none
  have goesOn : ∀ activity ∈ (state.drop entry.number none).2.toList,
      activity.frame = none ∧ activity.holdsMutex = false := by
    intro activity member
    rw [Option.mem_toList] at member
    rw [member, Option.bind_some] at rest
    rw [member, Option.any_some] at holds
    exact ⟨rest, holds⟩
  constructor
  · have gone : state.references.Perm (entry.number :: (state.cache.map Prod.snd ++
        (before ++ after).map Entry.number ++ state.activities.flatMap Activity.held)) := by
      refine List.perm_iff_count.mpr fun n => ?_
      simp [State.references, split, List.count_cons]
      omega
    refine (sound.counted.drop gone).permute (List.Perm.of_eq ?_)
    simp only [State.references, removed, List.flatMap_append, held]
    simp [State.drop]
  · simpa [State.drop, dropReference] using sound.sized
  · have own : total (Bool.toNat ∘ Activity.holdsMutex)
        (state.drop entry.number none).2.toList = 0 := by
      apply total_eq_zero
      intro activity member
      simp [(goesOn activity member).2]
    simp only [total_append, own]
    exact sound.exclusive
  · intro activity member other resumes link linked
    rcases List.mem_append.mp member with older | own
    · exact sound.linked activity older other resumes link linked
    · simp [(goesOn activity own).1] at resumes
  · intro other resume member
    rcases List.mem_append.mp member with older | own
    · exact sound.unlocked other resume older
    · exact (goesOn _ own).2

/-- Every action keeps the invariant: a call begins or steps, a release function returns, or a
caller copies or drops an Entry. -/
theorem step_sound (state next : State) (action : Action) (sound : Sound state)
    (moved : step state action = some next) : Sound next := by
  cases action with
  | find | insertOrDiscardDuplicate | clear =>
    obtain rfl := Option.some.inj moved
    exact sound.begin ⟨rfl, rfl, rfl⟩
  | advance index =>
    simp only [step] at moved
    split at moved
    · simp at moved
    · next number resume found =>
      obtain rfl := Option.some.inj moved
      exact sound.resume found
    · next frame found =>
      obtain ⟨after, advanced, rfl⟩ := Option.map_eq_some_iff.mp moved
      exact sound.advance found advanced
  | copyEntry index =>
    simp only [step] at moved
    cases found : state.entries[index]? with
    | none => simp [found] at moved
    | some entry =>
      simp only [found, Option.some.injEq] at moved
      subst moved
      have member : entry.number ∈ state.references := by
        have inside := List.mem_map_of_mem (f := Entry.number) (List.mem_of_getElem? found)
        simp [State.references, inside]
      refine ⟨?_, ?_, sound.exclusive, sound.linked, sound.unlocked⟩
      · refine sound.counted.copy member (List.perm_iff_count.mpr fun n => ?_)
        simp [State.references, State.copy, List.count_cons]
        omega
      · simpa [State.copy, copyReference] using sound.sized
  | dropEntry index =>
    simp only [step] at moved
    cases found : state.entries[index]? with
    | none => simp [found] at moved
    | some entry =>
      simp only [found, Option.some.injEq] at moved
      subst moved
      exact sound.dropEntry found

/-- The invariant holds in every reachable state, whatever the callers are admitted to do. By
induction on the run. -/
theorem reachable_sound {admitted : State → Action → Prop} {state : State}
    (reached : Reachable step admitted (· = initial) state) : Sound state := by
  refine Reachable.invariant ?_ ?_ reached
  · rintro start rfl
    refine ⟨⟨by simp [initial], by simp [initial, State.references]⟩, rfl, rfl, ?_, ?_⟩
    · simp [initial]
    · simp [initial]
  · intro earlier later action _ sound _ moved
    exact step_sound earlier later action sound moved

end Ros2CudaIpc.IpcHandleCache
