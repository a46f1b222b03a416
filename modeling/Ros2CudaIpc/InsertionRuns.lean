import Ros2CudaIpc.CacheInsertion
import Ros2CudaIpc.CacheReferences
import Ros2CudaIpc.WeightedLists

/-!
# An insertion without exceptions among the cache's threads

`insert_or_discard_duplicate` is modelled twice. One model is a single call with everything that
may throw in it, the other a list of positions between which other threads act and nothing
throws. Where they meet, in a call in which nothing throws and no other thread acts, they do the
same: the same entry is returned, the same map, objects and reference counts are left, and the
candidate is released in the one exactly when it is in the other.

The two number their resources differently. A control block of the one points to an object,
while the other's resources are numbered like its control blocks.
-/

namespace Ros2CudaIpc.CacheInsertion

open Emplacement SharedOwnership Reachability WeightedLists
open IpcHandleCache (Frame Activity Entry)

universe u
variable {ε : Type u}

/-- A store and a state of the cache among its threads have the same map and the same control
blocks, over the same resources. A number of the state is the number of a control block in the
store, whose object may have another one. -/
structure Shows (store : Store) (state : IpcHandleCache.State) : Prop where
  cache : state.cache = store.cache
  blocks : state.blocks = store.shared.map Shared.block
  resources : state.resources.map (fun resource => some resource.2) =
    store.shared.map fun shared => store.objects[shared.object]?

/-- A state with one more activity, behind those of others, which stay where they are. -/
def calling (state : IpcHandleCache.State) (activity : Activity) : IpcHandleCache.State :=
  { state with activities := state.activities ++ [activity] }

/-- What the step of a call leaves of the whole state, where the others' activities stay. -/
theorem step_calling {state next : IpcHandleCache.State} {frame : Frame}
    {activity : Option Activity} {returned : Option Entry}
    (others : next.activities = state.activities)
    (moved : (calling state (.running frame)).advance frame =
      some ⟨calling next (.running frame), activity, returned⟩) :
    IpcHandleCache.step (calling state (.running frame)) (.advance state.activities.length) =
      some { next with
        activities := state.activities ++ activity.toList
        entries := next.entries ++ returned.toList
        returned := returned.toList ++ next.returned } := by
  have running : (calling state (.running frame)).activities[state.activities.length]? =
      some (.running frame) := by
    simp [calling]
  simp only [IpcHandleCache.step, running, moved, Option.map_some, IpcHandleCache.State.deliver]
  simp [calling, others]

/-- A step which goes on at another frame replaces the one activity and leaves those of others in
their places. -/
theorem step_goes {state next : IpcHandleCache.State} {frame after : Frame}
    (others : next.activities = state.activities)
    (moved : (calling state (.running frame)).advance frame =
      some ((calling next (.running frame)).goes after)) :
    IpcHandleCache.step (calling state (.running frame)) (.advance state.activities.length) =
      some (calling next (.running after)) := by
  rw [step_calling others moved]
  simp [calling, others]

/-- Nothing but the steps of one insertion, from the state in which it was called. -/
def Alone (state : IpcHandleCache.State) (key : IpcHandleKey) (imported : ImportedResources) :
    IpcHandleCache.State → Prop :=
  Reachable IpcHandleCache.step (fun _ action => action = .advance state.activities.length)
    (fun begun => begun = calling state (.running (.insertConstruct key imported)))

variable {state next : IpcHandleCache.State} {key : IpcHandleKey} {imported : ImportedResources}

/-- One more step of the insertion, behind the steps it has taken alone so far. -/
theorem Alone.goes {middle : IpcHandleCache.State} {frame after : Frame}
    (alone : Alone state key imported (calling middle (.running frame)))
    (same : middle.activities = state.activities) (others : next.activities = middle.activities)
    (moved : (calling middle (.running frame)).advance frame =
      some ((calling next (.running frame)).goes after)) :
    Alone state key imported (calling next (.running after)) := by
  refine .step _ _ (.advance state.activities.length) alone rfl ?_
  rw [← same]
  exact step_goes others moved

/-- The state with the imported resource, and a control block with so many references to it
behind those of the others. -/
def holding (state : IpcHandleCache.State) (key : IpcHandleKey) (imported : ImportedResources)
    (blocks : List ControlBlock) (block : ControlBlock) : IpcHandleCache.State :=
  { state with
    resources := state.resources ++ [(key, imported)]
    blocks := blocks ++ [block] }

/-- Copying a reference to the last control block changes that block only. -/
theorem copyReference_last (blocks : List ControlBlock) (block : ControlBlock) :
    copyReference (blocks ++ [block]) blocks.length = blocks ++ [block.copy] := by
  exact modify_middle ControlBlock.copy blocks [] block

/-- Dropping a reference to the last control block changes that block only. -/
theorem dropReference_last (blocks : List ControlBlock) (block : ControlBlock) :
    dropReference (blocks ++ [block]) blocks.length = blocks ++ [block.drop] := by
  exact modify_middle ControlBlock.drop blocks [] block

/-- Whether a drop of the last control block's reference is its last one, that block alone
decides. -/
theorem dropsLast_last (blocks : List ControlBlock) (block : ControlBlock) :
    dropsLast (blocks ++ [block]) blocks.length = block.isLast := by
  simp [dropsLast]

/-- Copying a reference to one of the other control blocks leaves the one behind them alone. -/
theorem copyReference_other {blocks : List ControlBlock} {number : Nat}
    (inside : number < blocks.length) (block : ControlBlock) :
    copyReference (blocks ++ [block]) number = copyReference blocks number ++ [block] := by
  exact modify_front ControlBlock.copy inside [block]

/-- The insertion reaches its critical section with the mutex, and the candidate has one
reference. -/
theorem alone_locked (free : state.mutex = false)
    (even : state.blocks.length = state.resources.length) :
    Alone state key imported (calling
      { holding state key imported state.blocks ⟨1, 0⟩ with mutex := true }
      (.running (.insertEmplace key state.blocks.length))) := by
  have begun : Alone state key imported
      (calling state (.running (.insertConstruct key imported))) := .start _ rfl
  have constructed : Alone state key imported (calling
      (holding state key imported state.blocks ⟨1, 0⟩)
      (.running (.insertLock key state.blocks.length))) := by
    refine begun.goes rfl rfl ?_
    rw [even]
    rfl
  refine constructed.goes rfl rfl ?_
  simp [IpcHandleCache.State.advance, calling, holding, free]

/-- The candidate's own reference may end as soon as the mutex is free; then the call returns
the resource of another one. A last reference is released inside the call first. -/
theorem Alone.returns {middle : IpcHandleCache.State} {blocks : List ControlBlock}
    {block : ControlBlock} {result : Nat}
    (alone : Alone state key imported (calling middle
      (.running (.insertDropCandidate key blocks.length result))))
    (same : middle.activities = state.activities) (counted : middle.blocks = blocks ++ [block]) :
    Alone state key imported { middle with
      blocks := blocks ++ [block.drop]
      activities := state.activities
      entries := middle.entries ++ [⟨key, result⟩]
      returned := ⟨key, result⟩ :: middle.returned } := by
  have resumed : Alone state key imported (calling { middle with blocks := blocks ++ [block.drop] }
      (.running (.insertReturn key result))) := by
    cases last : block.isLast with
    | false =>
      refine alone.goes same rfl ?_
      simp [IpcHandleCache.State.advance, calling, IpcHandleCache.State.drop, counted,
        dropsLast_last, dropReference_last, last, IpcHandleCache.State.goes]
    | true =>
      have released : Alone state key imported (calling
          { middle with blocks := blocks ++ [block.drop] }
          (.releasing blocks.length (some (.insertReturn key result)))) := by
        refine .step _ _ (.advance state.activities.length) alone rfl ?_
        simp [IpcHandleCache.step, IpcHandleCache.State.advance, calling, IpcHandleCache.State.drop,
          counted, dropsLast_last, dropReference_last, last, IpcHandleCache.State.deliver, same]
      refine .step _ _ (.advance state.activities.length) released rfl ?_
      simp [IpcHandleCache.step, calling, IpcHandleCache.State.deliver, same]
  refine .step _ _ (.advance state.activities.length) resumed rfl ?_
  simp [IpcHandleCache.step, IpcHandleCache.State.advance, calling, IpcHandleCache.State.deliver,
    same]

/-- Without an entry for the key the candidate becomes one, and is returned. The map node and the
candidate refer to it until the candidate is dropped. -/
theorem alone_emplaced (free : state.mutex = false)
    (even : state.blocks.length = state.resources.length) (absent : state.cache.lookup key = none) :
    Alone state key imported
      { holding state key imported state.blocks ⟨2, 0⟩ with
        mutex := false
        cache := emplace key state.blocks.length state.cache
        log := .inserted key state.blocks.length state.blocks.length :: state.log
        entries := state.entries ++ [⟨key, state.blocks.length⟩]
        returned := ⟨key, state.blocks.length⟩ :: state.returned } := by
  have emplaced : Alone state key imported (calling
      { holding state key imported state.blocks ⟨2, 0⟩ with
        mutex := true
        cache := emplace key state.blocks.length state.cache
        log := .inserted key state.blocks.length state.blocks.length :: state.log }
      (.running (.insertCopy key state.blocks.length state.blocks.length))) := by
    refine (alone_locked free even).goes rfl rfl ?_
    simp [IpcHandleCache.State.advance, calling, holding, absent, IpcHandleCache.State.copy,
      copyReference_last, IpcHandleCache.State.goes, ControlBlock.copy]
  have copied : Alone state key imported (calling
      { holding state key imported state.blocks ⟨3, 0⟩ with
        mutex := true
        cache := emplace key state.blocks.length state.cache
        log := .inserted key state.blocks.length state.blocks.length :: state.log }
      (.running (.insertUnlock key state.blocks.length state.blocks.length))) := by
    refine emplaced.goes rfl rfl ?_
    simp [IpcHandleCache.State.advance, calling, holding, IpcHandleCache.State.copy,
      copyReference_last, IpcHandleCache.State.goes, ControlBlock.copy]
  have unlocked : Alone state key imported (calling
      { holding state key imported state.blocks ⟨3, 0⟩ with
        mutex := false
        cache := emplace key state.blocks.length state.cache
        log := .inserted key state.blocks.length state.blocks.length :: state.log }
      (.running (.insertDropCandidate key state.blocks.length state.blocks.length))) :=
    copied.goes rfl rfl rfl
  exact unlocked.returns rfl rfl

/-- An entry for the key is returned. The candidate's copy in the map's node ends first, and
its last reference, and with it the imported resource, behind the critical section. -/
theorem alone_discarded (free : state.mutex = false)
    (even : state.blocks.length = state.resources.length) {stored : Nat}
    (inside : stored < state.blocks.length) (present : state.cache.lookup key = some stored) :
    Alone state key imported
      { holding state key imported (copyReference state.blocks stored) ⟨0, 1⟩ with
        mutex := false
        log := .inserted key state.blocks.length stored :: state.log
        entries := state.entries ++ [⟨key, stored⟩]
        returned := ⟨key, stored⟩ :: state.returned } := by
  have found : Alone state key imported (calling
      { holding state key imported state.blocks ⟨2, 0⟩ with
        mutex := true
        log := .inserted key state.blocks.length stored :: state.log }
      (.running (.insertDropNode key state.blocks.length stored))) := by
    refine (alone_locked free even).goes rfl rfl ?_
    simp [IpcHandleCache.State.advance, calling, holding, present, IpcHandleCache.State.copy,
      copyReference_last, IpcHandleCache.State.goes, ControlBlock.copy]
  have dropped : Alone state key imported (calling
      { holding state key imported state.blocks ⟨1, 0⟩ with
        mutex := true
        log := .inserted key state.blocks.length stored :: state.log }
      (.running (.insertCopy key state.blocks.length stored))) := by
    refine found.goes rfl rfl ?_
    simp [IpcHandleCache.State.advance, calling, holding, IpcHandleCache.State.drop,
      dropReference_last, dropsLast_last, IpcHandleCache.State.goes, ControlBlock.drop,
      ControlBlock.isLast]
  have copied : Alone state key imported (calling
      { holding state key imported (copyReference state.blocks stored) ⟨1, 0⟩ with
        mutex := true
        log := .inserted key state.blocks.length stored :: state.log }
      (.running (.insertUnlock key state.blocks.length stored))) := by
    refine dropped.goes rfl rfl ?_
    simp [IpcHandleCache.State.advance, calling, holding, IpcHandleCache.State.copy,
      copyReference_other inside, IpcHandleCache.State.goes]
  have length : (copyReference state.blocks stored).length = state.blocks.length := by
    simp [copyReference]
  have unlocked : Alone state key imported (calling
      { holding state key imported (copyReference state.blocks stored) ⟨1, 0⟩ with
        mutex := false
        log := .inserted key state.blocks.length stored :: state.log }
      (.running (.insertDropCandidate key (copyReference state.blocks stored).length stored))) := by
    rw [length]
    exact copied.goes rfl rfl rfl
  exact unlocked.returns rfl rfl

/-- Without an exception the critical section runs on the candidate which the construction has
left, and nothing is thrown there either. -/
theorem insertOrDiscardDuplicate_quiet (imported : ImportedResources)
    {outcomes : InsertOutcomes ε} {store : Store}
    (quiet : outcomes.thrown key store = none) :
    insertOrDiscardDuplicate outcomes key imported store =
        insertCandidate outcomes key store.shared.length (store.share imported 1) ∧
      outcomes.late key store = none := by
  obtain ⟨⟨early, control⟩, late⟩ : (outcomes.early = none ∧ outcomes.allocateControlBlock = none) ∧
      outcomes.late key store = none := by simpa [InsertOutcomes.thrown] using quiet
  refine ⟨?_, late⟩
  rw [insertOrDiscardDuplicate, constructCandidate_share imported store early control]

/-- The objects of the others are the same behind one more, since a fresh object is numbered
behind them. -/
theorem Shows.objects {store : Store} (shown : Shows store state) (imported : ImportedResources) :
    (store.shared.map fun shared => (store.objects ++ [imported])[shared.object]?) =
      store.shared.map fun shared => store.objects[shared.object]? := by
  refine List.map_congr_left fun shared member => ?_
  have listed : store.objects[shared.object]? ∈
      state.resources.map (fun resource => some resource.2) := by
    rw [shown.resources]
    exact List.mem_map_of_mem member
  obtain ⟨resource, -, found⟩ := List.mem_map.mp listed
  have inside : shared.object < store.objects.length :=
    (List.getElem?_eq_some_iff.mp found.symm).1
  exact List.getElem?_append_left inside

/-- Without an exception and an entry for the key the candidate goes into the map, with one
reference more. -/
theorem insertCandidate_emplaces {outcomes : InsertOutcomes ε} {store : Store}
    (quiet : outcomes.late key store = none) (absent : store.cache.lookup key = none) :
    insertCandidate outcomes key store.shared.length (store.share imported 1) =
      ({ store.share imported 2 with cache := emplace key store.shared.length store.cache },
        .ok store.shared.length) := by
  obtain ⟨⟨locked, node⟩, grows⟩ : (outcomes.lock = none ∧ outcomes.allocateNode = none) ∧
      outcomes.growBuckets = none := by
    simpa [InsertOutcomes.late, absent] using quiet
  simp [insertCandidate, locked, node, grows, absent, Store.share, Store.hold, Store.copyShared,
    Store.dropShared, ControlBlock.copy, ControlBlock.drop, ControlBlock.isLast,
    List.modify_eq_take_cons_drop]

/-- The last reference to the fresh object is dropped, whatever has become of the others. -/
theorem dropShared_only (store : Store) (imported : ImportedResources) (others : List Shared)
    (length : others.length = store.shared.length) :
    ({ store.hold imported with
        shared := others ++ [⟨store.objects.length, ⟨1, 0⟩⟩] } : Store).dropShared
        store.shared.length =
      { store.hold imported with
        shared := others ++ [⟨store.objects.length, ⟨0, 1⟩⟩]
        released := imported :: store.released
        deleted := store.objects.length :: store.deleted } := by
  rw [← length]
  simp [Store.dropShared, ControlBlock.isLast, ControlBlock.drop, Store.callDeleter, Store.hold,
    Store.release]

/-- Without an exception an entry for the key is copied, and the candidate is released. -/
theorem insertCandidate_discards {outcomes : InsertOutcomes ε} {store : Store} {stored : Nat}
    (quiet : outcomes.late key store = none) (present : store.cache.lookup key = some stored)
    (inside : stored < store.shared.length) :
    insertCandidate outcomes key store.shared.length (store.share imported 1) =
      ({ store.hold imported with
        shared := store.shared.modify stored (fun shared =>
          { shared with block := shared.block.copy }) ++ [⟨store.objects.length, ⟨0, 1⟩⟩]
        released := imported :: store.released
        deleted := store.objects.length :: store.deleted }, .ok stored) := by
  obtain ⟨locked, node⟩ : outcomes.lock = none ∧ outcomes.allocateNode = none := by
    simpa [InsertOutcomes.late, present] using quiet
  have copied : (store.share imported 1).copyShared stored =
      { store.hold imported with
        shared := store.shared.modify stored (fun shared =>
          { shared with block := shared.block.copy }) ++ [⟨store.objects.length, ⟨1, 0⟩⟩] } := by
    simp only [Store.copyShared, Store.share]
    rw [modify_front _ inside]
  have dropped := dropShared_only store imported
    (store.shared.modify stored fun shared => { shared with block := shared.block.copy })
    (List.length_modify ..)
  have found : (store.share imported 1).cache.lookup key = some stored := present
  unfold insertCandidate
  simp only [locked, node, found, dropShared_copyShared]
  rw [copied]
  exact congrArg (·, Except.ok stored) dropped

/-- The insertion of this module and the call among threads agree where nothing is thrown: from a
state which shows the store, the steps of the call alone lead to one which shows what the
insertion leaves, with the same result for the caller.

The state is any one which the cache reaches with the mutex free, calls of others in it or not. A
release of the candidate is counted in its control block, so the two agree on it too. -/
theorem insertOrDiscardDuplicate_returns {outcomes : InsertOutcomes ε} {store : Store}
    {admitted : IpcHandleCache.State → IpcHandleCache.Action → Prop}
    (reached : Reachable IpcHandleCache.step admitted (· = IpcHandleCache.initial) state)
    (shown : Shows store state) (free : state.mutex = false)
    (quiet : outcomes.thrown key store = none) :
    ∃ final result, Alone state key imported final ∧
      (insertOrDiscardDuplicate outcomes key imported store).2 = .ok result ∧
      Shows (insertOrDiscardDuplicate outcomes key imported store).1 final ∧
      final.activities = state.activities ∧ final.mutex = false ∧
      final.entries = state.entries ++ [⟨key, result⟩] := by
  obtain ⟨inserted, late⟩ := insertOrDiscardDuplicate_quiet imported quiet
  have length : state.blocks.length = store.shared.length := by simp [shown.blocks]
  have sound := IpcHandleCache.reachable_sound reached
  have even := sound.sized
  rw [inserted]
  cases present : store.cache.lookup key with
  | none =>
    rw [insertCandidate_emplaces late present]
    refine ⟨_, store.shared.length, alone_emplaced free even (by rw [shown.cache]; exact present),
      rfl, ⟨?_, ?_, ?_⟩, rfl, rfl, by rw [length]⟩
    · rw [length, shown.cache]
    · simp [holding, Store.share, shown.blocks]
    · simp [holding, Store.share, Store.hold, shown.resources, shown.objects]
  | some stored =>
    have known : state.cache.lookup key = some stored := by rw [shown.cache]; exact present
    have referred : stored ∈ state.references := by
      refine List.mem_append_left _ (List.mem_append_left _ ?_)
      exact List.mem_map.mpr ⟨_, IpcHandleCache.lookup_mem known, rfl⟩
    have inside := sound.counted.stored stored referred
    rw [insertCandidate_discards late present (length ▸ inside)]
    refine ⟨_, stored, alone_discarded free even inside known, rfl, ⟨shown.cache, ?_, ?_⟩, rfl, rfl,
      rfl⟩
    · simp only [holding, shown.blocks, copyReference, List.map_append, List.map_cons, List.map_nil,
        List.append_cancel_right_eq]
      exact (map_modify Shared.block _ ControlBlock.copy (fun _ => rfl) store.shared stored).symm
    · have others := map_modify
        (fun shared : Shared => (store.objects ++ [imported])[shared.object]?)
        (fun shared => { shared with block := shared.block.copy }) id (fun _ => rfl) store.shared
        stored
      rw [List.modify_id, shown.objects] at others
      simp [holding, Store.hold, shown.resources, others]

end Ros2CudaIpc.CacheInsertion
