import Ros2CudaIpc.DlpackExport
import Ros2CudaIpc.WeightedLists
import Mathlib.Data.List.Range
import Mathlib.Data.List.Perm.Basic

/-!
# Which exports are deleted exactly once

A managed tensor whose deleter is still to be called owns its context, and the
context owns the read handle. While no capsule creation fails, the objects owned
this way and the deleted ones are together all objects ever allocated, each once;
when every capsule has met its fate, only the deleted ones are left.

A failing capsule creation deletes the context through the deleter and again
through the unique pointer which was never released. Deletions are not taken
back, so no continuation of such a run deletes each object exactly once.
-/

namespace Ros2CudaIpc.DlpackExport

open Reachability WeightedLists

/-- What an export does to the heap, and its result: it deletes all it allocated,
or it returns a capsule over a chain of three fresh objects, or its capsule
creation fails and deletes the context and the read handle twice. -/
inductive Exported (heap : Heap) : Heap → Except PyError Capsule → Prop where
  | failed (fresh : List HeapObject) (deletions : List Nat) (error : PyError)
      (all : deletions.Perm (List.range' heap.objects.length fresh.length)) :
      Exported heap ⟨heap.objects ++ fresh, deletions ++ heap.deletions⟩ (.error error)
  | returned (versioned : Bool) (deleter : Deleter) (read : ReadHandle) (capsule : Capsule)
      (fresh : capsule.managed = heap.objects.length + 1) (unused : capsule.name ≠ .used) :
      Exported heap
        ⟨heap.objects ++ [.context (some (heap.objects.length + 2)),
          .managed versioned (some heap.objects.length) (some deleter), .readHandle read],
          heap.deletions⟩ (.ok capsule)

/-- Deleting a fresh context without an owner lists the context alone. This is what unwinding
ahead of the commit does. -/
theorem deleteContext_unowned (objects : List HeapObject) (deletions : List Nat) :
    Heap.deleteContext ⟨objects ++ [.context none], deletions⟩ objects.length =
      ⟨objects ++ [.context none], objects.length :: deletions⟩ := by
  simp [Heap.deleteContext, Heap.delete]

/-- Every export which does not fail in its capsule creation is one of the listed ones.

Proof: unwinding deletes the managed tensor and then the context. -/
theorem dlpack_exported (state : State) (call : ExportCall)
    (created : ¬ CapsuleFails state (.dlpack call)) :
    Exported state.heap (state.image.dlpack call state.heap).1
      (state.image.dlpack call state.heap).2.2 := by
  have nothing (error : PyError) : Exported state.heap state.heap (.error error) := by
    have failed : Exported state.heap _ _ := .failed [] [] error (List.Perm.refl _)
    simpa using failed
  obtain ⟨image, capsules, consumers, objects, deletions⟩ := state
  have unwound (error : PyError) : Exported ⟨objects, deletions⟩
      (((((⟨objects, deletions⟩ : Heap).allocate (.context none)).allocate
        (.managed call.versioned none none)).delete (objects.length + 1)).deleteContext
          objects.length) (.error error) := by
    have both : [objects.length, objects.length + 1].Perm (List.range' objects.length 2) :=
      List.Perm.refl _
    have failed : Exported ⟨objects, deletions⟩ _ _ :=
      .failed [.context none, .managed call.versioned none none] _ error both
    simpa [Heap.allocate, Heap.deleteContext, Heap.delete] using failed
  unfold PyDLPackImage.dlpack
  split
  · exact nothing _
  next available =>
  have ready : image.state = .available := by
    unfold PyDLPackImage.ensureAvailable at available
    split at available <;> simp_all
  split
  · exact nothing _
  split
  · exact nothing _
  split
  · exact nothing _
  next streamed projected allocated =>
  simp only
  split
  · have failed : Exported ⟨objects, deletions⟩ _ _ :=
      .failed [.context none] [objects.length] .badAlloc (List.Perm.refl _)
    simpa [Heap.allocate, deleteContext_unowned] using failed
  next reserved =>
  have last : ((⟨objects, deletions⟩ : Heap).allocate (.context none)).objects.length =
      objects.length + 1 := by simp [Heap.allocate]
  rw [last]
  split
  · exact unwound _
  · exact unwound _
  next left read bound =>
    split
    · exact unwound _
    next owned =>
    have successful : call.capsuleCreated = true := by
      apply Bool.not_eq_false _ |>.mp
      intro failing
      apply created
      simp only [not_or, Bool.not_eq_false] at streamed projected allocated reserved owned
      exact ⟨ready, streamed.1, streamed.2, projected, allocated, reserved, ⟨left, read, bound⟩,
        owned, failing⟩
    have unused : call.capsuleName ≠ .used := by
      unfold ExportCall.capsuleName
      split <;> simp
    have returned : Exported ⟨objects, deletions⟩ _ _ :=
      .returned call.versioned call.deleter read ⟨call.capsuleName, objects.length + 1⟩ rfl unused
    simpa [publishCapsule, successful, Heap.allocate, Heap.store] using returned

/-- The three objects a returned capsule stands for: the managed tensor, its context, and the read
handle the context owns. -/
structure Chain where
  managed : Nat
  context : Nat
  owner : Nat
deriving DecidableEq, Repr

/-- The numbers of a chain, in the order in which its deleter returns to them. -/
def Chain.numbers (chain : Chain) : List Nat := [chain.managed, chain.context, chain.owner]

/-- A chain whose pointers are in place, from the managed tensor with its deleter to the context
and on to the owner. -/
def Chain.Stored (objects : List HeapObject) (chain : Chain) : Prop :=
  (∃ versioned deleter, objects[chain.managed]? =
    some (.managed versioned (some chain.context) (some deleter))) ∧
  objects[chain.context]? = some (.context (some chain.owner))

/-- The managed tensors whose deleter is still to be called: those of capsules
nobody consumed, and those of consumers. -/
def State.holders (state : State) : List Nat :=
  (state.capsules.filter (fun capsule => capsule.name ≠ .used)).map Capsule.managed ++
    state.consumers

/-- Every holder has its own stored chain, and the objects of the chains and the
deleted objects are all objects, each once. -/
def Accounted (heap : Heap) (holders : List Nat) : Prop :=
  ∃ chains : List Chain, holders.Perm (chains.map Chain.managed) ∧
    (∀ chain ∈ chains, chain.Stored heap.objects) ∧
    (chains.flatMap Chain.numbers ++ heap.deletions).Perm (List.range heap.objects.length)

/-- The accounting does not depend on who holds which tensor: a consumer takes a capsule's chain
over as it is. -/
theorem Accounted.permute {heap : Heap} {holders others : List Nat}
    (accounted : Accounted heap holders) (moved : others.Perm holders) : Accounted heap others := by
  obtain ⟨chains, held, stored, conserved⟩ := accounted
  exact ⟨chains, moved.trans held, stored, conserved⟩

/-- The chain of a stored managed tensor is deleted whole, each of its three objects once, and no
other object. -/
theorem Chain.Stored.callDeleter {heap : Heap} {chain : Chain}
    (stored : chain.Stored heap.objects) :
    ∃ object, heap.callDeleter chain.managed =
      ⟨heap.objects.set chain.managed object, chain.numbers ++ heap.deletions⟩ := by
  obtain ⟨⟨versioned, deleter, managed⟩, context⟩ := stored
  refine ⟨.managed versioned none (some deleter), ?_⟩
  have apart : chain.managed ≠ chain.context := by
    intro same
    rw [same, context] at managed
    simp at managed
  simp [Heap.callDeleter, Heap.deleteContext, Heap.delete, Heap.store, managed, context,
    List.getElem?_set_ne apart, Chain.numbers]

/-- A chain survives a change of another chain's managed tensor, since the two managed tensors
differ and neither context is touched. -/
theorem Chain.Stored.other {objects : List HeapObject} {chain other : Chain}
    (stored : chain.Stored objects) (changed : other.Stored objects)
    (distinct : other.managed ≠ chain.managed) (object : HeapObject) :
    chain.Stored (objects.set other.managed object) := by
  obtain ⟨⟨versioned, deleter, managed⟩, context⟩ := stored
  obtain ⟨⟨_, _, tensor⟩, _⟩ := changed
  have apart : other.managed ≠ chain.context := by
    intro same
    rw [same, context] at tensor
    simp at tensor
  refine ⟨⟨versioned, deleter, ?_⟩, ?_⟩
  · rw [List.getElem?_set_ne distinct, managed]
  · rw [List.getElem?_set_ne apart, context]

/-- Calling the deleter of a held tensor moves its chain to the deleted objects.

Proof: the numbers of two chains are disjoint. -/
theorem Accounted.callDeleter {heap : Heap} {holders rest : List Nat} {managed : Nat}
    (accounted : Accounted heap holders) (held : holders.Perm (managed :: rest)) :
    Accounted (heap.callDeleter managed) rest := by
  obtain ⟨chains, ordered, stored, conserved⟩ := accounted
  have listed := held.symm.trans ordered
  obtain ⟨chain, member, rfl⟩ := List.mem_map.mp (listed.mem_iff.mp (List.mem_cons_self ..))
  have apart := List.perm_cons_erase member
  have remaining := (listed.trans (apart.map Chain.managed)).cons_inv
  have numbers := ((apart.flatMap_right Chain.numbers).append_right heap.deletions)
  generalize chains.erase chain = others at apart remaining numbers
  obtain ⟨object, deleted⟩ := (stored chain member).callDeleter
  rw [deleted]
  refine ⟨others, remaining, ?_, ?_⟩
  · intro other present
    have kept : other ∈ chains := apart.mem_iff.mpr (List.mem_cons_of_mem _ present)
    refine (stored other kept).other (stored chain member) ?_ object
    have nodup : ((chain :: others).flatMap Chain.numbers ++ heap.deletions).Nodup :=
      (numbers.symm.trans conserved).nodup_iff.mpr List.nodup_range
    intro same
    have inside : chain.managed ∈ others.flatMap Chain.numbers :=
      List.mem_flatMap.mpr ⟨other, present, by simp [Chain.numbers, same]⟩
    simp [Chain.numbers, inside] at nodup
  · refine List.Perm.trans ?_ (numbers.symm.trans (by simpa using conserved))
    refine List.perm_iff_count.mpr fun number => ?_
    simp only [List.flatMap_cons, List.count_append]
    omega

/-- Fresh objects do not disturb a stored chain: they are numbered behind the objects which exist.
-/
theorem Chain.Stored.append {objects : List HeapObject} {chain : Chain}
    (stored : chain.Stored objects) (fresh : List HeapObject) :
    chain.Stored (objects ++ fresh) := by
  obtain ⟨⟨versioned, deleter, managed⟩, context⟩ := stored
  refine ⟨⟨versioned, deleter, ?_⟩, ?_⟩
  · rw [List.getElem?_append_left (List.getElem?_eq_some_iff.mp managed).1, managed]
  · rw [List.getElem?_append_left (List.getElem?_eq_some_iff.mp context).1, context]

/-- A failed export leaves the accounting of the holders. What it allocated it has deleted, each
object once. -/
theorem Accounted.failed {heap after : Heap} {error : PyError} {holders : List Nat}
    (accounted : Accounted heap holders) (exported : Exported heap after (.error error)) :
    Accounted after holders := by
  obtain ⟨chains, held, stored, conserved⟩ := accounted
  cases exported with
  | failed fresh deletions error all =>
    refine ⟨chains, held, fun chain member => (stored chain member).append fresh, ?_⟩
    have more : List.range (heap.objects.length + fresh.length) =
        List.range heap.objects.length ++ List.range' heap.objects.length fresh.length := by
      simp only [List.range_eq_range', ← List.range'_append_1, Nat.zero_add]
    rw [List.length_append, more]
    refine List.Perm.trans ?_ (conserved.append all)
    refine List.perm_iff_count.mpr fun number => ?_
    simp only [List.count_append]
    omega

/-- A returned capsule adds its chain to the holders, and its name is one the capsule's destructor
acts on. -/
theorem Accounted.returned {heap after : Heap} {capsule : Capsule} {holders : List Nat}
    (accounted : Accounted heap holders) (exported : Exported heap after (.ok capsule)) :
    capsule.name ≠ .used ∧ Accounted after (capsule.managed :: holders) := by
  obtain ⟨chains, held, stored, conserved⟩ := accounted
  cases exported with
  | returned versioned deleter read capsule fresh unused =>
    refine ⟨unused, ?_⟩
    refine ⟨⟨heap.objects.length + 1, heap.objects.length, heap.objects.length + 2⟩ :: chains,
      ?_, ?_, ?_⟩
    · rw [fresh]
      exact held.cons _
    · intro chain member
      rcases List.mem_cons.mp member with rfl | older
      · refine ⟨⟨versioned, deleter, ?_⟩, ?_⟩ <;> simp
      · exact (stored chain older).append _
    · have more : List.range (heap.objects.length + 3) = List.range heap.objects.length ++
          [heap.objects.length, heap.objects.length + 1, heap.objects.length + 2] := by
        simp [List.range_succ]
      rw [List.length_append, List.length_cons, List.length_cons, List.length_cons,
        List.length_nil, more]
      refine List.Perm.trans ?_ (conserved.append_right _)
      refine List.perm_iff_count.mpr fun number => ?_
      simp only [List.flatMap_cons, Chain.numbers, List.count_append, List.count_cons,
        List.count_nil]
      omega

/-- Every action but a failing capsule creation keeps the accounting: exports add a chain or
nothing, and a deleter takes one away. -/
theorem step_accounted (state next : State) (action : Action)
    (accounted : Accounted state.heap state.holders) (created : ¬ CapsuleFails state action)
    (moved : step state action = some next) : Accounted next.heap next.holders := by
  cases action with
  | dlpack call =>
    have exported := dlpack_exported state call created
    simp only [step] at moved
    split at moved
    · next heap image error result =>
      rw [result] at exported
      obtain rfl := Option.some.inj moved
      exact accounted.failed exported
    · next heap image capsule result =>
      rw [result] at exported
      obtain rfl := Option.some.inj moved
      obtain ⟨unused, added⟩ := accounted.returned exported
      refine added.permute (List.perm_iff_count.mpr fun number => ?_)
      simp only [State.holders, List.filter_append, List.map_append, List.count_append,
        List.filter_cons_of_pos (p := fun capsule : Capsule => decide (capsule.name ≠ .used))
          (by simpa using unused), List.count_cons, List.filter_nil, List.map_cons, List.map_nil,
        List.count_nil]
      omega
  | close =>
    obtain rfl := Option.some.inj moved
    exact accounted
  | consume index =>
    simp only [step] at moved
    split at moved
    · simp at moved
    · simp at moved
    next capsule used found =>
      obtain rfl := Option.some.inj moved
      have unused : capsule.name ≠ .used := by
        intro same
        exact used capsule.managed (congrArg (Capsule.mk · capsule.managed) same)
      obtain ⟨before, after, split, -, replaced⟩ := focus state.capsules index capsule found
      refine accounted.permute (List.perm_iff_count.mpr fun number => ?_)
      simp only [State.holders, replaced]
      simp [split, unused, List.count_cons]
      omega
  | callDeleter index =>
    simp only [step] at moved
    cases found : state.consumers[index]? with
    | none => simp [found] at moved
    | some managed =>
      simp only [found, Option.some.injEq] at moved
      subst moved
      obtain ⟨before, after, split, removed, -⟩ := focus state.consumers index managed found
      refine accounted.callDeleter (List.perm_iff_count.mpr fun number => ?_)
      simp only [State.holders, removed]
      simp [split, List.count_cons]
      omega
  | destroyCapsule index =>
    simp only [step] at moved
    cases found : state.capsules[index]? with
    | none => simp [found] at moved
    | some capsule =>
      simp only [found, Option.some.injEq] at moved
      subst moved
      obtain ⟨before, after, split, removed, -⟩ := focus state.capsules index capsule found
      by_cases used : capsule.name = .used
      · have untouched : state.heap.destroyCapsule capsule = state.heap := by
          simp [Heap.destroyCapsule, used]
        rw [untouched]
        refine accounted.permute (List.perm_iff_count.mpr fun number => ?_)
        simp only [State.holders, removed]
        simp [split, used]
      · have called : state.heap.destroyCapsule capsule =
            state.heap.callDeleter capsule.managed := by
          unfold Heap.destroyCapsule
          split <;> simp_all
        rw [called]
        refine accounted.callDeleter (List.perm_iff_count.mpr fun number => ?_)
        simp only [State.holders, removed]
        simp [split, used, List.count_cons]
        omega

/-- While no capsule creation fails, every run keeps the accounting. By induction on the run from
the constructed image. -/
theorem reachable_accounted {publication : MappedPublication} {state : State}
    (reached : Reachable step (fun state action => ¬ CapsuleFails state action)
      (· = start publication) state) : Accounted state.heap state.holders := by
  induction reached with
  | start state initial =>
    subst initial
    exact ⟨[], List.Perm.refl _, by simp, List.Perm.refl _⟩
  | step state next action _ created moved inductionHypothesis =>
    exact step_accounted state next action inductionHypothesis created moved

/-- An object deleted more than once, whichever of its owners has done it. -/
def DeletedTwice (state : State) : Prop :=
  ∃ number < state.heap.objects.length, 2 ≤ state.heap.deletions.count number

/-- Deletions are not taken back, and objects are not forgotten. Their contents may change. -/
def Heap.Grows (heap after : Heap) : Prop :=
  heap.objects.length ≤ after.objects.length ∧ heap.deletions <:+ after.deletions

/-- Deleting a context lists at most its owner and itself, in front of what was deleted before. -/
theorem deleteContext_grows (heap : Heap) (number : Nat) :
    heap.Grows (heap.deleteContext number) := by
  unfold Heap.deleteContext
  split
  · exact ⟨Nat.le_refl _, List.suffix_append [_, _] _⟩
  · exact ⟨Nat.le_refl _, List.suffix_cons _ _⟩

/-- Calling a deleter grows the deletions, whatever object it is called on. -/
theorem callDeleter_grows (heap : Heap) (number : Nat) : heap.Grows (heap.callDeleter number) := by
  unfold Heap.callDeleter
  split
  · next versioned managerCtx deleter found =>
    simp only
    split
    · exact ⟨by simp [Heap.delete, Heap.store], List.suffix_cons _ _⟩
    · next context =>
      obtain ⟨longer, more⟩ :=
        deleteContext_grows (heap.store number (.managed versioned none (some deleter))) context
      refine ⟨?_, more.trans (List.suffix_cons _ _)⟩
      simpa [Heap.store, Heap.delete] using longer
  · exact ⟨Nat.le_refl _, List.suffix_refl _⟩

/-- A failing capsule creation deletes its context twice, and the read handle with it. The three
objects are the ones this export allocated. -/
theorem dlpack_capsuleFails (state : State) (call : ExportCall)
    (failing : CapsuleFails state (.dlpack call)) : ∃ objects error,
      (state.image.dlpack call state.heap).2.2 = .error error ∧
      (state.image.dlpack call state.heap).1 = ⟨objects, [state.heap.objects.length,
        state.heap.objects.length + 2, state.heap.objects.length + 1, state.heap.objects.length,
        state.heap.objects.length + 2] ++ state.heap.deletions⟩ ∧
      objects.length = state.heap.objects.length + 3 := by
  obtain ⟨available, synchronized, streamed, projected, allocated, reserved, ⟨left, read, bound⟩,
    owned, created⟩ := failing
  obtain ⟨image, capsules, consumers, objects, deletions⟩ := state
  simp only at available bound ⊢
  have ready : image.ensureAvailable "export through DLPack" = none := by
    simp [PyDLPackImage.ensureAvailable, available]
  unfold PyDLPackImage.dlpack
  simp only [ready, synchronized, streamed, projected, allocated, reserved, bound, owned,
    publishCapsule, created, Bool.true_eq_false, or_self, if_false, if_true]
  refine ⟨objects ++ [.context (some (objects.length + 2)),
    .managed call.versioned none (some call.deleter), .readHandle read], .capsuleError, rfl, ?_,
    by simp⟩
  simp [Heap.allocate, Heap.store, Heap.callDeleter, Heap.deleteContext, Heap.delete]

/-- No action takes a deletion back, whether it returns or raises. The consumers' actions only add
deletions. -/
theorem step_grows (state next : State) (action : Action) (moved : step state action = some next) :
    state.heap.Grows next.heap := by
  have unchanged : state.heap.Grows state.heap := ⟨Nat.le_refl _, List.suffix_refl _⟩
  cases action with
  | dlpack call =>
    have left : next.heap = (state.image.dlpack call state.heap).1 := by
      simp only [step] at moved
      split at moved <;> next result => rw [← Option.some.inj moved, result]
    rw [left]
    by_cases failing : CapsuleFails state (.dlpack call)
    · obtain ⟨objects, error, -, deleted, longer⟩ := dlpack_capsuleFails state call failing
      rw [deleted]
      exact ⟨by simp only [longer]; omega, List.suffix_append _ _⟩
    · have exported := dlpack_exported state call failing
      generalize (state.image.dlpack call state.heap).1 = after at exported ⊢
      generalize (state.image.dlpack call state.heap).2.2 = result at exported
      cases exported with
      | failed fresh deletions error all => exact ⟨by simp, List.suffix_append _ _⟩
      | returned versioned deleter read capsule fresh unused =>
        exact ⟨by simp, List.suffix_refl _⟩
  | close =>
    obtain rfl := Option.some.inj moved
    exact unchanged
  | consume index =>
    simp only [step] at moved
    split at moved
    · simp at moved
    · simp at moved
    · obtain rfl := Option.some.inj moved
      exact unchanged
  | callDeleter index =>
    simp only [step] at moved
    split at moved
    · simp at moved
    · obtain rfl := Option.some.inj moved
      exact callDeleter_grows _ _
  | destroyCapsule index =>
    simp only [step] at moved
    split at moved
    · simp at moved
    · obtain rfl := Option.some.inj moved
      simp only [Heap.destroyCapsule]
      split
      · exact callDeleter_grows _ _
      · exact callDeleter_grows _ _
      · exact unchanged

/-- An object once deleted twice stays so, since a step only adds to the deletions. -/
theorem DeletedTwice.step {state next : State} {action : Action} (twice : DeletedTwice state)
    (moved : step state action = some next) : DeletedTwice next := by
  obtain ⟨number, below, count⟩ := twice
  obtain ⟨longer, more⟩ := step_grows state next action moved
  exact ⟨number, Nat.lt_of_lt_of_le below longer,
    Nat.le_trans count (more.sublist.count_le number)⟩

/-- A failing capsule creation leaves an object deleted twice, whatever the state it happens in. -/
theorem capsuleFails_twice {state next : State} {action : Action}
    (failing : CapsuleFails state action) (moved : step state action = some next) :
    DeletedTwice next := by
  cases action with
  | dlpack call =>
    obtain ⟨objects, error, raised, deleted, longer⟩ := dlpack_capsuleFails state call failing
    simp only [DlpackExport.step] at moved
    split at moved
    · next heap image other result =>
      obtain rfl := Option.some.inj moved
      rw [result] at deleted
      simp only at deleted
      subst deleted
      refine ⟨state.heap.objects.length, by simp only [longer]; omega, ?_⟩
      simp
    · next heap image capsule result => simp [result] at raised
  | close | consume | callDeleter | destroyCapsule => exact failing.elim

/-- A run whose capsules have all met their fate has deleted every context,
managed tensor and read handle exactly once, if and only if none of its exports
failed in the creation of its capsule. -/
theorem deletedOnce_iff (publication : MappedPublication) (actions : List Action) (final : State)
    (executed : run step (start publication) actions = some final) (settled : final.Settled) :
    final.DeletedOnce ↔ ∀ before action after middle, actions = before ++ action :: after →
      run step (start publication) before = some middle → ¬ CapsuleFails middle action := by
  constructor
  · intro once before action after middle split taken failing
    rw [split, run_append, taken, Option.bind_some] at executed
    obtain ⟨next, moved, following⟩ := Option.bind_eq_some_iff.mp executed
    have twice : DeletedTwice final := run_invariant
      (fun state next action twice moved => twice.step moved) after next final
      (capsuleFails_twice failing moved) following
    obtain ⟨number, below, count⟩ := twice
    have one := once number below
    omega
  · intro created
    have accounted : Accounted final.heap final.holders := reachable_accounted
      (reachable_executed actions _ final (.start _ rfl) created executed)
    obtain ⟨chains, held, -, conserved⟩ := accounted
    obtain rfl : chains = [] := by
      simpa [State.holders, settled.1, settled.2] using held
    intro number below
    rw [List.Perm.count_eq (by simpa using conserved), List.count_range, if_pos below]

/-- A publication over a mapping with a context, and a successful export of it. -/
def imagePublication : MappedPublication :=
  ⟨some ⟨4096, 5, some ⟨0⟩, 4096, 9, 4096⟩, some ⟨true, 2⟩, 16, 0⟩

/-- An export each of whose steps succeeds up to the creation of its capsule. -/
def exportCall (versioned capsuleCreated : Bool) : ExportCall :=
  ⟨2, true, versioned, true, true, true, ⟨true, true, true, some 6, true, true⟩, true,
    capsuleCreated⟩

/-- A failing capsule creation deletes the context and the read handle twice, so not every settled
run deletes each object once. -/
theorem context_deleted_twice : ¬ ∀ publication actions final, publication.valid = true →
    run step (start publication) actions = some final → final.Settled → final.DeletedOnce := by
  intro claimed
  have executed : run step (start imagePublication) [.dlpack (exportCall false false)] = some
      ⟨⟨none, .closed⟩, [], [], ⟨[.context (some 2), .managed false none
        (some .legacyDlpackDeleter), .readHandle ⟨some ⟨some ⟨4096, 5, some ⟨0⟩, 4096, 9, 4096⟩,
          some ⟨true, 2⟩, true, 16, 0, 2, some ⟨⟨0⟩, 6⟩⟩⟩], [0, 2, 1, 0, 2]⟩⟩ := rfl
  have once := claimed imagePublication _ _ rfl executed ⟨rfl, rfl⟩
  have context := once 0 (by decide)
  revert context
  decide

/-- A versioned capsule which a consumer takes, deletes and destroys: its three objects are each
deleted once. -/
theorem deletedOnce_consumed : ∃ final, run step (start imagePublication)
    [.dlpack (exportCall true true), .consume 0, .callDeleter 0, .destroyCapsule 0] =
      some final ∧ (final.DeletedOnce ↔ ∀ before action after middle,
        [.dlpack (exportCall true true), .consume 0, .callDeleter 0, .destroyCapsule 0] =
          before ++ action :: after →
        run step (start imagePublication) before = some middle → ¬ CapsuleFails middle action) :=
  ⟨_, rfl, deletedOnce_iff imagePublication _ _ rfl ⟨rfl, rfl⟩⟩

end Ros2CudaIpc.DlpackExport
