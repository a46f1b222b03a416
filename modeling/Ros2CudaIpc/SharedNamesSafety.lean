import Mathlib.Data.List.Nodup
import Ros2CudaIpc.Reachability
import Ros2CudaIpc.SharedNames
import Ros2CudaIpc.WeightedLists

/-!
# A living publisher's names are its own

The block ids of a process are never handed out twice while it lives, so no two of its
calls are about one block. Other processes reach its names in a cleanup alone, and a
cleanup removes names whose process it was told is missing. Unless the number of that
process is used again in between, the name of every block of a living publisher denotes
the object this very process created for it, and a subscriber which attaches the block
attaches that object.

A process leaves no name behind while it lives, except where removing one failed.
-/

namespace Ros2CudaIpc.SharedNames

open Emplacement MetadataNames Reachability WeightedLists

/-- Different blocks have different names, as both numbers are read back from a name. -/
theorem nameOf_injective {pid blockId otherPid otherBlock : UInt32}
    (same : nameOf pid blockId = nameOf otherPid otherBlock) :
    pid = otherPid ∧ blockId = otherBlock := by
  unfold nameOf at same
  rw [shmNameForBlock_classic, shmNameForBlock_classic] at same
  exact attachName_injective same

/-- A block's name has the number of its process, which is what a cleanup asks for. -/
@[simp] theorem pidOf_nameOf (pid blockId : UInt32) : pidOf (nameOf pid blockId) = pid := by
  rw [pidOf, nameOf, shmNameForBlock_classic, scan_attachName]
  rfl

/-- A cleanup removes a name for whose process `kill` has answered that there is none. -/
theorem orphanName_kill {entry : Dirent} {name : List Char}
    (removed : orphanName entry = some name) :
    entry.kill (pidOf name).toInt32 = .failed ESRCH := by
  obtain rfl := orphanName_slash removed
  simp only [orphanName] at removed
  split at removed
  · simp at removed
  split at removed
  · simp at removed
  next errno answered =>
  split at removed
  · simp at removed
  next missing =>
  have absent : errno = ESRCH := by simpa using missing
  rw [absent] at answered
  exact answered

/-- The block ids a process has in use, in its running calls and in its blocks. -/
def Process.ids (process : Process) : List UInt32 :=
  process.calls.filterMap Call.blockId ++ process.blocks.map Prod.fst

/-- The objects a process has named, in its running calls and in its blocks. -/
def Process.holdings (process : Process) : List (UInt32 × Nat) :=
  process.calls.filterMap Call.holding ++ process.blocks

/-- The ids in use were handed out, each to one call or block, and none is beyond the counter. -/
structure Process.Numbered (process : Process) : Prop where
  bounded : process.nextBlockId ≤ uint32Max
  once : process.ids.Nodup
  below : ∀ blockId ∈ process.ids, blockId.toNat < process.nextBlockId

/-- A call which has named an object is about its block. -/
theorem Call.holding_blockId {call : Call} {held : UInt32 × Nat}
    (holds : call.holding = some held) :
    call.blockId = some held.1 := by
  cases call <;> simp [Call.holding] at holds <;> simp [Call.blockId, ← holds]

/-- The id of a named object is in use, by the call or block which has the object. -/
theorem Process.holding_id {process : Process} {held : UInt32 × Nat}
    (member : held ∈ process.holdings) : held.1 ∈ process.ids := by
  rcases List.mem_append.mp member with calling | block
  · obtain ⟨call, inside, holds⟩ := List.mem_filterMap.mp calling
    exact List.mem_append_left _
      (List.mem_filterMap.mpr ⟨call, inside, Call.holding_blockId holds⟩)
  · exact List.mem_append_right _ (List.mem_map_of_mem block)

/-- Named objects are of different blocks, as no id is in use twice. -/
theorem Process.holdings_once (process : Process) (once : process.ids.Nodup) :
    (process.holdings.map Prod.fst).Nodup := by
  refine once.sublist ?_
  rw [Process.holdings, List.map_append]
  refine List.Sublist.append_right ?_ _
  induction process.calls with
  | nil => exact List.Sublist.refl _
  | cons call rest inductionHypothesis =>
    cases holds : call.holding with
    | none =>
      rw [List.filterMap_cons_none holds, List.filterMap_cons]
      split
      exacts [inductionHypothesis, inductionHypothesis.cons _]
    | some held =>
      rw [List.filterMap_cons_some holds, List.filterMap_cons_some (Call.holding_blockId holds)]
      exact inductionHypothesis.cons_cons _

/-- What every system call keeps: each living publisher's names denote its own objects, and nobody
is about to remove them. -/
structure Sound (host : Host) : Prop where
  unique : UniqueKeys host.directory
  stored : ∀ name object, host.directory.lookup name = some object → object < host.objects.length
  numbered : ∀ process ∈ host.processes, process.Numbered
  pids : (host.processes.map Process.pid).Nodup
  incarnations : (host.processes.map Process.incarnation).Nodup
  living : ∀ process ∈ host.processes, process.incarnation < host.born
  past : ∀ creation ∈ host.objects, creation.incarnation < host.born
  holdings : ∀ process ∈ host.processes, ∀ held ∈ process.holdings,
    host.attach process.pid held.1 = some held.2 ∧
      host.objects[held.2]? = some ⟨process.incarnation, process.pid, held.1⟩
  removals : ∀ process ∈ host.processes, ∀ call ∈ process.calls, ∀ name ∈ call.removal,
    ∀ other ∈ host.processes, pidOf name ≠ other.pid
  left : ∀ name object, host.directory.lookup name = some object → ∀ process ∈ host.processes,
    ∀ creation, host.objects[object]? = some creation →
      creation.incarnation = process.incarnation →
        name = nameOf process.pid creation.blockId ∧
          ((creation.blockId, object) ∈ process.holdings ∨ object ∈ host.abandoned)

variable {host next : Host} {index : Nat} {process changed : Process}

/-- Processes at different positions have different numbers and are different ones. -/
theorem Sound.apart (sound : Sound host) {other : Process} {position : Nat}
    (found : host.processes[index]? = some process)
    (foundToo : host.processes[position]? = some other) (apart : index ≠ position) :
    other.pid ≠ process.pid ∧ other.incarnation ≠ process.incarnation := by
  obtain ⟨inside, rfl⟩ := List.getElem?_eq_some_iff.mp found
  obtain ⟨within, rfl⟩ := List.getElem?_eq_some_iff.mp foundToo
  have separated := fun (f : Process → UInt32) (g : Process → Nat)
      (once : (host.processes.map f).Nodup) (onceToo : (host.processes.map g).Nodup) =>
    And.intro (List.pairwise_iff_getElem.mp (List.pairwise_map.mp once))
      (List.pairwise_iff_getElem.mp (List.pairwise_map.mp onceToo))
  obtain ⟨pids, incarnations⟩ :=
    separated Process.pid Process.incarnation sound.pids sound.incarnations
  rcases Nat.lt_or_gt_of_ne apart with before | behind
  · exact ⟨(pids _ _ inside within before).symm, (incarnations _ _ inside within before).symm⟩
  · exact ⟨pids _ _ within inside behind, incarnations _ _ within inside behind⟩

/-- One process changes, and with it only names and objects of its own or of no living
process. -/
structure Changes (host : Host) (index : Nat) (process : Process) (next : Host)
    (changed : Process) : Prop where
  found : host.processes[index]? = some process
  processes : next.processes = host.processes.set index changed
  born : next.born = host.born
  pid : changed.pid = process.pid
  incarnation : changed.incarnation = process.incarnation
  objects : ∃ made, next.objects = host.objects ++ made ∧
    ∀ creation ∈ made, creation.incarnation = process.incarnation
  abandoned : host.abandoned ⊆ next.abandoned
  others : ∀ other ∈ host.processes, other.pid ≠ process.pid → ∀ blockId,
    next.attach other.pid blockId = host.attach other.pid blockId
  older : ∀ name object, next.directory.lookup name = some object →
    host.directory.lookup name = some object ∨ host.objects.length ≤ object

/-- What has to be seen of the process which changes. The others keep their names when the
directory does so for theirs.

Proof: an object which this very step has created is the changing process's. -/
theorem Sound.replaced (sound : Sound host) (changes : Changes host index process next changed)
    (unique : UniqueKeys next.directory)
    (stored : ∀ name object, next.directory.lookup name = some object →
      object < next.objects.length)
    (numbered : changed.Numbered)
    (holdings : ∀ held ∈ changed.holdings, next.attach process.pid held.1 = some held.2 ∧
      next.objects[held.2]? = some ⟨process.incarnation, process.pid, held.1⟩)
    (removals : ∀ call ∈ changed.calls, ∀ name ∈ call.removal, ∀ other ∈ host.processes,
      pidOf name ≠ other.pid)
    (left : ∀ name object, next.directory.lookup name = some object → ∀ creation,
      next.objects[object]? = some creation → creation.incarnation = process.incarnation →
        name = nameOf process.pid creation.blockId ∧
          ((creation.blockId, object) ∈ changed.holdings ∨ object ∈ next.abandoned)) :
    Sound next := by
  obtain ⟨made, objects, own⟩ := changes.objects
  have members : ∀ other ∈ next.processes, other = changed ∨
      other ∈ host.processes ∧ other.pid ≠ process.pid ∧
        other.incarnation ≠ process.incarnation := by
    intro other member
    obtain ⟨position, foundToo⟩ := List.mem_iff_getElem?.mp (changes.processes ▸ member)
    rw [List.getElem?_set] at foundToo
    split at foundToo
    · split at foundToo
      · exact .inl (Option.some.inj foundToo).symm
      · cases foundToo
    · next elsewhere =>
      exact .inr ⟨List.mem_of_getElem? foundToo, sound.apart changes.found foundToo elsewhere⟩
  have maps : ∀ {β : Type} (f : Process → β), f changed = f process →
      next.processes.map f = host.processes.map f := by
    intro β f same
    obtain ⟨before, after, split, -, replaced⟩ := focus host.processes index process changes.found
    rw [changes.processes, replaced changed, split]
    simp [same]
  have member := List.mem_of_getElem? changes.found
  refine ⟨unique, stored, ?_, ?_, ?_, ?_, ?_, ?_, ?_, ?_⟩
  · intro other inside
    rcases members other inside with rfl | ⟨living, -, -⟩
    exacts [numbered, sound.numbered other living]
  · rw [maps Process.pid changes.pid]
    exact sound.pids
  · rw [maps Process.incarnation changes.incarnation]
    exact sound.incarnations
  · intro other inside
    rw [changes.born]
    rcases members other inside with rfl | ⟨living, -, -⟩
    · rw [changes.incarnation]
      exact sound.living process member
    · exact sound.living other living
  · intro creation inside
    rw [changes.born]
    rw [objects] at inside
    rcases List.mem_append.mp inside with old | new
    · exact sound.past creation old
    · rw [own creation new]
      exact sound.living process member
  · intro other inside held holds
    rcases members other inside with rfl | ⟨living, apart, -⟩
    · rw [changes.pid, changes.incarnation]
      exact holdings held holds
    · obtain ⟨attached, created⟩ := sound.holdings other living held holds
      refine ⟨by rw [changes.others other living apart, attached], ?_⟩
      rw [objects, List.getElem?_append_left (List.getElem?_eq_some_iff.mp created).1, created]
  · intro other inside call runs name removes survivor survives
    have living : ∃ twin ∈ host.processes, twin.pid = survivor.pid := by
      rcases members survivor survives with rfl | ⟨alive, -, -⟩
      exacts [⟨process, member, changes.pid.symm⟩, ⟨survivor, alive, rfl⟩]
    obtain ⟨twin, lives, same⟩ := living
    rw [← same]
    rcases members other inside with rfl | ⟨alive, -, -⟩
    exacts [removals call runs name removes twin lives,
      sound.removals other alive call runs name removes twin lives]
  · intro name object stands other inside creation created made'
    rcases members other inside with rfl | ⟨alive, -, apart⟩
    · rw [changes.pid]
      exact left name object stands creation created (made'.trans changes.incarnation)
    · rcases changes.older name object stands with old | new
      · rw [objects, List.getElem?_append_left (sound.stored name object old)] at created
        obtain ⟨named, held⟩ := sound.left name object old other alive creation created made'
        exact ⟨named, held.imp_right fun given => changes.abandoned given⟩
      · rw [objects, List.getElem?_append_right new] at created
        exact absurd (made'.symm.trans (own creation (List.mem_of_getElem? created))) apart

/-- The block ids of what a system call leaves behind: in the call it goes on with, or in a new
block. -/
def idsAfter (following : Option Call) (made : Option (UInt32 × Nat)) : List UInt32 :=
  following.toList.filterMap Call.blockId ++ made.toList.map Prod.fst

/-- The named objects of what a system call leaves behind: in the call it goes on with, or in a
new block. -/
def heldAfter (following : Option Call) (made : Option (UInt32 × Nat)) : List (UInt32 × Nat) :=
  following.toList.filterMap Call.holding ++ made.toList

/-- What one system call can do: nothing to the directory, a removal of a name, or the creation of
one. -/
inductive Effect (host : Host) (process : Process) (call : Call) :
    Host → Option Call → Option (UInt32 × Nat) → Prop where
  | stays {following : Option Call} {made : Option (UInt32 × Nat)}
      (held : heldAfter following made = call.holding.toList)
      (removal : ∀ next ∈ following, ∀ name ∈ next.removal, pidOf name ∉ host.alive) :
      Effect host process call host following made
  | abandons {blockId : UInt32} {object : Nat} (held : call.holding = some (blockId, object)) :
      Effect host process call { host with abandoned := object :: host.abandoned } none none
  | removes {name : List Char} (removal : call.removal = some name) :
      Effect host process call (host.unlink name) (some .cleaning) none
  | drops {blockId : UInt32} {following : Option Call} (own : call.blockId = some blockId)
      (held : heldAfter following none = [])
      (removal : ∀ next ∈ following, next.removal = none) :
      Effect host process call (host.unlink (nameOf process.pid blockId)) following none
  | creates {blockId : UInt32} (own : call.blockId = some blockId) (unheld : call.holding = none)
      (absent : host.directory.lookup (nameOf process.pid blockId) = none) :
      Effect host process call (host.create process blockId)
        (some (.opened blockId host.objects.length)) none

/-- A system call does one of these, and goes on with no other block. -/
theorem perform_effect {answers : Answers} {call : Call} {following : Option Call}
    {made : Option (UInt32 × Nat)}
    (performed : host.perform process answers call = some (next, following, made)) :
    Effect host process call next following made ∧
      (idsAfter following made).Sublist call.blockId.toList := by
  cases call with
  | cleaning =>
    simp only [Host.perform] at performed
    split at performed
    · cases performed
      exact ⟨.stays rfl (by simp), List.Sublist.refl _⟩
    · next name read =>
      split at performed
      · next known =>
        split at performed
        · cases performed
          exact ⟨.stays rfl (by simp [Call.removal]), List.Sublist.refl _⟩
        · next orphan removed =>
          cases performed
          refine ⟨.stays rfl ?_, List.Sublist.refl _⟩
          rintro _ ⟨⟩ _ ⟨⟩ alive
          exact of_decide_eq_true (List.all_eq_true.mp known _ alive) (orphanName_kill removed)
      · cases performed
  | removing name =>
    simp only [Host.perform, Option.some.injEq, Prod.mk.injEq] at performed
    obtain ⟨rfl, rfl, rfl⟩ := performed
    refine ⟨?_, List.Sublist.refl _⟩
    split
    · exact .removes rfl
    · exact .stays rfl (by simp [Call.removal])
  | opening again blockId =>
    simp only [Host.perform] at performed
    split at performed
    · cases performed
      cases again
      · exact ⟨.stays rfl (by simp [Call.removal]), List.Sublist.refl _⟩
      · exact ⟨.stays rfl (by simp), by simp [idsAfter]⟩
    · next absent =>
      split at performed
      · cases performed
        exact ⟨.creates rfl rfl absent, List.Sublist.refl _⟩
      · cases performed
        exact ⟨.stays rfl (by simp), by simp [idsAfter]⟩
  | opened blockId object =>
    simp only [Host.perform] at performed
    split at performed
    · cases performed
      exact ⟨.stays rfl (by simp), List.Sublist.refl _⟩
    · cases performed
      exact ⟨.stays rfl (by simp [Call.removal]), List.Sublist.refl _⟩
  | replacing blockId =>
    simp only [Host.perform] at performed
    split at performed
    · cases performed
      exact ⟨.drops rfl rfl (by simp [Call.removal]), List.Sublist.refl _⟩
    · cases performed
      exact ⟨.stays rfl (by simp), by simp [idsAfter]⟩
  | discarding blockId object | unlinking blockId object =>
    simp only [Host.perform] at performed
    split at performed
    · cases performed
      exact ⟨.drops rfl rfl (by simp), by simp [idsAfter]⟩
    · cases performed
      exact ⟨.abandons rfl, by simp [idsAfter]⟩

/-- The process without that thread, whose other threads and blocks stay. -/
def Process.without (process : Process) (position : Nat) : Process :=
  { process with calls := process.calls.eraseIdx position }

variable {position : Nat} {call : Call} {following : Option Call} {made : Option (UInt32 × Nat)}

/-- The thread's block comes first in a permutation of the ids in use. -/
theorem Process.ids_perm (found : process.calls[position]? = some call) :
    process.ids.Perm (call.blockId.toList ++ (process.without position).ids) := by
  obtain ⟨before, after, split, erased, -⟩ := focus process.calls position call found
  unfold Process.ids Process.without
  rw [erased, split, List.filterMap_append, List.filterMap_append, List.filterMap_cons]
  cases call.blockId with
  | none => exact List.Perm.refl _
  | some blockId => simp

/-- What takes the thread's place comes first behind the system call. -/
theorem Process.ids_after : (process.after position following made).ids.Perm
    (idsAfter following made ++ (process.without position).ids) := by
  unfold Process.ids Process.after Process.without idsAfter
  rw [List.eraseIdx_eq_take_drop_succ]
  simp only [List.filterMap_append, List.map_append]
  refine List.perm_iff_count.mpr fun blockId => ?_
  simp only [List.count_append]
  omega

/-- The objects named by a process are those of the thread and the others. -/
theorem Process.mem_holdings (found : process.calls[position]? = some call)
    (held : UInt32 × Nat) : held ∈ process.holdings ↔
      call.holding = some held ∨ held ∈ (process.without position).holdings := by
  obtain ⟨before, after, split, erased, -⟩ := focus process.calls position call found
  unfold Process.holdings Process.without
  rw [erased, split, List.filterMap_append, List.filterMap_append, List.filterMap_cons]
  cases call.holding <;> simp [or_left_comm, eq_comm]

/-- Behind its system call, they are what it leaves behind and those of the others. -/
theorem Process.mem_holdings_after (held : UInt32 × Nat) :
    held ∈ (process.after position following made).holdings ↔
      held ∈ heldAfter following made ∨ held ∈ (process.without position).holdings := by
  unfold Process.holdings Process.after Process.without heldAfter
  rw [List.eraseIdx_eq_take_drop_succ]
  simp only [List.filterMap_append, List.mem_append]
  tauto

/-- A call behind a system call is the one it goes on with, or was there before. -/
theorem Process.mem_calls_after (other : Call)
    (member : other ∈ (process.after position following made).calls) :
    following = some other ∨ other ∈ process.calls := by
  simp only [Process.after, List.mem_append, Option.mem_toList] at member
  rcases member with (before | goes) | behind
  exacts [.inr (List.mem_of_mem_take before), .inl goes, .inr (List.mem_of_mem_drop behind)]

/-- Going on with no other block keeps the ids apart, whether or not the call ends. -/
theorem Process.Numbered.after (numbered : process.Numbered)
    (found : process.calls[position]? = some call)
    (fewer : (idsAfter following made).Sublist call.blockId.toList) :
    (process.after position following made).Numbered := by
  have sub : (idsAfter following made ++ (process.without position).ids).Sublist
      (call.blockId.toList ++ (process.without position).ids) := fewer.append_right _
  refine ⟨numbered.bounded, ?_, fun blockId used => ?_⟩
  · rw [Process.ids_after.nodup_iff]
    exact ((Process.ids_perm found).nodup_iff.mp numbered.once).sublist sub
  · exact numbered.below blockId
      ((Process.ids_perm found).mem_iff.mpr (sub.subset (Process.ids_after.mem_iff.mp used)))

/-- The other threads and the blocks are about other blocks, as no id is in use twice. -/
theorem Process.Numbered.elsewhere (numbered : process.Numbered)
    (found : process.calls[position]? = some call) {blockId : UInt32}
    (own : call.blockId = some blockId) {held : UInt32 × Nat}
    (member : held ∈ (process.without position).holdings) : held.1 ≠ blockId := by
  rintro rfl
  have once := (Process.ids_perm found).nodup_iff.mp numbered.once
  rw [own] at once
  exact (List.nodup_cons.mp once).1 (Process.holding_id member)

/-- The name of another process's block is another name, whichever the two blocks are. -/
theorem nameOf_apart {pid other blockId otherBlock : UInt32} (apart : other ≠ pid) :
    nameOf other otherBlock ≠ nameOf pid blockId :=
  fun same => apart (nameOf_injective same).1

/-- What a system call leaves behind is removing no living process's name. -/
theorem Sound.removals_after (sound : Sound host) (member : process ∈ host.processes)
    (removal : ∀ other ∈ following, ∀ name ∈ other.removal, pidOf name ∉ host.alive) :
    ∀ other ∈ (process.after position following made).calls, ∀ name ∈ other.removal,
      ∀ living ∈ host.processes, pidOf name ≠ living.pid := by
  intro other runs name removes living lives same
  rcases Process.mem_calls_after other runs with goes | ran
  · refine removal other goes name removes ?_
    rw [same]
    exact List.mem_append_left _ (List.mem_map_of_mem lives)
  · exact sound.removals process member other ran name removes living lives same

/-- A process changes without creating an object, and names may go: those of no other living
process, and none of a block the process still has. -/
theorem Sound.fewer (sound : Sound host) (changes : Changes host index process next changed)
    (unique : UniqueKeys next.directory) (objects : next.objects = host.objects)
    (stands : ∀ name object, next.directory.lookup name = some object →
      host.directory.lookup name = some object)
    (numbered : changed.Numbered)
    (holdings : ∀ held ∈ changed.holdings, held ∈ process.holdings ∧
      next.attach process.pid held.1 = host.attach process.pid held.1)
    (removals : ∀ call ∈ changed.calls, ∀ name ∈ call.removal, ∀ other ∈ host.processes,
      pidOf name ≠ other.pid)
    (left : ∀ held ∈ process.holdings, next.attach process.pid held.1 = some held.2 →
      held ∈ changed.holdings ∨ held.2 ∈ next.abandoned) : Sound next := by
  have member := List.mem_of_getElem? changes.found
  refine sound.replaced changes unique ?_ numbered ?_ removals ?_
  · intro name object found
    rw [objects]
    exact sound.stored name object (stands name object found)
  · intro held holds
    obtain ⟨held', same⟩ := holdings held holds
    rw [same, objects]
    exact sound.holdings process member held held'
  · intro name object found creation created own
    rw [objects] at created
    obtain ⟨rfl, given⟩ :=
      sound.left name object (stands name object found) process member creation created own
    exact ⟨rfl, given.elim (fun holds => left _ holds found) fun gone =>
      .inr (changes.abandoned gone)⟩

/-- Names are compared as lists of characters, whichever way the comparison is found. -/
theorem beq_names : (List.instBEq : BEq (List Char)) = instBEqOfDecidableEq :=
  lawful_beq_subsingleton _ _

/-- Looking up behind `shm_unlink` finds every other name as before, and the removed one not at
all. -/
theorem Sound.lookup_unlink (sound : Sound host) (name other : List Char) :
    (host.unlink name).directory.lookup other =
      if other = name then none else host.directory.lookup other := by
  rw [beq_names]
  exact lookup_erase sound.unique name other

/-- A block of another name is attached as before. -/
theorem Sound.attach_unlink (sound : Sound host) {name : List Char} {pid blockId : UInt32}
    (apart : nameOf pid blockId ≠ name) :
    (host.unlink name).attach pid blockId = host.attach pid blockId := by
  unfold Host.attach
  rw [sound.lookup_unlink, if_neg apart]

/-- Removing a name which is no other living process's, and which the process itself no longer
counts on. -/
theorem Sound.unlinked (sound : Sound host) (found : host.processes[index]? = some process)
    {name : List Char} (pid : changed.pid = process.pid)
    (incarnation : changed.incarnation = process.incarnation) (numbered : changed.Numbered)
    (foreign : ∀ other ∈ host.processes, other.pid ≠ process.pid → ∀ blockId,
      nameOf other.pid blockId ≠ name)
    (holdings : ∀ held ∈ changed.holdings, held ∈ process.holdings ∧
      nameOf process.pid held.1 ≠ name)
    (removals : ∀ call ∈ changed.calls, ∀ name ∈ call.removal, ∀ other ∈ host.processes,
      pidOf name ≠ other.pid)
    (left : ∀ held ∈ process.holdings, nameOf process.pid held.1 ≠ name →
      held ∈ changed.holdings) : Sound ((host.unlink name).put index changed) := by
  have stands : ∀ other object, (host.unlink name).directory.lookup other = some object →
      other ≠ name ∧ host.directory.lookup other = some object := by
    intro other object answered
    rw [sound.lookup_unlink] at answered
    split at answered
    · cases answered
    · next apart => exact ⟨apart, answered⟩
  refine sound.fewer ⟨found, rfl, rfl, pid, incarnation, ⟨[], by simp [Host.put, Host.unlink],
    by simp⟩, List.Subset.refl _, ?_, ?_⟩ (sound.unique.erase name) rfl ?_ numbered ?_ removals ?_
  · exact fun other lives apart blockId => sound.attach_unlink (foreign other lives apart blockId)
  · exact fun other object answered => .inl (stands other object answered).2
  · exact fun other object answered => (stands other object answered).2
  · intro held holds
    obtain ⟨held', apart⟩ := holdings held holds
    exact ⟨held', sound.attach_unlink apart⟩
  · exact fun held holds answered => .inl (left held holds (stands _ _ answered).1)

/-- Without the thread of a running call a process holds no more than with it. -/
theorem Process.without_holdings (runs : process.calls[position]? = some call) :
    ∀ held ∈ (process.without position).holdings, held ∈ process.holdings :=
  fun held others => (Process.mem_holdings runs held).mpr (.inr others)

/-- A system call which leaves the directory alone may move what its process holds from a thread
to a block. A name it goes on to remove is no living process's. -/
theorem Sound.stays (sound : Sound host) (found : host.processes[index]? = some process)
    (runs : process.calls[position]? = some call)
    (numbered : (process.after position following made).Numbered)
    (held : heldAfter following made = call.holding.toList)
    (removal : ∀ next ∈ following, ∀ name ∈ next.removal, pidOf name ∉ host.alive) :
    Sound (host.put index (process.after position following made)) := by
  have member := List.mem_of_getElem? found
  have same : ∀ owned, owned ∈ (process.after position following made).holdings ↔
      owned ∈ process.holdings := by
    intro owned
    rw [Process.mem_holdings_after, Process.mem_holdings runs, held]
    simp [eq_comm]
  exact sound.fewer ⟨found, rfl, rfl, rfl, rfl, ⟨[], by simp [Host.put], by simp⟩,
      List.Subset.refl _, fun _ _ _ _ => rfl, fun _ _ => .inl⟩ sound.unique rfl
    (fun _ _ => id) numbered (fun owned holds => ⟨(same owned).mp holds, rfl⟩)
    (sound.removals_after member removal) fun owned holds _ => .inl ((same owned).mpr holds)

/-- A call whose `shm_unlink` fails gives its object up. The name stays, and with it the object's
place in the list of those which were left behind. -/
theorem Sound.abandons (sound : Sound host) (found : host.processes[index]? = some process)
    (runs : process.calls[position]? = some call)
    (numbered : (process.after position none none).Numbered) {blockId : UInt32} {object : Nat}
    (held : call.holding = some (blockId, object)) :
    Sound (({ host with abandoned := object :: host.abandoned } : Host).put index
      (process.after position none none)) := by
  have member := List.mem_of_getElem? found
  have without := Process.without_holdings runs
  refine sound.fewer ⟨found, rfl, rfl, rfl, rfl, ⟨[], by simp [Host.put], by simp⟩,
    fun _ => List.mem_cons_of_mem _, fun _ _ _ _ => rfl, fun _ _ => .inl⟩ sound.unique rfl
    (fun _ _ => id) numbered ?_ (sound.removals_after member (by simp)) ?_
  · intro owned holds
    rcases (Process.mem_holdings_after owned).mp holds with nothing | others
    · cases nothing
    · exact ⟨without owned others, rfl⟩
  · intro owned holds _
    rcases (Process.mem_holdings runs owned).mp holds with mine | others
    · obtain rfl : (blockId, object) = owned := Option.some.inj (held.symm.trans mine)
      exact .inr List.mem_cons_self
    · exact .inl ((Process.mem_holdings_after owned).mpr (.inr others))

/-- The cleanup removes a name which it has found to be no living process's, so nobody who lives
loses an object. -/
theorem Sound.removes (sound : Sound host) (found : host.processes[index]? = some process)
    (runs : process.calls[position]? = some call)
    (numbered : (process.after position (some .cleaning) none).Numbered) {name : List Char}
    (removal : call.removal = some name) :
    Sound ((host.unlink name).put index (process.after position (some .cleaning) none)) := by
  have member := List.mem_of_getElem? found
  have calling := List.mem_of_getElem? runs
  have without := Process.without_holdings runs
  have foreign : ∀ other ∈ host.processes, ∀ blockId, nameOf other.pid blockId ≠ name := by
    rintro other lives blockId rfl
    exact sound.removals process member call calling _ removal other lives (by simp)
  have unnamed : call.holding = none := by
    cases call <;> first | rfl | simp [Call.removal] at removal
  refine sound.unlinked found rfl rfl numbered
    (fun other lives _ blockId => foreign other lives blockId) ?_
    (sound.removals_after member (by simp [Call.removal])) ?_
  · intro held holds
    rcases (Process.mem_holdings_after held).mp holds with nothing | others
    · cases nothing
    · exact ⟨without held others, foreign process member held.1⟩
  · intro held holds _
    rcases (Process.mem_holdings runs held).mp holds with mine | others
    · simp [unnamed] at mine
    · exact (Process.mem_holdings_after held).mpr (.inr others)

/-- A process unlinks the name of a block of its own. Other processes have other names, and its own
other blocks have other ids. -/
theorem Sound.drops (sound : Sound host) (found : host.processes[index]? = some process)
    (runs : process.calls[position]? = some call)
    (numbered : (process.after position following none).Numbered) {blockId : UInt32}
    (own : call.blockId = some blockId) (held : heldAfter following none = [])
    (removal : ∀ next ∈ following, next.removal = none) :
    Sound ((host.unlink (nameOf process.pid blockId)).put index
      (process.after position following none)) := by
  have member := List.mem_of_getElem? found
  have without := Process.without_holdings runs
  refine sound.unlinked found rfl rfl numbered
    (fun other _ apart otherBlock => nameOf_apart apart) ?_
    (sound.removals_after member fun other goes name removes => by
      simp [removal other goes] at removes) ?_
  · intro owned holds
    rcases (Process.mem_holdings_after owned).mp holds with nothing | others
    · simp [held] at nothing
    · refine ⟨without owned others, fun same => ?_⟩
      exact (sound.numbered process member).elsewhere runs own others (nameOf_injective same).2
  · intro owned holds apart
    rcases (Process.mem_holdings runs owned).mp holds with mine | others
    · obtain rfl : owned.1 = blockId :=
        Option.some.inj ((Call.holding_blockId mine).symm.trans own)
      exact absurd rfl apart
    · exact (Process.mem_holdings_after owned).mpr (.inr others)

/-- Creating an object gives its name to it unless the name exists, and leaves every other name
alone. -/
theorem Host.create_lookup (host : Host) (process : Process) (blockId : UInt32) (name : List Char) :
    (host.create process blockId).directory.lookup name =
      (host.directory.lookup name).or
        (if nameOf process.pid blockId = name then some host.objects.length else none) := by
  rw [beq_names]
  exact lookup_emplace host.directory _ name _

/-- A name which exists behind a creation existed before it, or is the created one. -/
theorem Host.create_stands {blockId : UInt32} {name : List Char} {object : Nat}
    (answered : (host.create process blockId).directory.lookup name = some object) :
    host.directory.lookup name = some object ∨
      name = nameOf process.pid blockId ∧ object = host.objects.length := by
  rw [Host.create_lookup] at answered
  cases before : host.directory.lookup name with
  | some old =>
    rw [before] at answered
    exact .inl answered
  | none =>
    rw [before, Option.none_or] at answered
    split at answered
    · next same => exact .inr ⟨same.symm, (Option.some.inj answered).symm⟩
    · cases answered

/-- A process creates an object under a name which does not exist. It holds the object from now on,
and what was there before is still there. -/
theorem Sound.creates (sound : Sound host) (found : host.processes[index]? = some process)
    (runs : process.calls[position]? = some call) {blockId : UInt32}
    (numbered :
      (process.after position (some (.opened blockId host.objects.length)) none).Numbered)
    (unheld : call.holding = none)
    (absent : host.directory.lookup (nameOf process.pid blockId) = none) :
    Sound ((host.create process blockId).put index
      (process.after position (some (.opened blockId host.objects.length)) none)) := by
  have member := List.mem_of_getElem? found
  have without := Process.without_holdings runs
  have created := Host.create_lookup host process blockId
  have kept : ∀ {name : List Char} {object : Nat}, host.directory.lookup name = some object →
      (host.create process blockId).directory.lookup name = some object := by
    intro name object stands
    rw [created, stands, Option.some_or]
  have changes : Changes host index process ((host.create process blockId).put index
      (process.after position (some (.opened blockId host.objects.length)) none))
      (process.after position (some (.opened blockId host.objects.length)) none) := by
    refine ⟨found, rfl, rfl, rfl, rfl, ⟨_, rfl, by simp⟩, List.Subset.refl _, ?_, ?_⟩
    · intro other lives apart otherBlock
      refine (created _).trans ?_
      rw [if_neg (nameOf_apart apart).symm, Option.or_none]
      rfl
    · intro name object answered
      exact (Host.create_stands answered).imp_right fun new => Nat.le_of_eq new.2.symm
  refine sound.replaced changes (sound.unique.emplace _ _) ?_ numbered ?_
    (sound.removals_after member (by simp [Call.removal])) ?_
  · intro name object answered
    simp only [Host.put, Host.create, List.length_append, List.length_singleton]
    rcases Host.create_stands answered with old | new
    · have := sound.stored name object old
      omega
    · omega
  · intro held holds
    rcases (Process.mem_holdings_after held).mp holds with new | others
    · obtain rfl : held = (blockId, host.objects.length) := by
        simpa [heldAfter, Call.holding] using new
      refine ⟨(created _).trans (by simp [absent]), ?_⟩
      simp [Host.put, Host.create]
    · obtain ⟨attached, made⟩ := sound.holdings process member held (without held others)
      refine ⟨kept attached, ?_⟩
      simp only [Host.put, Host.create]
      rw [List.getElem?_append_left (List.getElem?_eq_some_iff.mp made).1, made]
  · intro name object answered creation made own
    simp only [Host.put, Host.create] at made
    rcases Host.create_stands answered with old | ⟨rfl, rfl⟩
    · rw [List.getElem?_append_left (sound.stored name object old)] at made
      obtain ⟨named, given⟩ := sound.left name object old process member creation made own
      refine ⟨named, given.imp_left fun holds => (Process.mem_holdings_after _).mpr ?_⟩
      exact ((Process.mem_holdings runs _).mp holds).imp_left (by simp [unheld])
    · obtain rfl : creation = ⟨process.incarnation, process.pid, blockId⟩ := by
        simpa [eq_comm] using made
      exact ⟨rfl, .inl ((Process.mem_holdings_after _).mpr (.inl List.mem_cons_self))⟩

/-- A system call of a publisher's thread keeps the invariant, whatever it does. The cases are the
effects. -/
theorem Sound.advance (sound : Sound host) (found : host.processes[index]? = some process)
    (runs : process.calls[position]? = some call)
    (effect : Effect host process call next following made)
    (fewer : (idsAfter following made).Sublist call.blockId.toList) :
    Sound (next.put index (process.after position following made)) := by
  have numbered := (sound.numbered process (List.mem_of_getElem? found)).after runs fewer
  cases effect with
  | stays held removal => exact sound.stays found runs numbered held removal
  | abandons held => exact sound.abandons found runs numbered held
  | removes removal => exact sound.removes found runs numbered removal
  | drops own held removal => exact sound.drops found runs numbered own held removal
  | creates own unheld absent => exact sound.creates found runs numbered unheld absent

/-- A publisher changes only its own threads and blocks, and its named objects stay the same. -/
theorem Sound.kept (sound : Sound host) (found : host.processes[index]? = some process)
    (pid : changed.pid = process.pid) (incarnation : changed.incarnation = process.incarnation)
    (numbered : changed.Numbered)
    (holdings : ∀ held, held ∈ changed.holdings ↔ held ∈ process.holdings)
    (removals : ∀ call ∈ changed.calls, call ∈ process.calls ∨ call.removal = none) :
    Sound (host.put index changed) := by
  have member := List.mem_of_getElem? found
  refine sound.fewer ⟨found, rfl, rfl, pid, incarnation, ⟨[], by simp [Host.put], by simp⟩,
    List.Subset.refl _, fun _ _ _ _ => rfl, fun _ _ => .inl⟩ sound.unique rfl (fun _ _ => id)
    numbered (fun held holds => ⟨(holdings held).mp holds, rfl⟩) ?_
    fun held holds _ => .inl ((holdings held).mpr holds)
  intro call runs name removes
  rcases removals call runs with ran | nothing
  · exact sound.removals process member call ran name removes
  · simp [nothing] at removes

/-- Beginning a cleanup uses no block id. -/
theorem Process.Numbered.clean (numbered : process.Numbered) : process.clean.Numbered := by
  have same : process.clean.ids = process.ids := by
    simp [Process.ids, Process.clean, List.filterMap_append, Call.blockId]
  exact ⟨numbered.bounded, same ▸ numbered.once, fun blockId used =>
    numbered.below blockId (same ▸ used)⟩

/-- A block id which is handed out is used for nothing else, since the counter has passed all
those in use. -/
theorem Process.Numbered.allocate (numbered : process.Numbered)
    (free : process.nextBlockId ≠ uint32Max) : process.allocate.Numbered := by
  have bounded := numbered.bounded
  have value : (UInt32.ofNat process.nextBlockId).toNat = process.nextBlockId :=
    Nat.mod_eq_of_lt (by simp only [uint32Max] at bounded; omega)
  have ids : process.allocate.ids.Perm (UInt32.ofNat process.nextBlockId :: process.ids) := by
    simp [Process.ids, Process.allocate, List.filterMap_append, Call.blockId]
  refine ⟨Nat.lt_of_le_of_ne bounded free, ?_, fun blockId used => ?_⟩
  · rw [ids.nodup_iff, List.nodup_cons]
    refine ⟨fun used => ?_, numbered.once⟩
    have := numbered.below _ used
    omega
  · rcases List.mem_cons.mp (ids.mem_iff.mp used) with rfl | old
    · show (UInt32.ofNat process.nextBlockId).toNat < process.nextBlockId + 1
      omega
    · exact Nat.lt_succ_of_lt (numbered.below blockId old)

/-- Beginning to destroy a block hands its id from the block to the call. -/
theorem Process.Numbered.destroy {block : Nat} {owned : UInt32 × Nat} (numbered : process.Numbered)
    (stands : process.blocks[block]? = some owned) : (process.destroy block owned).Numbered := by
  obtain ⟨before, after, split, erased, -⟩ := focus process.blocks block owned stands
  have ids : (process.destroy block owned).ids.Perm process.ids := by
    simp only [Process.ids, Process.destroy]
    rw [erased, split]
    refine List.perm_iff_count.mpr fun blockId => ?_
    simp only [List.filterMap_append, List.filterMap_cons, Call.blockId, List.filterMap_nil,
      List.map_append, List.map_cons, List.count_append, List.count_cons, List.count_nil]
    omega
  exact ⟨numbered.bounded, ids.nodup_iff.mpr numbered.once, fun blockId used =>
    numbered.below blockId (ids.mem_iff.mp used)⟩

/-- A block about to be destroyed keeps its name until then. -/
theorem Process.mem_holdings_destroy {block : Nat} {owned : UInt32 × Nat}
    (stands : process.blocks[block]? = some owned) (held : UInt32 × Nat) :
    held ∈ (process.destroy block owned).holdings ↔ held ∈ process.holdings := by
  obtain ⟨before, after, split, erased, -⟩ := focus process.blocks block owned stands
  simp only [Process.holdings, Process.destroy]
  rw [erased, split]
  simp only [List.filterMap_append, List.filterMap_cons, Call.holding, List.filterMap_nil,
    List.mem_append, List.mem_cons, List.not_mem_nil]
  tauto

/-- A process starts, under a number which no living process has and no cleanup is about to remove
names of. -/
theorem Sound.spawn (sound : Sound host) {pid : UInt32} (fresh : pid ∉ host.alive)
    (unused : NoReuse host (.spawn pid)) :
    Sound { host with
      processes := host.processes ++ [⟨pid, host.born, 0, [], []⟩]
      born := host.born + 1 } := by
  have members : ∀ other ∈ host.processes ++ [⟨pid, host.born, 0, [], []⟩],
      other ∈ host.processes ∨ other = ⟨pid, host.born, 0, [], []⟩ := by simp
  refine ⟨sound.unique, sound.stored, ?_, ?_, ?_, ?_, ?_, ?_, ?_, ?_⟩
  · intro other inside
    rcases members other inside with old | rfl
    exacts [sound.numbered other old,
      ⟨Nat.zero_le _, List.nodup_nil, fun _ used => absurd used List.not_mem_nil⟩]
  · rw [List.map_append]
    refine sound.pids.append (List.nodup_singleton _) ?_
    intro number old new
    rw [List.mem_singleton.mp new] at old
    exact fresh (List.mem_append_left _ old)
  · rw [List.map_append]
    refine sound.incarnations.append (List.nodup_singleton _) ?_
    intro number old new
    obtain ⟨other, inside, rfl⟩ := List.mem_map.mp old
    exact absurd (sound.living other inside) (by simp [List.mem_singleton.mp new])
  · intro other inside
    rcases members other inside with old | rfl
    exacts [Nat.lt_succ_of_lt (sound.living other old), Nat.lt_succ_self _]
  · exact fun creation made => Nat.lt_succ_of_lt (sound.past creation made)
  · intro other inside held holds
    rcases members other inside with old | rfl
    exacts [sound.holdings other old held holds, absurd holds List.not_mem_nil]
  · intro other inside call runs name removes survivor survives
    rcases members other inside with old | rfl
    · rcases members survivor survives with lived | rfl
      exacts [sound.removals other old call runs name removes survivor lived,
        unused other old call runs name removes]
    · exact absurd runs List.not_mem_nil
  · intro name object stands other inside creation made own
    rcases members other inside with old | rfl
    · exact sound.left name object stands other old creation made own
    · exact absurd (sound.past creation (List.mem_of_getElem? made)) (by simp [own])

/-- A process dies, and leaves its names without an owner. -/
theorem Sound.exit (sound : Sound host) :
    Sound { host with processes := host.processes.eraseIdx index } := by
  have fewer := List.eraseIdx_sublist host.processes index
  refine ⟨sound.unique, sound.stored,
    fun other inside => sound.numbered other (fewer.subset inside),
    sound.pids.sublist (fewer.map _), sound.incarnations.sublist (fewer.map _),
    fun other inside => sound.living other (fewer.subset inside), sound.past,
    fun other inside => sound.holdings other (fewer.subset inside), ?_,
    fun name object stands other inside => sound.left name object stands other
      (fewer.subset inside)⟩
  exact fun other inside call runs name removes survivor survives =>
    sound.removals other (fewer.subset inside) call runs name removes survivor
      (fewer.subset survives)

/-- A thread which starts at another call removes nothing yet. -/
theorem appended {first : Call} (removal : first.removal = none) :
    ∀ call ∈ process.calls ++ [first], call ∈ process.calls ∨ call.removal = none := by
  intro call runs
  refine (List.mem_append.mp runs).imp_right fun last => ?_
  rw [List.mem_singleton.mp last, removal]

/-- Every admitted action keeps the invariant. The proof takes the kinds of action one by one. -/
theorem Sound.step (sound : Sound host) {action : Action} (unused : NoReuse host action)
    (moved : step host action = some next) : Sound next := by
  cases action with
  | spawn pid =>
    simp only [SharedNames.step] at moved
    split at moved
    · cases moved
    · next fresh =>
      cases moved
      exact sound.spawn (not_or.mp fresh).2 unused
  | exit index =>
    simp only [SharedNames.step] at moved
    split at moved
    · cases moved
      exact sound.exit
    · cases moved
  | others pids =>
    simp only [SharedNames.step] at moved
    split at moved
    · cases moved
      exact ⟨sound.unique, sound.stored, sound.numbered, sound.pids, sound.incarnations,
        sound.living, sound.past, sound.holdings, sound.removals, sound.left⟩
    · cases moved
  | clean index =>
    obtain ⟨process, found, rfl⟩ := Option.map_eq_some_iff.mp moved
    refine sound.kept found rfl rfl (sound.numbered process (List.mem_of_getElem? found)).clean
      (fun held => ?_) (appended rfl)
    simp [Process.holdings, Process.clean, List.filterMap_append, Call.holding]
  | allocate index =>
    obtain ⟨process, found, rest⟩ := Option.bind_eq_some_iff.mp moved
    split at rest
    · cases rest
    · next free =>
      cases rest
      refine sound.kept found rfl rfl
        ((sound.numbered process (List.mem_of_getElem? found)).allocate free) (fun held => ?_)
        (appended rfl)
      simp [Process.holdings, Process.allocate, List.filterMap_append, Call.holding]
  | destroy index block =>
    obtain ⟨process, found, rest⟩ := Option.bind_eq_some_iff.mp moved
    obtain ⟨owned, stands, rfl⟩ := Option.map_eq_some_iff.mp rest
    exact sound.kept found rfl rfl
      ((sound.numbered process (List.mem_of_getElem? found)).destroy stands)
      (Process.mem_holdings_destroy stands) (appended rfl)
  | advance index position answers =>
    obtain ⟨process, found, rest⟩ := Option.bind_eq_some_iff.mp moved
    obtain ⟨⟨after, following, made⟩, performed, rfl⟩ := Option.map_eq_some_iff.mp rest
    obtain ⟨call, runs, effect⟩ := Option.bind_eq_some_iff.mp performed
    obtain ⟨effect, fewer⟩ := perform_effect effect
    exact sound.advance found runs effect fewer

/-- A host without publishers has no names which anybody counts on. -/
theorem Initial.sound (initial : Initial host) : Sound host := by
  obtain ⟨unpublished, unique, stored, past⟩ := initial
  refine ⟨unique, ?_, ?_, ?_, ?_, ?_, past, ?_, ?_, ?_⟩
  · intro name object found
    rw [beq_names] at found
    exact stored _ ((mem_iff_lookup unique name object).mpr found)
  all_goals simp [unpublished]

/-- The invariant holds along every run in which no number is reused under a pending removal. By
induction on the run. -/
theorem reachable_sound (reached : Reachable step NoReuse Initial host) : Sound host :=
  Reachable.invariant (fun _ initial => initial.sound)
    (fun _ _ _ _ sound unused moved => sound.step unused moved) reached

instance (host : Host) (action : Action) : Decidable (NoReuse host action) :=
  match action with
  | .spawn _ => inferInstanceAs (Decidable (∀ _ ∈ _, _))
  | .exit _ | .others _ | .clean _ | .allocate _ | .destroy .. | .advance .. => isTrue trivial

/-- In every run in which no process number is used again behind a cleanup, every block of a
living publisher has a number of its own, its name denotes the object this publisher created
for it, and no other name denotes an object of this publisher unless removing it failed. -/
theorem names_owned (reached : Reachable step NoReuse Initial host)
    (living : process ∈ host.processes) :
    (process.holdings.map Prod.fst).Nodup ∧
      (∀ held ∈ process.holdings, host.attach process.pid held.1 = some held.2 ∧
        host.objects[held.2]? = some ⟨process.incarnation, process.pid, held.1⟩) ∧
      ∀ name object creation, host.directory.lookup name = some object →
        host.objects[object]? = some creation → creation.incarnation = process.incarnation →
          name = nameOf process.pid creation.blockId ∧
            ((creation.blockId, object) ∈ process.holdings ∨ object ∈ host.abandoned) := by
  have sound := reachable_sound reached
  refine ⟨?_, sound.holdings process living, fun name object creation stands made own =>
    sound.left name object stands process living creation made own⟩
  exact process.holdings_once (sound.numbered process living).once

/-- A host on which publisher 7 has died with two names, and one other process lives. -/
def deserted : Host where
  processes := []
  others := [1]
  directory := [(nameOf 7 0, 0), (nameOf 7 1, 1)]
  objects := [⟨0, 7, 0⟩, ⟨0, 7, 1⟩]
  abandoned := []
  born := 1

/-- Such a host is a start, for the names of a dead process belong to nobody. -/
theorem deserted_initial : Initial deserted := by
  unfold Initial UniqueKeys
  decide +kernel

/-- System calls which succeed, of which `kill` knows all processes but publisher 7. -/
def succeeding (entry : Option String) : Answers where
  entry := entry.map String.toList
  kill pid := if pid = 7 then .failed ESRCH else .succeeded
  succeeded := true

/-- Publisher 9 removes one of the names; a new publisher 7 replaces the other. -/
theorem names_owned_replaced : ∃ host process, Reachable step NoReuse Initial host ∧
    process ∈ host.processes ∧ process.pid = 7 ∧ process.holdings = [(0, 2)] ∧
    host.attach 7 0 = some 2 ∧ host.objects[2]? = some ⟨process.incarnation, 7, 0⟩ := by
  obtain ⟨host, taken, same⟩ := Option.map_eq_some_iff.mp (by decide +kernel :
    (run (guarded step NoReuse) deserted
      [.spawn 9, .clean 0, .advance 0 0 (succeeding (some "ros2_cuda_ipc_7_1")),
        .advance 0 0 (succeeding none), .advance 0 0 (succeeding none), .spawn 7, .allocate 1,
        .advance 1 0 (succeeding none), .advance 1 0 (succeeding none),
        .advance 1 0 (succeeding none), .advance 1 0 (succeeding none)]).map
      (fun host => host.processes[1]?) = some (some ⟨7, 2, 1, [], [(0, 2)]⟩))
  have living := List.mem_of_getElem? same
  have reached : Reachable step NoReuse Initial host :=
    reachable_run _ deserted host (.start deserted deserted_initial) taken
  obtain ⟨-, owned, -⟩ := names_owned reached living
  obtain ⟨attached, created⟩ := owned (0, 2) List.mem_cons_self
  exact ⟨host, _, reached, living, rfl, rfl, attached, created⟩

/-- The condition is needed: if the new publisher starts between `kill` and `shm_unlink`, it
loses its name. -/
example : (run step deserted
    [.spawn 9, .clean 0, .advance 0 0 (succeeding (some "ros2_cuda_ipc_7_0")), .spawn 7,
      .allocate 1, .advance 1 0 (succeeding none), .advance 1 0 (succeeding none),
      .advance 1 0 (succeeding none), .advance 1 0 (succeeding none),
      .advance 0 0 (succeeding none)]).map
    (fun host => (host.processes[1]?.map Process.blocks, host.attach 7 0)) =
      some (some [(0, 2)], none) := by decide +kernel

end Ros2CudaIpc.SharedNames
