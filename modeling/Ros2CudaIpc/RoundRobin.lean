import Mathlib.Data.List.Pairwise
import Ros2CudaIpc.CyclicSearch
import Ros2CudaIpc.ManagerInvariant

/-!
# The pool's round-robin search

A reservation scans the blocks once, from the cursor on. A block without metadata is
passed over, and so is one whose own attempt fails: it is referenced, its publication
is younger than the grace period, or its uid is the largest word. That last failure
claims the count first and gives it back. The first block whose attempt succeeds is
returned, with the cursor behind it.

Here the scan has the metadata objects to itself. Every attempt samples the clock, so
the readings are given block by block. Between calls the objects may change in any
way; the cursor and the number of blocks stay as the last call left them.
-/

namespace Ros2CudaIpc.RoundRobin

open CyclicSearch Reachability
open GpuBufferManager (MetadataObject writeObject)

/-- `BufferRef::reserve_for_publish` without other steps on the object: the words it leaves, and
the uid it is granted. -/
def attempt (now : Nat) (metadata : BlockMetadata) : BlockMetadata × Option Nat :=
  if metadata.refcount ≠ 0 then (metadata, none)
  else if ReserveCall.tooRecent now metadata.publishTimestampUs then (metadata, none)
  else
    let claimed := { metadata with refcount := 1 }
    if claimed.uid = uint64Max then ({ claimed with refcount := 0 }, none)
    else ({ claimed with uid := claimed.uid + 1, publishTimestampUs := 0 }, some (claimed.uid + 1))

/-- What a call leaves and returns: the pool with its cursor, the objects, and the reservation if
there is one. -/
structure Scanned where
  pool : GpuBufferPool
  objects : List MetadataObject
  reservation : Option BlockReservation
deriving DecidableEq, Repr

/-- The loop of `GpuBufferPool::reserve_for_publish` from an offset on, with so many turns
remaining. The first reservation ends it. -/
def scan (now : Nat → Nat) (pool : GpuBufferPool) (objects : List MetadataObject) :
    Nat → Nat → Scanned
  | 0, _ => ⟨pool, objects, none⟩
  | remaining + 1, offset =>
    let index := pool.scanIndex offset
    match pool.resources index with
    | none => ⟨pool, objects, none⟩
    | some block =>
      match block.sharedMetadata with
      | none => scan now pool objects remaining (offset + 1)
      | some mapping =>
        match objects[mapping]? with
        | none => scan now pool objects remaining (offset + 1)
        | some object =>
          let after := attempt (now index) object.metadata
          let written := writeObject objects (some mapping) after.1
          match after.2 with
          | none => scan now pool written remaining (offset + 1)
          | some uid =>
            { pool := { pool with nextBlock := (index + 1) % pool.blocks.length }
              objects := written
              reservation := some ⟨some mapping, block.blockId, uid, pool.publisherPid, index⟩ }

/-- `GpuBufferPool::reserve_for_publish`; `locked` is the outcome of the mutex lock, without which
it returns at once. -/
def reserveForPublish (locked : Bool) (now : Nat → Nat) (pool : GpuBufferPool)
    (objects : List MetadataObject) : Scanned :=
  if locked = false then ⟨pool, objects, none⟩
  else if pool.initialised = false ∨ pool.blocks = [] then ⟨pool, objects, none⟩
  else scan now pool objects pool.blocks.length 0

/-- The words of the block at an index, when the block has an object. -/
def metadataAt (pool : GpuBufferPool) (objects : List MetadataObject) (index : Nat) :
    Option BlockMetadata :=
  ((pool.resources index).bind GpuBufferBlock.sharedMetadata).bind fun mapping =>
    objects[mapping]?.map MetadataObject.metadata

/-- Words which can be reserved at a clock reading. A word apart from the largest is
below it. -/
structure Reusable (now : Nat) (metadata : BlockMetadata) : Prop where
  unreferenced : metadata.refcount = 0
  aged : metadata.publishTimestampUs = 0 ∨ metadata.publishTimestampUs + gracePeriodUs ≤ now
  room : metadata.uid ≠ uint64Max

instance (now : Nat) (metadata : BlockMetadata) : Decidable (Reusable now metadata) :=
  decidable_of_iff (metadata.refcount = 0 ∧ (metadata.publishTimestampUs = 0 ∨
      metadata.publishTimestampUs + gracePeriodUs ≤ now) ∧ metadata.uid ≠ uint64Max)
    ⟨fun ⟨unreferenced, aged, room⟩ => ⟨unreferenced, aged, room⟩,
      fun ⟨unreferenced, aged, room⟩ => ⟨unreferenced, aged, room⟩⟩

/-- The words of a reserved block: the next uid, one reference, and no timestamp. -/
def reserved (metadata : BlockMetadata) : BlockMetadata := ⟨metadata.uid + 1, 1, 0⟩

/-- The block at an index can be reserved when the scan reads the clock for it. -/
def ReusableAt (now : Nat → Nat) (pool : GpuBufferPool) (objects : List MetadataObject)
    (index : Nat) : Prop :=
  ∃ metadata, metadataAt pool objects index = some metadata ∧ Reusable (now index) metadata

instance (now : Nat → Nat) (pool : GpuBufferPool) (objects : List MetadataObject)
    (index : Nat) : Decidable (ReusableAt now pool objects index) :=
  decidable_of_iff ((metadataAt pool objects index).any fun metadata =>
    decide (Reusable (now index) metadata)) (by simp [ReusableAt, Option.any_eq_true])

variable {now : Nat → Nat} {pool : GpuBufferPool} {objects : List MetadataObject}
  {metadata : BlockMetadata} {index : Nat}

/-- An attempt on words which can be reserved takes them and is granted the next uid. -/
theorem attempt_reusable {clock : Nat} (reusable : Reusable clock metadata) :
    attempt clock metadata = (reserved metadata, some (metadata.uid + 1)) := by
  obtain ⟨unreferenced, aged, room⟩ := reusable
  have old : ¬ ReserveCall.tooRecent clock metadata.publishTimestampUs := by
    unfold ReserveCall.tooRecent
    omega
  simp [attempt, reserved, unreferenced, old, room]

/-- An attempt on others leaves them as they were.

Proof: the claim of an exhausted block and its undoing cancel out. -/
theorem attempt_refused {clock : Nat} (refused : ¬ Reusable clock metadata) :
    attempt clock metadata = (metadata, none) := by
  unfold attempt
  split
  · rfl
  next unreferenced =>
  split
  · rfl
  next old =>
  have idle : metadata.refcount = 0 := by simpa using unreferenced
  have last : metadata.uid = uint64Max := by
    by_contra room
    refine refused ⟨idle, ?_, room⟩
    unfold ReserveCall.tooRecent at old
    omega
  obtain ⟨uid, refcount, timestamp⟩ := metadata
  simp only at idle last
  simp [idle, last]

/-- Writing the words an object has changes nothing, as a refused attempt does. -/
theorem writeObject_same {mapping : Nat} {object : MetadataObject}
    (found : objects[mapping]? = some object) :
    writeObject objects (some mapping) object.metadata = objects := by
  apply List.ext_getElem?
  intro other
  simp only [writeObject, List.getElem?_modify]
  split
  · next same =>
    subst same
    rw [found]
    rfl
  · simp

/-- A turn on a block which cannot be reserved goes on with the next. -/
theorem scan_passes {remaining offset : Nat} (inside : pool.scanIndex offset < pool.blocks.length)
    (refused : ¬ ReusableAt now pool objects (pool.scanIndex offset)) :
    scan now pool objects (remaining + 1) offset =
      scan now pool objects remaining (offset + 1) := by
  have stands : ∃ block, pool.resources (pool.scanIndex offset) = some block :=
    ⟨_, List.getElem?_eq_getElem inside⟩
  obtain ⟨block, stands⟩ := stands
  simp only [scan, stands]
  split
  · rfl
  next mapping shared =>
  split
  · rfl
  next object found =>
  have same : attempt (now (pool.scanIndex offset)) object.metadata = (object.metadata, none) := by
    refine attempt_refused fun reusable => refused ⟨object.metadata, ?_, reusable⟩
    simp [metadataAt, stands, shared, found]
  rw [same]
  simp only [writeObject_same found]

/-- What a turn which reserves the block at an index leaves and returns. The other objects are as
they were. -/
structure Grants (pool : GpuBufferPool) (objects : List MetadataObject) (index : Nat)
    (scanned : Scanned) : Prop where
  advanced : scanned.pool = { pool with nextBlock := (index + 1) % pool.blocks.length }
  granted : ∃ block mapping metadata, pool.resources index = some block ∧
    block.sharedMetadata = some mapping ∧ metadataAt pool objects index = some metadata ∧
    scanned.objects = writeObject objects (some mapping) (reserved metadata) ∧
    scanned.reservation =
      some ⟨some mapping, block.blockId, metadata.uid + 1, pool.publisherPid, index⟩

/-- A turn on a block which can be reserved returns it, however many turns remain. -/
theorem scan_grants {remaining offset : Nat}
    (reusable : ReusableAt now pool objects (pool.scanIndex offset)) :
    Grants pool objects (pool.scanIndex offset) (scan now pool objects (remaining + 1) offset) := by
  obtain ⟨metadata, words, ready⟩ := reusable
  obtain ⟨mapping, shares, read⟩ := Option.bind_eq_some_iff.mp words
  obtain ⟨block, stands, shared⟩ := Option.bind_eq_some_iff.mp shares
  obtain ⟨object, found, rfl⟩ := Option.map_eq_some_iff.mp read
  have taken := attempt_reusable ready
  simp only [scan, stands, shared, found, taken]
  exact ⟨rfl, block, mapping, object.metadata, stands, shared, words, rfl, rfl⟩

/-- From an offset on the scan returns the first block it can reserve, or nothing and
leaves everything as it was. -/
theorem scan_first (nonempty : pool.blocks ≠ []) (remaining offset : Nat) :
    (∃ ahead, offset ≤ ahead ∧ ahead < offset + remaining ∧
        ReusableAt now pool objects (pool.scanIndex ahead) ∧
        (∀ earlier, offset ≤ earlier → earlier < ahead →
          ¬ ReusableAt now pool objects (pool.scanIndex earlier)) ∧
        Grants pool objects (pool.scanIndex ahead) (scan now pool objects remaining offset)) ∨
      (∀ ahead, offset ≤ ahead → ahead < offset + remaining →
        ¬ ReusableAt now pool objects (pool.scanIndex ahead)) ∧
        scan now pool objects remaining offset = ⟨pool, objects, none⟩ := by
  induction remaining generalizing offset with
  | zero =>
    refine .inr ⟨fun ahead after before => ?_, rfl⟩
    omega
  | succ remaining inductionHypothesis =>
    by_cases reusable : ReusableAt now pool objects (pool.scanIndex offset)
    · refine .inl ⟨offset, Nat.le_refl _, by omega, reusable, fun earlier after before => ?_,
        scan_grants reusable⟩
      omega
    · have inside : pool.scanIndex offset < pool.blocks.length :=
        Nat.mod_lt _ (List.length_pos_iff.mpr nonempty)
      rw [scan_passes inside reusable]
      have here : ∀ ahead, offset ≤ ahead → ¬ offset + 1 ≤ ahead → ahead = offset := by omega
      rcases inductionHypothesis (offset + 1) with found | missing
      · obtain ⟨ahead, after, before, ready, first, grants⟩ := found
        refine .inl ⟨ahead, by omega, by omega, ready, fun earlier later sooner => ?_, grants⟩
        by_cases beyond : offset + 1 ≤ earlier
        · exact first earlier beyond sooner
        · rw [here earlier later beyond]
          exact reusable
      · obtain ⟨absent, left⟩ := missing
        refine .inr ⟨fun ahead after before => ?_, left⟩
        by_cases beyond : offset + 1 ≤ ahead
        · exact absent ahead beyond (by omega)
        · rw [here ahead after beyond]
          exact reusable

/-- The pool of an initialised generation, and the metadata objects. Each block has a
metadata object of its own. -/
structure Generation where
  pool : GpuBufferPool
  objects : List MetadataObject
  ready : pool.initialised = true
  nonempty : pool.blocks ≠ []
  cursor : pool.nextBlock < pool.blocks.length
  distinct : pool.mappings.Nodup

namespace Generation

/-- The number of blocks of a generation, which no call changes. -/
def count (generation : Generation) : Nat := generation.pool.blocks.length

/-- The block at an index of a generation can be reserved when the scan reads the clock for it. -/
def ReusableAt (generation : Generation) (now : Nat → Nat) (index : Nat) : Prop :=
  RoundRobin.ReusableAt now generation.pool generation.objects index

instance (generation : Generation) (now : Nat → Nat) (index : Nat) :
    Decidable (generation.ReusableAt now index) :=
  inferInstanceAs (Decidable (RoundRobin.ReusableAt ..))

/-- A call on the generation, with the clock's readings block by block. -/
def reserveForPublish (generation : Generation) (locked : Bool) (now : Nat → Nat) : Scanned :=
  RoundRobin.reserveForPublish locked now generation.pool generation.objects

/-- A reservation goes to the first block in cyclic order which can be reserved. It
takes this block's words, leaves those of the others, and puts the cursor behind it. -/
structure Serves (generation : Generation) (now : Nat → Nat) (scanned : Scanned)
    (reservation : BlockReservation) : Prop where
  reusable : generation.ReusableAt now reservation.poolIndex
  first : ∃ ahead < generation.count,
    reservation.poolIndex = slot generation.count generation.pool.nextBlock ahead ∧
      ∀ earlier < ahead,
        ¬ generation.ReusableAt now (slot generation.count generation.pool.nextBlock earlier)
  taken : ∃ metadata,
    metadataAt generation.pool generation.objects reservation.poolIndex = some metadata ∧
      metadataAt scanned.pool scanned.objects reservation.poolIndex = some (reserved metadata) ∧
      reservation.uid = metadata.uid + 1
  others : ∀ other, other ≠ reservation.poolIndex →
    metadataAt scanned.pool scanned.objects other =
      metadataAt generation.pool generation.objects other
  moved : scanned.pool.nextBlock = (reservation.poolIndex + 1) % generation.count

end Generation

/-- Two blocks of a pool whose objects are distinct have different ones. -/
theorem mapping_apart (distinct : pool.mappings.Nodup) {other mapping otherMapping : Nat}
    {block otherBlock : GpuBufferBlock} (stands : pool.resources index = some block)
    (otherStands : pool.resources other = some otherBlock) (apart : other ≠ index)
    (shared : block.sharedMetadata = some mapping)
    (otherShared : otherBlock.sharedMetadata = some otherMapping) : mapping ≠ otherMapping := by
  obtain ⟨inside, rfl⟩ := List.getElem?_eq_some_iff.mp stands
  obtain ⟨otherInside, rfl⟩ := List.getElem?_eq_some_iff.mp otherStands
  have pairwise := List.pairwise_iff_getElem.mp (List.pairwise_filterMap.mp distinct)
  rcases Nat.lt_or_gt_of_ne apart with before | behind
  · exact (pairwise other index otherInside inside before _ otherShared _ shared).symm
  · exact pairwise index other inside otherInside behind _ shared _ otherShared

/-- A grant writes the words of its own block: its next uid, one reference and no timestamp. -/
theorem Grants.metadataAt_own {scanned : Scanned} (grants : Grants pool objects index scanned) :
    ∃ metadata reservation, metadataAt pool objects index = some metadata ∧
      metadataAt scanned.pool scanned.objects index = some (reserved metadata) ∧
      scanned.reservation = some reservation ∧ reservation.poolIndex = index ∧
      reservation.uid = metadata.uid + 1 := by
  obtain ⟨advanced, block, mapping, metadata, stands, shared, words, written, granted⟩ := grants
  refine ⟨metadata, _, words, ?_, granted, rfl, rfl⟩
  have stored : (objects[mapping]?.map MetadataObject.metadata) = some metadata := by
    simpa [metadataAt, stands, shared] using words
  have kept : scanned.pool.resources index = some block := advanced ▸ stands
  simp only [metadataAt, kept, Option.bind_some, shared, written, writeObject,
    List.getElem?_modify_eq]
  obtain ⟨object, found, rfl⟩ := Option.map_eq_some_iff.mp stored
  simp [found]

/-- And of no other block, since each has an object of its own. -/
theorem Grants.metadataAt_other {scanned : Scanned} (grants : Grants pool objects index scanned)
    (distinct : pool.mappings.Nodup) {other : Nat} (apart : other ≠ index) :
    metadataAt scanned.pool scanned.objects other = metadataAt pool objects other := by
  obtain ⟨advanced, block, mapping, metadata, stands, shared, -, written, -⟩ := grants
  have kept : scanned.pool.resources other = pool.resources other := advanced ▸ rfl
  rw [metadataAt, metadataAt, kept]
  cases otherStands : pool.resources other with
  | none => rfl
  | some otherBlock =>
    cases otherShared : otherBlock.sharedMetadata with
    | none => simp [otherShared]
    | some otherMapping =>
      have different := mapping_apart distinct stands otherStands apart shared otherShared
      simp [otherShared, written, writeObject, different]

namespace Generation

variable {generation : Generation}

/-- A block which can be reserved is one of the pool's, because it has words. -/
theorem ReusableAt.inside {now : Nat → Nat} (ready : generation.ReusableAt now index) :
    index < generation.count := by
  obtain ⟨metadata, words, -⟩ := ready
  obtain ⟨mapping, shares, -⟩ := Option.bind_eq_some_iff.mp words
  obtain ⟨block, stands, -⟩ := Option.bind_eq_some_iff.mp shares
  exact (List.getElem?_eq_some_iff.mp stands).1

/-- A call either reserves the first block it can, or there is none and it changes nothing. -/
theorem reserveForPublish_cases (generation : Generation) (now : Nat → Nat) :
    (∃ reservation, (generation.reserveForPublish true now).reservation = some reservation ∧
        generation.Serves now (generation.reserveForPublish true now) reservation) ∨
      (∀ index, ¬ generation.ReusableAt now index) ∧
        generation.reserveForPublish true now = ⟨generation.pool, generation.objects, none⟩ := by
  have called : generation.reserveForPublish true now =
      scan now generation.pool generation.objects generation.pool.blocks.length 0 := by
    simp [reserveForPublish, RoundRobin.reserveForPublish, generation.ready, generation.nonempty]
  rw [called]
  rcases scan_first generation.nonempty generation.pool.blocks.length 0 with found | missing
  · obtain ⟨ahead, -, within, ready, first, grants⟩ := found
    obtain ⟨metadata, reservation, words, left, granted, same, uid⟩ := grants.metadataAt_own
    refine .inl ⟨reservation, granted, ?_⟩
    have near : ahead < generation.count := by
      rw [Nat.zero_add] at within
      exact within
    refine ⟨same ▸ ready, ⟨ahead, near, same, fun earlier sooner =>
      first earlier (Nat.zero_le _) sooner⟩, ⟨metadata, same ▸ words, same ▸ left, uid⟩,
      fun other apart => grants.metadataAt_other generation.distinct (same ▸ apart), ?_⟩
    rw [grants.advanced, same]
    rfl
  · obtain ⟨absent, left⟩ := missing
    refine .inr ⟨fun index ready => ?_, left⟩
    have inside := ready.inside
    have near : distance generation.count generation.pool.nextBlock index <
        0 + generation.pool.blocks.length := by
      rw [Nat.zero_add]
      exact distance_lt inside generation.pool.nextBlock
    refine absent _ (Nat.zero_le _) near ?_
    have reached : generation.pool.scanIndex
        (distance generation.count generation.pool.nextBlock index) = index :=
      slot_distance inside generation.pool.nextBlock
    rw [reached]
    exact ready

/-- No block that can be reserved lies before the one which is, counted from the cursor. -/
theorem Serves.nearest {now : Nat → Nat} {scanned : Scanned} {reservation : BlockReservation}
    (serves : generation.Serves now scanned reservation)
    (ready : generation.ReusableAt now index) (inside : index < generation.count) :
    distance generation.count generation.pool.nextBlock reservation.poolIndex ≤
      distance generation.count generation.pool.nextBlock index := by
  obtain ⟨ahead, within, same, first⟩ := serves.first
  rw [same, distance_slot within]
  refine Nat.le_of_not_lt fun before => first _ before ?_
  rw [slot_distance inside]
  exact ready

end Generation

/-- One call: the generation as it finds it, the outcome of its lock and its readings of
the clock. -/
structure Call where
  generation : Generation
  locked : Bool
  now : Nat → Nat

namespace Call

/-- What the call leaves and returns, computed on the generation it finds. -/
def scanned (call : Call) : Scanned := call.generation.reserveForPublish call.locked call.now

/-- A call follows another when it finds the cursor where that one left it. The words
may have changed in any way. -/
def Follows (earlier later : Call) : Prop :=
  later.generation.pool.nextBlock = earlier.scanned.pool.nextBlock

instance : DecidableRel Call.Follows := fun _ _ => inferInstanceAs (Decidable (_ = _))

/-- The call as a service of the ring of blocks: the cursor it finds, the slot it serves, the
cursor it leaves. -/
def service (call : Call) : Service :=
  ⟨call.generation.pool.nextBlock, call.scanned.reservation.map BlockReservation.poolIndex,
    call.scanned.pool.nextBlock⟩

variable {call : Call}

/-- A call whose lock fails does nothing and returns no reservation. -/
theorem scanned_unlocked (failed : call.locked = false) :
    call.scanned = ⟨call.generation.pool, call.generation.objects, none⟩ := by
  simp [scanned, Generation.reserveForPublish, reserveForPublish, failed]

/-- A successful call serves the first block that can be reserved, in the cyclic order from its
cursor. -/
theorem scanned_serves {reservation : BlockReservation}
    (granted : call.scanned.reservation = some reservation) :
    call.generation.Serves call.now call.scanned reservation := by
  cases locked : call.locked with
  | false => simp [scanned_unlocked locked] at granted
  | true =>
    have performed : call.scanned = call.generation.reserveForPublish true call.now :=
      locked ▸ rfl
    rw [performed] at granted ⊢
    rcases call.generation.reserveForPublish_cases call.now with found | missing
    · obtain ⟨other, returned, serves⟩ := found
      obtain rfl : reservation = other := Option.some.inj (granted.symm.trans returned)
      exact serves
    · simp [missing.2] at granted

/-- An unsuccessful call changes nothing, neither the cursor nor any block's words. -/
theorem scanned_none (refused : call.scanned.reservation = none) :
    call.scanned.pool = call.generation.pool ∧
      call.scanned.objects = call.generation.objects := by
  cases locked : call.locked with
  | false => simp [scanned_unlocked locked]
  | true =>
    have performed : call.scanned = call.generation.reserveForPublish true call.now :=
      locked ▸ rfl
    rw [performed] at refused ⊢
    rcases call.generation.reserveForPublish_cases call.now with found | missing
    · obtain ⟨other, returned, -⟩ := found
      simp [refused] at returned
    · simp [missing.2]

/-- The cursor stays below the number of blocks, so the next call finds it among them. -/
theorem scanned_cursor (call : Call) : call.scanned.pool.nextBlock < call.generation.count := by
  cases granted : call.scanned.reservation with
  | none =>
    rw [(scanned_none granted).1]
    exact call.generation.cursor
  | some reservation =>
    rw [(scanned_serves granted).moved]
    exact Nat.mod_lt _ (List.length_pos_iff.mpr call.generation.nonempty)

/-- A call which could reserve the block at an index, if it succeeds, is a fair service
for it. -/
theorem service_fair (ready : call.scanned.reservation.isSome = true →
      call.generation.ReusableAt call.now index) :
    call.service.Fair call.generation.count index := by
  have served : ∀ slot, call.service.served = some slot → ∃ reservation,
      call.scanned.reservation = some reservation ∧ reservation.poolIndex = slot :=
    fun slot same => Option.map_eq_some_iff.mp same
  refine ⟨?_, ?_, ?_, ?_⟩
  · intro slot same
    obtain ⟨reservation, granted, rfl⟩ := served slot same
    exact (scanned_serves granted).reusable.inside
  · intro slot same
    obtain ⟨reservation, granted, rfl⟩ := served slot same
    have reusable := ready (by simp [granted])
    exact (scanned_serves granted).nearest reusable reusable.inside
  · intro slot same
    obtain ⟨reservation, granted, rfl⟩ := served slot same
    exact (scanned_serves granted).moved
  · intro unserved
    have refused : call.scanned.reservation = none := Option.map_eq_none_iff.mp unserved
    exact congrArg GpuBufferPool.nextBlock (scanned_none refused).1

end Call

/-- As many successful calls in succession as there are blocks return every block which
each of them could have returned. -/
theorem returned_eventually {count : Nat} {calls : List Call} (positive : 0 < count)
    (sized : ∀ call ∈ calls, call.generation.count = count)
    (follow : calls.IsChain Call.Follows)
    (ready : ∀ call ∈ calls, call.scanned.reservation.isSome = true →
      call.generation.ReusableAt call.now index)
    (enough : count ≤ (calls.filterMap fun call => call.scanned.reservation).length) :
    ∃ call ∈ calls, ∃ reservation, call.scanned.reservation = some reservation ∧
      reservation.poolIndex = index := by
  have succeeded : ∃ call ∈ calls, call.scanned.reservation.isSome = true := by
    have nonempty : calls.filterMap (fun call => call.scanned.reservation) ≠ [] := by
      intro empty
      rw [empty] at enough
      exact Nat.not_lt.mpr enough positive
    obtain ⟨reservation, member⟩ := List.exists_mem_of_ne_nil _ nonempty
    obtain ⟨call, present, granted⟩ := List.mem_filterMap.mp member
    exact ⟨call, present, by simp [granted]⟩
  obtain ⟨winner, present, granted⟩ := succeeded
  have inside : index < count := sized winner present ▸ (ready winner present granted).inside
  have services : (calls.map Call.service).filterMap Service.served =
      (calls.filterMap fun call => call.scanned.reservation).map BlockReservation.poolIndex := by
    rw [List.filterMap_map, List.map_filterMap]
    rfl
  have served : ∃ service ∈ calls.map Call.service, service.served = some index := by
    refine served_eventually inside ?_ ?_ ?_
    · exact (List.isChain_map Call.service).mpr follow
    · intro service member
      obtain ⟨call, present, rfl⟩ := List.mem_map.mp member
      exact sized call present ▸ Call.service_fair (ready call present)
    · rw [services, List.length_map]
      exact enough
  obtain ⟨service, member, same⟩ := served
  obtain ⟨call, present, rfl⟩ := List.mem_map.mp member
  exact ⟨call, present, Option.map_eq_some_iff.mp same⟩

/-- The search is complete and fair. A call which gets the lock returns a reservation
exactly when some block can be reserved, and then of the first one in cyclic order from
the cursor, leaving the words of the others and the cursor behind it; otherwise it
changes nothing. A block that each of as many successful calls as there are blocks could
have returned is returned by one of them. -/
theorem reserveForPublish_roundRobin :
    (∀ (generation : Generation) (now : Nat → Nat),
      let scanned := generation.reserveForPublish true now
      (scanned.reservation.isSome = true ↔ ∃ index, generation.ReusableAt now index) ∧
        (∀ reservation, scanned.reservation = some reservation →
          generation.Serves now scanned reservation) ∧
        (scanned.reservation = none →
          scanned.pool = generation.pool ∧ scanned.objects = generation.objects) ∧
        scanned.pool.nextBlock < generation.count) ∧
      (∀ (generation : Generation) (now : Nat → Nat),
        generation.reserveForPublish false now = ⟨generation.pool, generation.objects, none⟩) ∧
      ∀ (count index : Nat) (calls : List Call), 0 < count →
        (∀ call ∈ calls, call.generation.count = count) → calls.IsChain Call.Follows →
        (∀ call ∈ calls, call.scanned.reservation.isSome = true →
          call.generation.ReusableAt call.now index) →
        count ≤ (calls.filterMap fun call => call.scanned.reservation).length →
        ∃ call ∈ calls, ∃ reservation, call.scanned.reservation = some reservation ∧
          reservation.poolIndex = index := by
  refine ⟨fun generation now => ?_, fun generation now => ?_, fun count index calls => ?_⟩
  · let call : Call := ⟨generation, true, now⟩
    refine ⟨⟨fun granted => ?_, fun reusable => ?_⟩,
      fun reservation granted => call.scanned_serves granted,
      fun refused => call.scanned_none refused, call.scanned_cursor⟩
    · obtain ⟨reservation, same⟩ := Option.isSome_iff_exists.mp granted
      exact ⟨reservation.poolIndex, (call.scanned_serves same).reusable⟩
    · obtain ⟨index, ready⟩ := reusable
      rcases generation.reserveForPublish_cases now with found | missing
      · obtain ⟨reservation, granted, -⟩ := found
        simp [granted]
      · exact absurd ready (missing.1 index)
  · simp [Generation.reserveForPublish, reserveForPublish]
  · exact returned_eventually

/-- Two blocks, with the cursor at one of them and these reference counts. -/
def twoBlocks (cursor first second : Nat) (below : cursor < 2) : Generation where
  pool := ⟨2, [⟨3, some 0, 0, none, []⟩, ⟨4, some 1, 0, none, []⟩], cursor, 64, 0, 7, true⟩
  objects := [⟨3, 5, first, 0⟩, ⟨4, 5, second, 0⟩]
  ready := rfl
  nonempty := by simp
  cursor := below
  distinct := by
    have apart : [0, 1].Nodup := by decide
    exact apart

/-- Two calls on them; the first block is taken by the first and has a reader when the second
comes. -/
def twoCalls : List Call :=
  [⟨twoBlocks 0 0 0 (by decide), true, fun _ => 1⟩, ⟨twoBlocks 1 1 0 (by decide), true, fun _ => 1⟩]

/-- The second block, which can be reserved all the time, is returned by one of the two calls. -/
theorem roundRobin_twoCalls : ∃ call ∈ twoCalls, ∃ reservation,
    call.scanned.reservation = some reservation ∧ reservation.poolIndex = 1 := by
  have sized : ∀ call ∈ twoCalls, call.generation.count = 2 := by decide
  have follow : twoCalls.IsChain Call.Follows := by decide
  have ready : ∀ call ∈ twoCalls, call.scanned.reservation.isSome = true →
      call.generation.ReusableAt call.now 1 := by decide
  exact reserveForPublish_roundRobin.2.2 2 1 twoCalls (by decide) sized follow ready (by decide)

end Ros2CudaIpc.RoundRobin
