import Mathlib.Algebra.Group.Nat.Defs

/-!
# One block's shared metadata and the BufferRef calls

A block's shared-memory object holds three atomics. Every BufferRef call is a
short program over them. Each program is written here as its position between
two atomic operations together with the local variables still in use; one step
performs the next atomic operation and the thread-private code behind it up to
the following one. Reading the clock is a step of its own.

Natural numbers stand for the machine words. The counter wraps at its width on
decrement, as `fetch_sub` does; the two increments are guarded by the source
against the largest word. Memory order is sequential: each operation is one
indivisible step on the common object. Calls on a null mapping perform no
operation and are answered by their callers.

Beside each step function stands the relation of its possible operations, one
constructor for each operation and outcome. Proofs about a call go through that
relation, not through the step function.
-/

namespace Ros2CudaIpc

/-- `std::numeric_limits<uint32_t>::max()`, the largest count. An acquire which reads it refuses
instead of wrapping the counter. -/
def uint32Max : Nat := 2 ^ 32 - 1

/-- `std::numeric_limits<uint64_t>::max()`, the largest uid. A reservation on it would have no
next uid and is refused. -/
def uint64Max : Nat := 2 ^ 64 - 1

/-- `kGracePeriodUs`: 100 ms between a publication and the block's reuse, in which a subscriber
may still be on its way to an acquire. -/
def gracePeriodUs : Nat := 100000

/-- What one operation leaves of its call: the call at its next position, or
the result of its return. -/
inductive Outcome (κ ρ : Type) where
  | running (call : κ)
  | returned (result : ρ)
deriving DecidableEq, Repr

/-- The complete contents of one per-block shared-memory object. Everything else about a block is
private to a process. -/
structure BlockMetadata where
  uid : Nat
  refcount : Nat
  publishTimestampUs : Nat
deriving DecidableEq, Repr

namespace BlockMetadata

/-- `refcount.fetch_sub(1)` without its returned previous value, which is the
count before the step. A zero count wraps to the largest word. -/
def fetchSub (metadata : BlockMetadata) : BlockMetadata :=
  { metadata with
    refcount := if metadata.refcount = 0 then uint32Max else metadata.refcount - 1 }

/-- A decrement touches the count only. The uid stays the one of the publication whose reference
ends. -/
@[simp] theorem fetchSub_uid (metadata : BlockMetadata) :
    metadata.fetchSub.uid = metadata.uid := rfl

/-- Nor does a decrement touch the timestamp, so a released block keeps the age of its
publication. -/
@[simp] theorem fetchSub_timestamp (metadata : BlockMetadata) :
    metadata.fetchSub.publishTimestampUs = metadata.publishTimestampUs := rfl

/-- A positive count decreases by exactly one. At zero the counter would wrap, which is why the
callers check it first. -/
theorem fetchSub_refcount (metadata : BlockMetadata) (positive : 0 < metadata.refcount) :
    metadata.fetchSub.refcount + 1 = metadata.refcount := by
  have nonzero : metadata.refcount ≠ 0 := by omega
  simp only [fetchSub, nonzero, if_false]
  omega

/-- `initial_uid` over its random word. The two words with a meaning of their own, zero and the
largest, are replaced. -/
def initialUid (value : UInt64) : Nat :=
  if value.toNat = 0 ∨ value.toNat = uint64Max then 1 else value.toNat

/-- The object `BufferMetadata::create` leaves behind: unreferenced and never published, with a
random uid. -/
def create (value : UInt64) : BlockMetadata := ⟨initialUid value, 0, 0⟩

/-- A created object has a nonzero uid which leaves room for a reservation, whatever the random
word was. -/
theorem initialUid_range (value : UInt64) :
    0 < initialUid value ∧ initialUid value < uint64Max := by
  have bounded : value.toNat < 2 ^ 64 := value.toNat_lt
  unfold initialUid uint64Max
  split <;> omega

end BlockMetadata

/-- Position of a reservation attempt between its atomic operations. The uid to store is carried
from the load which read it. -/
inductive ReservePc where
  | sampleClock
  | loadRefcount
  | loadTimestamp
  | claim
  | loadUid
  | storeRefcount
  | storeUid (nextUid : Nat)
  | storeTimestamp (nextUid : Nat)
deriving DecidableEq, Repr

/-- A running `reserve_for_publish` call. Its clock is sampled once, before any word is read, and
kept for the commit of the claim. -/
structure ReserveCall where
  now : Nat
  pc : ReservePc
deriving DecidableEq, Repr

namespace ReserveCall

/-- A call about to sample the clock. The zero in place of the sample is read by nothing. -/
def start : ReserveCall := ⟨0, .sampleClock⟩

/-- The grace period check: `published_at != 0 && (now < published_at ||
now - published_at < kGracePeriodUs)`. -/
def tooRecent (now publishedAt : Nat) : Prop :=
  publishedAt ≠ 0 ∧ (now < publishedAt ∨ now - publishedAt < gracePeriodUs)

instance (now publishedAt : Nat) : Decidable (tooRecent now publishedAt) :=
  inferInstanceAs (Decidable (_ ∧ _))

/-- The next operation of a reservation attempt. The claiming exchange is
strong, so it fails only on a nonzero count. -/
def step (clock : Nat) (metadata : BlockMetadata) (call : ReserveCall) :
    BlockMetadata × Outcome ReserveCall (Option Nat) :=
  match call.pc with
  | .sampleClock => (metadata, .running ⟨clock, .loadRefcount⟩)
  | .loadRefcount =>
    if metadata.refcount ≠ 0 then (metadata, .returned none)
    else (metadata, .running { call with pc := .loadTimestamp })
  | .loadTimestamp =>
    if tooRecent call.now metadata.publishTimestampUs then (metadata, .returned none)
    else (metadata, .running { call with pc := .claim })
  | .claim =>
    if metadata.refcount = 0 then
      ({ metadata with refcount := 1 }, .running { call with pc := .loadUid })
    else (metadata, .returned none)
  | .loadUid =>
    if metadata.uid = uint64Max then (metadata, .running { call with pc := .storeRefcount })
    else (metadata, .running { call with pc := .storeUid (metadata.uid + 1) })
  | .storeRefcount => ({ metadata with refcount := 0 }, .returned none)
  | .storeUid nextUid =>
    ({ metadata with uid := nextUid }, .running { call with pc := .storeTimestamp nextUid })
  | .storeTimestamp nextUid => ({ metadata with publishTimestampUs := 0 }, .returned (some nextUid))

/-- The operations of a reservation attempt, each with what it asks of the words and what it
leaves of them. A refusal and a lost exchange are outcomes like any other. -/
inductive Operation (clock : Nat) (metadata : BlockMetadata) :
    ReserveCall → BlockMetadata → Outcome ReserveCall (Option Nat) → Prop where
  | sampled (now : Nat) :
      Operation clock metadata ⟨now, .sampleClock⟩ metadata (.running ⟨clock, .loadRefcount⟩)
  | busy (now : Nat) (referenced : metadata.refcount ≠ 0) :
      Operation clock metadata ⟨now, .loadRefcount⟩ metadata (.returned none)
  | idle (now : Nat) (unreferenced : metadata.refcount = 0) :
      Operation clock metadata ⟨now, .loadRefcount⟩ metadata (.running ⟨now, .loadTimestamp⟩)
  | young (now : Nat) (recent : tooRecent now metadata.publishTimestampUs) :
      Operation clock metadata ⟨now, .loadTimestamp⟩ metadata (.returned none)
  | aged (now : Nat) (old : ¬ tooRecent now metadata.publishTimestampUs) :
      Operation clock metadata ⟨now, .loadTimestamp⟩ metadata (.running ⟨now, .claim⟩)
  | claimed (now : Nat) (unreferenced : metadata.refcount = 0) :
      Operation clock metadata ⟨now, .claim⟩ { metadata with refcount := 1 }
        (.running ⟨now, .loadUid⟩)
  | lost (now : Nat) (referenced : metadata.refcount ≠ 0) :
      Operation clock metadata ⟨now, .claim⟩ metadata (.returned none)
  | exhausted (now : Nat) (last : metadata.uid = uint64Max) :
      Operation clock metadata ⟨now, .loadUid⟩ metadata (.running ⟨now, .storeRefcount⟩)
  | loaded (now : Nat) (room : metadata.uid ≠ uint64Max) :
      Operation clock metadata ⟨now, .loadUid⟩ metadata
        (.running ⟨now, .storeUid (metadata.uid + 1)⟩)
  | overflowed (now : Nat) :
      Operation clock metadata ⟨now, .storeRefcount⟩ { metadata with refcount := 0 }
        (.returned none)
  | renewed (now nextUid : Nat) :
      Operation clock metadata ⟨now, .storeUid nextUid⟩ { metadata with uid := nextUid }
        (.running ⟨now, .storeTimestamp nextUid⟩)
  | reserved (now nextUid : Nat) :
      Operation clock metadata ⟨now, .storeTimestamp nextUid⟩
        { metadata with publishTimestampUs := 0 } (.returned (some nextUid))

/-- The step function performs one of the listed operations. Proofs split on these and never on
the step function's own branches. -/
theorem step_operation (clock : Nat) (metadata : BlockMetadata) (call : ReserveCall) :
    Operation clock metadata call (call.step clock metadata).1 (call.step clock metadata).2 := by
  obtain ⟨now, pc⟩ := call
  cases pc with
  | sampleClock => exact .sampled now
  | loadRefcount =>
    by_cases unreferenced : metadata.refcount = 0
    · simpa [step, unreferenced] using Operation.idle now unreferenced
    · simpa [step, unreferenced] using Operation.busy now unreferenced
  | loadTimestamp =>
    by_cases recent : tooRecent now metadata.publishTimestampUs
    · simpa [step, recent] using Operation.young now recent
    · simpa [step, recent] using Operation.aged now recent
  | claim =>
    by_cases unreferenced : metadata.refcount = 0
    · simpa [step, unreferenced] using Operation.claimed now unreferenced
    · simpa [step, unreferenced] using Operation.lost now unreferenced
  | loadUid =>
    by_cases last : metadata.uid = uint64Max
    · simpa [step, last] using Operation.exhausted now last
    · simpa [step, last] using Operation.loaded now last
  | storeRefcount => exact .overflowed now
  | storeUid nextUid => exact .renewed now nextUid
  | storeTimestamp nextUid => exact .reserved now nextUid

/-- The reservation's reference, held until the decrement. Behind it only a store of the zero may
be left to do. -/
def share (call : ReserveCall) : Nat :=
  match call.pc with
  | .loadUid | .storeRefcount | .storeUid _ | .storeTimestamp _ => 1
  | _ => 0

end ReserveCall

/-- Position of a commit or cancel between its atomic operations. A cancel skips the two which
only a commit performs. -/
inductive SettlePc where
  | loadUid
  | sampleClock
  | storeTimestamp
  | fetchSub
  | storeRefcount
deriving DecidableEq, Repr

/-- A running `release_publisher_reservation` call: `published` separates
`commit_publish` from `cancel_publish`, `now` is the clock a commit samples. -/
structure SettleCall where
  uid : Nat
  published : Bool
  now : Nat
  pc : SettlePc
deriving DecidableEq, Repr

namespace SettleCall

/-- `commit_publish(mapping, uid)` before its first operation, the check that the block still has
the uid. -/
def commitPublish (uid : Nat) : SettleCall := ⟨uid, true, 0, .loadUid⟩

/-- `cancel_publish(mapping, uid)` before its first operation. It differs from a commit in the
timestamp, which it leaves alone. -/
def cancelPublish (uid : Nat) : SettleCall := ⟨uid, false, 0, .loadUid⟩

/-- The next operation of a commit or cancel. Only a commit samples the clock
and stores the timestamp. -/
def step (clock : Nat) (metadata : BlockMetadata) (call : SettleCall) :
    BlockMetadata × Outcome SettleCall Bool :=
  match call.pc with
  | .loadUid =>
    if metadata.uid ≠ call.uid then (metadata, .returned false)
    else if call.published then (metadata, .running { call with pc := .sampleClock })
    else (metadata, .running { call with pc := .fetchSub })
  | .sampleClock => (metadata, .running { call with now := clock, pc := .storeTimestamp })
  | .storeTimestamp =>
    ({ metadata with publishTimestampUs := call.now }, .running { call with pc := .fetchSub })
  | .fetchSub =>
    if metadata.refcount = 0 then
      (metadata.fetchSub, .running { call with pc := .storeRefcount })
    else (metadata.fetchSub, .returned true)
  | .storeRefcount => ({ metadata with refcount := 0 }, .returned false)

/-- The operations of a commit or cancel. A uid which is another one and a count of zero end it
without a release. -/
inductive Operation (clock : Nat) (metadata : BlockMetadata) :
    SettleCall → BlockMetadata → Outcome SettleCall Bool → Prop where
  | mismatched (uid now : Nat) (published : Bool) (other : metadata.uid ≠ uid) :
      Operation clock metadata ⟨uid, published, now, .loadUid⟩ metadata (.returned false)
  | committing (uid now : Nat) (same : metadata.uid = uid) :
      Operation clock metadata ⟨uid, true, now, .loadUid⟩ metadata
        (.running ⟨uid, true, now, .sampleClock⟩)
  | cancelling (uid now : Nat) (same : metadata.uid = uid) :
      Operation clock metadata ⟨uid, false, now, .loadUid⟩ metadata
        (.running ⟨uid, false, now, .fetchSub⟩)
  | sampled (uid now : Nat) (published : Bool) :
      Operation clock metadata ⟨uid, published, now, .sampleClock⟩ metadata
        (.running ⟨uid, published, clock, .storeTimestamp⟩)
  | stamped (uid now : Nat) (published : Bool) :
      Operation clock metadata ⟨uid, published, now, .storeTimestamp⟩
        { metadata with publishTimestampUs := now } (.running ⟨uid, published, now, .fetchSub⟩)
  | released (uid now : Nat) (published : Bool) (referenced : metadata.refcount ≠ 0) :
      Operation clock metadata ⟨uid, published, now, .fetchSub⟩ metadata.fetchSub
        (.returned true)
  | underflowed (uid now : Nat) (published : Bool) (unreferenced : metadata.refcount = 0) :
      Operation clock metadata ⟨uid, published, now, .fetchSub⟩ metadata.fetchSub
        (.running ⟨uid, published, now, .storeRefcount⟩)
  | zeroed (uid now : Nat) (published : Bool) :
      Operation clock metadata ⟨uid, published, now, .storeRefcount⟩
        { metadata with refcount := 0 } (.returned false)

/-- The step function of a commit or cancel performs one of the listed operations, for either kind
of call. -/
theorem step_operation (clock : Nat) (metadata : BlockMetadata) (call : SettleCall) :
    Operation clock metadata call (call.step clock metadata).1 (call.step clock metadata).2 := by
  obtain ⟨uid, published, now, pc⟩ := call
  cases pc with
  | loadUid =>
    by_cases same : metadata.uid = uid
    · cases published with
      | true => simpa [step, same] using Operation.committing uid now same
      | false => simpa [step, same] using Operation.cancelling uid now same
    · simpa [step, same] using Operation.mismatched uid now published same
  | sampleClock => exact .sampled uid now published
  | storeTimestamp => exact .stamped uid now published
  | fetchSub =>
    by_cases unreferenced : metadata.refcount = 0
    · simpa [step, unreferenced] using Operation.underflowed uid now published unreferenced
    · simpa [step, unreferenced] using Operation.released uid now published unreferenced
  | storeRefcount => exact .zeroed uid now published

/-- The reservation's reference, held until the decrement. -/
def share (call : SettleCall) : Nat :=
  match call.pc with
  | .storeRefcount => 0
  | _ => 1

end SettleCall

/-- Position of an acquire between its atomic operations. The count to exchange is the one which
was observed last. -/
inductive AcquirePc where
  | loadUid
  | loadRefcount
  | exchange (observedRef : Nat)
  | recheckUid
  | rollback
deriving DecidableEq, Repr

/-- A running `acquire(mapping, uid)` call. Of what it has read it keeps the count only, inside
its position. -/
structure AcquireCall where
  uid : Nat
  pc : AcquirePc
deriving DecidableEq, Repr

namespace AcquireCall

/-- A call about to make its first uid check. Before that check it has not touched the block at
all. -/
def start (uid : Nat) : AcquireCall := ⟨uid, .loadUid⟩

/-- The head of the retry loop: the largest count refuses the acquire, any other one is tried to
be exchanged. -/
def retry (uid observedRef : Nat) : Outcome AcquireCall Bool :=
  if observedRef = uint32Max then .returned false else .running ⟨uid, .exchange observedRef⟩

/-- The head of the loop refuses, or goes on to the exchange of the count it has observed. -/
theorem retry_cases (uid observedRef : Nat) : retry uid observedRef = .returned false ∨
    retry uid observedRef = .running ⟨uid, .exchange observedRef⟩ := by
  unfold retry
  split
  · exact .inl rfl
  · exact .inr rfl

/-- The next operation of an acquire, which returns whether its BufferRef is
valid. The exchange is weak: it may fail `spurious`ly, and a failed exchange
observes the current count. -/
def step (spurious : Bool) (metadata : BlockMetadata) (call : AcquireCall) :
    BlockMetadata × Outcome AcquireCall Bool :=
  match call.pc with
  | .loadUid =>
    if metadata.uid ≠ call.uid then (metadata, .returned false)
    else (metadata, .running { call with pc := .loadRefcount })
  | .loadRefcount => (metadata, retry call.uid metadata.refcount)
  | .exchange observedRef =>
    if metadata.refcount = observedRef ∧ spurious = false then
      ({ metadata with refcount := observedRef + 1 }, .running { call with pc := .recheckUid })
    else (metadata, retry call.uid metadata.refcount)
  | .recheckUid =>
    if metadata.uid ≠ call.uid then (metadata, .running { call with pc := .rollback })
    else (metadata, .returned true)
  | .rollback => (metadata.fetchSub, .returned false)

/-- The operations of an acquire. The exchange may fail spuriously, which sends the call back to
the head of its loop. -/
inductive Operation (metadata : BlockMetadata) :
    AcquireCall → BlockMetadata → Outcome AcquireCall Bool → Prop where
  | stale (uid : Nat) (other : metadata.uid ≠ uid) :
      Operation metadata ⟨uid, .loadUid⟩ metadata (.returned false)
  | matched (uid : Nat) (same : metadata.uid = uid) :
      Operation metadata ⟨uid, .loadUid⟩ metadata (.running ⟨uid, .loadRefcount⟩)
  | observed (uid : Nat) :
      Operation metadata ⟨uid, .loadRefcount⟩ metadata (retry uid metadata.refcount)
  | exchanged (uid : Nat) :
      Operation metadata ⟨uid, .exchange metadata.refcount⟩
        { metadata with refcount := metadata.refcount + 1 } (.running ⟨uid, .recheckUid⟩)
  | refused (uid observedRef : Nat) :
      Operation metadata ⟨uid, .exchange observedRef⟩ metadata (retry uid metadata.refcount)
  | superseded (uid : Nat) (other : metadata.uid ≠ uid) :
      Operation metadata ⟨uid, .recheckUid⟩ metadata (.running ⟨uid, .rollback⟩)
  | confirmed (uid : Nat) (same : metadata.uid = uid) :
      Operation metadata ⟨uid, .recheckUid⟩ metadata (.returned true)
  | rolledBack (uid : Nat) :
      Operation metadata ⟨uid, .rollback⟩ metadata.fetchSub (.returned false)

/-- The step function of an acquire performs one of the listed operations, whether the exchange
fails spuriously or not. -/
theorem step_operation (spurious : Bool) (metadata : BlockMetadata) (call : AcquireCall) :
    Operation metadata call (call.step spurious metadata).1 (call.step spurious metadata).2 := by
  obtain ⟨uid, pc⟩ := call
  cases pc with
  | loadUid =>
    by_cases same : metadata.uid = uid
    · simpa [step, same] using Operation.matched uid same
    · simpa [step, same] using Operation.stale uid same
  | loadRefcount => exact .observed uid
  | exchange observedRef =>
    by_cases exchanges : metadata.refcount = observedRef ∧ spurious = false
    · obtain ⟨rfl, rfl⟩ := exchanges
      simpa [step] using Operation.exchanged uid
    · simpa [step, exchanges] using Operation.refused uid observedRef
  | recheckUid =>
    by_cases same : metadata.uid = uid
    · simpa [step, same] using Operation.confirmed uid same
    · simpa [step, same] using Operation.superseded uid same
  | rollback => exact .rolledBack uid

/-- An acquire changes the count alone. What it reads of the uid and the timestamp it never writes
back. -/
theorem Operation.count {metadata changed : BlockMetadata} {call : AcquireCall}
    {outcome : Outcome AcquireCall Bool} (operation : Operation metadata call changed outcome) :
    changed.uid = metadata.uid ∧ changed.publishTimestampUs = metadata.publishTimestampUs := by
  cases operation <;> exact ⟨rfl, rfl⟩

/-- A valid object holds one reference, an empty one holds none. Nothing else of the object
matters to the count. -/
def share (call : AcquireCall) : Nat :=
  match call.pc with
  | .recheckUid | .rollback => 1
  | _ => 0

end AcquireCall

/-- A BufferRef object: whether `block_meta_` is set, and its uid. The mapping itself is that of
the block it stands on. -/
structure BufferRef where
  blockMeta : Bool
  uid : Nat
deriving DecidableEq, Repr

namespace BufferRef

/-- `BufferRef{}` and every moved-from or released object. It holds no reference, and its
destructor does nothing. -/
def empty : BufferRef := ⟨false, 0⟩

/-- `BufferRef::valid`. A caller sees no more of an acquire than this flag. -/
def valid (reference : BufferRef) : Bool := reference.blockMeta

/-- A valid object holds one reference. -/
def share (reference : BufferRef) : Nat := if reference.valid then 1 else 0

/-- An empty object counts for nothing. -/
@[simp] theorem share_empty : empty.share = 0 := rfl

end BufferRef

end Ros2CudaIpc
