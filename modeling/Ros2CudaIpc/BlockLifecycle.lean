import Ros2CudaIpc.GpuBufferManager

/-!
# The life of a block

What the operations on a metadata object are for, stated by their events alone.
A free block is reserved with a new uid, not before its last publication has
aged. Its count is given back once, and behind that stands the publication or the
cancellation of the same reservation; or its publication fails, and nothing
follows. A history lists the events of one block, the latest first.
-/

namespace Ros2CudaIpc.GpuBufferManager

/-- Where a block stands between two events. `released` is the moment between the decrement of the
count and the return of the commit or cancel; `lost` is a block whose publication failed. -/
inductive Tenure where
  | free
  | reserved (reservation : BlockReservation)
  | released (reservation : BlockReservation)
  | lost (reservation : BlockReservation)

/-- The reservation somebody still has to settle. A lost reservation is not among them: no commit
or cancel follows a failed publication. -/
def Tenure.holders : Tenure → List BlockReservation
  | .reserved reservation => [reservation]
  | .free | .released _ | .lost _ => []

/-- A block by its last granted uid, the timestamp of its last publication, and
whether a reservation was cancelled since. -/
structure Lifecycle where
  uid : Nat
  published : Option Nat
  undone : Bool
  tenure : Tenure

namespace Lifecycle

/-- A created block: no uid was granted, nothing was published, and nobody holds a reservation. -/
def created : Lifecycle := ⟨0, none, false, .free⟩

/-- What an event does to a block, and when it may happen. Only a free block is reserved, only the
reservation at hand is given back, and only behind that decrement is it published or cancelled. -/
inductive Step : Lifecycle → Event → Lifecycle → Prop where
  | reserve (uid : Nat) (published : Option Nat) (undone : Bool) (reservation : BlockReservation)
      (now : Nat) (fresh : uid < reservation.uid)
      (aged : ∀ timestamp ∈ published, timestamp + gracePeriodUs ≤ now) :
      Step ⟨uid, published, undone, .free⟩ (.reserved reservation now)
        ⟨reservation.uid, published, undone, .reserved reservation⟩
  | release (uid : Nat) (published : Option Nat) (undone : Bool)
      (reservation : BlockReservation) :
      Step ⟨uid, published, undone, .reserved reservation⟩
        (.decremented reservation.mapping reservation.uid)
        ⟨uid, published, undone, .released reservation⟩
  | publish (uid : Nat) (published : Option Nat) (undone : Bool) (reservation : BlockReservation)
      (descriptor : BufferDescriptor) (timestamp : Nat) (same : descriptor.uid = reservation.uid)
      (later : ∀ earlier ∈ published, earlier ≤ timestamp) :
      Step ⟨uid, published, undone, .released reservation⟩
        (.prepared descriptor reservation.mapping timestamp) ⟨uid, some timestamp, false, .free⟩
  | cancel (uid : Nat) (published : Option Nat) (undone : Bool)
      (reservation : BlockReservation) :
      Step ⟨uid, published, undone, .released reservation⟩ (.cancelled reservation)
        ⟨uid, published, true, .free⟩
  | fail (uid : Nat) (published : Option Nat) (undone : Bool) (reservation : BlockReservation) :
      Step ⟨uid, published, undone, .reserved reservation⟩ (.prepareFailed reservation)
        ⟨uid, published, undone, .lost reservation⟩

/-- The block with this history, from its creation on. The steps determine it, so the history
alone says which event may come next. -/
inductive Of : List Event → Lifecycle → Prop where
  | created : Of [] created
  | event (event : Event) (earlier : List Event) (life next : Lifecycle) (before : Of earlier life)
      (moved : life.Step event next) : Of (event :: earlier) next

variable {history earlier : List Event} {life : Lifecycle} {reservation : BlockReservation}

/-- An earlier part of a history is the history of some earlier state of the block. The proof
removes the later events one at a time. -/
theorem Of.past {later : List Event} (lived : Of (later ++ earlier) life) :
    ∃ before, Of earlier before := by
  induction later generalizing life with
  | nil => exact ⟨life, lived⟩
  | cons event later inductionHypothesis =>
    cases lived with
    | event _ _ before _ lived moved => exact inductionHypothesis lived

/-- The past uids of a block against its last one: none is larger, and those given back or
published are smaller while a newer reservation stands. -/
structure Recorded (history : List Event) (life : Lifecycle) : Prop where
  granted : ∀ reservation now, .reserved reservation now ∈ history → reservation.uid ≤ life.uid
  settled : ∀ mapping uid, .decremented mapping uid ∈ history → uid ≤ life.uid ∧
    ((∃ reservation, life.tenure = .reserved reservation ∨ life.tenure = .lost reservation) →
      uid < life.uid)
  announced : ∀ descriptor mapping timestamp, .prepared descriptor mapping timestamp ∈ history →
    descriptor.uid ≤ life.uid ∧ (life.tenure ≠ .free → descriptor.uid < life.uid)
  current : ∀ reservation, life.tenure = .reserved reservation ∨
    life.tenure = .released reservation ∨ life.tenure = .lost reservation →
      life.uid = reservation.uid

/-- One event keeps the past uids below the last one. A reservation raises the last uid strictly,
and the other events record the uid of the reservation at hand. -/
theorem Recorded.step {next : Lifecycle} {event : Event} (recorded : Recorded earlier life)
    (moved : life.Step event next) : Recorded (event :: earlier) next := by
  obtain ⟨granted, settled, announced, current⟩ := recorded
  cases moved with
  | reserve uid published undone reservation now fresh aged => constructor <;> grind
  | release uid published undone reservation => constructor <;> grind
  | publish uid published undone reservation descriptor timestamp same later =>
    constructor <;> grind
  | cancel uid published undone reservation => constructor <;> grind
  | fail uid published undone reservation => constructor <;> grind

/-- Uids only grow, and the count of the reservation at hand was not given back. -/
theorem Of.recorded (lived : Of history life) : Recorded history life := by
  induction lived with
  | created => constructor <;> simp [Lifecycle.created]
  | event event earlier life next before moved inductionHypothesis =>
    exact inductionHypothesis.step moved

/-- A reservation has a larger uid than every reservation before it in the history of the block,
whether that one was published, cancelled or lost. -/
theorem Of.fresh {now : Nat} (lived : Of (.reserved reservation now :: earlier) life)
    {other : BlockReservation} {before : Nat} (member : .reserved other before ∈ earlier) :
    other.uid < reservation.uid := by
  cases lived with
  | event _ _ middle _ past moved =>
    have recorded := past.recorded
    cases moved with
    | reserve uid published undone _ _ fresh aged =>
      exact Nat.lt_of_le_of_lt (recorded.granted other before member) fresh

/-- A reservation has a larger uid than every publication before it, so no descriptor handed out
earlier names the uid of the new one. -/
theorem Of.outdated {now : Nat} (lived : Of (.reserved reservation now :: earlier) life)
    {descriptor : BufferDescriptor} {mapping : Option Nat} {timestamp : Nat}
    (member : .prepared descriptor mapping timestamp ∈ earlier) :
    descriptor.uid < reservation.uid := by
  cases lived with
  | event _ _ middle _ past moved =>
    have recorded := past.recorded
    cases moved with
    | reserve uid published undone _ _ fresh aged =>
      exact Nat.lt_of_le_of_lt (recorded.announced descriptor mapping timestamp member).1 fresh

/-- A publication has a larger uid than every publication before it. Hence two descriptors of one
block never share their uid. -/
theorem Of.distinct {descriptor : BufferDescriptor} {mapping : Option Nat} {timestamp : Nat}
    (lived : Of (.prepared descriptor mapping timestamp :: earlier) life)
    {other : BufferDescriptor} {named : Option Nat} {before : Nat}
    (member : .prepared other named before ∈ earlier) : other.uid < descriptor.uid := by
  cases lived with
  | event _ _ middle _ past moved =>
    have recorded := past.recorded
    cases moved with
    | publish uid published undone reservation _ _ same later =>
      have below := (recorded.announced other named before member).2 (by simp)
      have own := recorded.current reservation (.inr (.inl rfl))
      exact same ▸ own ▸ below

/-- The timestamp the block keeps is the latest one published: a cancel in between does not lower
it, and no earlier publication exceeds it. -/
theorem Of.published (lived : Of history life) {descriptor : BufferDescriptor}
    {mapping : Option Nat} {timestamp : Nat}
    (member : .prepared descriptor mapping timestamp ∈ history) :
    ∃ last, life.published = some last ∧ timestamp ≤ last := by
  induction lived with
  | created => simp at member
  | event event earlier life next before moved inductionHypothesis =>
    cases moved with
    | publish uid published undone reservation other stamp same later =>
      refine ⟨stamp, rfl, ?_⟩
      rcases List.mem_cons.mp member with own | before
      · obtain ⟨-, -, rfl⟩ := Event.prepared.inj own
        exact Nat.le_refl _
      · obtain ⟨last, found, below⟩ := inductionHypothesis before
        exact Nat.le_trans below (later last found)
    | reserve | release | cancel | fail => exact inductionHypothesis (by simpa using member)

/-- A reservation comes a grace period behind every publication before it, not only the last one,
because the kept timestamp bounds them all. -/
theorem Of.aged {now : Nat} (lived : Of (.reserved reservation now :: earlier) life)
    {descriptor : BufferDescriptor} {mapping : Option Nat} {timestamp : Nat}
    (member : .prepared descriptor mapping timestamp ∈ earlier) :
    timestamp + gracePeriodUs ≤ now := by
  cases lived with
  | event _ _ middle _ past moved =>
    obtain ⟨last, found, below⟩ := past.published member
    cases moved with
    | reserve uid published undone _ _ fresh aged =>
      have waited := aged last found
      omega

/-- A reservation was cancelled and nothing has been published since, whatever else happened to
the block after the cancel. -/
def CancelledSince (history : List Event) : Prop :=
  ∃ later reservation earlier, history = later ++ .cancelled reservation :: earlier ∧
    ∀ descriptor mapping timestamp, .prepared descriptor mapping timestamp ∉ later

/-- A block on which a reservation was cancelled and nothing published since carries the mark.
Only a publication takes the mark away. -/
theorem Of.undone (lived : Of history life) (cancelled : CancelledSince history) :
    life.undone = true := by
  obtain ⟨later, reservation, earlier, rfl, unpublished⟩ := cancelled
  induction later generalizing life with
  | nil =>
    cases lived with
    | event _ _ middle _ past moved =>
      cases moved
      rfl
  | cons event later inductionHypothesis =>
    cases lived with
    | event _ _ middle _ past moved =>
      have before := inductionHypothesis (fun descriptor mapping timestamp member =>
        unpublished descriptor mapping timestamp (List.mem_cons_of_mem _ member)) past
      cases moved with
      | publish uid published undone reservation descriptor timestamp same later =>
        exact absurd (List.mem_cons_self ..) (unpublished descriptor reservation.mapping timestamp)
      | reserve | release | fail => exact before
      | cancel => rfl

/-- Where the events of a history come from, and what became of its reservations. -/
structure Accounts (history : List Event) (life : Lifecycle) : Prop where
  origin : ∀ reservation, life.tenure = .reserved reservation ∨
    life.tenure = .released reservation ∨ life.tenure = .lost reservation →
      ∃ now, .reserved reservation now ∈ history
  owed : ∀ mapping uid, .decremented mapping uid ∈ history → ∃ reservation now,
    .reserved reservation now ∈ history ∧ reservation.mapping = mapping ∧ reservation.uid = uid
  released : ∀ reservation, life.tenure = .released reservation →
    .decremented reservation.mapping reservation.uid ∈ history
  prepared : ∀ descriptor mapping timestamp, .prepared descriptor mapping timestamp ∈ history →
    .decremented mapping descriptor.uid ∈ history
  cancelled : ∀ reservation, .cancelled reservation ∈ history →
    .decremented reservation.mapping reservation.uid ∈ history
  failed : ∀ reservation, .prepareFailed reservation ∈ history → life.tenure = .lost reservation
  lost : ∀ reservation, life.tenure = .lost reservation → .prepareFailed reservation ∈ history
  fate : ∀ reservation now, .reserved reservation now ∈ history →
    life.tenure = .reserved reservation ∨ life.tenure = .released reservation ∨
    .prepareFailed reservation ∈ history ∨ .cancelled reservation ∈ history ∨
      ∃ descriptor timestamp, .prepared descriptor reservation.mapping timestamp ∈ history ∧
        descriptor.uid = reservation.uid

/-- One event keeps the accounts. The five kinds of event each add one entry, and the state before
the event says which entries are already there. -/
theorem Accounts.step {next : Lifecycle} {event : Event} (accounts : Accounts earlier life)
    (moved : life.Step event next) : Accounts (event :: earlier) next := by
  obtain ⟨origin, owed, released, prepared, cancelled, failed, lost, fate⟩ := accounts
  cases moved with
  | reserve uid published undone reservation now fresh aged => constructor <;> grind
  | release uid published undone reservation => constructor <;> grind
  | publish uid published undone reservation descriptor timestamp same later =>
    constructor <;> grind
  | cancel uid published undone reservation => constructor <;> grind
  | fail uid published undone reservation => constructor <;> grind

/-- The accounts hold of every history, by induction on its events from the created block, which
has none. -/
theorem Of.accounts (lived : Of history life) : Accounts history life := by
  induction lived with
  | created => constructor <;> simp [Lifecycle.created]
  | event event earlier life next before moved inductionHypothesis =>
    exact inductionHypothesis.step moved

/-- A count is given back for a uid at most once in a whole history. The accounts add at most the
one reservation which stands released to the settled ones. -/
theorem Of.once (lived : Of history life) (mapping : Option Nat) (uid : Nat) :
    history.count (.decremented mapping uid) ≤ 1 := by
  induction lived with
  | created => simp
  | event event earlier life next before moved inductionHypothesis =>
    cases moved with
    | release number published undone reservation =>
      by_cases same : Event.decremented reservation.mapping reservation.uid =
          .decremented mapping uid
      · obtain ⟨rfl, rfl⟩ := Event.decremented.inj same
        have recorded := before.recorded
        have absent : .decremented reservation.mapping reservation.uid ∉ earlier := by
          intro member
          have below := (recorded.settled _ _ member).2 ⟨reservation, .inl rfl⟩
          have own := recorded.current reservation (.inl rfl)
          omega
        exact Nat.le_of_eq (List.count_cons_self.trans
          (congrArg Nat.succ (List.count_eq_zero_of_not_mem absent)))
      · rw [List.count_cons_of_ne same]
        exact inductionHypothesis
    | reserve | publish | cancel | fail =>
      rw [List.count_cons_of_ne (by simp)]
      exact inductionHypothesis

/-- The count of the reservation at hand, or of a lost one, was not given back. Its uid is the
last one, and every decrement so far carries a smaller uid. -/
theorem Of.unreturned (lived : Of history life)
    (unsettled : life.tenure = .reserved reservation ∨ life.tenure = .lost reservation) :
    .decremented reservation.mapping reservation.uid ∉ history := by
  intro member
  have below := (lived.recorded.settled _ _ member).2 ⟨reservation, unsettled⟩
  have own := lived.recorded.current reservation (unsettled.imp_right .inr)
  omega

/-- A failed reservation is never given back: there is no decrement with its uid anywhere in the
history of its block. -/
theorem Of.kept (lived : Of history life) (failed : .prepareFailed reservation ∈ history) :
    .decremented reservation.mapping reservation.uid ∉ history :=
  lived.unreturned (.inr (lived.accounts.failed reservation failed))

/-- A cancel does not fail: no step records a failed cancel, so none stands in any history of a
block. -/
theorem Of.cancels (lived : Of history life) : .cancelFailed reservation ∉ history := by
  induction lived with
  | created => simp
  | event event earlier life next before moved inductionHypothesis =>
    cases moved <;> simp [inductionHypothesis]

/-- Nothing happens to a block behind a failed publication. It stays lost, and no step leads away
from a lost block. -/
theorem Of.ended {later : List Event}
    (lived : Of (later ++ .prepareFailed reservation :: earlier) life) : later = [] := by
  cases later with
  | nil => rfl
  | cons event later =>
    cases lived with
    | event _ _ middle _ past moved =>
      have lost := past.accounts.failed reservation (by simp)
      cases moved <;> simp at lost

end Lifecycle

end Ros2CudaIpc.GpuBufferManager
