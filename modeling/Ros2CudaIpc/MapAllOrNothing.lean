import Ros2CudaIpc.MapReferences
import Ros2CudaIpc.MetadataCacheAgreement

/-!
# Mapping adds one reference or none

An acquire which returns a valid BufferRef has added one reference, and any other has
added none or taken its one back. Behind it every exit of the mapping destroys the
current owner of the reference, until the read handle owns it. A failed binding leaves
the publication as it was, with its resource and its reference. A typed reader which
rejects the message destroys the read handle, whose release then begins or, without
a completion event, is done.
-/

namespace Ros2CudaIpc.MapReferences

open Emplacement BufferMetadataCache

variable {msg : BufferCore}

/-- The mapping which a `get_or_attach` call returns belongs to the block of its key. -/
theorem getOrAttach_block {blockOf : Nat → Key} {key : Key}
    (lookups : List (Answers × Mappings)) (call : GetCall) (same : call.key = key)
    (unique : ∀ lookup ∈ lookups, UniqueKeys lookup.2)
    (cached : ∀ lookup ∈ lookups, ∀ other mapping, lookup.2.lookup other = some mapping →
      blockOf mapping = other)
    (attached : ∀ lookup ∈ lookups, ∀ candidate, lookup.1.attached = .ok (some candidate) →
      blockOf candidate = key)
    (own : ∀ candidate, call.pc = .readCandidate candidate ∨ call.pc = .insert candidate →
      blockOf candidate = key)
    {object : Nat} (returned : getOrAttach call lookups = some (.ok (some object))) :
    blockOf object = key := by
  induction lookups generalizing call with
  | nil => simp [getOrAttach] at returned
  | cons lookup rest inductionHypothesis =>
    obtain ⟨answers, mappings⟩ := lookup
    simp only [List.mem_cons, forall_eq_or_imp] at unique cached attached
    simp only [getOrAttach] at returned
    cases outcome : (call.step answers mappings).outcome with
    | running following =>
      rw [outcome] at returned
      obtain ⟨sameKey, -, comes⟩ := call.step_following answers mappings outcome
      refine inductionHypothesis following (sameKey.trans same) unique.2 cached.2 attached.2 ?_
        returned
      intro candidate position
      unfold GetCall.ComesFrom at comes
      cases position with
      | inl reading =>
        rw [reading] at comes
        exact attached.1 candidate comes.2
      | inr storing =>
        rw [storing] at comes
        exact own candidate (.inl comes.1)
    | returned result =>
      rw [outcome] at returned
      obtain rfl : result = .ok (some object) := Option.some.inj returned
      cases (call.step_result answers unique.1 outcome).1 with
      | inl found => exact same ▸ cached.1 call.key object found
      | inr position => exact own object (.inr position)

/-- The updates an acquire makes from a position on, if it returns this: one addition, an addition
with its removal, or none at all. -/
def AcquireCall.Leaves (object : Nat) (call : AcquireCall) (valid : Bool)
    (updates : List CountUpdate) : Prop :=
  match call.pc, valid with
  | .loadUid, true | .loadRefcount, true | .exchange _, true => updates = [.added object]
  | .loadUid, false | .loadRefcount, false | .exchange _, false =>
    updates = [] ∨ updates = [.added object, .removed object]
  | .recheckUid, true => updates = []
  | .recheckUid, false | .rollback, false => updates = [.removed object]
  | .rollback, true => False

/-- An operation which leaves the words as they are updates no count. -/
@[simp] theorem countUpdates_same (object : Nat) (metadata : BlockMetadata) :
    countUpdates object metadata metadata = [] := by simp [countUpdates]

/-- A decrement, wrapping or not, is a removal, as the reference it gives back is gone either way.
-/
@[simp] theorem countUpdates_fetchSub (object : Nat) (metadata : BlockMetadata) :
    countUpdates object metadata metadata.fetchSub = [.removed object] := by
  unfold countUpdates BlockMetadata.fetchSub
  by_cases zero : metadata.refcount = 0
  · simp [zero, uint32Max]
  · have less : metadata.refcount - 1 ≠ metadata.refcount := by omega
    have other : metadata.refcount - 1 ≠ metadata.refcount + 1 := by omega
    simp [zero, less, other]

/-- The successful exchange is an addition, of one reference to the object. -/
@[simp] theorem countUpdates_exchanged (object : Nat) (metadata : BlockMetadata) :
    countUpdates object metadata { metadata with refcount := metadata.refcount + 1 } =
      [.added object] := by simp [countUpdates]

/-- At the head of the retry loop an acquire ends without an update, or goes on to
exchange. Which of the two it does depends on the count it has observed, and on nothing
it meets later. -/
theorem acquire_retry (object : Nat) {call : AcquireCall} {moment : Moment} {observedRef : Nat}
    (stepped : call.step moment.spurious moment.metadata =
      (moment.metadata, AcquireCall.retry call.uid observedRef)) :
    (∀ rest, acquire object call (moment :: rest) = ([], some false)) ∨
      ∀ rest, acquire object call (moment :: rest) =
        acquire object ⟨call.uid, .exchange observedRef⟩ rest := by
  cases AcquireCall.retry_cases call.uid observedRef with
  | inl refused =>
    rw [refused] at stepped
    exact .inl fun rest => by simp [acquire, stepped]
  | inr goes =>
    rw [goes] at stepped
    exact .inr fun rest => by simp [acquire, stepped]

/-- An acquire adds its reference at one of the moments it meets, and returns at the very
next one, at which the block's uid is its own. Up to the addition it has made no update,
and at the addition it has not returned. An acquire without its second uid check returns
at the addition already, so it confirms nothing. -/
def AcquireCall.Confirms (object : Nat) (call : AcquireCall) (moments : List Moment) : Prop :=
  ∃ earlier claim confirm later, moments = earlier ++ claim :: confirm :: later ∧
    acquire object call earlier = ([], none) ∧
    acquire object call (earlier ++ [claim]) = ([.added object], none) ∧
    acquire object call (earlier ++ [claim, confirm]) = ([.added object], some true) ∧
    confirm.metadata.uid = call.uid

/-- An operation which makes no update and does not end the acquire comes before the
addition. -/
theorem AcquireCall.Confirms.behind {object : Nat} {call following : AcquireCall}
    {moment : Moment} {rest : List Moment} (confirms : AcquireCall.Confirms object following rest)
    (same : following.uid = call.uid)
    (waits : ∀ rest, acquire object call (moment :: rest) = acquire object following rest) :
    AcquireCall.Confirms object call (moment :: rest) := by
  obtain ⟨earlier, claim, confirm, later, rfl, before, added, returned, equal⟩ := confirms
  exact ⟨moment :: earlier, claim, confirm, later, rfl, (waits earlier).trans before,
    (waits (earlier ++ [claim])).trans added, (waits (earlier ++ [claim, confirm])).trans returned,
    equal.trans same⟩

/-- What an acquire which returns a valid BufferRef meets from a position on. Behind the exchange
the second uid check is all that is left. -/
def AcquireCall.Meets (object : Nat) (call : AcquireCall) (moments : List Moment) : Prop :=
  match call.pc with
  | .loadUid | .loadRefcount | .exchange _ => AcquireCall.Confirms object call moments
  | .recheckUid => ∃ confirm later, moments = confirm :: later ∧
      acquire object call [confirm] = ([], some true) ∧ confirm.metadata.uid = call.uid
  | .rollback => True

/-- An acquire which returns leaves these updates. A valid one has met the block's uid
equal to its own behind its exchange. -/
theorem acquire_leaves (object : Nat) (call : AcquireCall) (moments : List Moment)
    {updates : List CountUpdate} {valid : Bool}
    (returned : acquire object call moments = (updates, some valid)) :
    AcquireCall.Leaves object call valid updates ∧
      (valid = true → AcquireCall.Meets object call moments) := by
  induction moments generalizing call updates with
  | nil => simp [acquire] at returned
  | cons moment rest inductionHypothesis =>
    have operation := call.step_operation moment.spurious moment.metadata
    have whole := returned
    generalize stepped : call.step moment.spurious moment.metadata = after at operation
    obtain ⟨changed, outcome⟩ := after
    cases operation with
    | stale uid other =>
      simp only [acquire, stepped, countUpdates_same, Prod.mk.injEq, Option.some.injEq]
        at returned
      obtain ⟨rfl, rfl⟩ := returned
      exact ⟨.inl rfl, nofun⟩
    | matched uid same =>
      have waits (rest : List Moment) : acquire object ⟨uid, .loadUid⟩ (moment :: rest) =
          acquire object ⟨uid, .loadRefcount⟩ rest := by simp [acquire, stepped]
      rw [waits] at whole
      obtain ⟨leaves, meets⟩ := inductionHypothesis _ whole
      exact ⟨by cases valid <;> exact leaves,
        fun accepted => AcquireCall.Confirms.behind (meets accepted) rfl waits⟩
    | observed uid | refused uid _ =>
      cases acquire_retry object stepped with
      | inl refused =>
        rw [refused] at whole
        obtain ⟨rfl, rfl⟩ : [] = updates ∧ false = valid := by simpa using whole
        exact ⟨.inl rfl, nofun⟩
      | inr waits =>
        rw [waits] at whole
        obtain ⟨leaves, meets⟩ := inductionHypothesis _ whole
        exact ⟨by cases valid <;> exact leaves,
          fun accepted => AcquireCall.Confirms.behind (meets accepted) rfl waits⟩
    | exchanged uid =>
      have adds (rest : List Moment) :
          acquire object ⟨uid, .exchange moment.metadata.refcount⟩ (moment :: rest) =
            (.added object :: (acquire object ⟨uid, .recheckUid⟩ rest).1,
              (acquire object ⟨uid, .recheckUid⟩ rest).2) := by simp [acquire, stepped]
      rw [adds] at whole
      obtain ⟨rfl, ends⟩ := Prod.mk.inj whole
      obtain ⟨leaves, meets⟩ := inductionHypothesis _ (Prod.ext rfl ends)
      cases valid with
      | false =>
        have removed : (acquire object ⟨uid, .recheckUid⟩ rest).1 = [.removed object] := leaves
        exact ⟨.inr (by rw [removed]), nofun⟩
      | true =>
        have nothing : (acquire object ⟨uid, .recheckUid⟩ rest).1 = [] := leaves
        refine ⟨by rw [nothing]; rfl, fun _ => ?_⟩
        obtain ⟨confirm, later, rfl, returns, equal⟩ := meets rfl
        refine ⟨[], moment, confirm, later, rfl, rfl, adds [], ?_, equal⟩
        exact (adds [confirm]).trans (by rw [returns])
    | superseded uid other =>
      simp only [acquire, stepped, countUpdates_same, List.nil_append] at whole
      obtain ⟨leaves, -⟩ := inductionHypothesis _ whole
      cases valid with
      | false => exact ⟨leaves, nofun⟩
      | true => exact leaves.elim
    | confirmed uid same =>
      simp only [acquire, stepped, countUpdates_same, Prod.mk.injEq, Option.some.injEq]
        at returned
      obtain ⟨rfl, rfl⟩ := returned
      exact ⟨rfl, fun _ => ⟨moment, rest, rfl, by simp [acquire, stepped], same⟩⟩
    | rolledBack uid =>
      simp only [acquire, stepped, Prod.mk.injEq, Option.some.injEq] at returned
      obtain ⟨rfl, rfl⟩ := returned
      exact ⟨countUpdates_fetchSub object moment.metadata, nofun⟩

/-- Behind its reference, the mapping has published it or given it back. The cases are the places
where it can fail. -/
theorem publish_balanced (environment : Environment msg) (object : Nat) :
    (∃ publication, publish environment object = ([], .ok (some ⟨object, publication⟩)) ∧
      publication.bufferRef = some ⟨true, msg.uid.toNat⟩) ∨
    (∃ result, publish environment object = ([.removed object], result) ∧
      ∀ held, result ≠ .ok (some held)) := by
  unfold publish
  split
  · exact .inr ⟨_, rfl, by simp⟩
  cases environment.resource with
  | error exception => exact .inr ⟨_, rfl, by simp⟩
  | ok found =>
    cases found with
    | none => exact .inr ⟨_, rfl, by simp⟩
    | some imported =>
      simp only [ReadHandleFactory.makePublication]
      split
      · next exception _ => exact .inr ⟨_, rfl, by simp⟩
      · exact .inr ⟨_, rfl, by simp⟩
      · next publication made =>
        refine .inl ⟨publication, rfl, ?_⟩
        split at made
        · simp at made
        split at made
        · simp at made
        · obtain rfl := Option.some.inj (Except.ok.inj made)
          rfl

/-- A descriptor is mapped with one reference added, or with none left. What the acquire leaves
decides which, and a failure behind it gives the reference back. -/
theorem mapDescriptor_balanced (environment : Environment msg) {updates : List CountUpdate}
    {result : Except Exception (Option (Held MappedPublication))}
    (ended : mapDescriptor environment = some (updates, result)) :
    (∃ held, result = .ok (some held) ∧ updates = [.added held.object] ∧
      environment.blockOf held.object = blockKey msg ∧
      held.value.bufferRef = some ⟨true, msg.uid.toNat⟩ ∧
      AcquireCall.Confirms held.object (.start msg.uid.toNat) environment.moments) ∨
    ((∀ held, result ≠ .ok (some held)) ∧
      (updates = [] ∨ ∃ object, updates = [.added object, .removed object])) := by
  have untouched {other : Except Exception (Option (Held MappedPublication))}
      (same : some ([], other) = some (updates, result))
      (failed : ∀ held, other ≠ .ok (some held)) :
      (∀ held, result ≠ .ok (some held)) ∧
        (updates = [] ∨ ∃ object, updates = [.added object, .removed object]) := by
    obtain ⟨rfl, rfl⟩ := Prod.mk.inj (Option.some.inj same)
    exact ⟨failed, .inl rfl⟩
  unfold mapDescriptor at ended
  split at ended
  · exact .inr (untouched ended (by simp))
  split at ended
  · simp at ended
  · exact .inr (untouched ended (by simp))
  · exact .inr (untouched ended (by simp))
  next object found =>
  have block : environment.blockOf object = blockKey msg :=
    getOrAttach_block environment.lookups ⟨0, blockKey msg, msg.uid.toNat, .lookup⟩ rfl
      environment.unique environment.cached environment.attached (by simp) found
  split at ended
  · simp at ended
  · next taken acquired =>
    obtain ⟨rfl, rfl⟩ := Prod.mk.inj (Option.some.inj ended)
    obtain ⟨leaves, -⟩ := acquire_leaves object _ environment.moments acquired
    refine .inr ⟨by simp, ?_⟩
    cases leaves with
    | inl none => exact .inl none
    | inr both => exact .inr ⟨object, both⟩
  · next taken acquired =>
    obtain ⟨leaves, matched⟩ := acquire_leaves object _ environment.moments acquired
    obtain rfl : taken = [.added object] := leaves
    obtain ⟨publication, published, reference⟩ | ⟨other, failed, empty⟩ :=
      publish_balanced environment object
    · rw [published] at ended
      obtain ⟨rfl, rfl⟩ := Prod.mk.inj (Option.some.inj ended)
      exact .inl ⟨⟨object, publication⟩, rfl, rfl, block, reference, matched rfl⟩
    · rw [failed] at ended
      obtain ⟨rfl, rfl⟩ := Prod.mk.inj (Option.some.inj ended)
      exact .inr ⟨empty, .inr ⟨object, rfl⟩⟩

/-- A handle owns a reference on an object with the message's uid. Its release gives that one
reference back. -/
def Owns (held : Held ReadHandle) (msg : BufferCore) : Prop :=
  ∃ impl, held.value.impl = some impl ∧ impl.bufferRef = some ⟨true, msg.uid.toNat⟩

/-- One reference was added, to an object of the message's block, and the handle owns
it. Behind the addition, at the next operation on that object, its uid was the message's. -/
structure Mapped (environment : Environment msg) (updates : List CountUpdate)
    (held : Held ReadHandle) : Prop where
  added : updates = [.added held.object]
  block : environment.blockOf held.object = blockKey msg
  uid : AcquireCall.Confirms held.object (.start msg.uid.toNat) environment.moments
  owned : Owns held msg

/-- No reference was added, or one was added and given back on the same object. -/
def GivenBack (updates : List CountUpdate) : Prop :=
  updates = [] ∨ ∃ object, updates = [.added object, .removed object]

/-- A call of `map` which has ended returned a handle over its one reference, or has
given back what it took. -/
theorem map_balanced (environment : Environment msg) (consumerStream : CUstream)
    {updates : List CountUpdate} {result : Except Exception (Option (Held ReadHandle))}
    (ended : map environment consumerStream = some (updates, result)) :
    (∃ held, result = .ok (some held) ∧ Mapped environment updates held) ∨
      ((∀ held, result ≠ .ok (some held)) ∧ GivenBack updates) := by
  unfold map at ended
  split at ended
  · simp at ended
  · next taken exception described =>
    obtain ⟨rfl, rfl⟩ := Prod.mk.inj (Option.some.inj ended)
    obtain ⟨held, same, -⟩ | ⟨-, back⟩ := mapDescriptor_balanced environment described
    · simp at same
    · exact .inr ⟨by simp, back⟩
  · next taken described =>
    obtain ⟨rfl, rfl⟩ := Prod.mk.inj (Option.some.inj ended)
    obtain ⟨held, same, -⟩ | ⟨-, back⟩ := mapDescriptor_balanced environment described
    · simp at same
    · exact .inr ⟨by simp, back⟩
  · next taken held described =>
    obtain ⟨same, equal, added, block, reference, uid⟩ | ⟨other, -⟩ :=
      mapDescriptor_balanced environment described
    · obtain rfl : held = same := Option.some.inj (Except.ok.inj equal)
      subst added
      have back : destroyed held.object held.value = [.removed held.object] := by
        simp [destroyed, reference, BufferRef.valid]
      obtain ⟨failure, failed, bound⟩ | ⟨resource, completion, -, -, bound⟩ :=
        ReadHandleFactory.makeBound_cases environment.bind held.value consumerStream
      · rw [bound] at ended
        cases failed with
        | inl raised =>
          subst raised
          simp only [back, Option.some.injEq, Prod.mk.injEq] at ended
          obtain ⟨rfl, rfl⟩ := ended
          exact .inr ⟨by simp, .inr ⟨held.object, rfl⟩⟩
        | inr refused =>
          subst refused
          simp only [back, Option.some.injEq, Prod.mk.injEq] at ended
          obtain ⟨rfl, rfl⟩ := ended
          exact .inr ⟨by simp, .inr ⟨held.object, rfl⟩⟩
      · rw [bound] at ended
        obtain ⟨rfl, rfl⟩ := Prod.mk.inj (Option.some.inj ended)
        exact .inl ⟨_, rfl, rfl, block, uid, _, rfl, reference⟩
    · exact absurd rfl (other held)

/-- A binding which fails leaves the publication as it was, and good answers bind it. -/
theorem makeBound_kept (outcomes : BindOutcomes) (publication : MappedPublication)
    (consumerStream : CUstream)
    (failed : ∀ handle, (ReadHandleFactory.makeBound outcomes publication consumerStream).2 ≠
      .ok (some handle)) :
    (ReadHandleFactory.makeBound outcomes publication consumerStream).1 = publication ∧
      (publication.valid = true → ∀ retry : BindOutcomes, retry.AllGood → ∃ after handle,
        ReadHandleFactory.makeBound retry
          (ReadHandleFactory.makeBound outcomes publication consumerStream).1 consumerStream =
            (after, .ok (some handle))) := by
  obtain ⟨failure, -, bound⟩ | ⟨resource, completion, -, -, bound⟩ :=
    ReadHandleFactory.makeBound_cases outcomes publication consumerStream
  · rw [bound]
    exact ⟨rfl, fun usable retry good =>
      ReadHandleFactory.makeBound_succeeds consumerStream good usable⟩
  · rw [bound] at failed
    exact absurd rfl (failed _)

/-- The acquire of the call returns a valid BufferRef on the object which the metadata cache
answers. -/
def Environment.acquired (environment : Environment msg) : Bool :=
  match getOrAttach ⟨0, blockKey msg, msg.uid.toNat, .lookup⟩ environment.lookups with
  | some (.ok (some object)) =>
    decide ((acquire object (.start msg.uid.toNat) environment.moments).2 = some true)
  | _ => false

/-- The call as one whose acquire is answered and whose import cache does not change
under it. -/
def Environment.mapCall (environment : Environment msg) (consumerStream : CUstream) :
    BufferMapper.MapCall :=
  { msg := msg
    consumerStream := consumerStream
    acquired := environment.acquired
    referenceAllocated := environment.referenceAllocated
    keyCopied := environment.keyCopied
    driver := environment.driver
    inserted := environment.inserted
    publicationAllocated := environment.publicationAllocated
    bind := environment.bind }

/-- Behind the acquire, the two descriptions publish the same: the one with the reference's
updates, and the one with the import cache. -/
theorem publish_refines (environment : Environment msg) (consumerStream : CUstream) (object : Nat)
    (known : msg.publisherPid ≠ 0) (acquired : environment.acquired = true)
    (imports : environment.importThrows = false)
    (one : environment.insertCache = environment.foundCache) :
    (BufferMapper.mapDescriptor (environment.mapCall consumerStream) environment.foundCache).2 =
      (publish environment object).2.map (Option.map Held.value) := by
  unfold BufferMapper.mapDescriptor publish
  simp only [Environment.mapCall, known, acquired, if_false, Bool.true_eq_false]
  split
  · rfl
  · simp only [Environment.resource, imports, one, Bool.false_eq_true, if_false]
    cases environment.foundCache.lookup msg.key with
    | some imported =>
      simp only [BufferMapper.MapCall.publish]
      cases ReadHandleFactory.makePublication environment.publicationAllocated (some imported)
          (some ⟨true, msg.uid.toNat⟩) msg.byteSize msg.deviceId.toInt32 with
      | error exception => rfl
      | ok made => cases made <;> rfl
    | none =>
      simp only
      cases (VmmFdMemoryImporter.importFrom environment.driver msg msg.eventHandle).2 with
      | none => rfl
      | some opened =>
        simp only
        split
        · rfl
        · simp only [BufferMapper.MapCall.publish, lookup_emplace_self]
          cases ReadHandleFactory.makePublication environment.publicationAllocated
              (some ((environment.foundCache.lookup msg.key).getD opened))
              (some ⟨true, msg.uid.toNat⟩) msg.byteSize msg.deviceId.toInt32 with
          | error exception => rfl
          | ok made => cases made <;> rfl

/-- The two descriptions map a descriptor to the same publication, in the cases which both of them
have. -/
theorem mapDescriptor_refines (environment : Environment msg) (consumerStream : CUstream)
    {updates : List CountUpdate} {result : Except Exception (Option (Held MappedPublication))}
    (attaches : ∀ exception, getOrAttach ⟨0, blockKey msg, msg.uid.toNat, .lookup⟩
      environment.lookups ≠ some (.error exception))
    (imports : environment.importThrows = false)
    (one : environment.insertCache = environment.foundCache)
    (ended : mapDescriptor environment = some (updates, result)) :
    (BufferMapper.mapDescriptor (environment.mapCall consumerStream) environment.foundCache).2 =
      result.map (Option.map Held.value) := by
  have refused (known : msg.publisherPid ≠ 0) (invalid : environment.acquired = false) :
      (BufferMapper.mapDescriptor (environment.mapCall consumerStream)
        environment.foundCache).2 = .ok none := by
    simp [BufferMapper.mapDescriptor, Environment.mapCall, known, invalid]
  unfold mapDescriptor at ended
  split at ended
  · next anonymous =>
    obtain ⟨-, rfl⟩ := Prod.mk.inj (Option.some.inj ended)
    simp [BufferMapper.mapDescriptor, Environment.mapCall, anonymous, Except.map]
  next known =>
  split at ended
  · simp at ended
  · next exception threw => exact absurd threw (attaches exception)
  · next missing =>
    obtain ⟨-, rfl⟩ := Prod.mk.inj (Option.some.inj ended)
    exact refused known (by simp [Environment.acquired, missing])
  next object found =>
  split at ended
  · simp at ended
  · next taken acquired =>
    obtain ⟨-, rfl⟩ := Prod.mk.inj (Option.some.inj ended)
    exact refused known (by simp [Environment.acquired, found, acquired])
  · next taken acquired =>
    obtain ⟨-, rfl⟩ := Prod.mk.inj (Option.some.inj ended)
    exact publish_refines environment consumerStream object known
      (by simp [Environment.acquired, found, acquired]) imports one

/-- Without an exception from the attach or the import, and with one import cache
throughout, the mapping has the result of the mapping which is not told how its
reference comes about. -/
theorem map_refines (environment : Environment msg) (consumerStream : CUstream)
    {updates : List CountUpdate} {result : Except Exception (Option (Held ReadHandle))}
    (attaches : ∀ exception, getOrAttach ⟨0, blockKey msg, msg.uid.toNat, .lookup⟩
      environment.lookups ≠ some (.error exception))
    (imports : environment.importThrows = false)
    (one : environment.insertCache = environment.foundCache)
    (ended : map environment consumerStream = some (updates, result)) :
    (BufferMapper.map (environment.mapCall consumerStream) environment.foundCache).2 =
      result.map (Option.map Held.value) := by
  have described {taken : List CountUpdate}
      {outcome : Except Exception (Option (Held MappedPublication))}
      (same : mapDescriptor environment = some (taken, outcome)) :=
    mapDescriptor_refines environment consumerStream attaches imports one same
  unfold BufferMapper.map
  generalize BufferMapper.mapDescriptor (environment.mapCall consumerStream)
    environment.foundCache = abstract at described ⊢
  obtain ⟨cache, outcome⟩ := abstract
  unfold map at ended
  split at ended
  · simp at ended
  · next taken exception same =>
    obtain ⟨-, rfl⟩ := Prod.mk.inj (Option.some.inj ended)
    obtain rfl : outcome = .error exception := described same
    rfl
  · next taken same =>
    obtain ⟨-, rfl⟩ := Prod.mk.inj (Option.some.inj ended)
    obtain rfl : outcome = .ok none := described same
    rfl
  · next taken held same =>
    obtain rfl : outcome = .ok (some held.value) := described same
    have bind : (environment.mapCall consumerStream).bind = environment.bind := rfl
    have stream : (environment.mapCall consumerStream).consumerStream = consumerStream := rfl
    simp only [bind, stream]
    generalize ReadHandleFactory.makeBound environment.bind held.value consumerStream = bound
      at ended
    obtain ⟨left, answer⟩ := bound
    cases answer with
    | error exception =>
      obtain ⟨-, rfl⟩ := Prod.mk.inj (Option.some.inj ended)
      rfl
    | ok handle =>
      cases handle <;>
      · obtain ⟨-, rfl⟩ := Prod.mk.inj (Option.some.inj ended)
        rfl

/-- The destroyed handle goes the way of every read handle: its release begins, or is
done at once when there is no completion event to record. -/
def ReleasedNormally (impl : ReadHandle.Impl) : Prop :=
  ∀ (state : DeferredRelease.State) (number : Nat),
    (impl.completion = none → number ∈ (state.drop (some ⟨number, impl⟩)).released) ∧
    (impl.completion ≠ none →
      .activating ⟨number, impl⟩ ∈ (state.drop (some ⟨number, impl⟩)).releases)

/-- What a typed read makes of the mapping of its message, `readOf` being the read handle
which a typed handle owns. The updates are the mapping's own in each case. Where nothing
is mapped there is nothing to destroy; a rejected message destroys the very handle which
`map` returned, and an accepted one is returned with that handle in it. -/
inductive HandsOver {β : Type} (readOf : β → ReadHandle) (environment : Environment msg)
    (consumerStream : CUstream) : TypedRead β → Prop where
  | unmapped (updates : List CountUpdate) (result : Except Exception (Option β))
      (outcome : Except Exception (Option (Held ReadHandle)))
      (mapped : map environment consumerStream = some (updates, outcome))
      (failed : ∀ held, outcome ≠ .ok (some held)) (refused : ∀ typed, result ≠ .ok (some typed))
      (back : GivenBack updates) :
      HandsOver readOf environment consumerStream ⟨updates, result, none⟩
  | rejected (updates : List CountUpdate) (result : Except Exception (Option β))
      (held : Held ReadHandle) (impl : ReadHandle.Impl)
      (mapped : map environment consumerStream = some (updates, .ok (some held)))
      (one : Mapped environment updates held) (refused : ∀ typed, result ≠ .ok (some typed))
      (owned : held.value.impl = some impl) (released : ReleasedNormally impl) :
      HandsOver readOf environment consumerStream ⟨updates, result, some held⟩
  | accepted (updates : List CountUpdate) (typed : β) (held : Held ReadHandle)
      (mapped : map environment consumerStream = some (updates, .ok (some held)))
      (one : Mapped environment updates held) (owns : readOf typed = held.value) :
      HandsOver readOf environment consumerStream ⟨updates, .ok (some typed), none⟩

/-- An owned reference is released in the normal way, in every state of the process. -/
theorem releasedNormally {impl : ReadHandle.Impl} {uid : Nat}
    (owned : impl.bufferRef = some ⟨true, uid⟩) : ReleasedNormally impl := by
  intro state number
  refine ⟨fun incomplete => ?_, fun complete => ?_⟩
  · simp [DeferredRelease.State.drop, owned, incomplete]
  · simp [DeferredRelease.State.drop, owned, complete]

/-- A typed reader hands the reference over, whatever it checks of the message, so long
as the typed handle it makes owns the read handle it was given. -/
theorem readWith_handsOver {β : Type} {readOf : β → ReadHandle} (environment : Environment msg)
    (copied : Bool) {fromMessage : ReadHandle → Option β} (consumerStream : CUstream)
    (keeps : ∀ handle typed, fromMessage handle = some typed → readOf typed = handle)
    {read : TypedRead β}
    (ended : readWith environment copied fromMessage consumerStream = some read) :
    HandsOver readOf environment consumerStream read := by
  unfold readWith at ended
  split at ended
  · simp at ended
  · next updates exception mapped =>
    obtain rfl := Option.some.inj ended
    obtain ⟨held, same, -⟩ | ⟨failed, back⟩ := map_balanced environment consumerStream mapped
    · simp at same
    · exact .unmapped updates _ _ mapped failed (by simp) back
  · next updates mapped =>
    obtain rfl := Option.some.inj ended
    obtain ⟨held, same, -⟩ | ⟨failed, back⟩ := map_balanced environment consumerStream mapped
    · simp at same
    · exact .unmapped updates _ _ mapped failed (by simp) back
  · next updates held mapped =>
    obtain ⟨same, equal, one⟩ | ⟨other, -⟩ := map_balanced environment consumerStream mapped
    · obtain rfl : held = same := Option.some.inj (Except.ok.inj equal)
      obtain ⟨impl, owned, reference⟩ := one.owned
      have released := releasedNormally reference
      split at ended
      · obtain rfl := Option.some.inj ended
        exact .rejected updates _ held impl mapped one (by simp) owned released
      split at ended
      · obtain rfl := Option.some.inj ended
        exact .rejected updates _ held impl mapped one (by simp) owned released
      · next typed made =>
        obtain rfl := Option.some.inj ended
        exact .accepted updates typed held mapped one (keeps held.value typed made)
    · exact absurd rfl (other held)

/-- Mapping is all or nothing. A call which returns a handle has added one reference on
the message's block, whose uid behind the addition was the message's, and the handle owns
it; any other outcome leaves nothing added. A failed binding leaves its publication
bindable. The typed readers return the handle which they have mapped inside a typed one,
or hand its reference to the normal release.

What other threads and processes do meanwhile is not restricted. A call whose exchange
keeps failing has no result, and nothing is stated of it. -/
theorem map_allOrNothing :
    (∀ (msg : BufferCore) (environment : Environment msg) (consumerStream : CUstream)
      (updates : List CountUpdate) (result : Except Exception (Option (Held ReadHandle))),
      map environment consumerStream = some (updates, result) →
      (∃ held, result = .ok (some held) ∧ Mapped environment updates held) ∨
        ((∀ held, result ≠ .ok (some held)) ∧ GivenBack updates)) ∧
    (∀ (outcomes : BindOutcomes) (publication : MappedPublication) (consumerStream : CUstream),
      (∀ handle, (ReadHandleFactory.makeBound outcomes publication consumerStream).2 ≠
        .ok (some handle)) →
      (ReadHandleFactory.makeBound outcomes publication consumerStream).1 = publication ∧
        (publication.valid = true → ∀ retry : BindOutcomes, retry.AllGood → ∃ after handle,
          ReadHandleFactory.makeBound retry
            (ReadHandleFactory.makeBound outcomes publication consumerStream).1 consumerStream =
              (after, .ok (some handle)))) ∧
    (∀ (message : GpuImage) (environment : Environment message.core) (copied : Bool)
      (consumerStream : CUstream) (read : TypedRead ImageReadHandle),
      ImageReader.read message environment copied consumerStream = some read →
      HandsOver ImageReadHandle.read environment consumerStream read) ∧
    (∀ (codes : PointFieldCodes) (message : GpuPointCloud2)
      (environment : Environment message.core) (copied : Bool) (consumerStream : CUstream)
      (read : TypedRead PointCloud2ReadHandle),
      PointCloud2Reader.read codes message environment copied consumerStream = some read →
      HandsOver PointCloud2ReadHandle.read environment consumerStream read) := by
  refine ⟨?_, makeBound_kept, ?_, ?_⟩
  · intro msg environment consumerStream updates result ended
    exact map_balanced environment consumerStream ended
  · intro message environment copied consumerStream read ended
    exact readWith_handsOver environment copied consumerStream
      (fun _ _ made => ImageReadHandle.fromMessage_read made) ended
  · intro codes message environment copied consumerStream read ended
    exact readWith_handsOver environment copied consumerStream
      (fun _ _ made => PointCloud2ReadHandle.fromMessage_read made) ended

/-- A message of block 2 of process 1, with uid 5 and 64 bytes. -/
def sampleMessage : BufferCore := ⟨[47], Vector.replicate 64 0, 1, 0, 2, 5, 64⟩

/-- The block is not cached, its object 7 is attached, and a weak exchange fails once
while another reader comes in. -/
def sampleEnvironment (eventCreated : Option Nat) : Environment sampleMessage where
  blockOf _ := ⟨1, 2⟩
  lookups := List.replicate 4 (⟨some 5, .ok (some 7), true⟩, [])
  moments := [⟨⟨5, 0, 9⟩, false⟩, ⟨⟨5, 0, 9⟩, false⟩, ⟨⟨5, 1, 9⟩, false⟩, ⟨⟨5, 1, 9⟩, false⟩,
    ⟨⟨5, 2, 9⟩, false⟩]
  referenceAllocated := true
  keyCopied := true
  foundCache := [(sampleMessage.key, ⟨4096, 3, some ⟨0⟩, 4096, 6, 65536⟩)]
  importThrows := false
  driver := ⟨none, none, false, none, none, none, false, false, none⟩
  inserted := true
  insertCache := []
  publicationAllocated := true
  bind := ⟨true, true, true, eventCreated, true, true⟩
  unique := by simp [UniqueKeys]
  cached := by simp
  attached := by simp [blockKey, sampleMessage]

/-- An image without a row of this message, which no read is accepted with. -/
def emptyImage : GpuImage :=
  ⟨⟨0, 0, ""⟩, 0, #v[0, 1, 1], #v[1, 1, 1], sampleMessage, ""⟩

/-- Mapping this message adds one reference on object 7; when no completion event can
be created, it is given back; and the image's reader hands it to the normal release. -/
theorem map_allOrNothing_sample :
    (∃ updates held, map (sampleEnvironment (some 8)) 64 = some (updates, .ok (some held)) ∧
      Mapped (sampleEnvironment (some 8)) updates held) ∧
    (∃ updates, map (sampleEnvironment none) 64 = some (updates, .ok none) ∧
      GivenBack updates ∧ updates ≠ []) ∧
    (∃ read, ImageReader.read emptyImage (sampleEnvironment (some 8)) true 64 = some read ∧
      read.destroyed.isSome = true ∧
      HandsOver ImageReadHandle.read (sampleEnvironment (some 8)) 64 read) := by
  refine ⟨⟨_, _, rfl, ?_⟩, ⟨_, rfl, ?_, by decide⟩, ⟨_, rfl, by decide, ?_⟩⟩
  · obtain ⟨held, same, mapped⟩ | ⟨other, -⟩ :=
      map_allOrNothing.1 sampleMessage (sampleEnvironment (some 8)) 64 _ _ rfl
    · obtain rfl := Option.some.inj (Except.ok.inj same)
      exact mapped
    · exact absurd rfl (other _)
  · obtain ⟨held, same, -⟩ | ⟨-, back⟩ :=
      map_allOrNothing.1 sampleMessage (sampleEnvironment none) 64 _ _ rfl
    · simp at same
    · exact back
  · exact map_allOrNothing.2.2.1 emptyImage (sampleEnvironment (some 8)) true 64 _ rfl

end Ros2CudaIpc.MapReferences
