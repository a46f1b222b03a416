import Ros2CudaIpc.DlpackExport

/-!
# The states of a DLPack image

An image is Available while it holds an unbound lease, Consumed once a capsule was
returned, and Closed after a close or an export which lost its lease. Up to the
ownership commit of the binding a failing export leaves the image alone. The commit empties
the publication; the image forgets it, and leaves Available, only after the
read handle has been moved to the heap. When that allocation fails in between, the
image stays Available over an empty publication: no export can succeed any more,
and none reports that the image is closed.
-/

namespace Ros2CudaIpc.DlpackExport

/-- An image with the device it copied from its publication, the heap its exports
work on, and the capsules it returned. -/
structure Session where
  image : PyDLPackImage
  deviceId : Int32
  heap : Heap
  returned : List Capsule
deriving DecidableEq, Repr

/-- The constructor of PyDLPackImage, which refuses a missing or an invalid publication with one
and the same message. -/
def construct (publication : Option MappedPublication) : Except PyError Session :=
  match publication with
  | none => .error (.mappingError "GpuImage publication is invalid")
  | some publication =>
    if publication.valid = false then .error (.mappingError "GpuImage publication is invalid")
    else .ok ⟨⟨some publication, .available⟩, publication.deviceId, ⟨[], []⟩, []⟩

/-- `kDLCUDA`, the device type a DLPack consumer is told. -/
def kDLCUDA : Int32 := 2

/-- `dlpack_device`: the device type and the device of the lease. It reads the image and changes
nothing. -/
def Session.dlpackDevice (session : Session) : Except PyError (Int32 × Int32) :=
  match session.image.ensureAvailable "query DLPack device" with
  | some error => .error error
  | none => .ok (kDLCUDA, session.deviceId)

/-- The operations of an image which depend on its state: an export, a close, and the query of the
device. -/
inductive Operation where
  | dlpack (call : ExportCall)
  | close
  | dlpackDevice
deriving DecidableEq, Repr

/-- What an operation returns when it raises nothing: a capsule, nothing but the closed image, or
the device. -/
inductive Response where
  | capsule (capsule : Capsule)
  | closed
  | device (deviceType deviceId : Int32)
deriving DecidableEq, Repr

/-- One operation: the session it leaves, and its response. A returned capsule is listed, an error
leaves the list alone. -/
def Session.operate (session : Session) : Operation → Session × Except PyError Response
  | .dlpack call =>
    match session.image.dlpack call session.heap with
    | (heap, image, .error error) =>
      ({ session with heap := heap, image := image }, .error error)
    | (heap, image, .ok capsule) =>
      ({ session with
        heap := heap
        image := image
        returned := session.returned ++ [capsule] }, .ok (.capsule capsule))
  | .close =>
    match session.image.close with
    | (image, .error error) => ({ session with image := image }, .error error)
    | (image, .ok ()) => ({ session with image := image }, .ok .closed)
  | .dlpackDevice =>
    match session.dlpackDevice with
    | .error error => (session, .error error)
    | .ok (deviceType, deviceId) => (session, .ok (.device deviceType deviceId))

/-- The image still owns a valid lease, which an export can bind or a close can drop. -/
def PyDLPackImage.Leased (image : PyDLPackImage) : Prop :=
  ∃ publication, image.publication = some publication ∧ publication.valid = true

/-- The export gets as far as the ownership commit of its binding: every earlier check passes, and
`make_bound` returns a read handle. -/
def ExportCall.Commits (call : ExportCall) (image : PyDLPackImage) : Prop :=
  image.state = .available ∧ call.synchronize = true ∧ call.streamPtr ≠ 0 ∧
    call.projected = true ∧ call.contextAllocated = true ∧ call.managedAllocated = true ∧
    ∃ left read, call.bound image = (left, .ok (some read))

/-- The operation is an export which, behind the ownership commit, finds no memory
for the owning ReadHandle. -/
def OwnerFails (image : PyDLPackImage) : Operation → Prop
  | .dlpack call => call.Commits image ∧ call.ownerAllocated = false
  | .close | .dlpackDevice => False

/-- An export with usable arguments each of whose fallible steps succeeds. The image it is called
on is not part of this. -/
def ExportCall.AllGood (call : ExportCall) : Prop :=
  call.synchronize = true ∧ call.streamPtr ≠ 0 ∧ call.projected = true ∧
    call.contextAllocated = true ∧ call.managedAllocated = true ∧ call.bind.AllGood ∧
    call.ownerAllocated = true ∧ call.capsuleCreated = true

/-- The state tells whether the lease is held, and one capsule was returned at most. -/
structure Session.Truthful (session : Session) : Prop where
  leased : session.image.state = .available ↔ session.image.Leased
  once : session.returned.length ≤ 1

/-- What one operation owes its caller: a failure ahead of the commit keeps the lease, one behind
it closes the image, and an image which is finished refuses and stays as it is. -/
structure Session.Honours (session : Session) (operation : Operation) : Prop where
  /-- A failure ahead of the commit keeps the lease, and a retry can succeed. -/
  early : ∀ call error, operation = .dlpack call → session.image.state = .available →
    ¬ call.Commits session.image → (session.operate operation).2 = .error error →
    (session.operate operation).1.image = session.image ∧
      ∀ retry : ExportCall, retry.AllGood → ∃ capsule,
        ((session.operate operation).1.operate (.dlpack retry)).2 = .ok (.capsule capsule)
  /-- A failure behind the commit closes the image. -/
  late : ∀ call error, operation = .dlpack call → call.Commits session.image →
    (session.operate operation).2 = .error error →
    (session.operate operation).1.image.state = .closed
  /-- A consumed or closed image raises and changes nothing. -/
  finished : session.image.state ≠ .available →
    (session.operate operation).1 = session ∧
      ∃ error, (session.operate operation).2 = .error error

/-- Every state of a run is truthful, and every operation in it honours its caller. -/
def OneShot : Session → List Operation → Prop
  | session, [] => session.Truthful
  | session, operation :: rest =>
    session.Truthful ∧ session.Honours operation ∧ OneShot (session.operate operation).1 rest

/-- No export of a run fails to allocate the owning ReadHandle behind its commit. -/
def OwnersAllocated : Session → List Operation → Prop
  | _, [] => True
  | session, operation :: rest =>
    ¬ OwnerFails session.image operation ∧ OwnersAllocated (session.operate operation).1 rest

/-- Every way an export of an Available image over a publication can end: ahead of the commit,
with a failed owner, with a failed capsule, or with a capsule. -/
inductive Exports (publication : MappedPublication) (call : ExportCall) :
    PyDLPackImage → Except PyError Capsule → Prop where
  | early (error : PyError) (uncommitted : ¬ call.Commits ⟨some publication, .available⟩) :
      Exports publication call ⟨some publication, .available⟩ (.error error)
  | ownerFailed (committed : call.Commits ⟨some publication, .available⟩)
      (failed : call.ownerAllocated = false) (left : MappedPublication)
      (emptied : left.valid = false) :
      Exports publication call ⟨some left, .available⟩ (.error .badAlloc)
  | capsuleFailed (committed : call.Commits ⟨some publication, .available⟩)
      (allocated : call.ownerAllocated = true) (failed : call.capsuleCreated = false) :
      Exports publication call ⟨none, .closed⟩ (.error .capsuleError)
  | returned (committed : call.Commits ⟨some publication, .available⟩)
      (allocated : call.ownerAllocated = true) (capsule : Capsule) :
      Exports publication call ⟨none, .consumed⟩ (.ok capsule)

/-- An export of an Available image ends in one of the listed ways. The proof follows the checks
in the order in which the code makes them. -/
theorem dlpack_exports (publication : MappedPublication) (call : ExportCall) (heap : Heap) :
    Exports publication call
      ((⟨some publication, .available⟩ : PyDLPackImage).dlpack call heap).2.1
      ((⟨some publication, .available⟩ : PyDLPackImage).dlpack call heap).2.2 := by
  unfold PyDLPackImage.dlpack
  simp only [PyDLPackImage.ensureAvailable]
  split
  · next unusable =>
    refine .early _ ?_
    rintro ⟨-, synchronize, stream, -⟩
    simp [synchronize, stream] at unusable
  next usable =>
  split
  · next unprojected => exact .early _ (fun commits => by simp [commits.2.2.2.1] at unprojected)
  next projected =>
  split
  · next missing => exact .early _ (fun commits => by simp [commits.2.2.2.2.1] at missing)
  next context =>
  split
  · next missing => exact .early _ (fun commits => by simp [commits.2.2.2.2.2.1] at missing)
  next managed =>
  have leased : (⟨some publication, .available⟩ : PyDLPackImage).leased = publication := rfl
  obtain ⟨failure, failed, result⟩ | ⟨resource, completion, -, -, result⟩ :=
    ReadHandleFactory.makeBound_cases call.bind publication call.streamPtr
  · have uncommitted : ¬ call.Commits ⟨some publication, .available⟩ := by
      rintro ⟨-, -, -, -, -, -, left, read, bound⟩
      simp only [ExportCall.bound, leased, result, Prod.mk.injEq] at bound
      simp [bound.2] at failed
    simp only [ExportCall.bound, leased, result]
    cases failed with
    | inl raised => subst raised; exact .early _ uncommitted
    | inr refused => subst refused; exact .early _ uncommitted
  · have committed : call.Commits ⟨some publication, .available⟩ := by
      simp only [not_or, Bool.not_eq_false] at usable
      exact ⟨rfl, usable.1, usable.2, by simpa using projected, by simpa using context,
        by simpa using managed, _, _, result⟩
    simp only [ExportCall.bound, leased, result]
    split
    · next failed => exact .ownerFailed committed failed _ rfl
    next allocated =>
    simp only [Bool.not_eq_false] at allocated
    simp only [publishCapsule]
    split
    · next failed => exact .capsuleFailed committed allocated failed
    · exact .returned committed allocated _

/-- An export with usable arguments commits on a leased image when all goes well. -/
theorem ExportCall.AllGood.commits {call : ExportCall} {publication : MappedPublication}
    (good : call.AllGood) (usable : publication.valid = true) :
    call.Commits ⟨some publication, .available⟩ := by
  obtain ⟨synchronize, stream, projected, context, managed, bind, -⟩ := good
  exact ⟨rfl, synchronize, stream, projected, context, managed,
    ReadHandleFactory.makeBound_succeeds call.streamPtr bind usable⟩

/-- An export of an Available image as a step of its session: the image and the heap it leaves,
and the capsule it lists. -/
theorem operate_dlpack {session : Session} {publication : MappedPublication} (call : ExportCall)
    (held : session.image = ⟨some publication, .available⟩) :
    ∃ heap image result, Exports publication call image result ∧
      session.operate (.dlpack call) = match result with
        | .error error => ({ session with heap := heap, image := image }, .error error)
        | .ok capsule =>
          ({ session with
            heap := heap
            image := image
            returned := session.returned ++ [capsule] }, .ok (.capsule capsule)) := by
  have ends := dlpack_exports publication call session.heap
  rw [← held] at ends
  refine ⟨(session.image.dlpack call session.heap).1, _, _, ends, ?_⟩
  simp only [Session.operate]
  generalize session.image.dlpack call session.heap = after
  obtain ⟨heap, image, result⟩ := after
  cases result with
  | error error => rfl
  | ok capsule => rfl

/-- An export with usable arguments and good answers, called on a leased image, returns a capsule.
Earlier failures do not matter. -/
theorem retry_succeeds {session : Session} {publication : MappedPublication} {retry : ExportCall}
    (held : session.image = ⟨some publication, .available⟩) (usable : publication.valid = true)
    (good : retry.AllGood) :
    ∃ capsule, (session.operate (.dlpack retry)).2 = .ok (.capsule capsule) := by
  have committed := good.commits usable
  obtain ⟨-, -, -, -, -, -, allocated, created⟩ := good
  obtain ⟨heap, image, result, ends, stepped⟩ := operate_dlpack retry held
  rw [stepped]
  cases ends with
  | early error uncommitted => exact absurd committed uncommitted
  | ownerFailed _ failed => simp [allocated] at failed
  | capsuleFailed _ _ failed => simp [created] at failed
  | returned _ _ capsule => exact ⟨capsule, rfl⟩

/-- A consumed or closed image raises whatever is asked of it, and nothing changes. -/
theorem operate_finished (session : Session) (operation : Operation)
    (unavailable : session.image.state ≠ .available) :
    (session.operate operation).1 = session ∧
      ∃ error, (session.operate operation).2 = .error error := by
  have refused (action : String) : ∃ error, session.image.ensureAvailable action = some error := by
    unfold PyDLPackImage.ensureAvailable
    split
    · next available => exact absurd available unavailable
    · exact ⟨_, rfl⟩
    · exact ⟨_, rfl⟩
  cases operation with
  | dlpack call =>
    obtain ⟨error, refused⟩ := refused "export through DLPack"
    simp [Session.operate, PyDLPackImage.dlpack, refused]
  | close =>
    obtain ⟨error, refused⟩ := refused "close"
    simp [Session.operate, PyDLPackImage.close, refused]
  | dlpackDevice =>
    obtain ⟨error, refused⟩ := refused "query DLPack device"
    simp [Session.operate, Session.dlpackDevice, refused]

/-- What a run keeps: an Available image has a valid lease and has returned
nothing, any other has no publication and returned one capsule at most. -/
def Session.Kept (session : Session) : Prop :=
  (session.image.state = .available ∧ session.image.Leased ∧ session.returned = []) ∨
    (session.image.state ≠ .available ∧ session.image.publication = none ∧
      session.returned.length ≤ 1)

/-- What a run keeps makes its states truthful: an image which says it is available holds its
lease. -/
theorem Session.Kept.truthful {session : Session} (kept : session.Kept) : session.Truthful := by
  cases kept with
  | inl available =>
    obtain ⟨available, leased, unreturned⟩ := available
    exact ⟨⟨fun _ => leased, fun _ => available⟩, by simp [unreturned]⟩
  | inr finished =>
    obtain ⟨unavailable, unleased, once⟩ := finished
    refine ⟨⟨fun available => absurd available unavailable, ?_⟩, once⟩
    rintro ⟨publication, held, -⟩
    simp [unleased] at held

/-- An export of a leased image whose owner is allocated honours its caller and keeps the
invariant, whichever of the other steps fails. -/
theorem dlpack_honours {session : Session} {publication : MappedPublication} {call : ExportCall}
    (held : session.image = ⟨some publication, .available⟩) (usable : publication.valid = true)
    (unreturned : session.returned = []) (allocated : ¬ OwnerFails session.image (.dlpack call)) :
    session.Honours (.dlpack call) ∧ (session.operate (.dlpack call)).1.Kept := by
  obtain ⟨heap, image, result, ends, stepped⟩ := operate_dlpack call held
  have ready : session.image.state = .available := by rw [held]
  cases ends with
  | early error uncommitted =>
    have same : (session.operate (.dlpack call)).1.image = session.image := by rw [stepped, held]
    refine ⟨⟨?_, ?_, fun unavailable => absurd ready unavailable⟩, ?_⟩
    · intro _ _ _ _ _ _
      exact ⟨same, fun retry good => retry_succeeds (same.trans held) usable good⟩
    · intro call' _ sameCall committed
      cases sameCall
      exact absurd (held ▸ committed) uncommitted
    · refine .inl ⟨by rw [same]; exact ready, ?_, by rw [stepped]; exact unreturned⟩
      rw [same, held]
      exact ⟨publication, rfl, usable⟩
  | ownerFailed committed failed =>
    exact absurd ⟨held ▸ committed, failed⟩ allocated
  | capsuleFailed committed =>
    refine ⟨⟨?_, ?_, fun unavailable => absurd ready unavailable⟩, ?_⟩
    · intro call' _ sameCall _ uncommitted
      cases sameCall
      exact absurd (held ▸ committed) uncommitted
    · intro _ _ _ _ _
      rw [stepped]
    · rw [stepped]
      exact .inr ⟨by simp, rfl, by simp [unreturned]⟩
  | returned committed _ capsule =>
    refine ⟨⟨?_, ?_, fun unavailable => absurd ready unavailable⟩, ?_⟩
    · intro _ _ _ _ _ raised
      simp [stepped] at raised
    · intro _ _ _ _ raised
      simp [stepped] at raised
    · rw [stepped]
      exact .inr ⟨by simp, rfl, by simp [unreturned]⟩

/-- On an Available image only exports owe anything: the failures in question are an export's, and
such an image is not finished. -/
theorem honours_other {session : Session} {operation : Operation}
    (ready : session.image.state = .available) (other : ∀ call, operation ≠ .dlpack call) :
    session.Honours operation := by
  refine ⟨?_, ?_, fun unavailable => absurd ready unavailable⟩
  · intro call _ same
    exact absurd same (other call)
  · intro call _ same
    exact absurd same (other call)

/-- Every operation whose owner is allocated honours its caller, and keeps what a
run keeps. -/
theorem Session.Kept.operate {session : Session} (kept : session.Kept) (operation : Operation)
    (allocated : ¬ OwnerFails session.image operation) :
    session.Honours operation ∧ (session.operate operation).1.Kept := by
  cases kept with
  | inr finished =>
    have unchanged := operate_finished session operation finished.1
    refine ⟨⟨?_, ?_, fun _ => unchanged⟩, by rw [unchanged.1]; exact .inr finished⟩
    · intro _ _ _ available
      exact absurd available finished.1
    · intro _ _ _ committed
      exact absurd committed.1 finished.1
  | inl available =>
    obtain ⟨ready, ⟨publication, published, usable⟩, unreturned⟩ := available
    have held : session.image = ⟨some publication, .available⟩ := by rw [← published, ← ready]
    cases operation with
    | dlpack call => exact dlpack_honours held usable unreturned allocated
    | close =>
      refine ⟨honours_other ready (by simp), .inr ?_⟩
      simp [Session.operate, PyDLPackImage.close, PyDLPackImage.ensureAvailable, ready, unreturned]
    | dlpackDevice =>
      refine ⟨honours_other ready (by simp), .inl ?_⟩
      simp [Session.operate, Session.dlpackDevice, PyDLPackImage.ensureAvailable, ready, unreturned]
      exact ⟨publication, published, usable⟩

/-- An export whose owner fails leaves its image Available without a lease, so the states are not
truthful from there on. -/
theorem ownerFails_untruthful {session : Session} (kept : session.Kept) (operation : Operation)
    (failing : OwnerFails session.image operation) :
    ¬ (session.operate operation).1.Truthful := by
  cases operation with
  | close => exact failing.elim
  | dlpackDevice => exact failing.elim
  | dlpack call =>
    obtain ⟨committed, failed⟩ := failing
    have ready : session.image.state = .available := committed.1
    obtain ⟨-, ⟨publication, published, -⟩, -⟩ | ⟨unavailable, -, -⟩ := kept
    · have held : session.image = ⟨some publication, .available⟩ := by rw [← published, ← ready]
      obtain ⟨heap, image, result, ends, stepped⟩ := operate_dlpack call held
      intro truthful
      rw [stepped] at truthful
      cases ends with
      | early error uncommitted => exact uncommitted (held ▸ committed)
      | capsuleFailed _ allocated => simp [failed] at allocated
      | returned _ allocated => simp [failed] at allocated
      | ownerFailed _ _ left emptied =>
        obtain ⟨lease, same, valid⟩ := truthful.leased.mp rfl
        obtain rfl := Option.some.inj same
        simp [emptied] at valid
    · exact absurd ready unavailable

/-- The states of a run are truthful from its first one on, because what a run owes includes the
state it starts in. -/
theorem OneShot.truthful {session : Session} {operations : List Operation}
    (oneShot : OneShot session operations) : session.Truthful := by
  cases operations with
  | nil => exact oneShot
  | cons operation rest => exact oneShot.1

/-- From a state which a run keeps, an image is one-shot if and only if every
export behind its commit allocates its owner. -/
theorem Session.Kept.oneShot_iff {session : Session} (kept : session.Kept)
    (operations : List Operation) :
    OneShot session operations ↔ OwnersAllocated session operations := by
  induction operations generalizing session with
  | nil => exact ⟨fun _ => trivial, fun _ => kept.truthful⟩
  | cons operation rest inductionHypothesis =>
    constructor
    · rintro ⟨-, -, later⟩
      have allocated : ¬ OwnerFails session.image operation :=
        fun failing => ownerFails_untruthful kept operation failing later.truthful
      exact ⟨allocated, (inductionHypothesis (kept.operate operation allocated).2).mp later⟩
    · rintro ⟨allocated, later⟩
      obtain ⟨honours, next⟩ := kept.operate operation allocated
      exact ⟨kept.truthful, honours, (inductionHypothesis next).mpr later⟩

/-- A constructed image holds a lease and has returned nothing, so every run from the constructor
starts in what a run keeps. -/
theorem construct_kept {publication : Option MappedPublication} {session : Session}
    (constructed : construct publication = .ok session) : session.Kept := by
  unfold construct at constructed
  split at constructed
  · simp at constructed
  next publication =>
  split at constructed
  · simp at constructed
  next usable =>
  obtain rfl := Except.ok.inj constructed
  exact .inl ⟨rfl, ⟨publication, rfl, by simpa using usable⟩, rfl⟩

/-- A constructed image is one-shot with truthful states, over any operations with
any outcomes, if and only if no export fails to allocate the owning read handle
behind the ownership commit. -/
theorem image_oneShot_iff (publication : Option MappedPublication) (session : Session)
    (operations : List Operation) (constructed : construct publication = .ok session) :
    OneShot session operations ↔ OwnersAllocated session operations :=
  (construct_kept constructed).oneShot_iff operations

/-- A lease on a mapping with a context, of one page of 4096 bytes under uid 7. -/
def sampleLease : MappedPublication :=
  ⟨some ⟨8192, 3, some ⟨1⟩, 8192, 4, 65536⟩, some ⟨true, 7⟩, 4096, 1⟩

/-- An export with good answers up to the allocation of its owner, which is given. -/
def sampleExport (ownerAllocated : Bool) : ExportCall :=
  ⟨1, true, true, true, true, true, ⟨true, true, true, some 5, true, true⟩, ownerAllocated, true⟩

/-- Without memory for the owner the image stays Available, and its lease is gone. Hence not every
run is one-shot. -/
theorem available_without_lease : ¬ ∀ publication session operations,
    construct publication = .ok session → OneShot session operations := by
  intro claimed
  have oneShot := claimed (some sampleLease) _ [.dlpack (sampleExport false)] rfl
  obtain ⟨-, -, truthful⟩ := oneShot
  obtain ⟨lease, same, valid⟩ := truthful.leased.mp rfl
  obtain rfl := Option.some.inj same
  exact absurd valid (by decide)

/-- An image which is exported, queried and closed. The query and the close behind the export are
refused. -/
theorem image_oneShot_exported : ∃ session, construct (some sampleLease) = .ok session ∧
    OneShot session [.dlpack (sampleExport true), .dlpackDevice, .close] := by
  refine ⟨_, rfl, (image_oneShot_iff (some sampleLease) _ _ rfl).mpr ?_⟩
  refine ⟨?_, by simp [OwnerFails], by simp [OwnerFails], trivial⟩
  simp [OwnerFails, sampleExport]

end Ros2CudaIpc.DlpackExport
