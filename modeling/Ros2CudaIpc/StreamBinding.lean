import Ros2CudaIpc.ReadHandle

/-!
# The streams of a binding's driver calls

The null stream, the legacy and the per-thread stream are streams of whichever
context is current when a driver call names them. Any other handle denotes one
stream. Validating a stream, creating the completion event and recording it each
activate a context for the duration of a guard, and the calling thread's context
stack is as before when the guard is gone.

In the ready wait the guard's scope ends ahead of the driver call. The wait is
therefore enqueued under the caller's current context, and the completion is
recorded under the resource's context. For the three special handles these are
streams of one context only when the caller has the resource's context current.

A driver call lists the stream it reached, the latest call first. The outcome of
each driver call and allocation is an input; the binding without its driver calls
is refined by this one.
-/

namespace Ros2CudaIpc.StreamBinding

/-- A context handle; zero is the null handle, which no context has. -/
abbrev CUcontext := Nat

/-- `CU_STREAM_LEGACY`, the legacy default stream of the current context. -/
def cuStreamLegacy : CUstream := 1

/-- `CU_STREAM_PER_THREAD`, the calling thread's default stream of the current context. -/
def cuStreamPerThread : CUstream := 2

/-- The handles which denote a stream of the current context, the null handle among them. -/
def IsSpecial (stream : CUstream) : Prop :=
  stream = 0 ∨ stream = cuStreamLegacy ∨ stream = cuStreamPerThread

instance (stream : CUstream) : Decidable (IsSpecial stream) :=
  inferInstanceAs (Decidable (_ ∨ _ ∨ _))

/-- A concrete stream: a special one of a context, or that of a fixed handle. -/
inductive Stream where
  | special (handle : CUstream) (context : CUcontext)
  | fixed (handle : CUstream)
deriving DecidableEq, Repr

/-- A driver call which reached a stream; a refused one reached none. -/
inductive StreamCall where
  | waitEvent (stream : Stream) (event : Nat)
  | recordEvent (stream : Stream) (event : Nat)
deriving DecidableEq, Repr

/-- The context stack of the calling thread, and its stream calls, the latest first. -/
structure Thread where
  stack : List CUcontext
  calls : List StreamCall
deriving DecidableEq, Repr

/-- What the driver knows: the primary context of a device, the device of a context,
and the context in which the stream of a fixed handle was created. -/
structure Driver where
  primary : Int32 → CUcontext
  deviceOf : CUcontext → Int32
  contextOf : CUstream → CUcontext

/-- The concrete stream a handle denotes. A special handle without a current
context denotes none. -/
def denoted (handle : CUstream) (stack : List CUcontext) : Option Stream :=
  if IsSpecial handle then stack.head?.map (.special handle) else some (.fixed handle)

/-- The context of a concrete stream, its own or the one it was denoted under. -/
def Driver.streamContext (driver : Driver) : Stream → CUcontext
  | .special _ context => context
  | .fixed handle => driver.contextOf handle

/-- `cuCtxGetDevice`: the device of the context on top, if there is one and the driver answers. -/
def Driver.currentDevice (driver : Driver) (answered : Bool) (thread : Thread) : Option Int32 :=
  if answered then thread.stack.head?.map driver.deviceOf else none

/-- `cuStreamGetCtx`: the context of the stream which a handle denotes at the moment of the call. -/
def Driver.streamGetCtx (driver : Driver) (answered : Bool) (handle : CUstream)
    (thread : Thread) : Option CUcontext :=
  if answered then (denoted handle thread.stack).map driver.streamContext else none

/-- `cuStreamWaitEvent` on the stream which the handle denotes under the current context. -/
def Thread.streamWaitEvent (thread : Thread) (answered : Bool) (handle : CUstream)
    (event : Nat) : Thread × Bool :=
  match denoted handle thread.stack, answered with
  | some stream, true => ({ thread with calls := .waitEvent stream event :: thread.calls }, true)
  | _, _ => (thread, false)

/-- `cuEventRecord` on the stream which the handle denotes under the current context. -/
def Thread.eventRecord (thread : Thread) (answered : Bool) (handle : CUstream)
    (event : Nat) : Thread × Bool :=
  match denoted handle thread.stack, answered with
  | some stream, true => ({ thread with calls := .recordEvent stream event :: thread.calls }, true)
  | _, _ => (thread, false)

/-- A scope with a CudaContextGuard: the context is pushed ahead of the scope's body
and popped behind it. A failing push answers none. -/
def Thread.guarded {β : Type} (thread : Thread) (pushed : Bool) (context : CUcontext)
    (body : Thread → Thread × β) : Thread × Option β :=
  if context = 0 ∨ pushed = false then (thread, none)
  else
    let after := body { thread with stack := context :: thread.stack }
    ({ after.1 with stack := after.1.stack.tail }, some after.2)

/-- The answers to one validation, in the order of its driver calls. -/
structure ValidateAnswers where
  gotContext : Bool
  pushed : Bool
  gotDevice : Bool
deriving DecidableEq, Repr

/-- The answers to the ready wait: its validation, the guard, and the wait itself. -/
structure EnqueueAnswers where
  validate : ValidateAnswers
  pushed : Bool
  waited : Bool
deriving DecidableEq, Repr

/-- The answers to one binding, in the order of its steps. A created event is not null. -/
structure BindAnswers where
  validate : ValidateAnswers
  implAllocated : Bool
  itemAllocated : Bool
  eventPushed : Bool
  eventCreated : Option { event : Nat // event ≠ 0 }
  completionAllocated : Bool
  enqueue : EnqueueAnswers
deriving DecidableEq, Repr

/-- The answers to the recording of a completion: the guard, and the record itself. -/
structure RecordAnswers where
  pushed : Bool
  recorded : Bool
deriving DecidableEq, Repr

/-- The device check in the scope of a guard, whose end restores the stack. -/
def Driver.checkDevice (driver : Driver) (answers : ValidateAnswers) (expectedDevice : Int32)
    (context : CUcontext) (thread : Thread) : Thread × Bool :=
  match thread.guarded answers.pushed context fun guarded =>
      (guarded, decide (driver.currentDevice answers.gotDevice guarded = some expectedDevice)) with
  | (after, none) => (after, false)
  | (after, some valid) => (after, valid)

/-- `validate_stream`: the stream's context is on the expected device. Without a context there is
nothing to compare. -/
def validateStream (driver : Driver) (answers : ValidateAnswers)
    (context : Option CudaDeviceContext) (stream : CUstream) (thread : Thread) : Thread × Bool :=
  match context with
  | none => (thread, true)
  | some context =>
    if stream = cuStreamLegacy ∨ stream = cuStreamPerThread then
      driver.checkDevice answers context.deviceId (driver.primary context.deviceId) thread
    else
      match driver.streamGetCtx answers.gotContext stream thread with
      | none => (thread, false)
      | some streamContext => driver.checkDevice answers context.deviceId streamContext thread

/-- `enqueue_ready_event`. The guard's scope ends before the driver call, so the wait is on the
stream which the handle denotes for the caller. -/
def enqueueReadyEvent (driver : Driver) (answers : EnqueueAnswers) (resource : ImportedResources)
    (stream : CUstream) (thread : Thread) : Thread × Bool :=
  match validateStream driver answers.validate resource.context stream thread with
  | (after, false) => (after, false)
  | (after, true) =>
    if resource.event = 0 then (after, true)
    else
      match resource.context with
      | none => after.streamWaitEvent answers.waited stream resource.event
      | some context =>
        match after.guarded answers.pushed (driver.primary context.deviceId)
            fun guarded => (guarded, ()) with
        | (after, none) => (after, false)
        | (after, some ()) => after.streamWaitEvent answers.waited stream resource.event

/-- The creation of the event and of its owning state, whose allocation may throw. -/
def BindAnswers.createdEvent (answers : BindAnswers) (context : CudaDeviceContext) :
    Except Exception (Option CompletionEvent) :=
  match answers.eventCreated with
  | none => .ok none
  | some event =>
    if answers.completionAllocated = false then .error .badAlloc
    else .ok (some ⟨context, event.val⟩)

/-- `create_completion_event`, under a guard of the resource's context; without a context it
creates none. -/
def createCompletionEvent (driver : Driver) (answers : BindAnswers)
    (context : Option CudaDeviceContext) (thread : Thread) :
    Thread × Except Exception (Option CompletionEvent) :=
  match context with
  | none => (thread, .ok none)
  | some context =>
    match thread.guarded answers.eventPushed (driver.primary context.deviceId)
        fun guarded => (guarded, answers.createdEvent context) with
    | (after, none) => (after, .ok none)
    | (after, some result) => (after, result)

/-- `make_bound` with its driver calls: the thread and the publication it leaves, and
its result. -/
def makeBound (driver : Driver) (answers : BindAnswers) (publication : MappedPublication)
    (consumerStream : CUstream) (thread : Thread) :
    Thread × MappedPublication × Except Exception (Option ReadHandle) :=
  match publication.resource with
  | none => (thread, publication, .ok none)
  | some resource =>
    if publication.valid = false then (thread, publication, .ok none)
    else
      match validateStream driver answers.validate resource.context consumerStream thread with
      | (thread, false) => (thread, publication, .ok none)
      | (thread, true) =>
        if answers.implAllocated = false ∨ answers.itemAllocated = false then
          (thread, publication, .error .badAlloc)
        else
          match createCompletionEvent driver answers resource.context thread with
          | (thread, .error exception) => (thread, publication, .error exception)
          | (thread, .ok completion) =>
            if resource.context.isSome ∧ completion = none then (thread, publication, .ok none)
            else
              match enqueueReadyEvent driver answers.enqueue resource consumerStream thread with
              | (thread, false) => (thread, publication, .ok none)
              | (thread, true) =>
                (thread, { publication with resource := none, bufferRef := none },
                  .ok (some ⟨some ⟨some resource, publication.bufferRef, true,
                    publication.byteSize, publication.deviceId, consumerStream, completion⟩⟩))

/-- The driver calls of `ReadHandle::Impl::release`: the completion event is recorded
in the scope of a guard. -/
def release (driver : Driver) (answers : RecordAnswers) (impl : ReadHandle.Impl)
    (thread : Thread) : Thread :=
  match impl.bufferRef, impl.completion with
  | none, _ | some _, none => thread
  | some _, some completion =>
    if completion.event = 0 then thread
    else
      (thread.guarded answers.pushed (driver.primary completion.context.deviceId) fun guarded =>
        guarded.eventRecord answers.recorded impl.consumerStream completion.event).1

/-- The binding left the stack as it was, and its ready wait is on a stream of the
device, the one on which every release of the handle records. -/
structure SameStream (driver : Driver) (context : CudaDeviceContext) (stack : List CUcontext)
    (after : Thread) (handle : ReadHandle) : Prop where
  restored : after.stack = stack
  device : ∀ waited event, .waitEvent waited event ∈ after.calls →
    driver.deviceOf (driver.streamContext waited) = context.deviceId
  together : ∀ waited event impl answers later recorded completed,
    .waitEvent waited event ∈ after.calls → handle.impl = some impl →
    .recordEvent recorded completed ∈ (release driver answers impl ⟨later, []⟩).calls →
    recorded = waited

/-- A scope whose body only asks leaves the thread as it was, and the body asks under
the pushed context. -/
theorem guarded_asking {β : Type} (thread : Thread) (pushed : Bool) (context : CUcontext)
    (ask : Thread → β) :
    thread.guarded pushed context (fun inside => (inside, ask inside)) = (thread, none) ∨
      (context ≠ 0 ∧ thread.guarded pushed context (fun inside => (inside, ask inside)) =
        (thread, some (ask { thread with stack := context :: thread.stack }))) := by
  unfold Thread.guarded
  split
  · exact .inl rfl
  · next usable =>
    exact .inr ⟨fun null => usable (.inl null), rfl⟩

/-- The device check leaves the thread as it was, and accepts contexts of the device. -/
theorem checkDevice_spec (driver : Driver) (answers : ValidateAnswers) (expectedDevice : Int32)
    (context : CUcontext) (thread : Thread) :
    ∃ valid, driver.checkDevice answers expectedDevice context thread = (thread, valid) ∧
      (valid = true → driver.deviceOf context = expectedDevice) := by
  unfold Driver.checkDevice
  obtain failed | ⟨-, asked⟩ := guarded_asking thread answers.pushed context fun guarded =>
    decide (driver.currentDevice answers.gotDevice guarded = some expectedDevice)
  · rw [failed]
    exact ⟨false, rfl, by simp⟩
  · rw [asked]
    refine ⟨_, rfl, ?_⟩
    simp only [Driver.currentDevice, decide_eq_true_eq]
    split
    · simp
    · simp

/-- Validation leaves the thread as it was. An accepted handle denotes a stream of the
device, unless it is a legacy or per-thread one; then the resource's context is of
the device. -/
theorem validateStream_spec (driver : Driver) (answers : ValidateAnswers)
    (context : Option CudaDeviceContext) (stream : CUstream) (thread : Thread) :
    ∃ valid, validateStream driver answers context stream thread = (thread, valid) ∧
      (valid = true → ∀ inside, context = some inside →
        if stream = cuStreamLegacy ∨ stream = cuStreamPerThread then
          driver.deviceOf (driver.primary inside.deviceId) = inside.deviceId
        else ∃ concrete, denoted stream thread.stack = some concrete ∧
          driver.deviceOf (driver.streamContext concrete) = inside.deviceId) := by
  unfold validateStream
  cases context with
  | none => exact ⟨true, rfl, nofun⟩
  | some context =>
    simp only [Option.some.injEq, forall_eq']
    split
    · exact checkDevice_spec driver answers context.deviceId _ thread
    · cases answered : driver.streamGetCtx answers.gotContext stream thread with
      | none => exact ⟨false, rfl, by simp⟩
      | some streamContext =>
        obtain ⟨valid, checked, device⟩ :=
          checkDevice_spec driver answers context.deviceId streamContext thread
        refine ⟨valid, checked, fun accepted => ?_⟩
        unfold Driver.streamGetCtx at answered
        split at answered
        · obtain ⟨concrete, found, rfl⟩ := Option.map_eq_some_iff.mp answered
          exact ⟨concrete, found, device accepted⟩
        · simp at answered

/-- Creating the completion event leaves the thread as it was. A created event is not
null, and lives in the resource's context. -/
theorem createCompletionEvent_spec (driver : Driver) (answers : BindAnswers)
    (context : Option CudaDeviceContext) (thread : Thread) :
    ∃ result, createCompletionEvent driver answers context thread = (thread, result) ∧
      ∀ completion, result = .ok (some completion) → ∃ inside, context = some inside ∧
        driver.primary inside.deviceId ≠ 0 ∧ completion.context = inside ∧
        completion.event ≠ 0 := by
  unfold createCompletionEvent
  cases context with
  | none => exact ⟨.ok none, rfl, by simp⟩
  | some context =>
    simp only [Option.some.injEq, exists_eq_left']
    obtain failed | ⟨usable, entered⟩ := guarded_asking thread answers.eventPushed
      (driver.primary context.deviceId) fun _ => answers.createdEvent context
    · rw [failed]
      exact ⟨.ok none, rfl, by simp⟩
    · rw [entered]
      refine ⟨_, rfl, fun completion created => ?_⟩
      unfold BindAnswers.createdEvent at created
      split at created
      · simp at created
      · next event _ =>
        split at created
        · simp at created
        · obtain rfl := Option.some.inj (Except.ok.inj created)
          exact ⟨usable, rfl, event.property⟩

/-- The ready wait of a resource with a context enqueues under the stack of its
caller, or it has no event to wait for. -/
theorem enqueueReadyEvent_spec (driver : Driver) (answers : EnqueueAnswers)
    {resource : ImportedResources} {context : CudaDeviceContext} (stream : CUstream)
    (thread : Thread) (inside : resource.context = some context) :
    (∃ after, enqueueReadyEvent driver answers resource stream thread = (after, false)) ∨
      (resource.event = 0 ∧
        enqueueReadyEvent driver answers resource stream thread = (thread, true)) ∨
      (resource.event ≠ 0 ∧ ∃ concrete, denoted stream thread.stack = some concrete ∧
        (if stream = cuStreamLegacy ∨ stream = cuStreamPerThread then
          driver.deviceOf (driver.primary context.deviceId) = context.deviceId
        else driver.deviceOf (driver.streamContext concrete) = context.deviceId) ∧
        enqueueReadyEvent driver answers resource stream thread =
          ({ thread with calls := .waitEvent concrete resource.event :: thread.calls }, true)) := by
  obtain ⟨valid, validated, device⟩ :=
    validateStream_spec driver answers.validate resource.context stream thread
  unfold enqueueReadyEvent
  rw [validated]
  cases valid with
  | false => exact .inl ⟨thread, rfl⟩
  | true =>
    simp only
    split
    · next silent => exact .inr (.inl ⟨silent, rfl⟩)
    next event =>
    simp only [inside]
    obtain failed | ⟨-, entered⟩ := guarded_asking thread answers.pushed
      (driver.primary context.deviceId) fun _ => ()
    · rw [failed]
      exact .inl ⟨thread, rfl⟩
    · rw [entered]
      simp only [Thread.streamWaitEvent]
      split
      · next concrete found _ =>
        refine .inr (.inr ⟨event, concrete, found, ?_, rfl⟩)
        have accepted := device rfl context inside
        split at accepted
        · next named => rw [if_pos named]; exact accepted
        · next other =>
          obtain ⟨same, reached, right⟩ := accepted
          obtain rfl : same = concrete := Option.some.inj (reached.symm.trans found)
          rw [if_neg other]
          exact right
      · exact .inl ⟨thread, rfl⟩

/-- The answers of the driver as the outcomes of the binding's steps, which depend on the caller's
stack. -/
def BindAnswers.outcomes (answers : BindAnswers) (driver : Driver) (resource : ImportedResources)
    (stream : CUstream) (thread : Thread) : BindOutcomes :=
  { streamValid := (validateStream driver answers.validate resource.context stream thread).2
    implAllocated := answers.implAllocated
    itemAllocated := answers.itemAllocated
    eventCreated :=
      if resource.context.any (fun context => driver.primary context.deviceId ≠ 0) ∧
          answers.eventPushed then answers.eventCreated.map Subtype.val
      else none
    completionAllocated := answers.completionAllocated
    readyEnqueued := (enqueueReadyEvent driver answers.enqueue resource stream thread).2 }

/-- Creating the completion event has the result of the abstract creation, and leaves the thread
as it was. -/
theorem createCompletionEvent_refines (driver : Driver) (answers : BindAnswers)
    (resource : ImportedResources) (stream : CUstream) (thread : Thread) :
    createCompletionEvent driver answers resource.context thread = (thread,
      ReadHandleFactory.createCompletionEvent (answers.outcomes driver resource stream thread)
        resource.context) := by
  obtain ⟨result, created, -⟩ :=
    createCompletionEvent_spec driver answers resource.context thread
  rw [created]
  congr 1
  unfold createCompletionEvent at created
  unfold ReadHandleFactory.createCompletionEvent
  cases inside : resource.context with
  | none => simp_all
  | some context =>
    simp only [inside, Thread.guarded] at created
    simp only [BindAnswers.outcomes, inside, Option.any_some]
    by_cases usable : driver.primary context.deviceId = 0 ∨ answers.eventPushed = false
    · have closed : ¬ (decide (driver.primary context.deviceId ≠ 0) = true ∧
          answers.eventPushed = true) := by
        simp only [decide_eq_true_eq]
        rintro ⟨primary, pushed⟩
        simp [primary, pushed] at usable
      rw [if_pos usable] at created
      rw [if_neg closed]
      exact (Prod.mk.inj created).2.symm
    · have opened : decide (driver.primary context.deviceId ≠ 0) = true ∧
          answers.eventPushed = true := by simpa using usable
      rw [if_neg usable] at created
      rw [if_pos opened]
      simp only [BindAnswers.createdEvent, Prod.mk.injEq] at created
      rw [← created.2]
      cases answers.eventCreated with
      | none => rfl
      | some event => rfl

/-- The binding with its driver calls has the result of the abstract binding whose
outcomes the driver calls have. -/
theorem makeBound_refines (driver : Driver) (answers : BindAnswers)
    {publication : MappedPublication} {resource : ImportedResources} (stream : CUstream)
    (thread : Thread) (held : publication.resource = some resource) :
    (makeBound driver answers publication stream thread).2 =
      ReadHandleFactory.makeBound (answers.outcomes driver resource stream thread) publication
        stream := by
  obtain ⟨valid, validated, -⟩ :=
    validateStream_spec driver answers.validate resource.context stream thread
  have created := createCompletionEvent_refines driver answers resource stream thread
  have ready : (answers.outcomes driver resource stream thread).readyEnqueued =
    (enqueueReadyEvent driver answers.enqueue resource stream thread).2 := rfl
  have impl : (answers.outcomes driver resource stream thread).implAllocated =
    answers.implAllocated := rfl
  have item : (answers.outcomes driver resource stream thread).itemAllocated =
    answers.itemAllocated := rfl
  have streamed : (answers.outcomes driver resource stream thread).streamValid = valid := by
    simp [BindAnswers.outcomes, validated]
  have idle : resource.context = none → valid = true := by
    intro contextless
    simp only [contextless, validateStream, Prod.mk.injEq] at validated
    exact validated.2.symm
  have quiet : resource.context = none → resource.event = 0 →
      (enqueueReadyEvent driver answers.enqueue resource stream thread).2 = true := by
    intro contextless silent
    simp [enqueueReadyEvent, validateStream, contextless, silent]
  unfold makeBound ReadHandleFactory.makeBound
  simp only [held, validated, streamed, ready, impl, item]
  split
  · rfl
  cases valid with
  | false =>
    have present : resource.context.isSome = true := by
      cases inside : resource.context with
      | none => simp [idle inside] at *
      | some context => rfl
    simp [present]
  | true =>
    simp only [created, and_false, if_false, Bool.true_eq_false]
    split
    · rfl
    generalize ReadHandleFactory.createCompletionEvent
      (answers.outcomes driver resource stream thread) resource.context = result
    cases result with
    | error exception => rfl
    | ok completion =>
      simp only
      split
      · rfl
      generalize enqueueReadyEvent driver answers.enqueue resource stream thread = waited at quiet ⊢
      obtain ⟨after, answered⟩ := waited
      cases answered with
      | true => simp
      | false =>
        have needed : resource.context.isSome = true ∨ resource.event ≠ 0 := by
          cases inside : resource.context with
          | some context => exact .inl rfl
          | none => exact .inr fun silent => by simpa using quiet inside silent
        simp only [needed, true_and, if_true]

/-- What a successful binding of a resource with a context leaves: a handle with its event, and
the calls the thread has made. -/
structure Bound (driver : Driver) (context : CudaDeviceContext) (event : Nat) (stream : CUstream)
    (stack : List CUcontext) (after : Thread) (impl : ReadHandle.Impl) : Prop where
  referenced : impl.bufferRef.isSome = true
  consumer : impl.consumerStream = stream
  completes : ∃ completion, impl.completion = some completion ∧ completion.context = context ∧
    completion.event ≠ 0
  usable : driver.primary context.deviceId ≠ 0
  restored : after.stack = stack
  waits : (event = 0 ∧ after.calls = []) ∨
    (event ≠ 0 ∧ ∃ concrete, denoted stream stack = some concrete ∧
      (if stream = cuStreamLegacy ∨ stream = cuStreamPerThread then
        driver.deviceOf (driver.primary context.deviceId) = context.deviceId
      else driver.deviceOf (driver.streamContext concrete) = context.deviceId) ∧
      after.calls = [.waitEvent concrete event])

/-- A binding which returns a handle leaves such a state, whatever context was current. -/
theorem makeBound_bound {driver : Driver} {answers : BindAnswers}
    {publication left : MappedPublication} {resource : ImportedResources}
    {context : CudaDeviceContext} {stream : CUstream} {stack : List CUcontext} {after : Thread}
    {handle : ReadHandle} (held : publication.resource = some resource)
    (inside : resource.context = some context)
    (bound : makeBound driver answers publication stream ⟨stack, []⟩ =
      (after, left, .ok (some handle))) :
    ∃ impl, handle.impl = some impl ∧
      Bound driver context resource.event stream stack after impl := by
  obtain ⟨valid, validated, -⟩ :=
    validateStream_spec driver answers.validate (some context) stream ⟨stack, []⟩
  obtain ⟨result, created, completed⟩ :=
    createCompletionEvent_spec driver answers (some context) ⟨stack, []⟩
  unfold makeBound at bound
  simp only [held, inside, validated] at bound
  split at bound
  · simp at bound
  next usable =>
  cases valid with
  | false => simp at bound
  | true =>
    simp only [created] at bound
    split at bound
    · simp at bound
    cases result with
    | error exception => simp at bound
    | ok completion =>
      simp only [Option.isSome_some, true_and] at bound
      split at bound
      · simp at bound
      next present =>
      obtain ⟨completion, rfl⟩ := Option.ne_none_iff_exists'.mp present
      obtain ⟨same, found, primary, owner, event⟩ := completed completion rfl
      obtain rfl : context = same := Option.some.inj found
      have referenced : publication.bufferRef.isSome = true := by
        simp only [MappedPublication.valid, held, Bool.not_eq_false, Bool.and_eq_true] at usable
        exact usable.2
      obtain ⟨other, refused⟩ | ⟨silent, waited⟩ | ⟨event', concrete, reached, device, waited⟩ :=
        enqueueReadyEvent_spec driver answers.enqueue stream ⟨stack, []⟩ inside
      · simp [refused] at bound
      · simp only [waited, Prod.mk.injEq, Except.ok.injEq, Option.some.injEq] at bound
        obtain ⟨rfl, -, rfl⟩ := bound
        exact ⟨_, rfl, referenced, rfl, ⟨completion, rfl, owner, event⟩, primary, rfl,
          .inl ⟨silent, rfl⟩⟩
      · simp only [waited, Prod.mk.injEq, Except.ok.injEq, Option.some.injEq] at bound
        obtain ⟨rfl, -, rfl⟩ := bound
        exact ⟨_, rfl, referenced, rfl, ⟨completion, rfl, owner, event⟩, primary, rfl,
          .inr ⟨event', concrete, reached, device, rfl⟩⟩

/-- A release of the handle records on the stream its handle denotes in the resource's
context, if it records at all; with good answers it does. -/
theorem Bound.release {driver : Driver} {context : CudaDeviceContext} {event : Nat}
    {stream : CUstream} {stack : List CUcontext} {after : Thread} {impl : ReadHandle.Impl}
    (bound : Bound driver context event stream stack after impl) (later : List CUcontext) :
    ∃ concrete completed,
      denoted stream (driver.primary context.deviceId :: later) = some concrete ∧
      (∀ answers, (release driver answers impl ⟨later, []⟩).calls = [] ∨
        (release driver answers impl ⟨later, []⟩).calls = [.recordEvent concrete completed]) ∧
      (release driver ⟨true, true⟩ impl ⟨later, []⟩).calls = [.recordEvent concrete completed] := by
  obtain ⟨referenced, consumer, ⟨completion, completes, owner, notNull⟩, usable, -, -⟩ := bound
  obtain ⟨reference, held⟩ := Option.isSome_iff_exists.mp referenced
  obtain ⟨concrete, reached⟩ :
      ∃ concrete, denoted stream (driver.primary context.deviceId :: later) = some concrete := by
    unfold denoted
    split
    · exact ⟨_, rfl⟩
    · exact ⟨_, rfl⟩
  refine ⟨concrete, completion.event, reached, fun answers => ?_, ?_⟩
  · obtain ⟨pushed, recorded⟩ := answers
    cases pushed <;> cases recorded <;>
      simp [StreamBinding.release, Thread.guarded, Thread.eventRecord, held, completes, notNull,
        owner, usable, consumer, reached]
  · simp [StreamBinding.release, Thread.guarded, Thread.eventRecord, held, completes, notNull,
      owner, usable, consumer, reached]

/-- The ready wait of a handle and every completion record of its release are on one stream of the
device, if and only if the handle's stream is a fixed one, there is no event to wait for, or the
caller has the resource's context current.

Proof: the wait and the record are on what the handle denotes in the resource's context. -/
theorem sameStream_iff (driver : Driver) (answers : BindAnswers)
    (publication left : MappedPublication) (resource : ImportedResources)
    (context : CudaDeviceContext) (stream : CUstream) (stack : List CUcontext) (after : Thread)
    (handle : ReadHandle) (held : publication.resource = some resource)
    (inside : resource.context = some context)
    (bound : makeBound driver answers publication stream ⟨stack, []⟩ =
      (after, left, .ok (some handle))) :
    SameStream driver context stack after handle ↔
      ¬ IsSpecial stream ∨ resource.event = 0 ∨
        stack.head? = some (driver.primary context.deviceId) := by
  obtain ⟨impl, owned, bound⟩ := makeBound_bound held inside bound
  obtain ⟨silent, quiet⟩ | ⟨event, concrete, reached, device, calls⟩ := bound.waits
  · refine iff_of_true ⟨bound.restored, ?_, ?_⟩ (.inr (.inl silent))
    · simp [quiet]
    · simp [quiet]
  · constructor
    · intro same
      obtain ⟨recording, completed, denotes, -, records⟩ := bound.release []
      have equal : recording = concrete :=
        same.together concrete resource.event impl ⟨true, true⟩ [] recording completed
          (by simp [calls]) owned (by simp [records])
      subst equal
      by_cases special : IsSpecial stream
      · simp only [denoted, special, if_true, List.head?_cons, Option.map_some] at denotes reached
        obtain ⟨current, top, same⟩ := Option.map_eq_some_iff.mp reached
        simp only [← same, Option.some.injEq, Stream.special.injEq, true_and] at denotes
        exact .inr (.inr (by rw [top, denotes]))
      · exact .inl special
    · intro condition
      have denotes (later : List CUcontext) :
          denoted stream (driver.primary context.deviceId :: later) = some concrete := by
        obtain fixed | eventless | current := condition
        · simpa [denoted, fixed] using reached
        · exact absurd eventless event
        · simpa [denoted, current] using reached
      refine ⟨bound.restored, ?_, ?_⟩
      · intro waited other member
        obtain ⟨rfl, -⟩ : waited = concrete ∧ other = resource.event := by
          simpa [calls] using member
        split at device
        · next named =>
          have special : IsSpecial stream := .inr named
          have same : .special stream (driver.primary context.deviceId) = waited := by
            simpa [denoted, special] using denotes []
          rw [← same]
          exact device
        · exact device
      · intro waited other impl' answers' later recorded completed member found recording
        obtain ⟨rfl, -⟩ : waited = concrete ∧ other = resource.event := by
          simpa [calls] using member
        obtain rfl : impl = impl' := Option.some.inj (owned.symm.trans found)
        obtain ⟨same, event', reaches, either, -⟩ := bound.release later
        obtain rfl : same = waited := Option.some.inj (reaches.symm.trans (denotes later))
        obtain silent | one := either answers'
        · simp [silent] at recording
        · simp only [one, List.mem_singleton, StreamCall.recordEvent.injEq] at recording
          exact recording.1

/-- Two devices whose primary contexts are 10 and 11, and a fixed stream on the first. -/
def twoDevices : Driver :=
  ⟨fun deviceId => if deviceId = 0 then 10 else 11, fun context => if context = 10 then 0 else 1,
    fun _ => 10⟩

/-- A publication on the first device with a ready event and a valid reference. -/
def readyPublication : MappedPublication :=
  ⟨some ⟨4096, 7, some ⟨0⟩, 4096, 5, 65536⟩, some ⟨true, 3⟩, 64, 0⟩

/-- Every driver call and allocation of a binding succeeds, and the created event is number 9. -/
def goodAnswers : BindAnswers :=
  ⟨⟨true, true, true⟩, true, true, true, some ⟨9, by decide⟩, true,
    ⟨⟨true, true, true⟩, true, true⟩⟩

/-- A caller on the second device names the legacy stream: the wait is enqueued on the
second device, the completion is recorded on the first. -/
theorem legacy_wait_elsewhere : ¬ ∀ driver answers publication left resource context stream stack
    after handle, publication.resource = some resource → resource.context = some context →
      makeBound driver answers publication stream ⟨stack, []⟩ = (after, left, .ok (some handle)) →
      SameStream driver context stack after handle := by
  intro claimed
  have same := claimed twoDevices goodAnswers readyPublication _ _ _ cuStreamLegacy [11] _ _ rfl rfl
    rfl
  have device := same.device (.special cuStreamLegacy 11) 7 (by decide)
  exact absurd device (by decide)

/-- A caller on the second device with a fixed stream of the first: both calls reach that stream. -/
theorem sameStream_fixed : ∃ after left handle,
    makeBound twoDevices goodAnswers readyPublication 64 ⟨[11], []⟩ =
      (after, left, .ok (some handle)) ∧ SameStream twoDevices ⟨0⟩ [11] after handle :=
  ⟨_, _, _, rfl, (sameStream_iff twoDevices goodAnswers readyPublication _ _ ⟨0⟩ 64 [11] _ _ rfl rfl
    rfl).mpr (.inl (by decide))⟩

end Ros2CudaIpc.StreamBinding
