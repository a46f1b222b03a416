import Ros2CudaIpc.Reachability
import Ros2CudaIpc.StreamBinding
import Ros2CudaIpc.WeightedLists

/-!
# Context guards

A guard pushes a context on its thread's stack and pops one when it ends. Moves hand
the flag which says so from guard to guard; a move onto an active guard pops for that
one first. A pop takes whatever is on top: guards which end out of order pop each
other's contexts, and the stack is right again when the last of them has ended.

The thread here logs its pops and numbers its successful pushes. A stack entry carries
the number of the push which put it there, a guard that of the push it answers for.
Neither is in the source, and no step reads them. The outcome of initialising the
driver and of a push are inputs; popping a stack which is not empty succeeds.
-/

namespace Ros2CudaIpc.CudaContextGuard

open Reachability WeightedLists
open StreamBinding (CUcontext)

/-- The members of `CudaContextGuard`: the context, the thread which pushed it, and the flag which
says that a pop is still owed. -/
structure Guard where
  context : CUcontext
  ownerThread : Nat
  active : Bool
deriving DecidableEq, Repr

/-- A guard object, and the push it answers for. The number of the push moves with the flag when
the guard is moved. -/
structure Held where
  guard : Guard
  push : Nat
deriving DecidableEq, Repr

/-- An entry of the context stack with the push which put it there; the application's own entries
have no push. -/
structure Entry where
  context : CUcontext
  push : Option Nat
deriving DecidableEq, Repr

/-- One call of `cuCtxPopCurrent`: for which push, which context the guard expects,
and what was on top. -/
structure Pop where
  push : Nat
  expected : CUcontext
  top : Option Entry
deriving DecidableEq, Repr

/-- A thread: its context stack, top first, and its guard objects by address. A
destroyed object leaves its address empty. -/
structure Thread where
  id : Nat
  stack : List Entry
  guards : List (Option Held)
  pushes : Nat
  pops : List Pop
deriving DecidableEq, Repr

/-- A thread without guards and with the application's own stack, on which no guard has pushed
yet. -/
def Thread.initial (id : Nat) (stack : List CUcontext) : Thread :=
  ⟨id, stack.map (⟨·, none⟩), [], 0, []⟩

/-- What is left of a guard which was popped for, or moved from: no context, and nothing to pop
when it ends. -/
def Held.inactive (held : Held) : Held :=
  { held with guard := { held.guard with context := 0, active := false } }

/-- `pop_noexcept` of the guard at an address. On another thread than the one which pushed it pops
nothing and only gives the flag up. -/
def Thread.popNoexcept (thread : Thread) (address : Nat) (held : Held) : Thread :=
  if held.guard.active = false then thread
  else if held.guard.ownerThread ≠ thread.id then
    { thread with guards := thread.guards.set address (some held.inactive) }
  else
    { thread with
      stack := thread.stack.tail
      pops := thread.pops ++ [⟨held.push, held.guard.context, thread.stack.head?⟩]
      guards := thread.guards.set address (some held.inactive) }

/-- What a program does with guards: it pushes a context, moves a guard into a new or an existing
one, or ends one. -/
inductive Operation where
  | push (initialized : Bool) (context : CUcontext) (accepted : Bool)
  | moveConstruct (other : Nat)
  | moveAssign (target other : Nat)
  | destroy (address : Nat)
deriving DecidableEq, Repr

/-- One operation. It is refused where it names an object which does not exist. -/
def step (thread : Thread) : Operation → Option Thread
  | .push initialized context accepted =>
    if initialized = false then some thread
    else if context = 0 then some thread
    else if accepted = false then some thread
    else
      some { thread with
        stack := ⟨context, some thread.pushes⟩ :: thread.stack
        guards := thread.guards ++ [some ⟨⟨context, thread.id, true⟩, thread.pushes⟩]
        pushes := thread.pushes + 1 }
  | .moveConstruct other =>
    match thread.guards[other]? with
    | some (some held) =>
      some { thread with guards := thread.guards.set other (some held.inactive) ++ [some held] }
    | _ => none
  | .moveAssign target other =>
    match thread.guards[target]?, thread.guards[other]? with
    | some (some held), some (some source) =>
      if target = other then some thread
      else
        let popped := thread.popNoexcept target held
        some { popped with
          guards := (popped.guards.set target (some source)).set other (some source.inactive) }
    | _, _ => none
  | .destroy address =>
    match thread.guards[address]? with
    | some (some held) =>
      let popped := thread.popNoexcept address held
      some { popped with guards := popped.guards.set address none }
    | _ => none

/-- An address holds an active guard, one which still owes a pop. A destroyed guard's address
holds nothing. -/
def isActive : Option Held → Bool
  | none => false
  | some held => held.guard.active

/-- An active guard which answers for a push, the one which pushed or one it was moved to. -/
def answersFor (push : Nat) (slot : Option Held) : Bool :=
  isActive slot && slot.any (fun held => held.push = push)

/-- An active guard of another thread, whose pop would be refused. On one thread there is none. -/
def isForeign (id : Nat) (slot : Option Held) : Bool :=
  isActive slot && slot.any (fun held => held.guard.ownerThread ≠ id)

/-- The active guards which answer for a push. It is one until the push has been popped for, and
zero from then on. -/
def Thread.owners (thread : Thread) (push : Nat) : Nat :=
  total (fun slot => (answersFor push slot).toNat) thread.guards

/-- The pops issued for a push, by whichever guard owned it then, whatever entry each of them
took. -/
def Thread.popsFor (thread : Thread) (push : Nat) : Nat :=
  thread.pops.countP fun pop => pop.push = push

/-- A push's entries on the stack: one, or none once some pop has taken it. -/
def Thread.stacked (thread : Thread) (push : Nat) : Nat :=
  thread.stack.countP fun entry => entry.push = some push

/-- The pops which took a push's entry, whichever push they were issued for. -/
def Thread.taken (thread : Thread) (push : Nat) : Nat :=
  thread.pops.countP fun pop => pop.top.bind Entry.push = some push

/-- Every push so far has one owner or was popped for once, and has its entry on the
stack or had it taken once. The guards' entries lie on top of the initial stack, as
many as there are active guards. -/
structure Balanced (stack : List CUcontext) (thread : Thread) : Prop where
  answered : ∀ push, thread.popsFor push + thread.owners push =
    if push < thread.pushes then 1 else 0
  placed : ∀ push, thread.taken push + thread.stacked push =
    if push < thread.pushes then 1 else 0
  layered : ∃ entries, thread.stack = entries ++ stack.map (⟨·, none⟩) ∧
    (∀ entry ∈ entries, entry.push.isSome = true) ∧
    entries.length = total (fun slot => (isActive slot).toNat) thread.guards
  issued : ∀ pop ∈ thread.pops, ∃ context push, pop.top = some ⟨context, some push⟩
  native : total (fun slot => (isForeign thread.id slot).toNat) thread.guards = 0

variable {stack : List CUcontext} {thread : Thread} {address : Nat} {held : Held}

/-- Two lists of guard objects with the same active guards: every weight which counts
active guards only has the same total. -/
def SameActive (before after : List (Option Held)) : Prop :=
  ∀ weight : Option Held → Nat, (∀ slot, isActive slot = false → weight slot = 0) →
    total weight after = total weight before

/-- A guard which was popped for or moved from is not active. -/
@[simp] theorem isActive_inactive (held : Held) : isActive (some held.inactive) = false := rfl

/-- A guard object at an address is active as its flag says. -/
@[simp] theorem isActive_some (held : Held) : isActive (some held) = held.guard.active := rfl

/-- Exchanging one object which is not active for another keeps the active ones, and with them
every owner of a push. -/
theorem sameActive_set {guards : List (Option Held)} {old new : Option Held}
    (found : guards[address]? = some old) (before : isActive old = false)
    (after : isActive new = false) : SameActive guards (guards.set address new) := by
  intro weight activeOnly
  have exchanged := total_set weight guards address old new found
  rw [activeOnly old before, activeOnly new after] at exchanged
  omega

/-- Only the active guards matter: a thread whose guards change without touching these stays
balanced. -/
theorem Balanced.regroup (balanced : Balanced stack thread) {guards : List (Option Held)}
    (same : SameActive thread.guards guards) : Balanced stack { thread with guards := guards } := by
  obtain ⟨answered, placed, ⟨entries, layers, owned, sized⟩, issued, native⟩ := balanced
  refine ⟨fun push => ?_, placed, ⟨entries, layers, owned, ?_⟩, issued, ?_⟩
  · rw [← answered push]
    refine congrArg (thread.popsFor push + ·) (same _ fun slot idle => ?_)
    simp [answersFor, idle]
  · rw [sized]
    exact (same _ fun slot idle => by simp [idle]).symm
  · rw [← native]
    exact same _ fun slot idle => by simp [isForeign, idle]

/-- The guard at an address gives up its activity for its pop.

Proof: an active guard leaves at least one guard-owned entry on the stack. -/
theorem Balanced.pop (balanced : Balanced stack thread)
    (found : thread.guards[address]? = some (some held)) (active : held.guard.active = true) :
    Balanced stack { thread with
      stack := thread.stack.tail
      pops := thread.pops ++ [⟨held.push, held.guard.context, thread.stack.head?⟩]
      guards := thread.guards.set address (some held.inactive) } := by
  obtain ⟨answered, placed, ⟨entries, layers, owned, sized⟩, issued, native⟩ := balanced
  have exchanged (weight : Option Held → Nat) :=
    total_set weight thread.guards address (some held) (some held.inactive) found
  have counted := exchanged fun slot => (isActive slot).toNat
  have running : isActive (some held) = true := active
  simp only [isActive_inactive, running, Bool.toNat_true, Bool.toNat_false] at counted
  obtain ⟨top, others, rfl⟩ : ∃ top others, entries = top :: others := by
    cases entries with
    | nil =>
      simp only [List.length_nil] at sized
      omega
    | cons top others => exact ⟨top, others, rfl⟩
  obtain ⟨number, pushed⟩ := Option.isSome_iff_exists.mp (owned top (by simp))
  refine ⟨fun push => ?_, fun push => ?_, ⟨others, ?_, ?_, ?_⟩, ?_, ?_⟩
  · have answers := exchanged fun slot => (answersFor push slot).toNat
    have before := answered push
    simp only [Thread.owners, Thread.popsFor, List.countP_append, List.countP_singleton] at before ⊢
    simp only [answersFor, isActive_inactive, running, Option.any_some, Bool.true_and,
      Bool.false_and, Bool.toNat_false] at answers before ⊢
    by_cases same : held.push = push
    · simp only [same, decide_true, Bool.toNat_true, if_true] at answers ⊢
      omega
    · simp only [same, decide_false, Bool.toNat_false, Bool.false_eq_true, if_false] at answers ⊢
      omega
  · have before := placed push
    simp only [Thread.taken, Thread.stacked, layers, List.countP_append, List.cons_append,
      List.countP_cons, List.countP_nil, List.head?_cons, List.tail_cons, Option.bind_some]
      at before ⊢
    omega
  · simp [layers]
  · intro entry member
    exact owned entry (List.mem_cons_of_mem _ member)
  · simp only [List.length_cons] at sized
    simp only
    omega
  · intro pop member
    rcases List.mem_append.mp member with earlier | last
    · exact issued pop earlier
    · obtain rfl := List.mem_singleton.mp last
      refine ⟨top.context, number, ?_⟩
      rw [layers]
      simp [← pushed]
  · have foreign := exchanged fun slot => (isForeign thread.id slot).toNat
    simp only [native] at foreign
    simp only [isForeign, isActive_inactive, Bool.false_and, Bool.toNat_false] at foreign ⊢
    omega

/-- Popping for a guard leaves an object behind which is not active, and every other object as it
was.

Proof: an active guard of another thread would be counted. -/
theorem Balanced.popNoexcept (balanced : Balanced stack thread)
    (found : thread.guards[address]? = some (some held)) :
    Balanced stack (thread.popNoexcept address held) ∧
      (∃ left, (thread.popNoexcept address held).guards[address]? = some left ∧
        isActive left = false) ∧
      ∀ other, other ≠ address →
        (thread.popNoexcept address held).guards[other]? = thread.guards[other]? := by
  unfold Thread.popNoexcept
  split
  · next idle => exact ⟨balanced, ⟨_, found, idle⟩, fun _ _ => rfl⟩
  next running =>
  have active : held.guard.active = true := by simpa using running
  have here (changed : Option Held) : (thread.guards.set address changed)[address]? =
      some changed := by
    rw [getElem?_set_found _ _ _ _ _ found, if_pos rfl]
  have elsewhere (changed : Option Held) (other : Nat) (distinct : other ≠ address) :
      (thread.guards.set address changed)[other]? = thread.guards[other]? := by
    rw [getElem?_set_found _ _ _ _ _ found, if_neg (Ne.symm distinct)]
  split
  · next foreign =>
    have counted := weight_le_total (fun slot => (isForeign thread.id slot).toNat) thread.guards
      (some held) (List.mem_of_getElem? found)
    rw [balanced.native] at counted
    simp [isForeign, isActive, active, foreign] at counted
  · exact ⟨balanced.pop found active, ⟨_, here _, rfl⟩, elsewhere _⟩

/-- A successful push adds its entry on top of the stack and its owner among the guards, under a
number no push has had. -/
theorem Balanced.push (balanced : Balanced stack thread) (context : CUcontext) :
    Balanced stack { thread with
      stack := ⟨context, some thread.pushes⟩ :: thread.stack
      guards := thread.guards ++ [some ⟨⟨context, thread.id, true⟩, thread.pushes⟩]
      pushes := thread.pushes + 1 } := by
  obtain ⟨answered, placed, ⟨entries, layers, owned, sized⟩, issued, native⟩ := balanced
  refine ⟨fun push => ?_, fun push => ?_, ⟨⟨context, some thread.pushes⟩ :: entries, ?_, ?_, ?_⟩,
    issued, ?_⟩
  · have before := answered push
    simp only [Thread.owners, Thread.popsFor, total_append, total_cons, total_nil, answersFor,
      isActive, Option.any_some, Bool.true_and] at before ⊢
    by_cases same : thread.pushes = push
    · simp only [same, decide_true, Bool.toNat_true, Nat.lt_irrefl, if_false] at before ⊢
      simp only [Nat.lt_succ_self, if_true]
      omega
    · simp only [same, decide_false, Bool.toNat_false] at before ⊢
      split at before <;> split <;> omega
  · have before := placed push
    simp only [Thread.taken, Thread.stacked, List.countP_cons, Option.some.injEq,
      decide_eq_true_eq] at before ⊢
    split at before <;> split <;> split <;> omega
  · simp [layers]
  · intro entry member
    rcases List.mem_cons.mp member with rfl | older
    · rfl
    · exact owned entry older
  · simp only [List.length_cons, total_append, total_cons, total_nil, isActive_some,
      Bool.toNat_true]
    omega
  · simp only [total_append, total_cons, total_nil, native]
    simp [isForeign, isActive]

/-- Every operation keeps the balance. Moves hand the owner over, and an end or a move onto an
active guard pops for it. -/
theorem step_balanced {next : Thread} {operation : Operation} (balanced : Balanced stack thread)
    (moved : step thread operation = some next) : Balanced stack next := by
  cases operation with
  | push initialized context accepted =>
    simp only [step] at moved
    split at moved
    · exact Option.some.inj moved ▸ balanced
    split at moved
    · exact Option.some.inj moved ▸ balanced
    split at moved
    · exact Option.some.inj moved ▸ balanced
    · obtain rfl := Option.some.inj moved
      exact balanced.push context
  | moveConstruct other =>
    simp only [step] at moved
    split at moved
    · next held found =>
      obtain rfl := Option.some.inj moved
      refine balanced.regroup fun weight activeOnly => ?_
      have exchanged := total_set weight thread.guards other (some held) (some held.inactive) found
      rw [activeOnly (some held.inactive) rfl] at exchanged
      simp only [total_append, total_cons, total_nil]
      omega
    · simp at moved
  | moveAssign target other =>
    simp only [step] at moved
    split at moved
    · next held source onto from_ =>
      split at moved
      · exact Option.some.inj moved ▸ balanced
      next distinct =>
      obtain rfl := Option.some.inj moved
      obtain ⟨popped, ⟨left, here, idle⟩, elsewhere⟩ := balanced.popNoexcept onto
      refine popped.regroup fun weight activeOnly => ?_
      have first := total_set weight _ target left (some source) here
      have there : ((thread.popNoexcept target held).guards.set target (some source))[other]? =
          some (some source) := by
        rw [getElem?_set_found _ _ _ _ _ here, if_neg distinct, elsewhere other (Ne.symm distinct),
          from_]
      have second := total_set weight _ other (some source) (some source.inactive) there
      rw [activeOnly left idle] at first
      rw [activeOnly (some source.inactive) rfl] at second
      omega
    · simp at moved
  | destroy address =>
    simp only [step] at moved
    split at moved
    · next held found =>
      obtain rfl := Option.some.inj moved
      obtain ⟨popped, ⟨left, here, idle⟩, -⟩ := balanced.popNoexcept found
      exact popped.regroup (sameActive_set here idle rfl)
    · simp at moved

/-- A thread without guards is balanced on its own stack: there is no push, no owner and no pop. -/
theorem initial_balanced (id : Nat) (stack : List CUcontext) :
    Balanced stack (Thread.initial id stack) := by
  refine ⟨fun push => ?_, fun push => ?_, ⟨[], rfl, by simp, rfl⟩, by simp [Thread.initial], rfl⟩
  · simp [Thread.initial, Thread.popsFor, Thread.owners]
  · simp [Thread.initial, Thread.taken, Thread.stacked, List.countP_map]

/-- Without an active guard nothing is left of the guards' entries, and every push was
popped for once and had its entry taken once. -/
theorem Balanced.restored (balanced : Balanced stack thread)
    (ended : ∀ slot ∈ thread.guards, isActive slot = false) :
    thread.stack = stack.map (⟨·, none⟩) ∧
      ∀ push < thread.pushes, thread.popsFor push = 1 ∧ thread.taken push = 1 := by
  obtain ⟨answered, placed, ⟨entries, layers, owned, sized⟩, -, -⟩ := balanced
  have inactive : total (fun slot => (isActive slot).toNat) thread.guards = 0 :=
    total_eq_zero _ _ fun slot member => by rw [ended slot member]; rfl
  obtain rfl : entries = [] := List.eq_nil_of_length_eq_zero (sized.trans inactive)
  refine ⟨layers, fun push below => ?_⟩
  have unowned : thread.owners push = 0 :=
    total_eq_zero _ _ fun slot member => by simp [answersFor, ended slot member]
  have unstacked : thread.stacked push = 0 := by
    simp [Thread.stacked, layers, List.countP_map]
  have answers := answered push
  have places := placed push
  rw [if_pos below] at answers places
  omega

/-- In every run from a thread without guards each successful push is owned by one
active guard or was popped for exactly once, and has its entry on the stack or had it
taken exactly once; no pop was issued without a guard's entry on top; and with no
active guard left the stack is the initial one, with every push popped. -/
theorem guards_balance (id : Nat) (stack : List CUcontext) (operations : List Operation)
    (thread : Thread) (executed : run step (Thread.initial id stack) operations = some thread) :
    (∀ push < thread.pushes, thread.popsFor push + thread.owners push = 1 ∧
      thread.taken push + thread.stacked push = 1) ∧
    (∀ pop ∈ thread.pops, ∃ context push, pop.top = some ⟨context, some push⟩) ∧
    ((∀ slot ∈ thread.guards, isActive slot = false) →
      thread.stack = stack.map (⟨·, none⟩) ∧
        ∀ push < thread.pushes, thread.popsFor push = 1 ∧ thread.taken push = 1) := by
  have balanced : Balanced stack thread :=
    run_invariant (fun _ _ _ => step_balanced) operations _ _ (initial_balanced id stack) executed
  refine ⟨fun push below => ⟨?_, ?_⟩, balanced.issued, balanced.restored⟩
  · exact (balanced.answered push).trans (if_pos below)
  · exact (balanced.placed push).trans (if_pos below)

/-- Two nested guards, a failing push, a self-assignment, a move to a new object, and
the assignment of that onto the inner guard: the inner push is popped at the
assignment, the outer one when its last owner is destroyed. -/
theorem guards_balance_moves : ∃ thread : Thread,
    run step (Thread.initial 1 [3]) [.push true 7 true, .push true 8 true, .push true 9 false,
      .moveAssign 0 0, .moveConstruct 0, .moveAssign 1 2, .destroy 0, .destroy 2, .destroy 1] =
        some thread ∧
      thread.pops = [⟨1, 8, some ⟨8, some 1⟩⟩, ⟨0, 7, some ⟨7, some 0⟩⟩] ∧
      thread.stack = [⟨3, none⟩] := by
  have executed : run step (Thread.initial 1 [3]) [.push true 7 true, .push true 8 true,
      .push true 9 false, .moveAssign 0 0, .moveConstruct 0, .moveAssign 1 2, .destroy 0,
      .destroy 2, .destroy 1] = some ⟨1, [⟨3, none⟩], [none, none, none], 2,
        [⟨1, 8, some ⟨8, some 1⟩⟩, ⟨0, 7, some ⟨7, some 0⟩⟩]⟩ := by decide
  exact ⟨_, executed, rfl, ((guards_balance 1 [3] _ _ executed).2.2 (by decide)).1⟩

end Ros2CudaIpc.CudaContextGuard
