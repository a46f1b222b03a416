import Mathlib.Data.List.Nodup
import Mathlib.Data.List.Perm.Subperm
import Mathlib.Data.List.Sort

/-!
# Commands on in-order streams

A host enqueues commands and a device executes them later. A command waits for
every earlier command of its own stream and for the one command it awaits, if any;
commands which are not ordered that way are executed in any order. An awaited
command was enqueued before the command which awaits it.

The device keeps the commands in the order of their enqueuing and the numbers of
the executed ones, the latest first. Nothing here knows what a command does.
-/

namespace Ros2CudaIpc.StreamOrder

universe u v w

/-- A command of one stream, with the one command it awaits, if any, by its number. -/
structure Command (σ : Type u) (τ : Type v) where
  stream : σ
  awaits : Option Nat
  task : τ
deriving DecidableEq, Repr

/-- Everything enqueued, and what of it was executed, the latest first. -/
structure Device (σ : Type u) (τ : Type v) where
  commands : List (Command σ τ)
  executed : List Nat
deriving DecidableEq, Repr

variable {σ : Type u} {τ : Type v}

/-- Nothing is enqueued, and so nothing was executed. -/
def Device.idle : Device σ τ := ⟨[], []⟩

/-- Enqueue a command behind all others, under the next number. -/
def Device.enqueue (device : Device σ τ) (command : Command σ τ) : Device σ τ :=
  { device with commands := device.commands ++ [command] }

/-- Enqueuing puts the command behind those already enqueued. -/
@[simp] theorem Device.enqueue_commands (device : Device σ τ) (command : Command σ τ) :
    (device.enqueue command).commands = device.commands ++ [command] := rfl

/-- Enqueuing executes nothing. -/
@[simp] theorem Device.enqueue_executed (device : Device σ τ) (command : Command σ τ) :
    (device.enqueue command).executed = device.executed := rfl

/-- A command which was not executed, and everything it waits for was: its stream's earlier
commands, and the one it awaits. -/
def Device.Executable [DecidableEq σ] (device : Device σ τ) (index : Nat) : Prop :=
  index ∉ device.executed ∧ ∃ command ∈ device.commands[index]?,
    (∀ earlier ∈ List.range index, ∀ other ∈ device.commands[earlier]?,
      other.stream = command.stream → earlier ∈ device.executed) ∧
    ∀ awaited ∈ command.awaits, awaited < index → awaited ∈ device.executed

instance [DecidableEq σ] (device : Device σ τ) (index : Nat) :
    Decidable (device.Executable index) :=
  match found : device.commands[index]? with
  | none => isFalse (by simp [Device.Executable, found])
  | some command =>
    decidable_of_iff (index ∉ device.executed ∧
      (∀ earlier ∈ List.range index, ∀ other ∈ device.commands[earlier]?,
        other.stream = command.stream → earlier ∈ device.executed) ∧
      ∀ awaited ∈ command.awaits, awaited < index → awaited ∈ device.executed)
      (by simp [Device.Executable, found])

/-- Execute a command, when it is executable; otherwise the device refuses. -/
def Device.execute [DecidableEq σ] (device : Device σ τ) (index : Nat) : Option (Device σ τ) :=
  if device.Executable index then some { device with executed := index :: device.executed }
  else none

/-- The latest of the first commands which does what is asked for, if one of them does. -/
def latestBelow (commands : List (Command σ τ)) (marks : τ → Bool) : Nat → Option Nat
  | 0 => none
  | bound + 1 =>
    if commands[bound]?.any (marks ·.task) then some bound else latestBelow commands marks bound

/-- The latest command which does what is asked for: what a wait for a recorded event
awaits. -/
def Device.latest (device : Device σ τ) (marks : τ → Bool) : Option Nat :=
  latestBelow device.commands marks device.commands.length

/-- What the device keeps apart: a stream's commands, and a command from the one it
awaits. -/
inductive Before (commands : List (Command σ τ)) : Nat → Nat → Prop where
  | stream (first second : Nat) (earlier later : Command σ τ) (ordered : first < second)
      (enqueuedFirst : commands[first]? = some earlier)
      (enqueuedSecond : commands[second]? = some later) (same : earlier.stream = later.stream) :
      Before commands first second
  | awaited (first second : Nat) (later : Command σ τ) (ordered : first < second)
      (enqueued : commands[second]? = some later) (awaits : later.awaits = some first) :
      Before commands first second
  | trans (first middle second : Nat) (former : Before commands first middle)
      (latter : Before commands middle second) : Before commands first second

variable {commands : List (Command σ τ)} {device next : Device σ τ} {first second index : Nat}

/-- An earlier command was enqueued earlier, so no commands wait for each other in a circle. -/
theorem Before.lt (before : Before commands first second) : first < second := by
  induction before with
  | stream first second earlier later ordered => exact ordered
  | awaited first second later ordered => exact ordered
  | trans first middle second _ _ former latter => exact Nat.lt_trans former latter

/-- The later command was enqueued, as its stream and what it awaits are known. -/
theorem Before.enqueued (before : Before commands first second) : second < commands.length := by
  induction before with
  | stream first second earlier later ordered _ enqueued =>
    exact (List.getElem?_eq_some_iff.mp enqueued).1
  | awaited first second later ordered enqueued =>
    exact (List.getElem?_eq_some_iff.mp enqueued).1
  | trans first middle second _ _ _ latter => exact latter

/-- A further command puts nothing in front of the others. -/
theorem Before.restrict {command : Command σ τ}
    (before : Before (commands ++ [command]) first second) (inside : second < commands.length) :
    Before commands first second := by
  induction before with
  | stream first second earlier later ordered enqueuedFirst enqueuedSecond same =>
    rw [List.getElem?_append_left (Nat.lt_trans ordered inside)] at enqueuedFirst
    rw [List.getElem?_append_left inside] at enqueuedSecond
    exact .stream first second earlier later ordered enqueuedFirst enqueuedSecond same
  | awaited first second later ordered enqueued awaits =>
    rw [List.getElem?_append_left inside] at enqueued
    exact .awaited first second later ordered enqueued awaits
  | trans first middle second _ second' former latter =>
    exact .trans first middle second (former (Nat.lt_trans second'.lt inside)) (latter inside)

/-- The executed commands respect the order of the device: each was enqueued, is executed once,
and comes behind what it waits for. -/
structure Device.Ordered (device : Device σ τ) : Prop where
  enqueued : ∀ index ∈ device.executed, index < device.commands.length
  once : device.executed.Nodup
  closed : ∀ second ∈ device.executed, ∀ first, Before device.commands first second →
    first ∈ device.executed
  sorted : device.executed.Pairwise fun later earlier => ¬ Before device.commands later earlier

/-- No more is executed than was enqueued, because nothing is executed twice. -/
theorem Device.Ordered.bounded (ordered : device.Ordered) :
    device.executed.length ≤ device.commands.length := by
  have inside : device.executed ⊆ List.range device.commands.length := fun index member =>
    List.mem_range.mpr (ordered.enqueued index member)
  simpa using (ordered.once.subperm inside).length_le

/-- Before anything is enqueued there is no order to respect. -/
theorem ordered_idle : (Device.idle : Device σ τ).Ordered := by
  constructor <;> simp [Device.idle]

/-- Enqueuing keeps the order, since the new command was not executed. -/
theorem Device.Ordered.enqueue (ordered : device.Ordered) (command : Command σ τ) :
    (device.enqueue command).Ordered where
  enqueued index member := by
    simp only [Device.enqueue_commands, List.length_append]
    exact Nat.lt_add_right _ (ordered.enqueued index member)
  once := ordered.once
  closed second member first before :=
    ordered.closed second member first (before.restrict (ordered.enqueued second member))
  sorted := by
    refine ordered.sorted.imp_of_mem fun later earlier unordered before => ?_
    exact unordered (before.restrict (ordered.enqueued _ earlier))

section Execution

variable [DecidableEq σ]

/-- What executing a command does: it was executable, and is listed as executed. -/
theorem execute_eq_some (executed : device.execute index = some next) :
    device.Executable index ∧ next = { device with executed := index :: device.executed } := by
  unfold Device.execute at executed
  split at executed
  · next executable => exact ⟨executable, (Option.some.inj executed).symm⟩
  · simp at executed

/-- Everything in front of an executable command was executed, through any chain of streams and
waits. -/
theorem Device.Executable.ready (executable : device.Executable index) (ordered : device.Ordered)
    (before : Before device.commands first index) : first ∈ device.executed := by
  obtain ⟨-, command, found, streamed, waited⟩ := executable
  induction before with
  | stream first second earlier later below enqueuedFirst enqueuedSecond same =>
    obtain rfl : later = command := Option.some.inj (enqueuedSecond.symm.trans found)
    exact streamed first (List.mem_range.mpr below) earlier enqueuedFirst same
  | awaited first second later below enqueued awaits =>
    obtain rfl : later = command := Option.some.inj (enqueued.symm.trans found)
    exact waited first awaits below
  | trans first middle second former _ _ latter =>
    exact ordered.closed middle (latter found streamed waited) first former

/-- Executing keeps the order, as all which comes before the command was executed. -/
theorem Device.Ordered.execute (ordered : device.Ordered)
    (executed : device.execute index = some next) : next.Ordered := by
  obtain ⟨executable, rfl⟩ := execute_eq_some executed
  have within : index < device.commands.length := by
    obtain ⟨-, command, found, -⟩ := executable
    exact (List.getElem?_eq_some_iff.mp found).1
  constructor
  · intro other member
    rcases List.mem_cons.mp member with rfl | before
    · exact within
    · exact ordered.enqueued other before
  · exact List.nodup_cons.mpr ⟨executable.1, ordered.once⟩
  · intro second member first before
    refine List.mem_cons_of_mem _ ?_
    rcases List.mem_cons.mp member with rfl | earlier
    · exact executable.ready ordered before
    · exact ordered.closed second earlier first before
  · refine List.pairwise_cons.mpr ⟨fun earlier member before => ?_, ordered.sorted⟩
    exact executable.1 (ordered.closed earlier member index before)

/-- Some command is executable as long as one was not executed: the first of those
waits for executed commands alone. -/
theorem exists_executable (left : ∃ index < device.commands.length, index ∉ device.executed) :
    ∃ index, device.Executable index := by
  classical
  obtain ⟨below, unexecuted⟩ := Nat.find_spec left
  refine ⟨Nat.find left, unexecuted, device.commands[Nat.find left],
    List.getElem?_eq_getElem below, ?_, ?_⟩
  · intro earlier member other found same
    have inside := List.mem_range.mp member
    by_contra missing
    exact Nat.find_min left inside ⟨Nat.lt_trans inside below, missing⟩
  · intro awaited awaits inside
    by_contra missing
    exact Nat.find_min left inside ⟨Nat.lt_trans inside below, missing⟩

end Execution

/-- Where one of the first commands does it, the latest such one is found. -/
theorem latestBelow_found {marks : τ → Bool} {bound : Nat} {command : Command σ τ}
    (inside : index < bound) (found : commands[index]? = some command)
    (marked : marks command.task = true) :
    ∃ last latest, latestBelow commands marks bound = some last ∧
      commands[last]? = some latest ∧ marks latest.task = true ∧ last < bound ∧
        ∀ later other, last < later → later < bound → commands[later]? = some other →
          marks other.task = false := by
  induction bound with
  | zero => omega
  | succ bound inductionHypothesis =>
    simp only [latestBelow]
    by_cases here : commands[bound]?.any (marks ·.task) = true
    · obtain ⟨latest, stored, does⟩ := (Option.any_eq_true ..).mp here
      refine ⟨bound, latest, by rw [if_pos here], stored, does, Nat.lt_succ_self _, ?_⟩
      intro later other above below
      omega
    · have before : index < bound := by
        refine Nat.lt_of_le_of_ne (Nat.le_of_lt_succ inside) fun same => here ?_
        subst same
        simp [found, marked]
      obtain ⟨last, latest, result, stored, does, below, others⟩ := inductionHypothesis before
      refine ⟨last, latest, by rw [if_neg here, result], stored, does, by omega, ?_⟩
      intro later other above within held
      rcases Nat.lt_or_ge later bound with lower | upper
      · exact others later other above lower held
      · obtain rfl : later = bound := by omega
        simpa [held] using here

/-- The latest command which does it has no later one behind it, and is found when any command
does it. -/
theorem Device.latest_found {marks : τ → Bool} {command : Command σ τ}
    (found : device.commands[index]? = some command) (marked : marks command.task = true) :
    ∃ last latest, device.latest marks = some last ∧ device.commands[last]? = some latest ∧
      marks latest.task = true ∧ ∀ later other, last < later →
        device.commands[later]? = some other → marks other.task = false := by
  obtain ⟨last, latest, result, stored, does, -, others⟩ :=
    latestBelow_found (List.getElem?_eq_some_iff.mp found).1 found marked
  refine ⟨last, latest, result, stored, does, fun later other above held => ?_⟩
  exact others later other above (List.getElem?_eq_some_iff.mp held).1 held

/-- The selected commands in front of a number, by their numbers. -/
theorem filterMap_take {δ : Type w} (select : Command σ τ → Option δ)
    (commands : List (Command σ τ)) (bound : Nat) :
    (commands.take bound).filterMap select =
      (List.range bound).filterMap (fun index => commands[index]?.bind select) := by
  induction bound with
  | zero => rfl
  | succ bound inductionHypothesis =>
    rw [List.take_add_one, List.range_succ, List.filterMap_append, List.filterMap_append,
      inductionHypothesis]
    congr 1
    cases found : commands[bound]? with
    | none => simp [found]
    | some command => simp [List.filterMap_cons, found]

/-- Commands of one stream were executed in the order of their enqueuing. Where the executed ones
are those in front of a number, what was executed is therefore what is enqueued there.

Proof: a later command of the stream which was executed earlier would stand in front of the
number. -/
theorem Device.Ordered.selected {δ : Type w} (ordered : device.Ordered)
    (select : Command σ τ → Option δ) (bound : Nat)
    (oneStream : ∀ first ∈ device.commands, ∀ second ∈ device.commands,
      (select first).isSome → (select second).isSome → first.stream = second.stream)
    (prefixed : ∀ (index : Nat) (command : Command σ τ), device.commands[index]? = some command →
      (select command).isSome → (index ∈ device.executed ↔ index < bound)) :
    device.executed.reverse.filterMap (fun index => device.commands[index]?.bind select) =
      (device.commands.take bound).filterMap select := by
  let picks (index : Nat) : Bool := (device.commands[index]?.bind select).isSome
  have narrow (indices : List Nat) :
      indices.filterMap (fun index => device.commands[index]?.bind select) =
        (indices.filter picks).filterMap (fun index => device.commands[index]?.bind select) := by
    rw [List.filterMap_filter]
    refine List.filterMap_congr fun index _ => ?_
    cases chosen : device.commands[index]?.bind select <;> simp [picks, chosen]
  have picked {index : Nat} (chosen : picks index = true) : ∃ command,
      device.commands[index]? = some command ∧ (select command).isSome := by
    cases found : device.commands[index]? with
    | none => simp [picks, found] at chosen
    | some command => exact ⟨command, rfl, by simpa [picks, found] using chosen⟩
  rw [filterMap_take, narrow, narrow (List.range bound)]
  congr 1
  refine List.Pairwise.eq_of_mem_iff (r := (· < ·)) ?_ (List.pairwise_lt_range.filter _) ?_
  · refine List.pairwise_filter.mpr (List.pairwise_reverse.mpr ?_)
    refine (ordered.sorted.and ordered.once).imp fun {later earlier} apart first second => ?_
    obtain ⟨former, foundFormer, selectedFormer⟩ := picked first
    obtain ⟨latter, foundLatter, selectedLatter⟩ := picked second
    rcases Nat.lt_trichotomy earlier later with below | same | above
    · exact below
    · exact absurd same.symm apart.2
    · refine absurd (.stream later earlier latter former above foundLatter foundFormer ?_) apart.1
      exact oneStream latter (List.mem_of_getElem? foundLatter) former
        (List.mem_of_getElem? foundFormer) selectedLatter selectedFormer
  · intro index
    simp only [List.mem_filter, List.mem_reverse, List.mem_range]
    refine and_congr_left fun chosen => ?_
    obtain ⟨command, found, selected⟩ := picked chosen
    exact prefixed index command found selected

end Ros2CudaIpc.StreamOrder
