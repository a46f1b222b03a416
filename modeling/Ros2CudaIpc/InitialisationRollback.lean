import Mathlib.Data.List.Perm.Basic
import Ros2CudaIpc.PoolInitialisation
import Ros2CudaIpc.Reachability

/-!
# A failed initialisation leaves nothing behind

Everything which owns something lists its possessions: numbered resources, references to
contexts, names and socket paths. The accounts of the world are right when each resource
is possessed once or was released once, each context is released with its last reference,
and nothing exists under a name or path which is not possessed.

Every operation takes possessions from its owner and gives others back, whatever else
there is. For a loop over the blocks this is shown of one turn. A pool without blocks and
context possesses nothing, so its world has been given back everything, once.
-/

namespace Ros2CudaIpc.PoolInitialisation

open MetadataNames Reachability SharedOwnership UniqueOwnership

/-- Something with an owner: a numbered resource, a reference to a context, a name of shared
memory, or a socket path. -/
inductive Possession where
  | resource (number : Nat)
  | context (number : Nat)
  | name (name : List Char)
  | path (path : List Char)
deriving DecidableEq, Repr

namespace Possession

/-- The number of a resource, and nothing for other possessions. -/
def resource? : Possession → Option Nat
  | .resource number => some number
  | _ => none

/-- The number of a context, and nothing for other possessions. -/
def context? : Possession → Option Nat
  | .context number => some number
  | _ => none

end Possession

/-- The possession of a resource, if there is one; a member which is not set possesses nothing. -/
def heldResource (held : Option Nat) : List Possession := held.toList.map .resource

/-- The accounts of a world are right for what is possessed: each resource once, each context by
its references, and every name and path by somebody. -/
structure Accounts (world : World) (held : List Possession) : Prop where
  resources : Accounted world.resources (held.filterMap Possession.resource?)
  contexts : Counted world.contexts (held.filterMap Possession.context?)
  names : ∀ name ∈ world.names, .name name ∈ held
  paths : ∀ path ∈ world.paths, .path path ∈ held

namespace Accounts

variable {world : World} {held changed : List Possession} {number : Nat}

/-- At first nothing is possessed, and the world has nothing to account for. -/
theorem empty : Accounts World.empty [] :=
  ⟨Accounted.empty, ⟨by simp [World.empty], by simp⟩, by simp [World.empty],
    by simp [World.empty]⟩

/-- Who possesses what does not matter to the accounts, so possessions may be listed in any order.
-/
theorem permute (accounts : Accounts world held) (moved : changed.Perm held) :
    Accounts world changed :=
  ⟨accounts.resources.permute (moved.filterMap _), accounts.contexts.permute (moved.filterMap _),
    fun name member => moved.mem_iff.mpr (accounts.names name member),
    fun path member => moved.mem_iff.mpr (accounts.paths path member)⟩

/-- An acquired resource is possessed, under a number no resource has had before. -/
theorem acquire (accounts : Accounts world held) (kind : Kind) :
    Accounts (world.acquire kind).1 (.resource (world.acquire kind).2 :: held) :=
  ⟨accounts.resources.acquire kind, accounts.contexts,
    fun name member => List.mem_cons_of_mem _ (accounts.names name member),
    fun path member => List.mem_cons_of_mem _ (accounts.paths path member)⟩

/-- A released resource is possessed no longer. Its one possession is given back by the release. -/
theorem release (accounts : Accounts world (.resource number :: held)) :
    Accounts (world.release number) held := by
  refine ⟨accounts.resources.release, accounts.contexts, fun name member => ?_,
    fun path member => ?_⟩
  · simpa using accounts.names name member
  · simpa using accounts.paths path member

/-- Releasing what there may be: a member which is not set has nothing to release. -/
theorem releaseHeld {owned : Option Nat}
    (accounts : Accounts world (heldResource owned ++ held)) :
    Accounts (world.releaseHeld owned) held := by
  cases owned with
  | none => exact accounts
  | some number => exact accounts.release

/-- A retained context is possessed by one reference, under a number no context has had before. -/
theorem retain (accounts : Accounts world held) :
    Accounts world.retain.1 (.context world.retain.2 :: held) :=
  ⟨accounts.resources, accounts.contexts.construct (List.Perm.refl _),
    fun name member => List.mem_cons_of_mem _ (accounts.names name member),
    fun path member => List.mem_cons_of_mem _ (accounts.paths path member)⟩

/-- A copy of a reference to a context is one more possession of it, where somebody has a
reference already. -/
theorem copyContext (accounts : Accounts world held) (owned : .context number ∈ held) :
    Accounts (world.copyContext number) (.context number :: held) := by
  have present : number ∈ held.filterMap Possession.context? :=
    List.mem_filterMap.mpr ⟨_, owned, rfl⟩
  exact ⟨accounts.resources, accounts.contexts.copy present (List.Perm.refl _),
    fun name member => List.mem_cons_of_mem _ (accounts.names name member),
    fun path member => List.mem_cons_of_mem _ (accounts.paths path member)⟩

/-- A dropped reference to a context is possessed no longer; the last one releases the context. -/
theorem dropContext (accounts : Accounts world (.context number :: held)) :
    Accounts (world.dropContext number) held := by
  refine ⟨accounts.resources, accounts.contexts.drop (List.Perm.refl _), fun name member => ?_,
    fun path member => ?_⟩
  · simpa using accounts.names name member
  · simpa using accounts.paths path member

/-- Dropping what there may be: a pool or an event object without a context drops nothing. -/
theorem dropContextHeld {owned : Option Nat}
    (accounts : Accounts world (owned.toList.map .context ++ held)) :
    Accounts (world.dropContextHeld owned) held := by
  cases owned with
  | none => exact accounts
  | some number => exact accounts.dropContext

/-- A created name is possessed by whoever created it, and has to be unlinked in the end. -/
theorem shmOpen (accounts : Accounts world held) (name : List Char) :
    Accounts (world.shmOpen name) (.name name :: held) := by
  refine ⟨accounts.resources, accounts.contexts, fun other member => ?_,
    fun path member => List.mem_cons_of_mem _ (accounts.paths path member)⟩
  rcases List.mem_cons.mp member with rfl | older
  · exact List.mem_cons_self ..
  · exact List.mem_cons_of_mem _ (accounts.names other older)

/-- A name which is unlinked need not be possessed any more, and no other name goes with it. -/
theorem shmUnlink {name : List Char} (accounts : Accounts world (.name name :: held)) :
    Accounts (world.shmUnlink name) held := by
  refine ⟨accounts.resources, accounts.contexts, fun other member => ?_, fun path member => ?_⟩
  · obtain ⟨older, apart⟩ := List.mem_filter.mp member
    have owned := accounts.names other older
    simpa [of_decide_eq_true apart] using owned
  · simpa using accounts.paths path member

/-- A name may be possessed before it exists, which asks nothing of the world. -/
theorem claimName (accounts : Accounts world held) (name : List Char) :
    Accounts world (.name name :: held) :=
  ⟨accounts.resources, accounts.contexts,
    fun other member => List.mem_cons_of_mem _ (accounts.names other member),
    fun path member => List.mem_cons_of_mem _ (accounts.paths path member)⟩

/-- A path may be possessed before a socket is bound to it, which asks nothing of the world. -/
theorem claimPath (accounts : Accounts world held) (path : List Char) :
    Accounts world (.path path :: held) :=
  ⟨accounts.resources, accounts.contexts,
    fun name member => List.mem_cons_of_mem _ (accounts.names name member),
    fun other member => List.mem_cons_of_mem _ (accounts.paths other member)⟩

/-- A socket at a possessed path adds nothing to possess. The server has its path from its
construction on. -/
theorem bind {path : List Char} (accounts : Accounts world held) (owned : .path path ∈ held) :
    Accounts (world.bind path) held := by
  refine ⟨accounts.resources, accounts.contexts, accounts.names, fun other member => ?_⟩
  rcases List.mem_cons.mp member with rfl | older
  · exact owned
  · exact accounts.paths other older

/-- Unlinking a path leaves no more than there was, so every remaining path is still possessed. -/
theorem unlink (accounts : Accounts world held) (path : List Char) :
    Accounts (world.unlink path) held :=
  ⟨accounts.resources, accounts.contexts, accounts.names,
    fun other member => accounts.paths other (List.mem_of_mem_filter member)⟩

/-- A path which was unlinked need not be possessed any longer, because nothing exists under it. -/
theorem unlinkOwned {path : List Char} (accounts : Accounts world (.path path :: held)) :
    Accounts (world.unlink path) held := by
  refine ⟨accounts.resources, accounts.contexts, fun name member => ?_, fun other member => ?_⟩
  · simpa using accounts.names name member
  · obtain ⟨older, apart⟩ := List.mem_filter.mp member
    have owned := accounts.paths other older
    simpa [of_decide_eq_true apart] using owned

end Accounts

/-- A server's descriptor, its thread and its path. It possesses the path also while no socket is
bound there. -/
def UnixFdServer.held (server : UnixFdServer) : List Possession :=
  heldResource server.listenFd ++ heldResource server.worker ++ [.path server.path]

/-- A state's server and driver objects: the descriptor, the address range and the allocation, as
far as it has got them. -/
def VmmFdBlockState.held (state : VmmFdBlockState) : List Possession :=
  state.server.toList.flatMap UnixFdServer.held ++ heldResource state.shareableFd ++
    heldResource state.address ++ heldResource state.allocation

/-- An event object's event and its own reference to the context, which it keeps beside the
pool's. -/
def ReadyEvent.held (ready : ReadyEvent) : List Possession :=
  [.resource ready.event, .context ready.context]

/-- A block's memory state, event object and name. A default-constructed block has none of them. -/
def Block.held (block : Block) : List Possession :=
  block.vmmFdState.toList.flatMap VmmFdBlockState.held ++
    block.readyEvent.toList.flatMap ReadyEvent.held ++ block.sharedMetadata.toList.map .name

/-- A pool's blocks and its reference to the context. A pool whose blocks could not be allocated
has the context alone. -/
def Pool.held (pool : Pool) : List Possession :=
  pool.blocks.flatMap Block.held ++ pool.context.toList.map .context

variable {world : World} {frame : List Possession}

namespace UnixFdServer

variable {server : UnixFdServer}

/-- A stopped server has given its descriptor and its thread back, and has its path left. -/
theorem stop_accounts (accounts : Accounts world (server.held ++ frame)) :
    Accounts (server.stop world).1 (.path server.path :: frame) := by
  simp only [held, List.append_assoc, List.singleton_append] at accounts
  exact accounts.releaseHeld.releaseHeld.unlink server.path

/-- A destroyed server has nothing left: it stops and then unlinks its path. -/
theorem destruct_accounts (accounts : Accounts world (server.held ++ frame)) :
    Accounts (server.destruct world) frame :=
  (stop_accounts accounts).unlinkOwned

/-- A server has what it acquired when it started, whether it did or not. -/
theorem start_accounts (answers : ServerAnswers) (fits : server.path.length ≤ sunPathRoom)
    (accounts : Accounts world (server.held ++ frame)) :
    Accounts (server.start answers world).world
      ((server.start answers world).value.held ++ frame) := by
  have stopped := stop_accounts accounts
  have whole : server.path.take sunPathRoom = server.path := List.take_of_length_le fits
  unfold start
  simp only
  split
  · exact stopped
  · have opened := (stopped.acquire .socket).unlink server.path
    split
    · exact opened.release
    · have bound := opened.bind (List.mem_cons_of_mem _ (List.mem_cons_self ..))
      rw [whole]
      split
      · exact bound.release
      · refine (bound.acquire .worker).permute ?_
        exact List.Perm.swap _ _ _

end UnixFdServer

/-- Whoever may have had a server has it no longer behind its destruction. -/
theorem destructServer_accounts {server : Option UnixFdServer}
    (accounts : Accounts world (server.toList.flatMap UnixFdServer.held ++ frame)) :
    Accounts (destructServer server world) frame := by
  cases server with
  | none => exact accounts
  | some server =>
    rw [Option.toList_some, List.flatMap_singleton] at accounts
    exact UnixFdServer.destruct_accounts accounts

/-- Every socket path fits into an address, so no server is refused for the length of its path. -/
theorem buildSocketPath_fits (uuid : Vector Char 36) :
    (buildSocketPath uuid).length ≤ sunPathRoom := by
  have stem : socketStem.length = 22 := by decide
  have suffix : socketSuffix.length = 5 := by decide
  simp [buildSocketPath, stem, suffix, sunPathRoom]

/-- A destroyed state has nothing. Its address is released because it has a size. -/
theorem VmmFdBlockState.destruct_accounts {state : VmmFdBlockState}
    (accounts : Accounts world (state.held ++ frame)) : Accounts (state.destruct world) frame := by
  obtain ⟨allocation, address, allocationSize, shareableFd, server, sized⟩ := state
  simp only [held, List.append_assoc] at accounts
  have closed := (destructServer_accounts accounts).releaseHeld
  simp only [destruct]
  cases address with
  | none =>
    split
    · exact closed.releaseHeld.releaseHeld
    · exact closed.releaseHeld.releaseHeld
  | some number =>
    simp only [sized (by simp), if_true]
    exact closed.releaseHeld.releaseHeld

/-- A state has what its turn acquired, wherever the turn ended, and nothing is left outside it. -/
theorem buildState_accounts (answers : VmmAnswers) (size : UInt64)
    (accounts : Accounts world frame) :
    Accounts (buildState answers size world).world
      ((buildState answers size world).value.held ++ frame) := by
  unfold buildState
  simp only
  split
  · exact accounts
  · have address := accounts.acquire .address
    split
    · exact address
    · have allocation := address.acquire .allocation
      split
      · refine allocation.permute ?_
        exact List.Perm.swap _ _ _
      · have fd := allocation.acquire .shareableFd
        have fresh : Accounts _
            (UnixFdServer.held ⟨buildSocketPath answers.uuid, none, none⟩ ++ _) :=
          fd.claimPath (buildSocketPath answers.uuid)
        have started := UnixFdServer.start_accounts answers.server
          (buildSocketPath_fits answers.uuid) fresh
        refine started.permute ?_
        simp only [VmmFdBlockState.held, Option.toList_some, List.flatMap_singleton,
          List.append_assoc]
        refine List.Perm.append_left _ ?_
        exact List.Perm.cons _ (List.Perm.swap _ _ _)

/-- A destroyed event object has nothing when its context could be activated. Otherwise the event
would stay, which the premise excludes. -/
theorem ReadyEvent.destruct_accounts {ready : ReadyEvent}
    (accounts : Accounts world (ready.held ++ frame)) :
    Accounts (ready.destruct true world) frame :=
  accounts.release.dropContext

/-- A block's memory state may end, and what it possessed is given back. -/
theorem Block.resetState_accounts {block : Block}
    (accounts : Accounts world (block.vmmFdState.toList.flatMap VmmFdBlockState.held ++ frame)) :
    Accounts (block.resetState world) frame := by
  unfold resetState
  cases state : block.vmmFdState with
  | none => simpa [state] using accounts
  | some state_ =>
    rw [state, Option.toList_some, List.flatMap_singleton] at accounts
    exact VmmFdBlockState.destruct_accounts accounts

/-- So may its event object, when the context of the event can be activated. -/
theorem Block.resetEvent_accounts {block : Block}
    (accounts : Accounts world (block.readyEvent.toList.flatMap ReadyEvent.held ++ frame)) :
    Accounts (block.resetEvent true world) frame := by
  unfold resetEvent
  cases event : block.readyEvent with
  | none => simpa [event] using accounts
  | some ready =>
    rw [event, Option.toList_some, List.flatMap_singleton] at accounts
    exact ReadyEvent.destruct_accounts accounts

/-- What a failure of a loop leaves to its owner beside the blocks, and nothing when the loop has
not failed. -/
def leftover {φ : Type} (owns : φ → List Possession) (failure : Option φ) : List Possession :=
  failure.toList.flatMap owns

/-- A failure may have nothing, as when the turn has cleaned up behind itself. -/
theorem leftover_nothing {φ : Type} (failure : Option φ) :
    leftover (fun _ => []) failure = [] := by
  simp [leftover]

/-- A turn which keeps the accounts of its block, with a failure's own possessions. The
block may be of a certain shape at first and is of another one afterwards. -/
def Keeps {φ : Type} (owns : φ → List Possession) (before after : Block → Prop)
    (context : List Possession) (turn : Nat → World → Block → Turn φ) : Prop :=
  ∀ (index : Nat) (world : World) (block : Block) (frame : List Possession), before block →
    Accounts world (block.held ++ (frame ++ context)) →
    let taken := turn index world block
    Accounts taken.world (taken.block.held ++ (leftover owns taken.failure ++ (frame ++ context))) ∧
      (taken.failure.isNone = true → after taken.block)

/-- A loop whose turns keep the accounts keeps them, whatever else there is. Without a failure
every block has had its turn.

Proof: the blocks before are part of what the rest of the loop leaves alone. -/
theorem forBlocks_framed {φ : Type} {owns : φ → List Possession} {before after : Block → Prop}
    {context : List Possession} {turn : Nat → World → Block → Turn φ}
    (keeps : Keeps owns before after context turn) {index : Nat} {blocks : List Block}
    (shaped : ∀ block ∈ blocks, before block)
    (accounts : Accounts world (blocks.flatMap Block.held ++ (frame ++ context))) :
    let pass := forBlocks turn index world blocks
    Accounts pass.world
        (pass.blocks.flatMap Block.held ++ (leftover owns pass.failure ++ (frame ++ context))) ∧
      (pass.failure.isNone = true → ∀ block ∈ pass.blocks, after block) := by
  induction blocks generalizing index world frame with
  | nil => exact ⟨accounts, by simp [forBlocks]⟩
  | cons block rest inductionHypothesis =>
    simp only [List.flatMap_cons, List.append_assoc] at accounts
    rw [← List.append_assoc _ frame context] at accounts
    obtain ⟨turned, shape⟩ := keeps index world block _ (shaped block (List.mem_cons_self ..))
      accounts
    simp only [forBlocks]
    cases failed : (turn index world block).failure with
    | some failure =>
      refine ⟨turned.permute ?_, by simp⟩
      simp only [failed, List.flatMap_cons, List.append_assoc]
      refine List.Perm.append_left _ ?_
      exact List.perm_append_comm_assoc ..
    | none =>
      rw [failed] at turned shape
      have others : Accounts (turn index world block).world
          (rest.flatMap Block.held ++
            (((turn index world block).block.held ++ frame) ++ context)) := by
        refine turned.permute ?_
        simp only [leftover, Option.toList_none, List.flatMap_nil, List.nil_append,
          List.append_assoc]
        exact List.perm_append_comm_assoc ..
      obtain ⟨passed, shapes⟩ := inductionHypothesis
        (fun other member => shaped other (List.mem_cons_of_mem _ member)) others
      refine ⟨passed.permute ?_, fun finished other member => ?_⟩
      · simp only [List.flatMap_cons, List.append_assoc]
        refine (List.perm_append_comm_assoc ..).trans (List.Perm.append_left _ ?_)
        exact List.perm_append_comm_assoc ..
      · rcases List.mem_cons.mp member with rfl | later
        · exact shape rfl
        · exact shapes finished other later

/-- A loop whose turns keep the accounts keeps them over all blocks, with nothing possessed
elsewhere. By induction on the blocks. -/
theorem forBlocks_accounts {φ : Type} {owns : φ → List Possession} {before after : Block → Prop}
    {context : List Possession} {turn : Nat → World → Block → Turn φ}
    (keeps : Keeps owns before after context turn) (index : Nat) {blocks : List Block}
    (shaped : ∀ block ∈ blocks, before block)
    (accounts : Accounts world (blocks.flatMap Block.held ++ context)) :
    let pass := forBlocks turn index world blocks
    Accounts pass.world
        (pass.blocks.flatMap Block.held ++ (leftover owns pass.failure ++ context)) ∧
      (pass.failure.isNone = true → ∀ block ∈ pass.blocks, after block) := by
  have framed : Accounts world (blocks.flatMap Block.held ++ ([] ++ context)) := accounts
  exact forBlocks_framed keeps shaped framed

variable {context : List Possession}

/-- Nothing is left by a loop which cannot fail. -/
def nothing (failure : Empty) : List Possession := nomatch failure

/-- A turn of the memory's destruction ends the block's state and leaves its event object as it
was. -/
theorem destroyVmmTurn_keeps (shape : Option ReadyEvent → Prop) :
    Keeps nothing (fun block => shape block.readyEvent)
      (fun block => shape block.readyEvent ∧ block.vmmFdState = none) context destroyVmmTurn := by
  intro index world block frame shaped accounts
  refine ⟨?_, fun _ => ⟨shaped, rfl⟩⟩
  simp only [Block.held, List.append_assoc] at accounts
  simpa [destroyVmmTurn, Block.held, leftover] using Block.resetState_accounts accounts

/-- A turn of the events' destruction ends the block's event object, given that every context can
be activated. -/
theorem resetEventTurn_keeps {activated : Nat → Bool} (active : ∀ index, activated index = true) :
    Keeps nothing (fun _ => True) (fun block => block.readyEvent = none) context
      (Pool.resetEventTurn activated) := by
  intro index world block frame _ accounts
  refine ⟨?_, fun _ => rfl⟩
  have moved : Accounts world (block.readyEvent.toList.flatMap ReadyEvent.held ++
      (block.vmmFdState.toList.flatMap VmmFdBlockState.held ++
        (block.sharedMetadata.toList.map .name ++ (frame ++ context)))) := by
    refine accounts.permute ?_
    simp only [Block.held, List.append_assoc]
    exact List.perm_append_comm_assoc ..
  simpa [Pool.resetEventTurn, active, Block.held, leftover] using
    Block.resetEvent_accounts moved

/-- A turn of the last loop unlinks the name of a block which has nothing else. -/
theorem unlinkTurn_keeps :
    Keeps nothing (fun block => block.readyEvent = none ∧ block.vmmFdState = none)
      (fun block => block.held = []) context Pool.unlinkTurn := by
  intro index world block frame shaped accounts
  obtain ⟨eventless, stateless⟩ := shaped
  simp only [Block.held, eventless, stateless] at accounts
  unfold Pool.unlinkTurn
  cases shared : block.sharedMetadata with
  | none =>
    rw [shared] at accounts
    simpa [Block.held, eventless, stateless, shared, leftover] using accounts
  | some name =>
    rw [shared] at accounts
    have unlinked : Accounts (world.shmUnlink name) (frame ++ context) := accounts.shmUnlink
    simpa [Block.held, eventless, stateless, leftover] using unlinked

/-- A failed turn for a block's memory leaves the state it has built, a successful one
gives it to the block. -/
theorem vmmTurn_keeps (answers : Nat → VmmAnswers) (size : UInt64) :
    Keeps VmmFdBlockState.held (fun block => block.readyEvent = none)
      (fun block => block.readyEvent = none) context (vmmTurn answers size) := by
  intro index world block frame shaped accounts
  have built := buildState_accounts (answers index) size accounts
  unfold vmmTurn
  simp only
  split
  · refine ⟨?_, fun _ => shaped⟩
    refine built.permute ?_
    simp only [leftover, Option.toList_some, List.flatMap_singleton]
    exact List.perm_append_comm_assoc ..
  · refine ⟨?_, fun _ => shaped⟩
    have moved := built.permute (List.perm_append_comm_assoc ..)
    simp only [Block.held, List.append_assoc] at moved
    refine (Block.resetState_accounts moved).permute ?_
    simp only [Block.held, leftover, Option.toList_some, List.flatMap_singleton, Option.toList_none,
      List.flatMap_nil, List.nil_append, List.append_assoc]
    refine (List.perm_append_comm_assoc ..).trans (List.Perm.append_left _ ?_)
    exact List.perm_append_comm_assoc ..

/-- `InterprocessEvent::create` gives its object the event and a reference to a context
somebody else has, or nothing. -/
theorem createEvent_accounts (answers : EventAnswers) {number : Nat}
    (owned : .context number ∈ frame) (accounts : Accounts world frame) :
    Accounts (createEvent answers number world).1
      ((createEvent answers number world).2.toList.flatMap ReadyEvent.held ++ frame) := by
  have copied := accounts.copyContext owned
  unfold createEvent
  simp only
  split
  · exact copied.dropContext
  · have event := copied.acquire .event
    split
    · exact event.release.dropContext
    · exact event

/-- A failed turn for a block's event leaves everything, a successful one gives the block
its event object. -/
theorem eventTurn_keeps (answers : Nat → EventAnswers) (replaced : Nat → Bool) {number : Nat}
    (owned : .context number ∈ context) :
    Keeps (fun _ => []) (fun block => block.readyEvent = none) (fun _ => True) context
      (eventTurn answers replaced number) := by
  intro index world block frame eventless accounts
  have present : .context number ∈ block.held ++ (frame ++ context) :=
    List.mem_append_right _ (List.mem_append_right _ owned)
  have created := createEvent_accounts (answers index) present accounts
  unfold eventTurn
  simp only
  cases made : (createEvent (answers index) number world).2 with
  | none =>
    rw [made] at created
    exact ⟨created, fun _ => trivial⟩
  | some ready =>
    rw [made] at created
    have unreplaced : ∀ world, block.resetEvent (replaced index) world = world := by
      simp [Block.resetEvent, eventless]
    simp only [unreplaced]
    refine ⟨created.permute ?_, fun _ => trivial⟩
    simp only [Block.held, eventless, leftover, Option.toList_some, List.flatMap_singleton,
      Option.toList_none, List.flatMap_nil, List.nil_append, List.append_nil, List.append_assoc]
    exact List.perm_append_comm_assoc ..

/-- `BufferMetadata::create` leaves the name of the object it returns, and no other: a failure
behind the creation unlinks it. -/
theorem createMetadata_accounts (answers : CreateAnswers) (name : List Char)
    (accounts : Accounts world frame) :
    Accounts (createMetadata answers name world).1
      (if (createMetadata answers name world).2 then .name name :: frame else frame) := by
  unfold createMetadata
  simp only
  split
  · exact accounts
  · have opened := (accounts.acquire .shmFd).shmOpen name
    have closed : Accounts _ (.name name :: frame) :=
      (opened.permute (List.Perm.swap _ _ _)).release
    split
    · exact closed.shmUnlink
    · exact closed

/-- So does the second attempt behind a stale object, whose name it unlinks first. -/
theorem replaceStale_accounts (answers : MetadataAnswers) (name : List Char)
    (accounts : Accounts world frame) :
    Accounts (replaceStale answers name world).1
      (if (replaceStale answers name world).2 then .name name :: frame else frame) := by
  unfold replaceStale
  split
  · exact createMetadata_accounts _ name (accounts.claimName name).shmUnlink
  · split
    · exact createMetadata_accounts _ name accounts
    · exact accounts

/-- A block's turn leaves its name, or nothing, whichever of its one or two attempts succeeds. -/
theorem createReplacing_accounts (answers : MetadataAnswers) (name : List Char)
    (accounts : Accounts world frame) :
    Accounts (createReplacing answers name world).1
      (if (createReplacing answers name world).2 then .name name :: frame else frame) := by
  have first := createMetadata_accounts answers.first name accounts
  unfold createReplacing
  simp only
  split
  · next stale =>
    rw [stale.1] at first
    exact replaceStale_accounts answers name first
  · exact first

/-- A failed turn for a block's metadata leaves everything, a successful one gives the
block its name. -/
theorem metadataTurn_keeps (locale : FormattedText.NumPunct) (publisherPid : UInt32)
    (answers : Nat → MetadataAnswers) :
    Keeps (fun _ => []) (fun block => block.readyEvent = none ∧ block.sharedMetadata = none)
      (fun block => block.readyEvent = none) context
      (metadataTurn locale publisherPid answers) := by
  intro index world block frame shaped accounts
  obtain ⟨eventless, nameless⟩ := shaped
  unfold metadataTurn
  split
  · exact ⟨accounts, fun _ => eventless⟩
  next blockId _ =>
  have made := createReplacing_accounts (answers index)
    (shmNameForBlock locale publisherPid blockId) accounts
  simp only
  split
  · exact ⟨accounts, fun _ => eventless⟩
  split
  · next failed =>
    rw [failed] at made
    exact ⟨made, fun _ => eventless⟩
  · next created =>
    rw [Bool.not_eq_false] at created
    rw [created] at made
    refine ⟨made.permute ?_, fun _ => eventless⟩
    simp only [Block.held, eventless, nameless, leftover, Option.toList_some, Option.toList_none,
      List.map_cons, List.map_nil, List.flatMap_nil, List.nil_append, List.append_nil,
      List.append_assoc, if_true, List.singleton_append]
    exact List.perm_middle

/-- A loop which cannot fail keeps the accounts, and every block has had its turn. -/
theorem sweep_accounts {before after : Block → Prop} {turn : Nat → World → Block → Turn Empty}
    (keeps : Keeps nothing before after context turn) (index : Nat) {blocks : List Block}
    (shaped : ∀ block ∈ blocks, before block)
    (accounts : Accounts world (blocks.flatMap Block.held ++ context)) :
    let pass := forBlocks turn index world blocks
    Accounts pass.world (pass.blocks.flatMap Block.held ++ context) ∧
      ∀ block ∈ pass.blocks, after block := by
  obtain ⟨passed, shapes⟩ := forBlocks_accounts keeps index shaped accounts
  have finished : (forBlocks turn index world blocks).failure = none := by
    cases failed : (forBlocks turn index world blocks).failure with
    | none => rfl
    | some failure => exact failure.elim
  rw [finished] at passed
  exact ⟨passed, shapes (by simp [finished])⟩

/-- Allocating the memory of all blocks keeps the accounts; at a failure every block's state and
the unfinished one have been given back.

Proof: the inner rollback clears the blocks while the state is still there. -/
theorem allocateVmmFdMemory_accounts (answers : MemoryAnswers) (byteSize : UInt64)
    {blocks : List Block} (eventless : ∀ block ∈ blocks, block.readyEvent = none)
    (accounts : Accounts world (blocks.flatMap Block.held ++ context)) :
    let attempt := allocateVmmFdMemory answers byteSize world blocks
    Accounts attempt.world (attempt.value.flatMap Block.held ++ context) ∧
      (attempt.succeeded = true → ∀ block ∈ attempt.value, block.readyEvent = none) := by
  unfold allocateVmmFdMemory
  simp only
  split
  · exact ⟨accounts, fun _ => eventless⟩
  split
  · exact ⟨accounts, fun _ => eventless⟩
  next granularity _ =>
  obtain ⟨passed, shapes⟩ := forBlocks_accounts
    (vmmTurn_keeps answers.blocks (alignUp byteSize granularity)) 0 eventless accounts
  split
  · next finished =>
    rw [finished] at passed shapes
    exact ⟨passed, fun _ => shapes rfl⟩
  · next state failed =>
    rw [failed] at passed
    simp only [leftover, Option.toList_some, List.flatMap_singleton] at passed
    refine ⟨?_, by simp⟩
    obtain ⟨cleared, -⟩ := sweep_accounts (destroyVmmTurn_keeps fun _ => True) 0 (by simp) passed
    exact VmmFdBlockState.destruct_accounts (cleared.permute (List.perm_append_comm_assoc ..))

namespace Pool

variable {pool : Pool} {answers : Answers}

/-- A pool without blocks and context, as it was constructed; the block count and the process
stay. -/
def emptied (pool : Pool) : Pool :=
  { pool with
    blocks := [], nextBlock := 0, byteSize := 0, deviceIndex := -1, initialised := false,
    context := none }

/-- Destroying the blocks gives everything back and leaves an empty pool, as long as the cleanup
calls succeed. -/
theorem destroyBlocks_accounts {cleanup : Cleanup} (succeeds : cleanup.Succeeds)
    (accounts : Accounts world (pool.held ++ frame)) :
    Accounts (pool.destroyBlocks cleanup world).1 frame ∧
      (pool.destroyBlocks cleanup world).2 = pool.emptied := by
  have locked := succeeds.mutex
  simp only [held, List.append_assoc] at accounts
  obtain ⟨events, eventless⟩ := sweep_accounts (resetEventTurn_keeps succeeds.contexts) 0
    (by simp) accounts
  obtain ⟨memory, bare⟩ := sweep_accounts (destroyVmmTurn_keeps fun event => event = none) 0
    eventless events
  obtain ⟨names, empty⟩ := sweep_accounts unlinkTurn_keeps 0 bare memory
  simp only [destroyBlocks, locked, Bool.true_eq_false, if_false]
  rw [List.flatMap_eq_nil_iff.mpr empty, List.nil_append] at names
  exact ⟨names.dropContextHeld, rfl⟩

/-- Allocating the blocks keeps the accounts and the context, whether it succeeds or fails midway.
-/
theorem allocateBlocks_accounts (answers : Answers)
    (eventless : ∀ block ∈ pool.blocks, block.readyEvent = none)
    (accounts : Accounts world pool.held) :
    Accounts (pool.allocateBlocks answers world).world
      (pool.allocateBlocks answers world).value.held := by
  unfold allocateBlocks
  split
  · exact accounts
  next number present =>
  simp only
  split
  · exact accounts
  obtain ⟨memory, shapes⟩ := allocateVmmFdMemory_accounts answers.memory pool.byteSize eventless
    accounts
  split
  · exact memory
  · next allocated =>
    rw [Bool.not_eq_false] at allocated
    have owned : .context number ∈ pool.context.toList.map Possession.context := by
      simp [present]
    obtain ⟨events, -⟩ := forBlocks_accounts (eventTurn_keeps answers.events answers.replaced owned)
      0 (shapes allocated) memory
    rw [leftover_nothing, List.nil_append] at events
    exact events

/-- Allocating the blocks changes the blocks only, so the emptied pool is the same before and
after. -/
theorem allocateBlocks_emptied (answers : Answers) (world : World) :
    (pool.allocateBlocks answers world).value.emptied = pool.emptied := by
  unfold allocateBlocks
  split
  · rfl
  simp only
  split
  · rfl
  split
  · rfl
  · rfl

/-- The accounts are right for what an `initialise` of a pool leaves: a ready pool, behind
a failure an empty one, behind the exception one which owns what it acquired. -/
structure Settles (pool : Pool) (ended : Ended) : Prop where
  accounts : Accounts ended.world ended.pool.held
  failed : ended.result = .ok false → ended.pool = pool.emptied
  ready : ended.result = .ok true → ended.pool.initialised = true

/-- A failed `initialise` ends with nothing: its rollback gives back whatever the pool had come to
possess. -/
theorem rollBack_settles (succeeds : answers.rollback.Succeeds)
    (accounts : Accounts world pool.held) : Settles pool (pool.rollBack answers world) := by
  have whole : Accounts world (pool.held ++ []) := by rwa [List.append_nil]
  obtain ⟨released, same⟩ := destroyBlocks_accounts succeeds whole
  have emptied : (pool.rollBack answers world).pool = pool.emptied := same
  refine ⟨?_, fun _ => emptied, by simp [rollBack]⟩
  rw [emptied]
  exact released

/-- Building on no more than a context ends with a ready pool, with nothing, or with the exception
and the new context.

Proof: the new context takes the place of the one the pool may still have. -/
theorem build_settles (succeeds : answers.rollback.Succeeds) (blockless : pool.blocks = [])
    (byteSize : UInt64) (deviceIndex : Int) (accounts : Accounts world pool.held) :
    Settles pool (pool.build answers byteSize deviceIndex world) := by
  have owned : Accounts world (pool.context.toList.map .context) := by
    simpa [held, blockless] using accounts
  have replaced : Accounts (world.retain.1.dropContextHeld pool.context)
      [.context world.retain.2] := by
    refine Accounts.dropContextHeld (owned.retain.permute ?_)
    exact List.perm_append_singleton ..
  unfold build
  simp only [blockless, forBlocks]
  split
  · exact ⟨replaced, by simp, by simp⟩
  have retained : Accounts (world.retain.1.dropContextHeld pool.context)
      ((List.replicate pool.blockCount Block.empty).flatMap Block.held ++
        [.context world.retain.2]) := by
    have blank : (List.replicate pool.blockCount Block.empty).flatMap Block.held = [] := by
      refine List.flatMap_eq_nil_iff.mpr fun block member => ?_
      rw [List.eq_of_mem_replicate member]
      rfl
    rw [blank]
    exact replaced
  have fresh : ∀ block ∈ List.replicate pool.blockCount Block.empty,
      block.readyEvent = none ∧ block.sharedMetadata = none := by
    intro block member
    rw [List.eq_of_mem_replicate member]
    exact ⟨rfl, rfl⟩
  obtain ⟨named, eventless⟩ := forBlocks_accounts
    (metadataTurn_keeps answers.locale pool.publisherPid answers.metadata) 0 fresh retained
  rw [leftover_nothing, List.nil_append] at named
  have configured : Accounts _
      (pool.configure byteSize deviceIndex world.retain.2 _).held := named
  split
  · have rolled := rollBack_settles succeeds configured
    exact ⟨rolled.accounts, rolled.failed, rolled.ready⟩
  · next finished =>
    have unfailed := Option.not_isSome_iff_eq_none.mp finished
    have allocated := allocateBlocks_accounts answers (eventless (by simp [unfailed])) configured
    split
    · have rolled := rollBack_settles succeeds allocated
      exact ⟨rolled.accounts, fun ended => (rolled.failed ended).trans (allocateBlocks_emptied ..),
        rolled.ready⟩
    · exact ⟨allocated, by simp, fun _ => rfl⟩

end Pool

/-- The pool has whatever was acquired for it and not yet released, and nothing else. -/
def Owned (state : State) : Prop := Accounts state.world state.pool.held

variable {state next : State} {answers : Pool.Answers} {byteSize : UInt64}

/-- Destroying the blocks leaves an empty pool, and nothing to account for, from whatever state
the calls before have led to. -/
theorem Owned.destroyed (owned : Owned state) {cleanup : Cleanup} (succeeds : cleanup.Succeeds) :
    Accounts (state.pool.destroyBlocks cleanup state.world).1 [] ∧
      (state.pool.destroyBlocks cleanup state.world).2 = state.pool.emptied := by
  have whole : Accounts state.world (state.pool.held ++ []) := by
    rw [List.append_nil]
    exact owned
  exact Pool.destroyBlocks_accounts succeeds whole

/-- A pool which `initialise` does not destroy first although it has something: a context
and neither blocks nor a generation. The exception of `blocks_.resize` leaves one. -/
structure Pool.Stranded (pool : Pool) : Prop where
  uninitialised : pool.initialised = false
  blockless : pool.blocks = []
  retained : pool.context ≠ none

/-- What the first cleanup of an initialisation leaves: no blocks, not initialised, and a context
only where blocks could not be allocated before. -/
structure Pool.Cleared (pool : Pool) (cleared : World × Pool) : Prop where
  accounts : Accounts cleared.1 cleared.2.held
  uninitialised : cleared.2.initialised = false
  blockless : cleared.2.blocks = []
  same : cleared.2.emptied = pool.emptied
  stranded : pool.Stranded ↔ cleared.2.context ≠ none

/-- Whatever pool there was, it has no more than a context behind the first cleanup, and
it has one exactly when it was stranded. -/
theorem Owned.cleared (owned : Owned state) {cleanup : Cleanup} (succeeds : cleanup.Succeeds) :
    state.pool.Cleared (state.pool.retire cleanup state.world) := by
  unfold Pool.retire
  split
  · next busy =>
    obtain ⟨released, same⟩ := owned.destroyed succeeds
    refine ⟨by rw [same]; exact released, by rw [same]; rfl, by rw [same]; rfl,
      by rw [same]; rfl, ?_⟩
    rw [same]
    constructor
    · intro stranded
      cases busy with
      | inl initialised => exact absurd initialised (by simp [stranded.uninitialised])
      | inr blocks => exact absurd blocks (by simp [stranded.blockless])
    · exact fun absent => absurd rfl absent
  · next idle =>
    obtain ⟨uninitialised, blockless⟩ : state.pool.initialised = false ∧
        state.pool.blocks = [] := by simpa using idle
    exact ⟨owned, uninitialised, blockless, rfl, fun stranded => stranded.retained,
      fun retained => ⟨uninitialised, blockless, retained⟩⟩

/-- Every call leaves a pool which has whatever was acquired for it, also the call which throws. -/
theorem owned_step {call : Call} (owned : Owned state) (succeeds : call.CleanupSucceeds)
    (moved : step state call = some next) : Owned next := by
  cases call with
  | initialise answers byteSize deviceIndex =>
    obtain rfl := Option.some.inj moved
    have cleared := owned.cleared succeeds.1
    simp only [Pool.initialise]
    split
    · exact owned
    split
    · exact cleared.accounts
    · exact (Pool.build_settles succeeds.2 cleared.blockless byteSize deviceIndex
        cleared.accounts).accounts
  | reset cleanup =>
    obtain rfl := Option.some.inj moved
    obtain ⟨released, same⟩ := owned.destroyed succeeds
    simp only [Owned, same]
    exact released

/-- So does every run of calls, with the exception or without. By induction on the run. -/
theorem reachable_owned
    (reached : Reachable step (fun _ call => call.CleanupSucceeds) Initial state) :
    Owned state := by
  refine Reachable.invariant ?_ ?_ reached
  · rintro start ⟨blockCount, publisherPid, rfl⟩
    exact Accounts.empty
  · intro earlier later call _ owned succeeds moved
    exact owned_step owned succeeds moved

/-- The pool is not initialised and holds no blocks. Whatever was ever acquired for it has
been released once, and no name or socket path is left. -/
structure RolledBack (pool : Pool) (world : World) : Prop where
  uninitialised : pool.initialised = false
  blockless : pool.blocks = []
  resources : ∀ resource ∈ world.resources, resource.releases = 1
  contexts : ∀ context ∈ world.contexts, context.useCount = 0 ∧ context.releases = 1
  names : world.names = []
  paths : world.paths = []

/-- A pool without blocks is rolled back exactly when it has no context either. -/
theorem Accounts.rolledBack_iff {pool : Pool} (accounts : Accounts world pool.held)
    (uninitialised : pool.initialised = false) (blockless : pool.blocks = []) :
    RolledBack pool world ↔ pool.context = none := by
  have owned : Accounts world (pool.context.toList.map .context) := by
    simpa [Pool.held, blockless] using accounts
  constructor
  · intro rolled
    cases retained : pool.context with
    | none => rfl
    | some number =>
      rw [retained] at owned
      have stored : number < world.contexts.length :=
        owned.contexts.stored number (by simp [Possession.context?])
      have counted := owned.contexts.counts number _ (List.getElem?_eq_getElem stored)
      have released := rolled.contexts _ (List.getElem_mem stored)
      rw [released.1] at counted
      simp [Possession.context?] at counted
  · intro contextless
    rw [contextless] at owned
    refine ⟨uninitialised, blockless, owned.resources.released, fun context member => ?_, ?_, ?_⟩
    · obtain ⟨number, found⟩ := List.getElem?_of_mem member
      simpa using owned.contexts.counts number context found
    · exact List.eq_nil_iff_forall_not_mem.mpr fun name member => by
        simpa using owned.names name member
    · exact List.eq_nil_iff_forall_not_mem.mpr fun path member => by
        simpa using owned.paths path member

/-- What an `initialise` with valid sizes leaves where it fails. Behind the retained context
that is an empty pool. -/
structure Pool.Fails (pool : Pool) (answers : Answers) (ended : Ended) : Prop where
  accounts : Accounts ended.world ended.pool.held
  uninitialised : ended.pool.initialised = false
  blockless : ended.pool.blocks = []
  contextless : ended.pool.context = none ↔ ¬ (pool.Stranded ∧ answers.retained = false)
  emptied : answers.retained = true → ended.pool = pool.emptied

/-- Wherever it fails, the pool has nothing left, or the context with which it was stranded
and which no retained one has replaced. -/
theorem Owned.fails (owned : Owned state) (retiring : answers.retiring.Succeeds)
    (rollback : answers.rollback.Succeeds) (deviceIndex : Int)
    (valid : ¬ (state.pool.blockCount = 0 ∨ uint32Max < state.pool.blockCount ∨ byteSize = 0))
    (failed :
      (state.pool.initialise answers byteSize deviceIndex state.world).result = .ok false) :
    state.pool.Fails answers (state.pool.initialise answers byteSize deviceIndex state.world) := by
  have cleared := owned.cleared retiring
  simp only [Pool.initialise, valid, if_false] at failed ⊢
  split at failed
  · next refused =>
    simp only [refused, if_true]
    refine ⟨cleared.accounts, cleared.uninitialised, cleared.blockless, ?_, by simp [refused]⟩
    rw [cleared.stranded]
    simp [refused]
  · next retained =>
    rw [Bool.not_eq_false] at retained
    simp only [retained, Bool.true_eq_false, if_false]
    have settles := Pool.build_settles rollback cleared.blockless byteSize deviceIndex
      cleared.accounts
    have same := (settles.failed failed).trans cleared.same
    refine ⟨settles.accounts, by rw [same]; rfl, by rw [same]; rfl, ?_, fun _ => same⟩
    rw [same]
    simp [Pool.emptied, retained]

/-- Where an `initialise` with valid sizes fails, it rolls back what it acquired and leaves
nothing of the generation before, unless the pool was stranded with a context and no other
one could be retained. This is of every state in which the pool has whatever was acquired
for it. Every run of its calls leads to such a state, the ones which end with the
exception of `blocks_.resize` included.

The calls of the cleanups are assumed to succeed, the lock of the mutex and the activation
of the contexts among them. -/
theorem initialise_rollsBack_iff (state : State) :
    (Reachable step (fun _ call => call.CleanupSucceeds) Initial state → Owned state) ∧
    ∀ (answers : Pool.Answers) (byteSize : UInt64) (deviceIndex : Int),
      Owned state → 1 ≤ state.pool.blockCount → state.pool.blockCount ≤ uint32Max →
      1 ≤ byteSize → answers.retiring.Succeeds → answers.rollback.Succeeds →
      (state.pool.initialise answers byteSize deviceIndex state.world).result = .ok false →
        (RolledBack (state.pool.initialise answers byteSize deviceIndex state.world).pool
            (state.pool.initialise answers byteSize deviceIndex state.world).world ↔
          ¬ (state.pool.Stranded ∧ answers.retained = false)) := by
  refine ⟨fun reached => reachable_owned reached, ?_⟩
  intro answers byteSize deviceIndex owned positive bounded asked retiring rollback failed
  have valid : ¬ (state.pool.blockCount = 0 ∨ uint32Max < state.pool.blockCount ∨
      byteSize = 0) := by
    have sized : byteSize ≠ 0 := by
      rintro rfl
      exact absurd asked (by decide)
    simp only [sized, or_false]
    omega
  have fails := owned.fails retiring rollback deviceIndex valid failed
  exact (fails.accounts.rolledBack_iff fails.uninitialised fails.blockless).trans
    fails.contextless

/-- Cleanup calls which succeed: the mutex is locked, and every context can be activated. -/
def cleaning : Cleanup := ⟨true, fun _ => true⟩

/-- The answers for one block's memory when nothing is refused; the digit makes its socket path
its own. -/
def servedBlock (digit : Char) : VmmAnswers :=
  ⟨fun size => decide (size ≠ 0), true, true, true, true, Vector.replicate 36 digit,
    ⟨true, true, true⟩, by decide⟩

/-- Answers for two blocks, with ids from a number on, the first of whose names is stale.
Events are created for so many blocks. -/
def answering (blockId : UInt32) (events : Nat) : Pool.Answers where
  locale := ⟨',', []⟩
  retiring := cleaning
  retained := true
  clearing := fun _ => true
  resized := true
  metadata := fun index =>
    ⟨some (blockId + UInt32.ofNat index), ⟨index ≠ 0, true, true, EEXIST⟩, none,
      ⟨true, true, true, 0⟩⟩
  guarded := true
  memory := ⟨true, some 2097152, fun index => servedBlock (if index = 0 then 'a' else 'b')⟩
  events := fun index => ⟨true, index < events, some (Vector.replicate 64 0)⟩
  replaced := fun _ => true
  rollback := cleaning

/-- A constructed pool for two blocks in the process 7, in a world with nothing in it. -/
def twoBlocks : State := ⟨Pool.construct 2 7, World.empty⟩

/-- Behind a first `initialise`, which succeeds and leaves two blocks with memory, events and
names. -/
def initialisedOnce : Pool.Ended :=
  twoBlocks.pool.initialise (answering 0 2) 100 0 twoBlocks.world

/-- Behind a second one, which clears those blocks, builds two others and fails at the second
event. -/
def initialisedTwice : Pool.Ended :=
  initialisedOnce.pool.initialise (answering 2 1) 100 0 initialisedOnce.world

/-- A call on the constructed pool whose cleanups succeed leads to a state which is reachable. -/
theorem reachable_initialise (answers : Pool.Answers) (retiring : answers.retiring = cleaning)
    (rollback : answers.rollback = cleaning) :
    Reachable step (fun _ call => call.CleanupSucceeds) Initial
      ⟨(twoBlocks.pool.initialise answers 100 0 twoBlocks.world).pool,
        (twoBlocks.pool.initialise answers 100 0 twoBlocks.world).world⟩ := by
  have cleans : cleaning.Succeeds := ⟨rfl, fun _ => rfl⟩
  exact .step twoBlocks _ (.initialise answers 100 0) (.start _ ⟨2, 7, rfl⟩)
    ⟨retiring ▸ cleans, rollback ▸ cleans⟩ rfl

/-- It acquired nearly as much as the first, and nothing is left of either. -/
theorem initialise_rollsBack_secondEvent :
    initialisedOnce.world.resources.length = 14 ∧ initialisedTwice.world.resources.length = 27 ∧
      RolledBack initialisedTwice.pool initialisedTwice.world := by
  have cleans : cleaning.Succeeds := ⟨rfl, fun _ => rfl⟩
  obtain ⟨owned, rollsBack⟩ :=
    initialise_rollsBack_iff ⟨initialisedOnce.pool, initialisedOnce.world⟩
  refine ⟨by decide +kernel, by decide +kernel, ?_⟩
  refine (rollsBack (answering 2 1) 100 0
    (owned (reachable_initialise (answering 0 2) rfl rfl)) (by decide +kernel)
    (by decide +kernel) (by decide) cleans cleans (by decide +kernel)).mpr ?_
  exact fun stranded => absurd stranded.2 (by decide)

/-- Behind an `initialise` whose blocks cannot be allocated: it throws, with the context already
retained. -/
def unsized : Pool.Ended :=
  twoBlocks.pool.initialise { answering 0 2 with resized := false } 100 0 twoBlocks.world

/-- Behind a second one, which is refused the context and returns false. -/
def refusedTwice : Pool.Ended :=
  unsized.pool.initialise { answering 2 2 with retained := false } 100 0 unsized.world

/-- The context of the first call is still there when the second has failed, so a failed call need
not leave the pool with nothing. -/
theorem context_stays :
    Reachable step (fun _ call => call.CleanupSucceeds) Initial ⟨unsized.pool, unsized.world⟩ ∧
      unsized.result = .error .badAlloc ∧ refusedTwice.result = .ok false ∧
      refusedTwice.world.contexts.map SharedOwnership.ControlBlock.releases = [0] ∧
      ¬ RolledBack refusedTwice.pool refusedTwice.world := by
  refine ⟨reachable_initialise { answering 0 2 with resized := false } rfl rfl, by decide +kernel,
    by decide +kernel, by decide +kernel, fun rolled => ?_⟩
  obtain ⟨context, member, held⟩ : ∃ context ∈ refusedTwice.world.contexts,
      context.useCount = 1 := ⟨⟨1, 0⟩, by decide +kernel, rfl⟩
  have released := (rolled.contexts context member).1
  omega

end Ros2CudaIpc.PoolInitialisation
