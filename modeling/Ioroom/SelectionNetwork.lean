import Ioroom.HandlerEffects
import Ioroom.SelectionLock

/-!
# Clients, server and the calls in flight

Every remote player has its own copy of the furniture and of its pawn, and two channels to the
server: the selection calls are reliable and arrive in order, the transform calls may be lost and
may overtake anything.  Each transform call in flight remembers the furniture its sender had
selected.
-/

namespace Ioroom

open LocalWorld

/-- The selection a call asks for. -/
def ServerCall.requested {F R : Type*} : ServerCall F R → Option F
  | .selectFurniture furniture => furniture
  | .deselectFurniture => none
  | .dragFurniture _ => none
  | .rotateFurniture _ => none
  | .orbitTransform _ _ => none

/-- A selection call of `LeftClickingReleased`. -/
inductive ServerCall.IsClick {F R : Type*} : ServerCall F R → Prop
  | select (furniture : F) : IsClick (.selectFurniture (some furniture))
  | deselect : IsClick .deselectFurniture

/-- The server, the remote clients and the calls in flight between them, oldest first. -/
structure SelectionNetwork (P F R : Type*) [One R] where
  server : ServerWorld P F R
  clients : P → LocalWorld F R
  selectionCalls : P → List (ServerCall F R)
  transformCalls : P → List (Option F × ServerCall F R)

namespace SelectionNetwork

variable {P F R : Type*} [DecidableEq P] [DecidableEq F] [Field R]

inductive Event (P F R : Type*) [One R]
  | input (sender : P) (event : PawnEvent F R)
  | deliverSelection (sender : P)
  | deliverTransform (sender : P) (index : Nat)
  | loseTransform (sender : P) (index : Nat)
  | replicate (receiver : P) (furniture : F → FurnitureActor R)
      (playerState : Option (IoroomPlayerState R))

/-- The server executes the oldest selection call of a client. -/
def deliverSelection (sender : P) (network : SelectionNetwork P F R) : SelectionNetwork P F R :=
  match network.selectionCalls sender with
  | [] => network
  | serverCall :: later =>
      { network with
        server := network.server.execute sender serverCall
        selectionCalls := Function.update network.selectionCalls sender later }

/-- A transform call of a client is lost. -/
def loseTransform (sender : P) (index : Nat) (network : SelectionNetwork P F R) :
    SelectionNetwork P F R :=
  { network with
    transformCalls := Function.update network.transformCalls sender
      ((network.transformCalls sender).eraseIdx index) }

/-- The server executes some transform call of a client. -/
def deliverTransform (sender : P) (index : Nat) (network : SelectionNetwork P F R) :
    SelectionNetwork P F R :=
  match (network.transformCalls sender)[index]? with
  | none => network
  | some transform =>
      { network.loseTransform sender index with
        server := network.server.execute sender transform.2 }

/-- A client receives copies of furniture and of its player state. -/
def replicate (receiver : P) (furniture : F → FurnitureActor R)
    (playerState : Option (IoroomPlayerState R)) (network : SelectionNetwork P F R) :
    SelectionNetwork P F R :=
  { network with
    clients := Function.update network.clients receiver
      { network.clients receiver with furniture, playerState } }

section Input

variable [LinearOrder R] [FloorRing R] [EngineMath R]

/-- A client handles an input and sends the calls the handler made. -/
def input (sender : P) (event : PawnEvent F R) (network : SelectionNetwork P F R) :
    SelectionNetwork P F R :=
  let client := network.clients sender
  let after := client.handle event
  { network with
    clients := Function.update network.clients sender { after with sent := [] }
    selectionCalls := Function.update network.selectionCalls sender
      (network.selectionCalls sender ++ after.sent.filter (·.isReliable))
    transformCalls := Function.update network.transformCalls sender
      (network.transformCalls sender ++
        (after.sent.filter (!·.isReliable)).map (client.pawn.selectedFurniture, ·)) }

/-- The network of a fixed set of remote players, all connected and holding nothing. -/
def system : EventSystem (SelectionNetwork P F R) (Event P F R) where
  Start network :=
    (∀ player, (network.server.players player).isSome = true ∧
      network.server.selected player = none ∧
      (network.clients player).hasAuthority = false ∧
      (network.clients player).sent = [] ∧
      (network.clients player).pawn.selectedFurniture = none ∧
      (network.clients player).pawn.activeManipulator = none ∧
      network.selectionCalls player = [] ∧ network.transformCalls player = []) ∧
    ∀ furniture, network.server.lock furniture = 0
  Enabled network
    | .input _ _ => True
    | .deliverSelection sender => network.selectionCalls sender ≠ []
    | .deliverTransform sender index => index < (network.transformCalls sender).length
    | .loseTransform sender index => index < (network.transformCalls sender).length
    | .replicate _ _ _ => True
  next network
    | .input sender event => network.input sender event
    | .deliverSelection sender => network.deliverSelection sender
    | .deliverTransform sender index => network.deliverTransform sender index
    | .loseTransform sender index => network.loseTransform sender index
    | .replicate receiver furniture playerState =>
        network.replicate receiver furniture playerState

end Input

/-- Between two events a client has no authority and no unsent call, and its manipulator is on its
selection. -/
structure IsRemote (client : LocalWorld F R) : Prop where
  remote : client.hasAuthority = false
  flushed : client.sent = []
  manipulates : client.ManipulatesSelection

/-- The transform calls in flight are unreliable, and drag and rotate calls were sent with a
furniture selected. -/
def Tagged (transforms : List (Option F × ServerCall F R)) : Prop :=
  ∀ transform ∈ transforms, transform.2.isReliable = false ∧
    (transform.2.isTransform = true → transform.1.isSome = true)

/-- What holds between any two events. -/
structure Connected (network : SelectionNetwork P F R) : Prop where
  live : ∀ player, (network.server.players player).isSome = true
  clients : ∀ player, IsRemote (network.clients player)
  clicks : ∀ player, ∀ serverCall ∈ network.selectionCalls player, serverCall.IsClick
  transforms : ∀ player, Tagged (network.transformCalls player)

section Steps

variable [LinearOrder R] [FloorRing R] [EngineMath R] {network : SelectionNetwork P F R}

/-- What a handler of a remote client sends: nothing, one transform call, or one selection call
which asks for the selection the handler has made. -/
inductive Sends (world after : LocalWorld F R) : Prop
  | nothing
      (selected : after.pawn.selectedFurniture = world.pawn.selectedFurniture)
      (sent : after.sent = [])
  | transform (serverCall : ServerCall F R)
      (unreliable : serverCall.isReliable = false)
      (holds : serverCall.isTransform = true → world.pawn.selectedFurniture.isSome = true)
      (selected : after.pawn.selectedFurniture = world.pawn.selectedFurniture)
      (sent : after.sent = [serverCall])
  | click (serverCall : ServerCall F R)
      (clicked : serverCall.IsClick)
      (selected : after.pawn.selectedFurniture = serverCall.requested)
      (sent : after.sent = [serverCall])

theorem IsRemote.handle_sends {world : LocalWorld F R} (client : IsRemote world)
    (event : PawnEvent F R) : Sends world (world.handle event) := by
  have sends : ∀ serverCall : ServerCall F R, world.sentAfter serverCall = [serverCall] := by
    intro serverCall
    simp [sentAfter, client.remote, client.flushed]
  cases handle_effect event world with
  | gesture effect =>
      cases effect with
      | kept same => exact .nothing same.selected (same.sent.trans client.flushed)
      | moved serverCall unreliable holds frame selected furniture sent =>
          exact .transform serverCall unreliable holds selected (sent.trans (sends serverCall))
  | selecting spawned pressed released state press selected furniture sent =>
      exact .click _ (.select pressed) selected (sent.trans (sends _))
  | deselecting spawned held released state press holds selected furniture sent =>
      exact .click _ .deselect selected (sent.trans (sends _))

theorem IsRemote.handle_tagged {world : LocalWorld F R} (client : IsRemote world)
    (event : PawnEvent F R) (serverCall : ServerCall F R)
    (member : serverCall ∈ (world.handle event).sent)
    (unreliable : (!serverCall.isReliable) = true) :
    serverCall.isReliable = false ∧
      (serverCall.isTransform = true → world.pawn.selectedFurniture.isSome = true) := by
  refine ⟨by simpa using unreliable, ?_⟩
  cases client.handle_sends event with
  | nothing selected sent => simp [sent] at member
  | transform sentCall _ holds selected sent =>
      rw [sent, List.mem_singleton] at member
      rwa [member]
  | click sentCall clicked selected sent =>
      rw [sent, List.mem_singleton] at member
      rw [member]
      cases clicked <;> simp [ServerCall.isTransform]

/-- What an input does to the client and to its channel of selection calls. -/
inductive Clicks (sender : P) (network after : SelectionNetwork P F R) : Prop
  | kept
      (selected : (after.clients sender).pawn.selectedFurniture =
        (network.clients sender).pawn.selectedFurniture)
      (calls : after.selectionCalls sender = network.selectionCalls sender)
  | click (serverCall : ServerCall F R)
      (clicked : serverCall.IsClick)
      (selected : (after.clients sender).pawn.selectedFurniture = serverCall.requested)
      (calls : after.selectionCalls sender = network.selectionCalls sender ++ [serverCall])

theorem Connected.input_clicks (connected : Connected network) (sender : P)
    (event : PawnEvent F R) : Clicks sender network (network.input sender event) := by
  have client : ((network.input sender event).clients sender).pawn =
      ((network.clients sender).handle event).pawn := by
    simp [SelectionNetwork.input]
  have calls : (network.input sender event).selectionCalls sender =
      network.selectionCalls sender ++
        ((network.clients sender).handle event).sent.filter (·.isReliable) := by
    simp [SelectionNetwork.input]
  cases (connected.clients sender).handle_sends event with
  | nothing selected sent =>
      refine .kept (by rw [client, selected]) ?_
      simp [calls, sent]
  | transform serverCall unreliable holds selected sent =>
      refine .kept (by rw [client, selected]) ?_
      simp [calls, sent, unreliable]
  | click serverCall clicked selected sent =>
      refine .click serverCall clicked (by rw [client, selected]) ?_
      have reliable : serverCall.isReliable = true := by cases clicked <;> rfl
      simp [calls, sent, reliable]

theorem Connected.input (connected : Connected network) (sender : P) (event : PawnEvent F R) :
    Connected (network.input sender event) := by
  have clicks := connected.input_clicks sender event
  constructor
  · exact connected.live
  · refine (Function.forall_update_iff _ fun _ (client : LocalWorld F R) => IsRemote client).mpr ?_
    obtain ⟨remote, _, manipulates⟩ := connected.clients sender
    exact ⟨⟨(handle_machine event _).1.trans remote, rfl, handle_manipulates event manipulates⟩,
      fun other _ => connected.clients other⟩
  · intro player serverCall member
    rcases eq_or_ne player sender with rfl | other
    · cases clicks with
      | kept selected calls =>
          rw [calls] at member
          exact connected.clicks player serverCall member
      | click clickCall clicked selected calls =>
          rw [calls] at member
          rcases List.mem_append.mp member with older | newest
          · exact connected.clicks player serverCall older
          · rw [List.mem_singleton.mp newest]
            exact clicked
    · simp only [SelectionNetwork.input, Function.update_of_ne other] at member
      exact connected.clicks player serverCall member
  · intro player transform member
    rcases eq_or_ne player sender with rfl | other
    · simp only [SelectionNetwork.input, Function.update_self, List.mem_append, List.mem_map,
        List.mem_filter] at member
      rcases member with older | ⟨serverCall, ⟨member, unreliable⟩, rfl⟩
      · exact connected.transforms player transform older
      · exact (connected.clients player).handle_tagged event serverCall member unreliable
    · simp only [SelectionNetwork.input, Function.update_of_ne other] at member
      exact connected.transforms player transform member

omit [DecidableEq P] [DecidableEq F] [LinearOrder R] [FloorRing R] [EngineMath R] in
/-- The oldest selection call in flight is one of `LeftClickingReleased`. -/
theorem Connected.head_click (connected : Connected network) {sender : P}
    (pending : network.selectionCalls sender ≠ []) :
    ∃ serverCall later, network.selectionCalls sender = serverCall :: later ∧
      serverCall.IsClick := by
  obtain ⟨serverCall, later, calls⟩ := List.exists_cons_of_ne_nil pending
  refine ⟨serverCall, later, calls, connected.clicks sender serverCall ?_⟩
  rw [calls]
  exact List.mem_cons_self

omit [LinearOrder R] [FloorRing R] [EngineMath R] in
theorem Connected.deliverSelection (connected : Connected network) (sender : P) :
    Connected (network.deliverSelection sender) := by
  rw [SelectionNetwork.deliverSelection]
  split
  · exact connected
  · rename_i serverCall later calls
    refine ⟨?_, connected.clients, ?_, connected.transforms⟩
    · intro player
      rw [ServerWorld.isSome_execute]
      exact connected.live player
    · refine (Function.forall_update_iff _
        fun _ (calls : List (ServerCall F R)) => ∀ serverCall ∈ calls, serverCall.IsClick).mpr ?_
      refine ⟨fun other member => connected.clicks sender other ?_,
        fun other _ => connected.clicks other⟩
      rw [calls]
      exact List.mem_cons_of_mem serverCall member

omit [DecidableEq F] [LinearOrder R] [FloorRing R] [EngineMath R] in
theorem Connected.loseTransform (connected : Connected network) (sender : P) (index : Nat) :
    Connected (network.loseTransform sender index) := by
  refine ⟨connected.live, connected.clients, connected.clicks, ?_⟩
  refine (Function.forall_update_iff _
    fun _ (transforms : List (Option F × ServerCall F R)) => Tagged transforms).mpr ?_
  refine ⟨fun transform member => connected.transforms sender transform ?_,
    fun other _ => connected.transforms other⟩
  exact List.mem_of_mem_eraseIdx member

omit [LinearOrder R] [FloorRing R] [EngineMath R] in
theorem Connected.deliverTransform (connected : Connected network) (sender : P) (index : Nat) :
    Connected (network.deliverTransform sender index) := by
  rw [SelectionNetwork.deliverTransform]
  split
  · exact connected
  · have lost := connected.loseTransform sender index
    refine ⟨?_, lost.clients, lost.clicks, lost.transforms⟩
    intro player
    rw [ServerWorld.isSome_execute]
    exact connected.live player

omit [DecidableEq F] [LinearOrder R] [FloorRing R] [EngineMath R] in
theorem Connected.replicate (connected : Connected network) (receiver : P)
    (furniture : F → FurnitureActor R) (playerState : Option (IoroomPlayerState R)) :
    Connected (network.replicate receiver furniture playerState) := by
  refine ⟨connected.live, ?_, connected.clicks, connected.transforms⟩
  refine (Function.forall_update_iff _ fun _ (client : LocalWorld F R) => IsRemote client).mpr ?_
  obtain ⟨remote, flushed, manipulates⟩ := connected.clients receiver
  exact ⟨⟨remote, flushed, manipulates⟩, fun other _ => connected.clients other⟩

theorem connected_of_run {history : List (SelectionNetwork P F R × Event P F R)}
    (run : system.Run history network) : Connected network := by
  refine run.invariant ?_ ?_
  · rintro initial ⟨idle, _⟩
    constructor
    · exact fun player => (idle player).1
    · intro player
      obtain ⟨_, _, remote, flushed, _, unmanipulated, _⟩ := idle player
      exact ⟨remote, flushed, by simp [ManipulatesSelection, attachment, unmanipulated]⟩
    · intro player
      obtain ⟨_, _, _, _, _, _, noCalls, _⟩ := idle player
      simp [noCalls]
    · intro player
      obtain ⟨_, _, _, _, _, _, _, noTransforms⟩ := idle player
      simp [Tagged, noTransforms]
  · intro before event connected enabled
    cases event with
    | input sender event => exact connected.input sender event
    | deliverSelection sender => exact connected.deliverSelection sender
    | deliverTransform sender index => exact connected.deliverTransform sender index
    | loseTransform sender index => exact connected.loseTransform sender index
    | replicate receiver furniture playerState =>
        exact connected.replicate receiver furniture playerState

end Steps

section Fresh

local instance networkMath : EngineMath ℚ := quarterTurnMath

/-- Player `n` has slot `n + 1`; every furniture is unlocked at the origin. -/
def fresh : SelectionNetwork Nat Nat ℚ where
  server :=
    { gameState := .create
      furniture := fun _ => { location := 0, rotation := ⟨0, 0, 0⟩ }
      players := fun player =>
        some { playerState := { stencilSlot := player + 1 }, pawn := .spawn 0 } }
  clients _ :=
    { hasAuthority := false
      furniture := fun _ => { location := 0, rotation := ⟨0, 0, 0⟩ }
      pawn := .spawn 0
      playerState := none }
  selectionCalls _ := []
  transformCalls _ := []

theorem run_fresh : system.Run [] fresh :=
  .start ⟨fun _ => ⟨rfl, rfl, rfl, rfl, rfl, rfl, rfl, rfl⟩, fun _ => rfl⟩

end Fresh

end SelectionNetwork

end Ioroom
