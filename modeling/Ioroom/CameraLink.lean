import Ioroom.CameraGeometry
import Ioroom.CommandLink
import Ioroom.GestureCalls

/-!
# The link between the camera of a client and its copy on the server

A client moves its own copy of the pawn and tells the server.  The calls are unreliable, they keep
their order, and each is executed in a frame of the server and with the server's settings, which on
another platform are not the client's.  Replicated movement goes to the other players only, so
nothing ever corrects the client.
-/

namespace Ioroom

open EventSystem LocalWorld

/-- The camera call among the calls of the left button. -/
def ServerCall.camera? {F R : Type*} : ServerCall F R → Option (CameraCall R)
  | .orbitTransform newLocation newRotation => some (.orbitTransform newLocation newRotation)
  | .selectFurniture _ | .deselectFurniture | .dragFurniture _ | .rotateFurniture _ => none

theorem CallStep.filterMap_camera? {F R : Type*} {event : PawnEvent F R}
    {before after : LMBState} {calls : List (ServerCall F R)}
    (step : CallStep event before after calls)
    (apart : before = .orbiting → ∀ view, event ≠ .leftClickingHeld (some view)) :
    calls.filterMap ServerCall.camera? = [] := by
  cases step with
  | orbit view newLocation newRotation => exact absurd rfl (apart rfl view)
  | keep _ _ continues => rfl
  | nudge view _ newLocation => rfl
  | press view _ _ begun => rfl
  | begin view _ begun => rfl
  | drag view newLocation => rfl
  | rotate view newRotation => rfl
  | select spawned target => rfl
  | deselect spawned => rfl
  | finish _ _ ends => rfl

/-- A client, the server's copy of its pawn, and the camera calls in flight, oldest first.  Beside a
call stands the frame in which the client made it, which is not sent. -/
structure CameraLink (F R : Type*) [One R] where
  client : LocalWorld F R
  server : DesktopPawn F R
  calls : List (CameraCall R × CameraFrame R)

/-- What happens on the link: a camera action or any other handler of the client in a frame of its
own, replication to the client, and a call which the server executes in its frame or never gets. -/
inductive CameraEvent (F R : Type*) [One R]
  | action (deltaTime : R) (input : CameraInput R)
  | handler (deltaTime : R) (event : PawnEvent F R)
  | replicate (furniture : F → FurnitureActor R) (playerState : Option (IoroomPlayerState R))
  | execute (deltaTime : R)
  | lose (index : Nat)

namespace LocalWorld

variable {F R : Type*} [DecidableEq F] [Field R]

theorem call_pose {world : LocalWorld F R} (remote : world.hasAuthority = false)
    (serverCall : ServerCall F R) : (world.call serverCall).pawn = world.pawn := by
  rw [call_client remote]

variable [LinearOrder R] [FloorRing R] [EngineMath R]

omit [FloorRing R] in
theorem leftClicking_pose (playerController : Option (PlayerView F R)) (world : LocalWorld F R) :
    (world.leftClicking playerController).pawn.pose = world.pawn.pose := by
  cases playerController with
  | none => simp [leftClicking]
  | some view =>
      simp only [leftClicking]
      split
      · rfl
      · cases clicked : world.clickManipulator view with
        | none => rfl
        | some after =>
            rcases clickManipulator_cases clicked with ⟨selected, _, _, rfl⟩ | ⟨handle, nudged⟩
            · rw [Option.getD_some, grabRing]
              split <;> rfl
            · rw [Option.getD_some, nudge_pawn nudged]

omit [LinearOrder R] [FloorRing R] [EngineMath R] in
theorem leftClickingReleased_pose {world : LocalWorld F R} (remote : world.hasAuthority = false)
    (spawned : Bool) : (world.leftClickingReleased spawned).pawn.pose = world.pawn.pose := by
  have called := call_pose remote
  simp only [leftClickingReleased]
  split
  · simp [selectPressed, DesktopPawn.pose, called]
  · simp only [deselectOnEmpty]
    split <;> simp [DesktopPawn.pose, called]
  · rfl

omit [FloorRing R] in
theorem handleOrbit_pose {world : LocalWorld F R} (remote : world.hasAuthority = false)
    (mouse : FVector2D R) : ∃ (newLocation direction : FVector R),
      (world.handleOrbit mouse).pawn.pose = ⟨newLocation, direction.rotation⟩ ∧
        (world.handleOrbit mouse).sent =
          world.sent ++ [.orbitTransform newLocation direction.rotation] := by
  refine ⟨_, _, ?_, call_sent_client (by exact remote) _⟩
  rw [handleOrbit, call_pose (by exact remote)]
  rfl

theorem leftClickingHeld_pose {world : LocalWorld F R} (view : PlayerView F R)
    (state : world.pawn.leftClickState ≠ .orbiting) :
    (world.leftClickingHeld (some view)).pawn.pose = world.pawn.pose := by
  simp only [leftClickingHeld]
  split
  · rcases heldPressed_cases view world with same | ⟨pressed, _, _, begun⟩ | begun
    · rw [same]
    · rw [begun, beginDrag]
      split <;> rfl
    · rw [begun]
      rfl
  · rw [handleRotate_pawn]
  · rename_i orbiting
    exact absurd orbiting state
  · rcases handleDrag_cases view world with same | ⟨held, newLocation, dragOffset, holds, moved⟩
    · rw [same]
    · have pawn := move_pawn held (.dragFurniture newLocation) rfl holds
      simp only [ServerCall.move] at pawn
      simp only [moved, pawn, DesktopPawn.pose]
  · rfl

omit [LinearOrder R] [FloorRing R] [EngineMath R] in
theorem tick_pose (playerController : Option (PlayerView F R)) (world : LocalWorld F R) :
    (world.tick playerController).pawn.pose = world.pawn.pose := by
  cases playerController with
  | none => rfl
  | some view =>
      obtain ⟨hoveredFurniture, hovered⟩ := updateHover_pawn view world
      simp only [tick, updateManipulatorHover, updateCursor, hovered]
      split <;> rfl

/-- A handler leaves the camera of a client where it is and makes no camera call, or it orbits and
tells the server exactly where the camera then is. -/
inductive PoseStep (before after : LocalWorld F R) : Prop
  | kept (pose : after.pawn.pose = before.pawn.pose)
      (silent : after.sent.filterMap ServerCall.camera? = [])
  | orbited (newLocation direction : FVector R)
      (pose : after.pawn.pose = ⟨newLocation, direction.rotation⟩)
      (sent : after.sent = [.orbitTransform newLocation direction.rotation])

theorem handle_pose {world : LocalWorld F R} (remote : world.hasAuthority = false)
    (flushed : world.sent = []) (event : PawnEvent F R) : PoseStep world (world.handle event) := by
  have client : world.asClient = world := by
    rw [asClient, ← remote, ← flushed]
  have step := handle_calls event world
  rw [calls_eq, client] at step
  by_cases orbits : world.pawn.leftClickState = .orbiting ∧
      ∃ view, event = .leftClickingHeld (some view)
  · obtain ⟨state, view, rfl⟩ := orbits
    obtain ⟨newLocation, direction, pose, sent⟩ := handleOrbit_pose remote view.mousePosition
    rw [flushed, List.nil_append] at sent
    simp only [handle, leftClickingHeld, state]
    exact .orbited newLocation direction pose sent
  · rw [not_and, not_exists] at orbits
    refine .kept ?_ (step.filterMap_camera? orbits)
    cases event with
    | leftClicking playerController => exact leftClicking_pose playerController world
    | leftClickingHeld playerController =>
        cases playerController with
        | none => rfl
        | some view => exact leftClickingHeld_pose view fun state => orbits state view rfl
    | leftClickingReleased spawned => exact leftClickingReleased_pose remote spawned
    | panStarted => rfl
    | panStopped => rfl
    | cameraControlStarted playerController => cases playerController <;> rfl
    | cameraControlStopped playerController => cases playerController <;> rfl
    | tick playerController => exact tick_pose playerController world

end LocalWorld

namespace CameraLink

variable {F R : Type*} [DecidableEq F] [Field R] [LinearOrder R] [FloorRing R] [EngineMath R]

/-- The client runs the handler of a camera action. -/
def act (settings : CameraSettings R) (deltaTime : R) (input : CameraInput R)
    (link : CameraLink F R) : CameraLink F R :=
  let handled := link.client.pawn.handleCamera settings link.client.hasAuthority deltaTime input
  { link with
    client := { link.client with pawn := handled.1 }
    calls := link.calls ++ handled.2.map fun call => (call, ⟨settings, deltaTime⟩) }

/-- The camera calls which any other handler of the client makes. -/
def cameraCalls (event : PawnEvent F R) (link : CameraLink F R) : List (CameraCall R) :=
  (link.client.handle event).sent.filterMap ServerCall.camera?

/-- The client runs any other handler. -/
def handle (settings : CameraSettings R) (deltaTime : R) (event : PawnEvent F R)
    (link : CameraLink F R) : CameraLink F R :=
  { link with
    client := { link.client.handle event with sent := [] }
    calls := link.calls ++
      (link.cameraCalls event).map fun call => (call, ⟨settings, deltaTime⟩) }

/-- The server executes the oldest call in a frame of its own. -/
def execute (settings : CameraSettings R) (deltaTime : R) (link : CameraLink F R) :
    CameraLink F R :=
  match link.calls with
  | [] => link
  | (call, _) :: later =>
      { link with
        server := link.server.executeCamera settings true deltaTime call
        calls := later }

/-- A client with its camera where the server has it, and nothing in flight. -/
structure Settled (link : CameraLink F R) : Prop where
  remote : link.client.hasAuthority = false
  flushed : link.client.sent = []
  same : link.server.pose = link.client.pawn.pose
  calls : link.calls = []

/-- The runs of the link between two machines with settings of their own, in which the client's
actions and the losses are limited. -/
def runs (client server : CameraSettings R) (Allowed : CameraLink F R → CameraEvent F R → Prop) :
    EventSystem (CameraLink F R) (CameraEvent F R) where
  Start := Settled
  Enabled := Allowed
  next link
    | .action deltaTime input => link.act client deltaTime input
    | .handler deltaTime event => link.handle client deltaTime event
    | .replicate furniture playerState =>
        { link with client := { link.client with furniture, playerState } }
    | .execute deltaTime => link.execute server deltaTime
    | .lose index => { link with calls := link.calls.eraseIdx index }

/-- The poses on both machines, as a sender and a receiver of camera calls. -/
def poses (link : CameraLink F R) :
    CommandLink (CameraPose R) (CameraCall R) (CameraFrame R) where
  sender := link.client.pawn.pose
  receiver := link.server.pose
  pending := link.calls

/-- A remote client whose calls have left its machine. -/
structure Remote (link : CameraLink F R) : Prop where
  hasAuthority : link.client.hasAuthority = false
  sent : link.client.sent = []

/-- What an event does to the two poses. -/
inductive PosesStep (client server : CameraSettings R) (link : CameraLink F R) :
    CameraEvent F R → CommandLink (CameraPose R) (CameraCall R) (CameraFrame R) → Prop
  | action (deltaTime : R) (input : CameraInput R) :
      PosesStep client server link (.action deltaTime input)
        (link.poses.send CameraCall.placeIn
          (input.call client link.client.pawn.controlRotation) ⟨client, deltaTime⟩)
  | silent (deltaTime : R) (event : PawnEvent F R) (silent : link.cameraCalls event = []) :
      PosesStep client server link (.handler deltaTime event) link.poses
  | orbit (deltaTime : R) (event : PawnEvent F R) (newLocation direction : FVector R)
      (calls : link.cameraCalls event = [.orbitTransform newLocation direction.rotation]) :
      PosesStep client server link (.handler deltaTime event)
        (link.poses.send CameraCall.placeIn
          (.orbitTransform newLocation direction.rotation) ⟨client, deltaTime⟩)
  | replicate (furniture : F → FurnitureActor R) (playerState : Option (IoroomPlayerState R)) :
      PosesStep client server link (.replicate furniture playerState) link.poses
  | execute (deltaTime : R) :
      PosesStep client server link (.execute deltaTime)
        (link.poses.receive CameraCall.placeIn ⟨server, deltaTime⟩)
  | lose (index : Nat) : PosesStep client server link (.lose index) (link.poses.lose index)

/-- A client at the origin of an empty room. -/
def atOriginLink (F R : Type*) [Field R] : CameraLink F R where
  client :=
    { hasAuthority := false
      furniture := fun _ => { location := 0, rotation := ⟨0, 0, 0⟩ }
      pawn := .spawn 0
      playerState := none }
  server := .spawn 0
  calls := []

variable {client server : CameraSettings R} {link : CameraLink F R}

theorem remote_next (remote : link.Remote) (event : CameraEvent F R)
    (Allowed : CameraLink F R → CameraEvent F R → Prop) :
    ((runs client server Allowed).next link event).Remote := by
  cases event with
  | action deltaTime input => exact ⟨remote.hasAuthority, remote.sent⟩
  | handler deltaTime event =>
      exact ⟨(handle_machine event link.client).1.trans remote.hasAuthority, rfl⟩
  | replicate furniture playerState => exact ⟨remote.hasAuthority, remote.sent⟩
  | execute deltaTime =>
      simp only [runs, execute]
      split
      · exact remote
      · exact ⟨remote.hasAuthority, remote.sent⟩
  | lose index => exact ⟨remote.hasAuthority, remote.sent⟩

theorem remote_of_run {Allowed : CameraLink F R → CameraEvent F R → Prop}
    {history : List (CameraLink F R × CameraEvent F R)}
    (run : (runs client server Allowed).Run history link) : link.Remote :=
  run.invariant (fun _ settled => ⟨settled.remote, settled.flushed⟩)
    fun _ event remote _ => remote_next remote event Allowed

/-- Every event of the link is a step of a sender and a receiver of camera calls. -/
theorem poses_next (client server : CameraSettings R) (remote : link.Remote)
    (event : CameraEvent F R) (Allowed : CameraLink F R → CameraEvent F R → Prop) :
    PosesStep client server link event ((runs client server Allowed).next link event).poses := by
  cases event with
  | action deltaTime input =>
      have handled := input.handleCamera_client client deltaTime link.client.pawn
      have sends : ((runs client server Allowed).next link (.action deltaTime input)).poses =
          link.poses.send CameraCall.placeIn
            (input.call client link.client.pawn.controlRotation) ⟨client, deltaTime⟩ := by
        simp only [runs, act, remote.hasAuthority, handled, poses, CommandLink.send,
          CameraCall.executeCamera_pose, CameraCall.placeIn, List.map_cons, List.map_nil]
      rw [sends]
      exact .action deltaTime input
  | handler deltaTime event =>
      cases handle_pose remote.hasAuthority remote.sent event with
      | kept pose silent =>
          have same : ((runs client server Allowed).next link (.handler deltaTime event)).poses =
              link.poses := by
            simp [runs, handle, cameraCalls, poses, pose, silent]
          rw [same]
          exact .silent deltaTime event silent
      | orbited newLocation direction pose sent =>
          have sends : ((runs client server Allowed).next link (.handler deltaTime event)).poses =
              link.poses.send CameraCall.placeIn
                (.orbitTransform newLocation direction.rotation) ⟨client, deltaTime⟩ := by
            simp [runs, handle, cameraCalls, poses, pose, sent, CommandLink.send,
              ServerCall.camera?, CameraCall.placeIn, CameraCall.place, CameraCall.location?,
              CameraCall.rotation?]
          rw [sends]
          exact .orbit deltaTime event newLocation direction (by
            simp [cameraCalls, sent, ServerCall.camera?])
  | replicate furniture playerState => exact .replicate furniture playerState
  | execute deltaTime =>
      have receives : ((runs client server Allowed).next link (.execute deltaTime)).poses =
          link.poses.receive CameraCall.placeIn ⟨server, deltaTime⟩ := by
        cases head : link.calls with
        | nil => simp [runs, execute, poses, CommandLink.receive, head]
        | cons oldest later =>
            simp [runs, execute, poses, CommandLink.receive, head, CameraCall.executeCamera_pose,
              CameraCall.placeIn]
      rw [receives]
      exact .execute deltaTime
  | lose index => exact .lose index

end CameraLink

end Ioroom
