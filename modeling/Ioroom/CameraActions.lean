import Ioroom.CameraLink

/-!
# What a sequence of camera actions adds up to

The rotation of a camera depends on the looks alone, and every other action moves it by an offset
along that rotation.  On a listen host the call of an action moves the pawn once more; on a server
with frames of another length the moves and pans grow or shrink in proportion; zooming and panning
do not disturb each other.
-/

namespace Ioroom

open EventSystem CommandLink

namespace DesktopPawn

variable {F R : Type*} [Field R] [LinearOrder R] [EngineMath R]

/-- The pawn after a sequence of camera actions, each in a frame of its own. -/
def handleCameras (settings : CameraSettings R) (hasAuthority : Bool)
    (inputs : List (R × CameraInput R)) (pawn : DesktopPawn F R) : DesktopPawn F R :=
  inputs.foldl
    (fun pawn input => (pawn.handleCamera settings hasAuthority input.1 input.2).1) pawn

variable (settings : CameraSettings R)

theorem place_call (input : CameraInput R) (deltaTime : R) (pose : CameraPose R) :
    (input.call settings pose.controlRotation).place settings deltaTime pose =
      { location := pose.location +
          (input.call settings pose.controlRotation).offset settings deltaTime pose.controlRotation
        controlRotation := (input.call settings pose.controlRotation).rotation?.getD
          pose.controlRotation } := by
  cases input <;> rfl

theorem place_call_twice (input : CameraInput R) (deltaTime : R) (pose : CameraPose R) :
    (input.call settings pose.controlRotation).place settings deltaTime
        ((input.call settings pose.controlRotation).place settings deltaTime pose) =
      { location := pose.location +
          (input.call settings pose.controlRotation).offset settings deltaTime
            pose.controlRotation +
          (input.call settings pose.controlRotation).offset settings deltaTime
            pose.controlRotation
        controlRotation := (input.call settings pose.controlRotation).rotation?.getD
          pose.controlRotation } := by
  cases input <;> rfl

theorem handleCameras_cons (hasAuthority : Bool) (input : R × CameraInput R)
    (inputs : List (R × CameraInput R)) (pawn : DesktopPawn F R) :
    pawn.handleCameras settings hasAuthority (input :: inputs) =
      (pawn.handleCamera settings hasAuthority input.1 input.2).1.handleCameras settings
        hasAuthority inputs := rfl

theorem handleCamera_client_pose (input : CameraInput R) (deltaTime : R)
    (pawn : DesktopPawn F R) :
    (pawn.handleCamera settings false deltaTime input).1.pose =
      (input.call settings pawn.controlRotation).place settings deltaTime pawn.pose := by
  rw [input.handleCamera_client, CameraCall.executeCamera_pose]

theorem handleCamera_host_pose (input : CameraInput R) (deltaTime : R) (pawn : DesktopPawn F R) :
    (pawn.handleCamera settings true deltaTime input).1.pose =
      (input.call settings pawn.controlRotation).place settings deltaTime
        ((input.call settings pawn.controlRotation).place settings deltaTime pawn.pose) := by
  rw [input.handleCamera_authority, CameraCall.executeCamera_pose, CameraCall.executeCamera_pose]

/-- From equal rotations, with the host already twice as far: one action keeps it so. -/
theorem handleCameras_host {host client : DesktopPawn F R} {start : FVector R}
    (rotation : host.controlRotation = client.controlRotation)
    (twice : host.location - start = (client.location - start) + (client.location - start))
    (inputs : List (R × CameraInput R)) :
    (host.handleCameras settings true inputs).controlRotation =
        (client.handleCameras settings false inputs).controlRotation ∧
      (host.handleCameras settings true inputs).location - start =
        ((client.handleCameras settings false inputs).location - start) +
          ((client.handleCameras settings false inputs).location - start) := by
  induction inputs generalizing host client with
  | nil => exact ⟨rotation, twice⟩
  | cons input inputs induction =>
      have hostPose := handleCamera_host_pose settings input.2 input.1 host
      have clientPose := handleCamera_client_pose settings input.2 input.1 client
      have call : ∀ pawn : DesktopPawn F R, pawn.controlRotation = pawn.pose.controlRotation :=
        fun _ => rfl
      rw [call host, place_call_twice] at hostPose
      rw [call client, place_call] at clientPose
      obtain ⟨hostLocation, hostRotation⟩ := CameraPose.mk.inj hostPose
      obtain ⟨clientLocation, clientRotation⟩ := CameraPose.mk.inj clientPose
      rw [← call] at hostLocation hostRotation clientLocation clientRotation
      refine induction ?_ ?_
      · rw [hostRotation, clientRotation, rotation]
      · rw [hostLocation, clientLocation, rotation]
        have far : host.pose.location =
            start + ((client.pose.location - start) + (client.pose.location - start)) := by
          rw [add_comm]
          exact sub_eq_iff_eq_add.mp twice
        rw [far]
        abel

/-- On a listen host every sequence of camera actions moves the pawn exactly twice as far as on a
client, while it looks the same way: the host executes its own calls on the pawn it has just
moved. -/
theorem host_moves_twice (settings : CameraSettings R) (inputs : List (R × CameraInput R))
    (pawn : DesktopPawn F R) :
    let host := pawn.handleCameras settings true inputs
    let client := pawn.handleCameras settings false inputs
    host.controlRotation = client.controlRotation ∧
      host.location - pawn.location =
        (client.location - pawn.location) + (client.location - pawn.location) := by
  refine handleCameras_host settings rfl ?_ inputs
  rw [sub_self, add_zero]

end DesktopPawn

namespace CameraInput

def IsLook {R : Type*} : CameraInput R → Prop
  | .lookAround _ => True
  | .movement _ | .zooming _ | .panning _ => False

def isPan {R : Type*} : CameraInput R → Bool
  | .panning _ => true
  | .movement _ | .lookAround _ | .zooming _ => false

end CameraInput

section Still

variable {R : Type*} [Field R] [LinearOrder R] [EngineMath R]

/-- How far a sequence of camera actions without looks moves a pawn which looks in a direction. -/
def travel (settings : CameraSettings R) (inputs : List (R × CameraInput R))
    (rotation : FRotator R) : FVector R :=
  (inputs.map fun input => (input.2.call settings rotation).offset settings input.1 rotation).sum

variable {F : Type*} {settings : CameraSettings R} {inputs : List (R × CameraInput R)}

theorem travel_cons (input : R × CameraInput R) (rotation : FRotator R) :
    travel settings (input :: inputs) rotation =
      (input.2.call settings rotation).offset settings input.1 rotation +
        travel settings inputs rotation := by
  simp [travel]

theorem handleCameras_still (settings : CameraSettings R)
    (still : ∀ input ∈ inputs, ¬input.2.IsLook)
    (pawn : DesktopPawn F R) :
    (pawn.handleCameras settings false inputs).pose =
      { location := pawn.location + travel settings inputs pawn.controlRotation
        controlRotation := pawn.controlRotation } := by
  induction inputs generalizing pawn with
  | nil => simp [DesktopPawn.handleCameras, travel, DesktopPawn.pose]
  | cons input inputs induction =>
      obtain ⟨first, others⟩ := List.forall_mem_cons.mp still
      have pose := DesktopPawn.handleCamera_client_pose settings input.2 input.1 pawn
      have same : (input.2.call settings pawn.controlRotation).rotation? = none := by
        cases action : input.2 with
        | lookAround axisValue =>
            rw [action] at first
            exact absurd trivial first
        | movement axisValue => rfl
        | zooming value => rfl
        | panning axisValue => rfl
      have turned : pawn.pose.controlRotation = pawn.controlRotation := rfl
      rw [← turned, DesktopPawn.place_call, turned, same] at pose
      obtain ⟨location, rotation⟩ := CameraPose.mk.inj pose
      rw [DesktopPawn.handleCameras_cons, induction others, location, rotation, travel_cons,
        Option.getD_none, add_assoc]
      rfl

theorem travel_filter (rotation : FRotator R) :
    travel settings inputs rotation =
      travel settings (inputs.filter (·.2.isPan)) rotation +
        travel settings (inputs.filter (!·.2.isPan)) rotation := by
  induction inputs with
  | nil => simp [travel]
  | cons input inputs induction =>
      rw [travel_cons, induction]
      cases pan : input.2.isPan with
      | true =>
          simp only [List.filter_cons, pan, if_true, Bool.not_true, Bool.false_eq_true, if_false,
            travel_cons]
          abel
      | false =>
          simp only [List.filter_cons, pan, if_true, Bool.not_false, Bool.false_eq_true, if_false,
            travel_cons]
          abel

end Still

section Axes

open FVector

variable {settings : CameraSettings ℝ} {inputs : List (ℝ × CameraInput ℝ)}

/-- A clamped combination of two axes has nothing along an axis perpendicular to both. -/
theorem dot_scaled {axis first second : FVector ℝ} (perpendicular : dot axis first = 0)
    (other : dot axis second = 0) (x y s t : ℝ) :
    dot axis (s • t • (x • first + y • second).getClampedToMaxSize 1) = 0 := by
  obtain ⟨scale, clamped⟩ := exists_clamped (x • first + y • second) 1
  rw [clamped, dot_smul_right, dot_smul_right, dot_smul_right, dot_add_right, dot_smul_right,
    dot_smul_right, perpendicular, other]
  ring

theorem dot_travel {axis : FVector ℝ} {rotation : FRotator ℝ}
    (none : ∀ input ∈ inputs,
      dot axis ((input.2.call settings rotation).offset settings input.1 rotation) = 0) :
    dot axis (travel settings inputs rotation) = 0 := by
  induction inputs with
  | nil => simp [travel, dot]
  | cons input inputs induction =>
      obtain ⟨first, others⟩ := List.forall_mem_cons.mp none
      rw [travel_cons, dot_add_right, first, induction others, add_zero]

theorem dot_vector_pan (rotation : FRotator ℝ) {input : CameraInput ℝ} (pan : input.isPan = true)
    (deltaTime : ℝ) :
    dot rotation.vector ((input.call settings rotation).offset settings deltaTime rotation) =
      0 := by
  cases input with
  | panning axisValue =>
      exact dot_scaled rotation.dot_vector_right rotation.dot_vector_up _ _ _ _
  | movement axisValue => simp [CameraInput.isPan] at pan
  | lookAround axisValue => simp [CameraInput.isPan] at pan
  | zooming value => simp [CameraInput.isPan] at pan

theorem dot_up_other (rotation : FRotator ℝ) {input : CameraInput ℝ} (other : input.isPan = false)
    (deltaTime : ℝ) :
    dot rotation.upVector ((input.call settings rotation).offset settings deltaTime rotation) =
      0 := by
  have upVector : dot rotation.upVector rotation.vector = 0 := by
    rw [dot_comm, rotation.dot_vector_up]
  have upRight : dot rotation.upVector rotation.rightVector = 0 := by
    rw [dot_comm, rotation.dot_right_up]
  cases input with
  | panning axisValue => simp [CameraInput.isPan] at other
  | movement axisValue => exact dot_scaled upVector upRight _ _ _ _
  | lookAround axisValue => simp [CameraInput.call, CameraCall.offset, dot]
  | zooming value =>
      rw [CameraInput.call, CameraCall.offset, DesktopPawn.zoomOffset, dot_smul_right,
        dot_smul_right, upVector, mul_zero, mul_zero]

/-- Without looks, pans on the one hand and moves and zooms on the other do not disturb each other:
whatever their order, a sequence leads to the sum of what both lead to alone.  Pans keep the depth
of the camera, moves and zooms its height along its own up axis. -/
theorem pans_apart {F : Type*} (still : ∀ input ∈ inputs, ¬input.2.IsLook)
    (pawn : DesktopPawn F ℝ) :
    let after := pawn.handleCameras settings false inputs
    let panned := pawn.handleCameras settings false (inputs.filter (·.2.isPan))
    let flown := pawn.handleCameras settings false (inputs.filter (!·.2.isPan))
    after.controlRotation = pawn.controlRotation ∧
      after.location - pawn.location =
        (panned.location - pawn.location) + (flown.location - pawn.location) ∧
      dot pawn.controlRotation.vector (panned.location - pawn.location) = 0 ∧
      dot pawn.controlRotation.upVector (flown.location - pawn.location) = 0 := by
  intro after panned flown
  have sub : ∀ filtered : List (ℝ × CameraInput ℝ), filtered ⊆ inputs →
      (pawn.handleCameras settings false filtered).location - pawn.location =
        travel settings filtered pawn.controlRotation := by
    intro filtered subset
    have pose := handleCameras_still settings
      (fun input member => still input (subset member)) pawn
    have location : (pawn.handleCameras settings false filtered).location = _ :=
      congrArg CameraPose.location pose
    rw [location, add_sub_cancel_left]
  refine ⟨?_, ?_, ?_, ?_⟩
  · exact congrArg CameraPose.controlRotation (handleCameras_still settings still pawn)
  · rw [sub inputs (List.Subset.refl _), sub _ (List.filter_subset_self _),
      sub _ (List.filter_subset_self _)]
    exact travel_filter _
  · rw [sub _ (List.filter_subset_self _)]
    refine dot_travel fun input member => dot_vector_pan _ ?_ _
    simpa using (List.mem_filter.mp member).2
  · rw [sub _ (List.filter_subset_self _)]
    refine dot_travel fun input member => dot_up_other _ ?_ _
    simpa using (List.mem_filter.mp member).2

/-- A zoom between two pans. -/
noncomputable def panZoomPan : List (ℝ × CameraInput ℝ) :=
  [(1, .panning ⟨1, 0⟩), (1, .zooming 3), (1, .panning ⟨0, 1⟩)]

/-- The two pans alone keep the depth. -/
theorem pans_apart_zoom :
    let pawn : DesktopPawn Nat ℝ := .spawn 0
    dot pawn.controlRotation.vector
      ((pawn.handleCameras (.create false) false
        (panZoomPan.filter (·.2.isPan))).location - pawn.location) = 0 := by
  intro pawn
  have still : ∀ input ∈ panZoomPan, ¬input.2.IsLook := by
    simp [panZoomPan, CameraInput.IsLook]
  exact (pans_apart still pawn).2.2.1

end Axes

namespace CameraLink

variable {F R : Type*} [DecidableEq F] [Field R] [LinearOrder R] [FloorRing R] [EngineMath R]
  {client server : CameraSettings R} {start link : CameraLink F R} {clientFrame serverFrame : R}
  {history : List (CameraLink F R × CameraEvent F R)}

/-- The client moves, pans and looks in frames of one length, and the server executes every call in
frames of another. -/
def SteadyFrames (clientFrame serverFrame : R) (link : CameraLink F R) : CameraEvent F R → Prop
  | .action deltaTime input => deltaTime = clientFrame ∧ ∀ value, input ≠ .zooming value
  | .handler _ event => link.cameraCalls event = []
  | .replicate _ _ => True
  | .execute deltaTime => deltaTime = serverFrame
  | .lose _ => False

def steadyRuns (client server : CameraSettings R) (start : CameraLink F R)
    (clientFrame serverFrame : R) : EventSystem (CameraLink F R) (CameraEvent F R) :=
  { runs client server (SteadyFrames clientFrame serverFrame) with
    Start := fun link => link = start ∧ link.Settled }

/-- The receiver once the calls in flight are executed in frames of one kind. -/
def arrivedIn (frame : CameraFrame R)
    (poses : CommandLink (CameraPose R) (CameraCall R) (CameraFrame R)) : CameraPose R :=
  applyAll CameraCall.placeIn (poses.pending.map fun call => (call.1, frame)) poses.receiver

/-- Both machines move and pan at the same speeds, which do not depend on the platform. -/
structure SameSpeeds (client server : CameraSettings R) : Prop where
  movementSpeed : server.movementSpeed = client.movementSpeed
  panSpeed : server.panSpeed = client.panSpeed

omit [LinearOrder R] [FloorRing R] [EngineMath R] in
theorem sameSpeeds_create (client server : Bool) :
    SameSpeeds (CameraSettings.create (R := R) client) (.create server) :=
  ⟨rfl, rfl⟩

/-- Both look the same way, and their ways from the start are in the ratio of the frames. -/
structure InRatio (clientFrame serverFrame : R) (start : FVector R) (client server : CameraPose R) :
    Prop where
  controlRotation : server.controlRotation = client.controlRotation
  location : clientFrame • (server.location - start) = serverFrame • (client.location - start)

omit [LinearOrder R] [FloorRing R] [EngineMath R] in
theorem smul_step {first second : R} {origin left right u v : FVector R}
    (ratio : first • (left - origin) = second • (right - origin)) (step : first • u = second • v) :
    first • (left + u - origin) = second • (right + v - origin) := by
  simp only [FVector.ext_iff, FVector.smul_x, FVector.smul_y, FVector.smul_z, FVector.sub_x,
    FVector.sub_y, FVector.sub_z, FVector.add_x, FVector.add_y, FVector.add_z] at ratio step ⊢
  obtain ⟨ratioX, ratioY, ratioZ⟩ := ratio
  obtain ⟨stepX, stepY, stepZ⟩ := step
  refine ⟨?_, ?_, ?_⟩
  · linear_combination ratioX + stepX
  · linear_combination ratioY + stepY
  · linear_combination ratioZ + stepZ

omit [FloorRing R] in
theorem InRatio.place (speeds : SameSpeeds client server) {origin : FVector R}
    {sender receiver : CameraPose R}
    (inRatio : InRatio clientFrame serverFrame origin sender receiver) {input : CameraInput R}
    (noZoom : ∀ value, input ≠ .zooming value) :
    InRatio clientFrame serverFrame origin
      ((input.call client sender.controlRotation).place client clientFrame sender)
      ((input.call client sender.controlRotation).place server serverFrame receiver) := by
  have sameCall : ∀ rotation, input.call client rotation = input.call server rotation := by
    intro rotation
    cases input with
    | zooming value => exact absurd rfl (noZoom value)
    | movement axisValue => rfl
    | panning axisValue => rfl
    | lookAround axisValue => rfl
  have scaled : clientFrame •
        (input.call client sender.controlRotation).offset server serverFrame
          sender.controlRotation =
      serverFrame •
        (input.call client sender.controlRotation).offset client clientFrame
          sender.controlRotation := by
    cases input with
    | zooming value => exact absurd rfl (noZoom value)
    | movement axisValue =>
        ext <;> simp [CameraInput.call, CameraCall.offset, DesktopPawn.movementOffset,
          speeds.movementSpeed] <;> ring
    | panning axisValue =>
        ext <;> simp [CameraInput.call, CameraCall.offset, DesktopPawn.panOffset,
          speeds.panSpeed] <;> ring
    | lookAround axisValue => ext <;> simp [CameraInput.call, CameraCall.offset]
  have sent := DesktopPawn.place_call server input serverFrame receiver
  rw [inRatio.controlRotation, ← sameCall] at sent
  rw [sent, DesktopPawn.place_call]
  exact ⟨rfl, smul_step inRatio.location scaled⟩

/-- One event keeps the server's copy in the ratio of the frames. -/
theorem inRatio_step (speeds : SameSpeeds client server) {origin : FVector R}
    {event : CameraEvent F R}
    {poses : CommandLink (CameraPose R) (CameraCall R) (CameraFrame R)}
    (steady : SteadyFrames clientFrame serverFrame link event)
    (stepped : PosesStep client server link event poses)
    (inRatio : InRatio clientFrame serverFrame origin link.poses.sender
      (arrivedIn ⟨server, serverFrame⟩ link.poses)) :
    InRatio clientFrame serverFrame origin poses.sender
      (arrivedIn ⟨server, serverFrame⟩ poses) := by
  cases stepped with
  | action deltaTime input =>
      obtain ⟨rfl, noZoom⟩ := steady
      have placed := inRatio.place speeds noZoom
      have rotation : link.poses.sender.controlRotation = link.client.pawn.controlRotation := rfl
      rw [rotation] at placed
      simpa [arrivedIn, CommandLink.send, applyAll_append, CameraCall.placeIn] using placed
  | silent deltaTime event silent => exact inRatio
  | orbit deltaTime event newLocation direction calls =>
      rw [SteadyFrames, calls] at steady
      exact absurd steady (by simp)
  | replicate furniture playerState => exact inRatio
  | execute deltaTime =>
      obtain rfl : deltaTime = serverFrame := steady
      cases head : link.poses.pending with
      | nil => simpa [CommandLink.receive, head] using inRatio
      | cons oldest later => simpa [arrivedIn, CommandLink.receive, head] using inRatio
  | lose index => exact steady.elim

/-- When the client's frames are of one length and the server's of another, and both move and pan at
the same speeds, the server's copy ends up exactly in proportion: it has gone the way of the client,
by moves and pans, times the ratio of the frames, and looks the same way. -/
theorem steady_frames_scale (speeds : SameSpeeds client server)
    (run : (steadyRuns client server start clientFrame serverFrame).Run history link)
    (calls : link.calls = []) :
    link.server.controlRotation = link.client.pawn.controlRotation ∧
      clientFrame • (link.server.location - start.client.pawn.location) =
        serverFrame • (link.client.pawn.location - start.client.pawn.location) := by
  let origin := start.client.pawn.location
  have begun : ∀ initial,
      (steadyRuns client server start clientFrame serverFrame).Start initial →
      initial.Remote ∧ InRatio clientFrame serverFrame origin initial.poses.sender
        (arrivedIn ⟨server, serverFrame⟩ initial.poses) := by
    rintro initial ⟨rfl, settled⟩
    refine ⟨⟨settled.remote, settled.flushed⟩, ?_⟩
    have arrived : arrivedIn ⟨server, serverFrame⟩ initial.poses = initial.client.pawn.pose := by
      simp [arrivedIn, poses, settled.calls, settled.same]
    rw [arrived]
    refine ⟨rfl, ?_⟩
    have still : initial.client.pawn.pose.location - origin = 0 := sub_self _
    ext <;> simp [poses, still]
  obtain ⟨_, inRatio⟩ := run.invariant begun fun before event inv steady =>
    ⟨remote_next inv.1 event (SteadyFrames clientFrame serverFrame),
      inRatio_step speeds steady
        (poses_next client server inv.1 event (SteadyFrames clientFrame serverFrame)) inv.2⟩
  have arrived : arrivedIn ⟨server, serverFrame⟩ link.poses = link.server.pose := by
    simp [arrivedIn, poses, calls]
  rw [arrived] at inRatio
  exact ⟨inRatio.controlRotation, inRatio.location⟩

section Slow

local instance steadyMath : EngineMath ℚ := quarterTurnMath

/-- A move in a frame of one second and its execution in a frame of three. -/
def moveOnce : List (CameraEvent Nat ℚ) := [.action 1 (.movement ⟨0, 1⟩), .execute 3]

/-- The server's copy has gone three times as far. -/
theorem steady_frames_scale_move :
    let link := (steadyRuns (.create true) (.create false) (atOriginLink Nat ℚ) 1 3).replay
      (atOriginLink Nat ℚ) moveOnce
    link.client.pawn.location = ⟨1200, 0, 0⟩ ∧
      (1 : ℚ) • (link.server.location - 0) = (3 : ℚ) • (link.client.pawn.location - 0) := by
  have start : (steadyRuns (.create true) (.create false) (atOriginLink Nat ℚ) 1 3).Run []
      (atOriginLink Nat ℚ) := .start ⟨rfl, rfl, rfl, rfl, rfl⟩
  have legal : (steadyRuns (.create true) (.create false) (atOriginLink Nat ℚ) 1 3).Legal
      (atOriginLink Nat ℚ) moveOnce := ⟨⟨rfl, by simp⟩, rfl, trivial⟩
  exact ⟨by decide +kernel,
    (steady_frames_scale (sameSpeeds_create _ _) (start.replay legal) rfl).2⟩

end Slow

end CameraLink

end Ioroom
