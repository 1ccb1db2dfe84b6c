import Ioroom.CameraLink

/-!
# How far a camera drifts

Client and server apply the same camera calls, each in its own frames.  The gap between them is at
most what the frames of the executed moves and pans differ in, times the speed, and what the lost
calls would have moved; an orbit closes it.
-/

namespace Ioroom

open EventSystem CommandLink

namespace CameraPose

/-- Both look the same way, and their locations are within a distance. -/
structure Within (gap : ℝ) (left right : CameraPose ℝ) : Prop where
  controlRotation : left.controlRotation = right.controlRotation
  distance : FVector.dist left.location right.location ≤ gap

end CameraPose

namespace CameraCall

/-- How far a call moves the camera at most in a frame, with the sign of the speed. -/
def way {R : Type*} [Field R] : CameraCall R → CameraFrame R → R
  | .move _, frame => frame.deltaTime * frame.settings.movementSpeed
  | .pan _, frame => frame.deltaTime * frame.settings.panSpeed
  | .zoom zoomFactor, frame => frame.settings.zoomSpeed * zoomFactor
  | .look _, _ | .orbitTransform _ _, _ => 0

/-- The vector along which a call moves the camera, whatever the frame. -/
noncomputable def heading (rotation : FRotator ℝ) : CameraCall ℝ → FVector ℝ
  | .move axisValue =>
      (axisValue.y • rotation.vector + axisValue.x • rotation.rightVector).getClampedToMaxSize 1
  | .pan axisValue =>
      (axisValue.x • rotation.rightVector + axisValue.y • rotation.upVector).getClampedToMaxSize 1
  | .zoom _ => rotation.vector
  | .look _ | .orbitTransform _ _ => 0

/-- What executing a call in another frame costs. -/
noncomputable def frameCost (call : CameraCall ℝ) (own sent : CameraFrame ℝ) : ℝ :=
  |call.way sent - call.way own|

/-- How far a call can move the camera. -/
noncomputable def reach (call : CameraCall ℝ) (frame : CameraFrame ℝ) : ℝ := |call.way frame|

variable (call : CameraCall ℝ)

theorem size_heading_le (rotation : FRotator ℝ) : (call.heading rotation).size ≤ 1 := by
  cases call with
  | move axisValue => exact FVector.size_clamped_le _
  | pan axisValue => exact FVector.size_clamped_le _
  | zoom zoomFactor => exact rotation.size_vector.le
  | look newRotation => exact FVector.size_zero.trans_le zero_le_one
  | orbitTransform newLocation newRotation => exact FVector.size_zero.trans_le zero_le_one

theorem offset_eq (frame : CameraFrame ℝ) (rotation : FRotator ℝ) :
    call.offset frame.settings frame.deltaTime rotation =
      call.way frame • call.heading rotation := by
  cases call with
  | move axisValue =>
      ext <;> simp [offset, way, heading, DesktopPawn.movementOffset, mul_assoc]
  | pan axisValue =>
      ext <;> simp [offset, way, heading, DesktopPawn.panOffset, mul_assoc]
  | zoom zoomFactor =>
      ext <;> simp [offset, way, heading, DesktopPawn.zoomOffset, mul_assoc]
  | look newRotation => ext <;> simp [offset, way]
  | orbitTransform newLocation newRotation => ext <;> simp [offset, way]

theorem offset_le (frame : CameraFrame ℝ) (rotation : FRotator ℝ) :
    (call.offset frame.settings frame.deltaTime rotation).size ≤ call.reach frame := by
  rw [offset_eq, FVector.size_smul]
  exact mul_le_of_le_one_right (abs_nonneg _) (call.size_heading_le rotation)

theorem offset_frames_le (own sent : CameraFrame ℝ) (rotation : FRotator ℝ) :
    FVector.dist (call.offset own.settings own.deltaTime rotation)
        (call.offset sent.settings sent.deltaTime rotation) ≤
      call.frameCost own sent := by
  have split : call.way sent • call.heading rotation - call.way own • call.heading rotation =
      (call.way sent - call.way own) • call.heading rotation := by
    ext <;> simp [sub_mul]
  rw [offset_eq, offset_eq, FVector.dist, split, FVector.size_smul]
  exact mul_le_of_le_one_right (abs_nonneg _) (call.size_heading_le rotation)

/-- Camera calls widen no gap between two poses, and their frames cost what they differ in. -/
theorem metering : Metering placeIn CameraPose.Within frameCost where
  refl pose := ⟨rfl, (FVector.dist_self _).le⟩
  trans {left right first second third} near far :=
    ⟨near.controlRotation.trans far.controlRotation,
      (FVector.dist_triangle _ _ _).trans (add_le_add near.distance far.distance)⟩
  keeps {gap left right} call frame within := by
    refine ⟨congrArg call.rotation?.getD within.controlRotation, ?_⟩
    have nonneg : 0 ≤ gap := (FVector.size_nonneg _).trans within.distance
    simp only [placeIn, place, within.controlRotation]
    cases call.location? with
    | some newLocation => exact (FVector.dist_self _).trans_le nonneg
    | none => exact (FVector.dist_add_right _ _ _).trans_le within.distance
  frames call own sent pose := by
    refine ⟨rfl, ?_⟩
    have moved := call.offset_frames_le own sent pose.controlRotation
    simp only [placeIn, place]
    cases call.location? with
    | some newLocation =>
        refine (FVector.dist_self _).trans_le ((FVector.size_nonneg _).trans moved)
    | none => exact (FVector.dist_add_left _ _ _).trans_le moved

theorem within_reach (noRotation : call.rotation? = none) (frame : CameraFrame ℝ)
    (pose : CameraPose ℝ) :
    CameraPose.Within (call.reach frame) pose (call.placeIn frame pose) := by
  have noLocation : call.location? = none := by
    cases call <;> simp_all [rotation?, location?]
  refine ⟨by simp [placeIn, place, noRotation], ?_⟩
  have moved := FVector.dist_add_left pose.location 0 (call.offset frame.settings frame.deltaTime
    pose.controlRotation)
  simp only [placeIn, place, noLocation, Option.getD_none]
  rw [add_zero, FVector.dist, FVector.dist, sub_zero] at moved
  rw [FVector.dist, moved]
  exact call.offset_le frame _

end CameraCall

namespace CameraLink

variable {F : Type*} [DecidableEq F] {client server : CameraSettings ℝ} {link : CameraLink F ℝ}
  {history : List (CameraLink F ℝ × CameraEvent F ℝ)}

/-- Only calls which carry no rotation are lost. -/
def LosesTranslations (link : CameraLink F ℝ) : CameraEvent F ℝ → Prop
  | .lose index => ∃ call sent, link.calls[index]? = some (call, sent) ∧
      call.rotation? = none
  | .action _ _ | .handler _ _ | .replicate _ _ | .execute _ => True

/-- The drift which a run has collected since the client last orbited. -/
noncomputable def drift (server : CameraSettings ℝ) :
    List (CameraLink F ℝ × CameraEvent F ℝ) → ℝ
  | [] => 0
  | (_, .action _ _) :: older => drift server older
  | (_, .replicate _ _) :: older => drift server older
  | (link, .handler _ event) :: older =>
      if link.cameraCalls event = [] then drift server older else 0
  | (link, .execute own) :: older =>
      match link.calls with
      | [] => drift server older
      | (call, sent) :: _ => call.frameCost ⟨server, own⟩ sent + drift server older
  | (link, .lose index) :: older =>
      match link.calls[index]? with
      | none => drift server older
      | some (call, sent) => call.reach sent + drift server older

/-- The pose of the server's copy once every call in flight is executed as the client made it. -/
noncomputable def arrived (link : CameraLink F ℝ) : CameraPose ℝ :=
  link.poses.predicted CameraCall.placeIn

/-- One event adds its own drift. -/
theorem tracks_next (remote : link.Remote) {event : CameraEvent F ℝ}
    (enabled : link.LosesTranslations event)
    (tracks : link.poses.Tracks CameraCall.placeIn CameraPose.Within
      (drift server history)) :
    ((runs client server LosesTranslations).next link event).poses.Tracks CameraCall.placeIn
      CameraPose.Within (drift server ((link, event) :: history)) := by
  have metering := CameraCall.metering
  have stepped := poses_next client server remote event LosesTranslations
  generalize ((runs client server LosesTranslations).next link event).poses = after at stepped ⊢
  cases stepped with
  | action deltaTime input => exact metering.tracks_send tracks _ _
  | silent deltaTime event silent => simpa [drift, silent] using tracks
  | orbit deltaTime event newLocation direction calls =>
      simp only [drift, calls, reduceCtorEq, if_false]
      exact metering.tracks_send_reset fun _ _ => rfl
  | replicate furniture playerState => exact tracks
  | execute own =>
      cases head : link.calls with
      | nil => simpa [drift, head, CommandLink.receive, poses] using tracks
      | cons oldest later =>
          have pending : link.poses.pending = oldest :: later := head
          have received := metering.tracks_receive ⟨server, own⟩ pending tracks
          simpa [drift, head] using received
  | lose index =>
      obtain ⟨call, sent, found, noRotation⟩ := enabled
      have member : link.poses.pending[index]? = some (call, sent) := found
      have lost := metering.tracks_lose member
        (call.within_reach noRotation sent) tracks
      simpa [drift, found] using lost

/-- As long as no look and no orbit is lost, the server's copy will look exactly where the client
looks, and it will be within the drift of the run from where the client is. -/
theorem camera_drift_bounded (run : (runs client server LosesTranslations).Run history link) :
    link.arrived.controlRotation = link.client.pawn.controlRotation ∧
      FVector.dist link.arrived.location link.client.pawn.location ≤
        drift server history := by
  have tracks : link.poses.Tracks CameraCall.placeIn CameraPose.Within
      (drift server history) := by
    induction run with
    | start settled =>
        exact CameraCall.metering.tracks_start settled.calls settled.same
    | step earlier enabled induction =>
        exact tracks_next (remote_of_run earlier) enabled induction
  exact ⟨tracks.controlRotation, tracks.distance⟩

section Drifting

/-- A move made in a frame of one second and executed in a frame of three, and a zoom. -/
noncomputable def slowServer : List (CameraEvent Nat ℝ) :=
  [.action 1 (.movement ⟨0, 1⟩), .execute (3 : ℕ), .action 1 (.zooming (10 : ℕ)),
    .execute (3 : ℕ)]

/-- From a client on Windows to a server elsewhere, which zooms by fifteen less for each unit, the
two copies are then at most two seconds of movement and ten such units apart. -/
theorem camera_drift_bounded_slow :
    let link := (runs (.create true) (.create false) LosesTranslations).replay
      (atOriginLink Nat ℝ) slowServer
    FVector.dist link.server.location link.client.pawn.location ≤ 2400 + 150 := by
  intro link
  have start : (runs (.create true) (.create false) LosesTranslations).Run []
      (atOriginLink Nat ℝ) := .start ⟨rfl, rfl, rfl, rfl⟩
  have legal : (runs (.create true) (.create false) LosesTranslations).Legal
      (atOriginLink Nat ℝ) slowServer := ⟨trivial, trivial, trivial, trivial, trivial⟩
  obtain ⟨_, distance⟩ := camera_drift_bounded (start.replay legal)
  refine distance.trans ?_
  change CameraCall.frameCost (.zoom (-10)) ⟨.create false, 3⟩ ⟨.create true, 1⟩ +
    (CameraCall.frameCost (.move ⟨0, 1⟩) ⟨.create false, 3⟩ ⟨.create true, 1⟩ + 0) ≤ 2400 + 150
  norm_num [CameraCall.frameCost, CameraCall.way, CameraSettings.create]

end Drifting

end CameraLink

end Ioroom
