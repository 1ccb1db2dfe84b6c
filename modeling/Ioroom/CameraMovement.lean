import Ioroom.LeftClick

/-!
# Moving the camera

The handlers of the move, look, zoom and pan actions and the server calls they make.  Every handler
applies its input to the local copy of the pawn and then calls the server: the authority executes
the call at once, on the copy which has just been moved, a client sends it.
-/

namespace Ioroom

namespace FVector

variable {R : Type*} [Field R] [LinearOrder R] [EngineMath R]

def getClampedToMaxSize (maxSize : R) (v : FVector R) : FVector R :=
  if maxSize < 0.0001 then 0
  else if maxSize * maxSize < v.sizeSquared then (maxSize * (1 / EngineMath.sqrt v.sizeSquared)) • v
  else v

end FVector

/-- `FRotationMatrix(Rot).GetUnitAxis(EAxis::Z)`, the up axis of the rotation. -/
def FRotator.upVector {R : Type*} [Field R] [EngineMath R] (rotator : FRotator R) : FVector R where
  x := -(EngineMath.cosDeg rotator.roll * EngineMath.sinDeg rotator.pitch *
      EngineMath.cosDeg rotator.yaw +
    EngineMath.sinDeg rotator.roll * EngineMath.sinDeg rotator.yaw)
  y := EngineMath.cosDeg rotator.yaw * EngineMath.sinDeg rotator.roll -
    EngineMath.cosDeg rotator.roll * EngineMath.sinDeg rotator.pitch *
      EngineMath.sinDeg rotator.yaw
  z := EngineMath.cosDeg rotator.roll * EngineMath.cosDeg rotator.pitch

/-- The platform and the designer's speeds. -/
structure CameraSettings (R : Type*) where
  platformWindows : Bool
  movementSpeed : R
  panSpeed : R
  zoomSpeed : R
deriving DecidableEq

/-- The speeds which the header and the constructor give. -/
def CameraSettings.create {R : Type*} [Field R] (platformWindows : Bool) : CameraSettings R where
  platformWindows
  movementSpeed := 1200.0
  panSpeed := 1200.0
  zoomSpeed := if platformWindows then 20.0 else 5.0

/-- A frame of a machine: the settings it runs with and the time since the frame before. -/
structure CameraFrame (R : Type*) where
  settings : CameraSettings R
  deltaTime : R
deriving DecidableEq

/-- The `Server_*` calls which move the camera, all of them unreliable. -/
inductive CameraCall (R : Type*)
  | move (axisValue : FVector2D R)
  | look (newRotation : FRotator R)
  | zoom (zoomFactor : R)
  | pan (axisValue : FVector2D R)
  | orbitTransform (newLocation : FVector R) (newRotation : FRotator R)
deriving DecidableEq

/-- The value of an action, on the move, look, zoom and pan actions. -/
inductive CameraInput (R : Type*)
  | movement (axisValue : FVector2D R)
  | lookAround (axisValue : FVector2D R)
  | zooming (value : R)
  | panning (axisValue : FVector2D R)
deriving DecidableEq

/-- Where a pawn is and where it looks. -/
@[ext]
structure CameraPose (R : Type*) where
  location : FVector R
  controlRotation : FRotator R
deriving DecidableEq

namespace DesktopPawn

variable {F R : Type*}

def pose (pawn : DesktopPawn F R) : CameraPose R where
  location := pawn.location
  controlRotation := pawn.controlRotation

variable [Field R] [LinearOrder R] [EngineMath R]

/-- The offset of `ApplyMovement`. -/
def movementOffset (settings : CameraSettings R) (deltaTime : R) (axisValue : FVector2D R)
    (rotation : FRotator R) : FVector R :=
  let normalizedDirection :=
    (axisValue.y • rotation.vector + axisValue.x • rotation.rightVector).getClampedToMaxSize 1
  deltaTime • settings.movementSpeed • normalizedDirection

/-- The offset of `ApplyPan`. -/
def panOffset (settings : CameraSettings R) (deltaTime : R) (axisValue : FVector2D R)
    (rotation : FRotator R) : FVector R :=
  let normalizedDirection :=
    (axisValue.x • rotation.rightVector + axisValue.y • rotation.upVector).getClampedToMaxSize 1
  deltaTime • settings.panSpeed • normalizedDirection

/-- The offset of `ApplyZoom`. -/
def zoomOffset (settings : CameraSettings R) (zoomFactor : R) (rotation : FRotator R) :
    FVector R :=
  settings.zoomSpeed • zoomFactor • rotation.vector

/-- `AddActorWorldOffset`.  The root is a plain scene component, which a sweep does not stop. -/
def addActorWorldOffset (offset : FVector R) (pawn : DesktopPawn F R) : DesktopPawn F R :=
  { pawn with location := pawn.location + offset }

/-- `ApplyMovement`, with or without a controller. -/
def applyMovement (settings : CameraSettings R) (controller : Bool) (deltaTime : R)
    (axisValue : FVector2D R) (pawn : DesktopPawn F R) : DesktopPawn F R :=
  if controller then
    pawn.addActorWorldOffset (movementOffset settings deltaTime axisValue pawn.controlRotation)
  else pawn

/-- `ApplyLook`. -/
def applyLook (controller : Bool) (axisValue : FVector2D R) (pawn : DesktopPawn F R) :
    DesktopPawn F R :=
  if controller then
    { pawn with
      controlRotation :=
        { pawn.controlRotation with
          yaw := pawn.controlRotation.yaw + axisValue.x
          pitch := clamp (pawn.controlRotation.pitch - axisValue.y) (-89.0) 89.0 } }
  else pawn

/-- `ApplyZoom`. -/
def applyZoom (settings : CameraSettings R) (controller : Bool) (zoomFactor : R)
    (pawn : DesktopPawn F R) : DesktopPawn F R :=
  if controller then
    pawn.addActorWorldOffset (zoomOffset settings zoomFactor pawn.controlRotation)
  else pawn

/-- `ApplyPan`. -/
def applyPan (settings : CameraSettings R) (controller : Bool) (deltaTime : R)
    (axisValue : FVector2D R) (pawn : DesktopPawn F R) : DesktopPawn F R :=
  if controller then
    pawn.addActorWorldOffset (panOffset settings deltaTime axisValue pawn.controlRotation)
  else pawn

/-- `Server_Look_Implementation`. -/
def serverLookImplementation (controller : Bool) (newRotation : FRotator R)
    (pawn : DesktopPawn F R) : DesktopPawn F R :=
  if controller then { pawn with controlRotation := newRotation } else pawn

/-- The authority executes a camera call in a frame of its own. -/
def executeCamera (settings : CameraSettings R) (controller : Bool) (deltaTime : R) :
    CameraCall R → DesktopPawn F R → DesktopPawn F R
  | .move axisValue => applyMovement settings controller deltaTime axisValue
  | .look newRotation => serverLookImplementation controller newRotation
  | .zoom zoomFactor => applyZoom settings controller zoomFactor
  | .pan axisValue => applyPan settings controller deltaTime axisValue
  | .orbitTransform newLocation newRotation => fun pawn =>
      if controller then { pawn with location := newLocation, controlRotation := newRotation }
      else pawn

/-- Calling a camera function of the server: the authority executes it at once, a client sends it.
The pawn of a local player is possessed. -/
def callCamera (settings : CameraSettings R) (hasAuthority : Bool) (deltaTime : R)
    (call : CameraCall R) (pawn : DesktopPawn F R) : DesktopPawn F R × List (CameraCall R) :=
  if hasAuthority then (pawn.executeCamera settings true deltaTime call, []) else (pawn, [call])

/-- `Movement`. -/
def movement (settings : CameraSettings R) (hasAuthority : Bool) (deltaTime : R)
    (axisValue : FVector2D R) (pawn : DesktopPawn F R) : DesktopPawn F R × List (CameraCall R) :=
  (pawn.applyMovement settings true deltaTime axisValue).callCamera settings hasAuthority deltaTime
    (.move axisValue)

/-- `LookAround`: the call carries the rotation reached. -/
def lookAround (settings : CameraSettings R) (hasAuthority : Bool) (deltaTime : R)
    (axisValue : FVector2D R) (pawn : DesktopPawn F R) : DesktopPawn F R × List (CameraCall R) :=
  let looked := pawn.applyLook true axisValue
  looked.callCamera settings hasAuthority deltaTime (.look looked.controlRotation)

/-- The factor of a zoom, which is reversed on Windows. -/
def zoomFactor (settings : CameraSettings R) (value : R) : R :=
  if settings.platformWindows then -value else value

/-- `Zooming`. -/
def zooming (settings : CameraSettings R) (hasAuthority : Bool) (deltaTime : R) (value : R)
    (pawn : DesktopPawn F R) : DesktopPawn F R × List (CameraCall R) :=
  (pawn.applyZoom settings true (zoomFactor settings value)).callCamera settings hasAuthority
    deltaTime (.zoom (zoomFactor settings value))

/-- `Panning`. -/
def panning (settings : CameraSettings R) (hasAuthority : Bool) (deltaTime : R)
    (axisValue : FVector2D R) (pawn : DesktopPawn F R) : DesktopPawn F R × List (CameraCall R) :=
  (pawn.applyPan settings true deltaTime axisValue).callCamera settings hasAuthority deltaTime
    (.pan axisValue)

/-- Run the handler of an action. -/
def handleCamera (settings : CameraSettings R) (hasAuthority : Bool) (deltaTime : R) :
    CameraInput R → DesktopPawn F R → DesktopPawn F R × List (CameraCall R)
  | .movement axisValue => movement settings hasAuthority deltaTime axisValue
  | .lookAround axisValue => lookAround settings hasAuthority deltaTime axisValue
  | .zooming value => zooming settings hasAuthority deltaTime value
  | .panning axisValue => panning settings hasAuthority deltaTime axisValue

end DesktopPawn

namespace CameraCall

variable {F R : Type*} [Field R] [LinearOrder R] [EngineMath R]

/-- How far a call moves a pawn which looks in a direction. -/
def offset (settings : CameraSettings R) (deltaTime : R) :
    CameraCall R → FRotator R → FVector R
  | .move axisValue => DesktopPawn.movementOffset settings deltaTime axisValue
  | .zoom zoomFactor => DesktopPawn.zoomOffset settings zoomFactor
  | .pan axisValue => DesktopPawn.panOffset settings deltaTime axisValue
  | .look _ | .orbitTransform _ _ => 0

/-- The rotation which a call carries. -/
def rotation? : CameraCall R → Option (FRotator R)
  | .look newRotation | .orbitTransform _ newRotation => some newRotation
  | .move _ | .zoom _ | .pan _ => none

/-- The location which a call carries. -/
def location? : CameraCall R → Option (FVector R)
  | .orbitTransform newLocation _ => some newLocation
  | .move _ | .look _ | .zoom _ | .pan _ => none

/-- Where a call leads: to the location and rotation which it carries, and otherwise by its offset
along the rotation of the pawn. -/
def place (settings : CameraSettings R) (call : CameraCall R) (deltaTime : R)
    (pose : CameraPose R) : CameraPose R where
  location := call.location?.getD
    (pose.location + call.offset settings deltaTime pose.controlRotation)
  controlRotation := call.rotation?.getD pose.controlRotation

/-- Where a call leads in a frame of a machine. -/
def placeIn (call : CameraCall R) (frame : CameraFrame R) (pose : CameraPose R) : CameraPose R :=
  call.place frame.settings frame.deltaTime pose

theorem executeCamera_eq (settings : CameraSettings R) (deltaTime : R) (call : CameraCall R)
    (pawn : DesktopPawn F R) :
    pawn.executeCamera settings true deltaTime call =
      { pawn with
        location := (call.place settings deltaTime pawn.pose).location
        controlRotation := (call.place settings deltaTime pawn.pose).controlRotation } := by
  cases call <;>
    simp [DesktopPawn.executeCamera, DesktopPawn.applyMovement, DesktopPawn.applyZoom,
      DesktopPawn.applyPan, DesktopPawn.serverLookImplementation, DesktopPawn.addActorWorldOffset,
      place, location?, rotation?, offset, DesktopPawn.pose]

theorem executeCamera_pose (settings : CameraSettings R) (deltaTime : R) (call : CameraCall R)
    (pawn : DesktopPawn F R) :
    (pawn.executeCamera settings true deltaTime call).pose =
      call.place settings deltaTime pawn.pose := by
  rw [executeCamera_eq]
  rfl

end CameraCall

namespace CameraInput

variable {F R : Type*} [Field R] [LinearOrder R] [EngineMath R]

/-- The call which a handler makes on a pawn with the given rotation. -/
def call (settings : CameraSettings R) (rotation : FRotator R) : CameraInput R → CameraCall R
  | .movement axisValue => .move axisValue
  | .lookAround axisValue =>
      .look
        { rotation with
          yaw := rotation.yaw + axisValue.x
          pitch := clamp (rotation.pitch - axisValue.y) (-89.0) 89.0 }
  | .zooming value => .zoom (DesktopPawn.zoomFactor settings value)
  | .panning axisValue => .pan axisValue

/-- Whatever the action, its handler applies to the pawn exactly the call which it then makes. -/
theorem handleCamera_eq (settings : CameraSettings R) (hasAuthority : Bool) (deltaTime : R)
    (input : CameraInput R) (pawn : DesktopPawn F R) :
    pawn.handleCamera settings hasAuthority deltaTime input =
      (pawn.executeCamera settings true deltaTime
        (input.call settings pawn.controlRotation)).callCamera settings hasAuthority deltaTime
          (input.call settings pawn.controlRotation) := by
  cases input <;>
    simp [DesktopPawn.handleCamera, DesktopPawn.movement, DesktopPawn.lookAround,
      DesktopPawn.zooming, DesktopPawn.panning, DesktopPawn.executeCamera, call,
      DesktopPawn.applyLook, DesktopPawn.serverLookImplementation]

theorem handleCamera_client (settings : CameraSettings R) (deltaTime : R)
    (input : CameraInput R) (pawn : DesktopPawn F R) :
    pawn.handleCamera settings false deltaTime input =
      (pawn.executeCamera settings true deltaTime (input.call settings pawn.controlRotation),
        [input.call settings pawn.controlRotation]) := by
  rw [handleCamera_eq]
  rfl

/-- On the authority the call of the handler moves the pawn once more. -/
theorem handleCamera_authority (settings : CameraSettings R) (deltaTime : R)
    (input : CameraInput R) (pawn : DesktopPawn F R) :
    pawn.handleCamera settings true deltaTime input =
      ((pawn.executeCamera settings true deltaTime
        (input.call settings pawn.controlRotation)).executeCamera settings true deltaTime
          (input.call settings pawn.controlRotation), []) := by
  rw [handleCamera_eq]
  rfl

end CameraInput

end Ioroom
