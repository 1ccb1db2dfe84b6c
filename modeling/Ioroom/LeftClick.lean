import Ioroom.DesktopPawn

/-!
# Input handlers of the pawn

The handlers bound in `SetupPlayerInputComponent` for the left button, panning and camera
control, and `Tick`.  What the player controller reports during one handler call is its argument;
`none` stands for a pawn without a player controller.
-/

namespace Ioroom

/-- The component hit on the manipulator trace channel. -/
inductive HandleComponent
  | arrowXPlus
  | arrowXMinus
  | arrowYPlus
  | arrowYMinus
  | rotationRing
  | other
deriving DecidableEq, Repr

/-- `ResolveHandle`. -/
def resolveHandle : HandleComponent → ManipulatorHandle
  | .arrowXPlus => .moveXPlus
  | .arrowXMinus => .moveXMinus
  | .arrowYPlus => .moveYPlus
  | .arrowYMinus => .moveYMinus
  | .rotationRing => .rotate
  | .other => .none

/-- What the player controller and the world report during one handler call. -/
structure PlayerView (F R : Type*) where
  /-- `GetHitResultUnderCursorByChannel` on the manipulator channel. -/
  handleHit : Option HandleComponent
  /-- The furniture under the cursor, if the hit actor is one. -/
  hitActor : Option F
  impactPoint : FVector R
  mousePosition : FVector2D R
  rayOrigin : FVector R
  rayDirection : FVector R
  /-- `LineTraceSingleByChannel` from start to end: the impact point of a blocking hit. -/
  lineTrace : FVector R → FVector R → Option (FVector R)

/-- The view of a cursor straight above the origin, on a manipulator handle or on a furniture. -/
def PlayerView.overhead {F R : Type*} [Field R] (handleHit : Option HandleComponent)
    (hitActor : Option F) : PlayerView F R where
  handleHit
  hitActor
  impactPoint := 0
  mousePosition := ⟨0, 0⟩
  rayOrigin := 0
  rayDirection := ⟨0, 0, -1⟩
  lineTrace _ _ := none

namespace LocalWorld

variable {F R : Type*} [DecidableEq F] [Field R]

section Gestures

variable [LinearOrder R] [FloorRing R] [EngineMath R]

/-- The direction of an arrow handle, in the frame of the furniture. -/
def nudgeDirection (handle : ManipulatorHandle) (actor : FurnitureActor R) :
    Option (FVector R) :=
  match handle with
  | .moveXPlus => some actor.rotation.vector
  | .moveXMinus => some (-actor.rotation.vector)
  | .moveYPlus => some actor.rotation.rightVector
  | .moveYMinus => some (-actor.rotation.rightVector)
  | .none => none
  | .rotate => none

/-- The grid step read by a nudge. -/
def gridStep (world : LocalWorld F R) : R :=
  match world.playerState with
  | some playerState => playerState.getGridStep
  | none => 20.0

/-- The rotation step read by a rotation. -/
def rotationSnap (world : LocalWorld F R) : R :=
  match world.playerState with
  | some playerState => playerState.getRotStep
  | none => 15.0

/-- `NudgeSelectedFurniture`; `none` is the answer `false`, which changes nothing. -/
def nudgeSelectedFurniture (handle : ManipulatorHandle) (world : LocalWorld F R) :
    Option (LocalWorld F R) :=
  match world.pawn.selectedFurniture with
  | none => none
  | some selected =>
      match nudgeDirection handle (world.furniture selected) with
      | none => none
      | some direction =>
          let newLocation := (world.furniture selected).location + world.gridStep • direction
          some ((world.modify selected (·.setActorLocation newLocation)).call
            (.dragFurniture newLocation))

/-- `HandleDrag`. -/
def handleDrag (view : PlayerView F R) (world : LocalWorld F R) : LocalWorld F R :=
  match world.pawn.selectedFurniture with
  | none => world
  | some selected =>
      if isNearlyZero view.rayDirection.z then world
      else
        let worldPoint := rayAtPlane view.rayOrigin view.rayDirection world.pawn.dragPlaneZ
        let newX := worldPoint.x + world.pawn.dragOffset.x
        let newY := worldPoint.y + world.pawn.dragOffset.y
        let surfaceHit := view.lineTrace ⟨newX, newY, world.pawn.dragPlaneZ + 500⟩
          ⟨newX, newY, -10000⟩
        let newZ := match surfaceHit with
          | some impactPoint => impactPoint.z
          | none => world.pawn.dragPlaneZ
        let newLocation : FVector R := ⟨newX, newY, newZ⟩
        let moved := (world.modify selected (·.setActorLocation newLocation)).call
          (.dragFurniture newLocation)
        let newWorldPoint := rayAtPlane view.rayOrigin view.rayDirection newZ
        { moved with
          pawn := { moved.pawn with
            dragOffset := ⟨newX - newWorldPoint.x, newY - newWorldPoint.y,
              world.pawn.dragOffset.z⟩
            dragPlaneZ := newZ } }

/-- `HandleRotate`. -/
def handleRotate (view : PlayerView F R) (world : LocalWorld F R) : LocalWorld F R :=
  match world.pawn.selectedFurniture with
  | none => world
  | some selected =>
      if isNearlyZero view.rayDirection.z then world
      else
        let worldPoint := rayAtPlane view.rayOrigin view.rayDirection
          world.pawn.rotationPlaneZ
        let center := (world.furniture selected).location
        let currentAngle := EngineMath.atan2Deg (worldPoint.y - center.y)
          (worldPoint.x - center.x)
        let deltaSnap := gridSnap (currentAngle - world.pawn.rotationGrabAngle)
          world.rotationSnap
        let newRotation : FRotator R :=
          { (world.furniture selected).rotation with
            yaw := world.pawn.rotationStartYaw + deltaSnap }
        (world.modify selected (·.setActorRotation newRotation)).call
          (.rotateFurniture newRotation)

/-- `HandleOrbit`. -/
def handleOrbit (currentMousePosition : FVector2D R) (world : LocalWorld F R) :
    LocalWorld F R :=
  let pawn := world.pawn
  let deltaX := currentMousePosition.x - pawn.lastMousePosition.x
  let deltaY := currentMousePosition.y - pawn.lastMousePosition.y
  let orbitEntryAlpha := min (pawn.orbitEntryAlpha + 0.1) 1
  let effectivePivot := FVector.lerp pawn.orbitEntryStartPivot pawn.orbitPivot orbitEntryAlpha
  let pivotToCamera := (pawn.location - effectivePivot).rotateAboutUp
    (deltaX * pawn.orbitSensitivity)
  let horizontal : FVector R := ⟨pivotToCamera.x, pivotToCamera.y, 0⟩
  let currentElevation := EngineMath.atan2Deg pivotToCamera.z horizontal.size
  let newElevation := clamp (currentElevation + deltaY * pawn.orbitSensitivity) (-89.0) 89.0
  let newHorizontalDistance := EngineMath.cosDeg newElevation * pawn.orbitRadius
  let newVerticalDistance := EngineMath.sinDeg newElevation * pawn.orbitRadius
  let newPivotToCamera := newHorizontalDistance • horizontal.getSafeNormal +
    ⟨0, 0, newVerticalDistance⟩
  let newLocation := effectivePivot + newPivotToCamera
  let newRotation := (effectivePivot - newLocation).getSafeNormal.rotation
  { world with
    pawn := { pawn with
      orbitEntryAlpha
      location := newLocation
      controlRotation := newRotation
      lastMousePosition := currentMousePosition } }.call
    (.orbitTransform newLocation newRotation)

/-- The ring branch of `LeftClicking`: begin a rotation unless the ray is near-horizontal. -/
def grabRing (selected : F) (view : PlayerView F R) (world : LocalWorld F R) :
    LocalWorld F R :=
  let planeZ := (world.furniture selected).location.z
  if isNearlyZero view.rayDirection.z then world
  else
    let worldPoint := rayAtPlane view.rayOrigin view.rayDirection planeZ
    let center := (world.furniture selected).location
    { world with
      pawn := { world.pawn with
        rotationStartYaw := (world.furniture selected).rotation.yaw
        rotationGrabAngle := EngineMath.atan2Deg (worldPoint.y - center.y)
          (worldPoint.x - center.x)
        rotationPlaneZ := planeZ
        leftClickState := .rotating } }

/-- The manipulator part of `LeftClicking`; `none` when the click falls through to the scene. -/
def clickManipulator (view : PlayerView F R) (world : LocalWorld F R) :
    Option (LocalWorld F R) :=
  match world.pawn.activeManipulator, world.pawn.selectedFurniture, view.handleHit with
  | some _, some selected, some component =>
      if resolveHandle component = .rotate then some (grabRing selected view world)
      else world.nudgeSelectedFurniture (resolveHandle component)
  | _, _, _ => none

/-- The scene part of `LeftClicking`. -/
def pressScene (view : PlayerView F R) (world : LocalWorld F R) : LocalWorld F R :=
  { world with
    pawn := { world.pawn with
      pressedFurniture := view.hitActor
      mousePositionOnClick := view.mousePosition
      orbitPivot := view.impactPoint
      leftClickState := .pressed } }

/-- `LeftClicking`. -/
def leftClicking (playerController : Option (PlayerView F R)) (world : LocalWorld F R) :
    LocalWorld F R :=
  if world.pawn.bCameraControlActive then world
  else match playerController with
    | none => world
    | some view => (world.clickManipulator view).getD (world.pressScene view)

/-- The drag branch of `LeftClickingHeld` in state `Pressed`. -/
def beginDrag (pressed : F) (view : PlayerView F R) (world : LocalWorld F R) :
    LocalWorld F R :=
  if isNearlyZero view.rayDirection.z then world
  else
    let location := (world.furniture pressed).location
    let worldPoint := rayAtPlane view.rayOrigin view.rayDirection location.z
    { world with
      pawn := { world.pawn with
        dragPlaneZ := location.z
        dragOffset := ⟨location.x - worldPoint.x, location.y - worldPoint.y, 0⟩
        leftClickState := .dragging
        activeManipulator := world.pawn.activeManipulator.map
          fun manipulator => { manipulator with hiddenInGame := true } } }

/-- The orbit branch of `LeftClickingHeld` in state `Pressed`. -/
def beginOrbit (world : LocalWorld F R) : LocalWorld F R :=
  let orbitRadius := FVector.dist world.pawn.location world.pawn.orbitPivot
  { world with
    pawn := { world.pawn with
      orbitRadius
      orbitEntryStartPivot :=
        world.pawn.location + orbitRadius • world.pawn.controlRotation.vector
      orbitEntryAlpha := 0
      leftClickState := .orbiting } }

/-- `LeftClickingHeld` in state `Pressed`: once the mouse has moved beyond the threshold, start
dragging the pressed furniture if it is the selected one, and start orbiting otherwise. -/
def heldPressed (view : PlayerView F R) (world : LocalWorld F R) : LocalWorld F R :=
  if world.pawn.orbitDragThreshold <
      view.mousePosition.distance world.pawn.mousePositionOnClick then
    let tracked := { world with
      pawn := { world.pawn with lastMousePosition := view.mousePosition } }
    match world.pawn.pressedFurniture with
    | some pressed =>
        if world.pawn.selectedFurniture = some pressed then tracked.beginDrag pressed view
        else tracked.beginOrbit
    | none => tracked.beginOrbit
  else world

/-- `LeftClickingHeld`. -/
def leftClickingHeld (playerController : Option (PlayerView F R)) (world : LocalWorld F R) :
    LocalWorld F R :=
  match playerController with
  | none => world
  | some view =>
      match world.pawn.leftClickState with
      | .pressed => world.heldPressed view
      | .rotating => world.handleRotate view
      | .orbiting => world.handleOrbit view.mousePosition
      | .dragging => world.handleDrag view
      | .idle => world

end Gestures

/-- The selecting branch of `LeftClickingReleased`.  `SelectedFurniture` is written whether or not
the authority accepts the call; the manipulator is replaced by one on the new furniture. -/
def selectPressed (pressed : F) (spawned : Bool) (world : LocalWorld F R) : LocalWorld F R :=
  let called := (world.call (.selectFurniture (some pressed))).modify pressed (·.onUnHovered)
  { called with
    pawn := { called.pawn with
      selectedFurniture := some pressed
      activeManipulator :=
        if called.pawn.furnitureManipulatorClass && spawned then
          some { attachedTo := some pressed }
        else none } }

/-- The deselecting branch of `LeftClickingReleased`. -/
def deselectOnEmpty (world : LocalWorld F R) : LocalWorld F R :=
  let called := if world.pawn.selectedFurniture.isSome then world.call .deselectFurniture
    else world
  { called with
    pawn := { called.pawn with selectedFurniture := none, activeManipulator := none } }

/-- `LeftClickingReleased`; `spawned` tells whether `SpawnActor` would return a manipulator. -/
def leftClickingReleased (spawned : Bool) (world : LocalWorld F R) : LocalWorld F R :=
  let clicked := match world.pawn.leftClickState, world.pawn.pressedFurniture with
    | .pressed, some pressed => world.selectPressed pressed spawned
    | .pressed, none => world.deselectOnEmpty
    | _, _ => world
  let activeManipulator :=
    if world.pawn.leftClickState = .dragging then
      clicked.pawn.activeManipulator.map
        fun manipulator => { manipulator with hiddenInGame := false }
    else clicked.pawn.activeManipulator
  { clicked with
    pawn := { clicked.pawn with
      activeManipulator
      pressedFurniture := none
      leftClickState := .idle } }

def onPanStarted (world : LocalWorld F R) : LocalWorld F R :=
  { world with
    pawn := { world.pawn with
      bIsPanning := true
      bCameraControlActive := true
      leftClickState := .idle
      pressedFurniture := none } }

def onPanStopped (world : LocalWorld F R) : LocalWorld F R :=
  { world with
    pawn := { world.pawn with bIsPanning := false, bCameraControlActive := false } }

/-- `OnCameraControlStarted`; the argument tells whether a player controller is present. -/
def onCameraControlStarted (playerController : Bool) (world : LocalWorld F R) :
    LocalWorld F R :=
  if playerController then
    { world with pawn := { world.pawn with bCameraControlActive := true } }
  else world

def onCameraControlStopped (playerController : Bool) (world : LocalWorld F R) :
    LocalWorld F R :=
  if playerController then
    { world with pawn := { world.pawn with bCameraControlActive := false } }
  else world

/-- A drag, an orbit or a rotation is in progress. -/
def LMBState.inGesture : LMBState → Bool
  | .dragging => true
  | .orbiting => true
  | .rotating => true
  | .idle => false
  | .pressed => false

/-- Drop the hover: clear the overlay of the hovered furniture and forget it. -/
def unhover (world : LocalWorld F R) : LocalWorld F R :=
  let cleared := world.modifyOpt world.pawn.hoveredFurniture (·.onUnHovered)
  { cleared with pawn := { cleared.pawn with hoveredFurniture := none } }

/-- Move the hover to another furniture. -/
def hover (hitActor : F) (world : LocalWorld F R) : LocalWorld F R :=
  let cleared := world.modifyOpt world.pawn.hoveredFurniture (·.onUnHovered)
  let hovered := cleared.modify hitActor (·.onHovered world.pawn.hoverMaterial.isSome)
  { hovered with pawn := { hovered.pawn with hoveredFurniture := some hitActor } }

/-- The part of `UpdateHover` which drops the hover of a furniture somebody has locked. -/
def dropLockedHover (world : LocalWorld F R) : LocalWorld F R :=
  match world.pawn.hoveredFurniture with
  | none => world
  | some hovered =>
      if (world.furniture hovered).isSelectableFurniture then world else world.unhover

/-- `UpdateHover`. -/
def updateHover (view : PlayerView F R) (world : LocalWorld F R) : LocalWorld F R :=
  if world.pawn.bCameraControlActive || LMBState.inGesture world.pawn.leftClickState then
    world.unhover
  else
    let current := world.dropLockedHover
    match view.hitActor with
    | none => current.unhover
    | some hitActor =>
        if current.pawn.selectedFurniture ≠ some hitActor ∧
            (current.furniture hitActor).isSelectableFurniture then
          if current.pawn.hoveredFurniture = some hitActor then current
          else current.hover hitActor
        else current.unhover

/-- `UpdateCursor`. -/
def updateCursor (world : LocalWorld F R) : LocalWorld F R :=
  if world.pawn.bCameraControlActive then
    { world with pawn := { world.pawn with bShowMouseCursor := false } }
  else
    { world with
      pawn := { world.pawn with
        bShowMouseCursor := true
        currentMouseCursor :=
          if LMBState.inGesture world.pawn.leftClickState then .grabHandClosed
          else if world.pawn.hoveredFurniture.isSome then .hand
          else .default } }

/-- `UpdateManipulatorHover`. -/
def updateManipulatorHover (view : PlayerView F R) (world : LocalWorld F R) : LocalWorld F R :=
  let hoveredHandle :=
    if world.pawn.bCameraControlActive || LMBState.inGesture world.pawn.leftClickState then
      ManipulatorHandle.none
    else match view.handleHit with
      | some component => resolveHandle component
      | none => .none
  { world with
    pawn := { world.pawn with
      activeManipulator := world.pawn.activeManipulator.map
        fun manipulator => { manipulator with hoveredHandle } } }

/-- `Tick` of a locally controlled pawn. -/
def tick (playerController : Option (PlayerView F R)) (world : LocalWorld F R) :
    LocalWorld F R :=
  match playerController with
  | none => world
  | some view => ((world.updateHover view).updateCursor).updateManipulatorHover view

end LocalWorld

/-- The calls the engine makes into the pawn of a local player. -/
inductive PawnEvent (F R : Type*)
  | leftClicking (playerController : Option (PlayerView F R))
  | leftClickingHeld (playerController : Option (PlayerView F R))
  | leftClickingReleased (spawned : Bool)
  | panStarted
  | panStopped
  | cameraControlStarted (playerController : Bool)
  | cameraControlStopped (playerController : Bool)
  | tick (playerController : Option (PlayerView F R))

/-- Run the handler of an event. -/
def LocalWorld.handle {F R : Type*} [DecidableEq F] [Field R] [LinearOrder R] [FloorRing R]
    [EngineMath R] : PawnEvent F R → LocalWorld F R → LocalWorld F R
  | .leftClicking playerController => leftClicking playerController
  | .leftClickingHeld playerController => leftClickingHeld playerController
  | .leftClickingReleased spawned => leftClickingReleased spawned
  | .panStarted => onPanStarted
  | .panStopped => onPanStopped
  | .cameraControlStarted playerController => onCameraControlStarted playerController
  | .cameraControlStopped playerController => onCameraControlStopped playerController
  | .tick playerController => tick playerController

end Ioroom
