import Ioroom.FurnitureActor
import Ioroom.IoroomPlayerState
import Mathlib.Logic.Function.Basic

/-!
# Pawns and their server calls

A pawn's handlers run on one machine, where they read and write that machine's copies of the
furniture and of the pawn.  A `Server_*` call runs its implementation at once on the authority
and is sent to it from every other machine.
-/

namespace Ioroom

/-- `ELMBState`. -/
inductive LMBState
  | idle
  | pressed
  | orbiting
  | dragging
  | rotating
deriving DecidableEq, Repr

/-- `EManipulatorHandle`. -/
inductive ManipulatorHandle
  | none
  | moveXPlus
  | moveXMinus
  | moveYPlus
  | moveYMinus
  | rotate
deriving DecidableEq, Repr

/-- `EMouseCursor`, as far as the pawn uses it. -/
inductive MouseCursor
  | default
  | hand
  | grabHandClosed
deriving DecidableEq, Repr

/-- `AFurnitureManipulator`: the furniture it is attached to and its visible state. -/
structure FurnitureManipulator (F : Type*) where
  attachedTo : Option F := none
  hiddenInGame : Bool := false
  hoveredHandle : ManipulatorHandle := .none
deriving DecidableEq, Repr

/-- `ADesktopPawn` with the controller fields its handlers write. -/
structure DesktopPawn (F R : Type*) where
  hoveredFurniture : Option F := none
  pressedFurniture : Option F := none
  selectedFurniture : Option F := none
  /-- `FurnitureManipulatorClass` is set. -/
  furnitureManipulatorClass : Bool := true
  activeManipulator : Option (FurnitureManipulator F) := none
  bCameraControlActive : Bool := false
  bIsPanning : Bool := false
  leftClickState : LMBState := .idle
  mousePositionOnClick : FVector2D R
  lastMousePosition : FVector2D R
  orbitDragThreshold : R
  orbitSensitivity : R
  orbitPivot : FVector R
  orbitRadius : R
  orbitEntryStartPivot : FVector R
  orbitEntryAlpha : R
  dragOffset : FVector R
  dragPlaneZ : R
  rotationGrabAngle : R
  rotationStartYaw : R
  rotationPlaneZ : R
  location : FVector R
  controlRotation : FRotator R
  bShowMouseCursor : Bool := true
  currentMouseCursor : MouseCursor := .default
  /-- The body mesh can create a dynamic material. -/
  bodyMaterial : Bool := true
  /-- `HoverBaseMaterial` is set. -/
  hoverBaseMaterial : Bool := true
  /-- Colour parameter of `CustomBodyMaterial`, once created. -/
  customBodyMaterial : Option (FLinearColor R) := none
  /-- Colour parameter of `HoverMaterial`, once created. -/
  hoverMaterial : Option (FLinearColor R) := none

/-- A freshly spawned pawn at a location; every other field has its declared default or zero. -/
def DesktopPawn.spawn {F R : Type*} [Field R] (location : FVector R) : DesktopPawn F R where
  mousePositionOnClick := ⟨0, 0⟩
  lastMousePosition := ⟨0, 0⟩
  orbitDragThreshold := 5.0
  orbitSensitivity := 0.5
  orbitPivot := 0
  orbitRadius := 0
  orbitEntryStartPivot := 0
  orbitEntryAlpha := 0
  dragOffset := 0
  dragPlaneZ := 0
  rotationGrabAngle := 0
  rotationStartYaw := 0
  rotationPlaneZ := 0
  location := location
  controlRotation := ⟨0, 0, 0⟩

namespace DesktopPawn

variable {F R : Type*}

/-- `ApplyPlayerVisuals`: create the two dynamic materials where possible and colour them. -/
def applyPlayerVisuals (color : FLinearColor R) (pawn : DesktopPawn F R) : DesktopPawn F R :=
  { pawn with
    customBodyMaterial :=
      if pawn.customBodyMaterial.isSome || pawn.bodyMaterial then some color else none
    hoverMaterial :=
      if pawn.hoverMaterial.isSome || pawn.hoverBaseMaterial then some color else none }

/-- `PossessedBy` a controller with or without a player state. -/
def possessedBy [One R] (playerState : Option (IoroomPlayerState R)) (pawn : DesktopPawn F R) :
    DesktopPawn F R :=
  match playerState with
  | none => pawn
  | some playerState => pawn.applyPlayerVisuals playerState.assignedColor

/-- `OnRep_PlayerState`. -/
def onRepPlayerState [One R] (playerState : Option (IoroomPlayerState R))
    (pawn : DesktopPawn F R) : DesktopPawn F R :=
  match playerState with
  | none => pawn
  | some playerState =>
      if 0 < playerState.stencilSlot then pawn.applyPlayerVisuals playerState.assignedColor
      else pawn

end DesktopPawn

/-- The `Server_*` calls of the left mouse button. -/
inductive ServerCall (F R : Type*)
  | selectFurniture (furniture : Option F)
  | deselectFurniture
  | dragFurniture (newLocation : FVector R)
  | rotateFurniture (newRotation : FRotator R)
  | orbitTransform (newLocation : FVector R) (newRotation : FRotator R)
deriving DecidableEq

/-- `UFUNCTION(Server, Reliable)`; the transform calls are unreliable. -/
def ServerCall.isReliable {F R : Type*} : ServerCall F R → Bool
  | .selectFurniture _ => true
  | .deselectFurniture => true
  | .dragFurniture _ => false
  | .rotateFurniture _ => false
  | .orbitTransform _ _ => false

/-- What the handlers of one pawn read and write on one machine. -/
structure LocalWorld (F R : Type*) [One R] where
  hasAuthority : Bool
  /-- This machine's copies of the furniture. -/
  furniture : F → FurnitureActor R
  /-- This machine's copy of the pawn. -/
  pawn : DesktopPawn F R
  /-- `GetPlayerState<AIoroomPlayerState>()`. -/
  playerState : Option (IoroomPlayerState R)
  /-- Calls sent to the authority, oldest first. -/
  sent : List (ServerCall F R) := []

namespace LocalWorld

variable {F R : Type*} [DecidableEq F] [Field R]

/-- Apply a furniture method to one furniture. -/
def modify (furniture : F) (method : FurnitureActor R → FurnitureActor R)
    (world : LocalWorld F R) : LocalWorld F R :=
  { world with
    furniture := Function.update world.furniture furniture
      (method (world.furniture furniture)) }

/-- Apply a furniture method through a pointer, when it is not null. -/
def modifyOpt (pointer : Option F) (method : FurnitureActor R → FurnitureActor R)
    (world : LocalWorld F R) : LocalWorld F R :=
  match pointer with
  | none => world
  | some furniture => world.modify furniture method

/-- `Server_SelectFurniture_Implementation`.  The previous furniture is released before the player
state is looked up, so without a player state the pointer keeps the released furniture. -/
def serverSelectFurnitureImplementation (furniture : Option F) (world : LocalWorld F R) :
    LocalWorld F R :=
  match furniture with
  | none => world
  | some target =>
      if (world.furniture target).isSelectableFurniture then
        let released := world.modifyOpt world.pawn.selectedFurniture
          (·.onDeselected world.hasAuthority)
        match world.playerState with
        | none => released
        | some playerState =>
            let locked := released.modify target
              (·.onSelected world.hasAuthority playerState.stencilSlot)
            { locked with pawn := { world.pawn with selectedFurniture := some target } }
      else world

/-- `Server_DeselectFurniture_Implementation`. -/
def serverDeselectFurnitureImplementation (world : LocalWorld F R) : LocalWorld F R :=
  match world.pawn.selectedFurniture with
  | none => world
  | some held =>
      { world.modify held (·.onDeselected world.hasAuthority) with
        pawn := { world.pawn with selectedFurniture := none } }

/-- `Server_DragFurniture_Implementation`: the call names no furniture. -/
def serverDragFurnitureImplementation (newLocation : FVector R) (world : LocalWorld F R) :
    LocalWorld F R :=
  world.modifyOpt world.pawn.selectedFurniture (·.setActorLocation newLocation)

/-- `Server_RotateFurniture_Implementation`. -/
def serverRotateFurnitureImplementation (newRotation : FRotator R) (world : LocalWorld F R) :
    LocalWorld F R :=
  world.modifyOpt world.pawn.selectedFurniture (·.setActorRotation newRotation)

/-- `Server_OrbitTransform_Implementation` of a possessed pawn. -/
def serverOrbitTransformImplementation (newLocation : FVector R) (newRotation : FRotator R)
    (world : LocalWorld F R) : LocalWorld F R :=
  { world with
    pawn := { world.pawn with location := newLocation, controlRotation := newRotation } }

/-- The authority executes a call. -/
def execute : ServerCall F R → LocalWorld F R → LocalWorld F R
  | .selectFurniture furniture => serverSelectFurnitureImplementation furniture
  | .deselectFurniture => serverDeselectFurnitureImplementation
  | .dragFurniture newLocation => serverDragFurnitureImplementation newLocation
  | .rotateFurniture newRotation => serverRotateFurnitureImplementation newRotation
  | .orbitTransform newLocation newRotation =>
      serverOrbitTransformImplementation newLocation newRotation

/-- Calling a `Server_*` function: the authority executes it at once, a client sends it. -/
def call (serverCall : ServerCall F R) (world : LocalWorld F R) : LocalWorld F R :=
  if world.hasAuthority then world.execute serverCall
  else { world with sent := world.sent ++ [serverCall] }

end LocalWorld

end Ioroom
