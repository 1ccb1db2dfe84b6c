import Ioroom.EventSystem
import Ioroom.PawnControl

/-!
# Runs of a player's input

The handlers of a locally controlled pawn run one after another.  Between them the rest of the game
may write whatever the handlers only read.  The held buttons decide which events can come next.
-/

namespace Ioroom

/-- The buttons a player holds down. -/
structure HeldButtons where
  left : Bool := false
  pan : Bool := false
  look : Bool := false
deriving DecidableEq, Repr

namespace HeldButtons

variable {F R : Type*}

def after (buttons : HeldButtons) : PawnEvent F R → HeldButtons
  | .leftClicking _ => { buttons with left := true }
  | .leftClickingReleased _ => { buttons with left := false }
  | .panStarted => { buttons with pan := true }
  | .panStopped => { buttons with pan := false }
  | .cameraControlStarted _ => { buttons with look := true }
  | .cameraControlStopped _ => { buttons with look := false }
  | .leftClickingHeld _ | .tick _ => buttons

/-- The left button is pressed, held for a while and released; everything else comes at any time. -/
def LeftCycles (buttons : HeldButtons) : PawnEvent F R → Prop
  | .leftClicking _ => buttons.left = false
  | .leftClickingHeld _ | .leftClickingReleased _ => buttons.left = true
  | .panStarted | .panStopped | .cameraControlStarted _ | .cameraControlStopped _ | .tick _ => True

/-- Starts and stops of either camera button alternate, with a player controller present; everything
else comes at any time. -/
def CameraButtonsAlternate (buttons : HeldButtons) : PawnEvent F R → Prop
  | .panStarted => buttons.pan = false
  | .panStopped => buttons.pan = true
  | .cameraControlStarted playerController => playerController = true ∧ buttons.look = false
  | .cameraControlStopped playerController => playerController = true ∧ buttons.look = true
  | .leftClicking _ | .leftClickingHeld _ | .leftClickingReleased _ | .tick _ => True

end HeldButtons

/-- A pawn on the machine of its player, and the buttons the player holds. -/
structure PawnInput (F R : Type*) [One R] where
  world : LocalWorld F R
  buttons : HeldButtons := {}

/-- One step of the local game: a handler runs, or the rest of the game moves the camera or
replicates furniture and the player state. -/
inductive InputEvent (F R : Type*) [One R]
  | handler (event : PawnEvent F R)
  | outside (furniture : F → FurnitureActor R) (playerState : Option (IoroomPlayerState R))
      (location : FVector R) (controlRotation : FRotator R)

/-- The `Server_*` calls which a handler makes, read off a client's copy of the pawn: there a call
is recorded and nothing else. -/
def LocalWorld.calls {F R : Type*} [DecidableEq F] [Field R] [LinearOrder R] [FloorRing R]
    [EngineMath R] (event : PawnEvent F R) (world : LocalWorld F R) : List (ServerCall F R) :=
  ({ world with hasAuthority := false, sent := [] }.handle event).sent

/-- A pawn none of whose handlers has run yet. -/
structure DesktopPawn.Fresh {F R : Type*} (pawn : DesktopPawn F R) : Prop where
  leftClickState : pawn.leftClickState = .idle
  pressedFurniture : pawn.pressedFurniture = none
  selectedFurniture : pawn.selectedFurniture = none
  activeManipulator : pawn.activeManipulator = none
  bCameraControlActive : pawn.bCameraControlActive = false

theorem DesktopPawn.fresh_spawn {F R : Type*} [Field R] (location : FVector R) :
    (DesktopPawn.spawn location : DesktopPawn F R).Fresh :=
  ⟨rfl, rfl, rfl, rfl, rfl⟩

namespace PawnInput

variable {F R : Type*} [DecidableEq F] [Field R] [LinearOrder R] [FloorRing R] [EngineMath R]

def next (input : PawnInput F R) : InputEvent F R → PawnInput F R
  | .handler event =>
      { world := input.world.handle event
        buttons := input.buttons.after event }
  | .outside furniture playerState location controlRotation =>
      { input with
        world :=
          { input.world with
            furniture
            playerState
            pawn := { input.world.pawn with location, controlRotation } } }

/-- The runs of a fresh pawn whose handlers are called as the held buttons allow. -/
def runs (Allowed : HeldButtons → PawnEvent F R → Prop) :
    EventSystem (PawnInput F R) (InputEvent F R) where
  Start input := input.world.pawn.Fresh ∧ input.buttons = {}
  Enabled input
    | .handler event => Allowed input.buttons event
    | .outside _ _ _ _ => True
  next := next

/-- A fresh pawn over the origin on a client's machine. -/
def atOrigin (F R : Type*) [Field R] : PawnInput F R where
  world :=
    { hasAuthority := false
      furniture := fun _ => { location := 0, rotation := ⟨0, 0, 0⟩ }
      pawn := .spawn 0
      playerState := none }

theorem run_atOrigin (Allowed : HeldButtons → PawnEvent F R → Prop) :
    (runs Allowed).Run [] (atOrigin F R) :=
  .start ⟨DesktopPawn.fresh_spawn 0, rfl⟩

end PawnInput

end Ioroom
