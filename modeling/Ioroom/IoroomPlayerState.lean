import Ioroom.Engine
import Ioroom.IoroomGameState

/-!
# Player states

The part of `AIoroomPlayerState` which the selection lock, the colours and the snapping read: the
stencil slot, the assigned colour and the two snap settings.
-/

namespace Ioroom

/-- `EGridSnap`; `count` is the hidden enumerator. -/
inductive GridSnap
  | minimum
  | fine
  | small
  | medium
  | large
  | count
deriving DecidableEq, Repr

/-- `ERotationSnap`; `count` is the hidden enumerator. -/
inductive RotationSnap
  | minimum
  | fine
  | small
  | medium
  | large
  | count
deriving DecidableEq, Repr

/-- `AIoroomPlayerState` with the defaults of its declaration. -/
structure IoroomPlayerState (R : Type*) [One R] where
  stencilSlot : Int := 0
  assignedColor : FLinearColor R := .white
  gridSnap : GridSnap := .small
  rotationSnap : RotationSnap := .fine

namespace IoroomPlayerState

variable {R : Type*} [Field R]

def getGridStep (playerState : IoroomPlayerState R) : R :=
  match playerState.gridSnap with
  | .minimum => 1.0
  | .fine => 5.0
  | .small => 20.0
  | .medium => 50.0
  | .large => 100.0
  | .count => 20.0

def getRotStep (playerState : IoroomPlayerState R) : R :=
  match playerState.rotationSnap with
  | .minimum => 1.0
  | .fine => 5.0
  | .small => 15.0
  | .medium => 45.0
  | .large => 90.0
  | .count => 15.0

/-- The parameter name `PlayerColor_%d` looked up for a stencil slot. -/
def playerColorName (stencilSlot : Int) : String := "PlayerColor_" ++ toString (stencilSlot - 1)

/-- `InitializePlayerColor` on the authority: reserve a slot and look its colour up in the
parameter collection.  The next-tick callback it schedules belongs to the caller. -/
def initializePlayerColor (playerColorMPC : String → FLinearColor R)
    (gameState : IoroomGameState) (playerState : IoroomPlayerState R) :
    IoroomGameState × IoroomPlayerState R :=
  let reserved := gameState.reserveStencilSlot
  (reserved.2,
    { playerState with
      stencilSlot := reserved.1
      assignedColor := playerColorMPC (playerColorName reserved.1) })

/-- The authority's part of `EndPlay`: give the stored slot back, whatever it is. -/
def endPlay (gameState : IoroomGameState) (playerState : IoroomPlayerState R) :
    IoroomGameState :=
  gameState.releaseStencilSlot playerState.stencilSlot

end IoroomPlayerState

end Ioroom
