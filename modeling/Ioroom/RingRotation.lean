import Ioroom.GridRounding
import Ioroom.PawnInput

/-!
# Rotation by the ring

Every call of a ring gesture computes the yaw anew from where the gesture began: the start yaw plus
the angle swept by the cursor, rounded to the rotation step.  Since every step divides a whole turn,
the jump of the cursor's angle at the half-turn does not show.
-/

namespace Ioroom

open GridRounding

section Snapping

variable {R : Type*} [Field R] [LinearOrder R] [IsStrictOrderedRing R] [FloorRing R]

/-- `FMath::GridSnap` with a positive grid rounds to the grid. -/
theorem gridSnap_eq_roundTo {grid : R} (positive : 0 < grid) (location : R) :
    gridSnap location grid = roundTo grid location := by
  have halves : (location + grid / 2) / grid = location / grid + 1 / 2 := by
    field_simp
  rw [gridSnap, if_neg positive.ne', halves, roundTo, round_eq]

omit [FloorRing R] in
theorem getRotStep_divides_turn (playerState : IoroomPlayerState R) :
    0 < playerState.getRotStep ∧ ∃ steps : ℤ, (360 : R) = steps * playerState.getRotStep := by
  obtain ⟨stencilSlot, assignedColor, gridSnap, rotationSnap⟩ := playerState
  cases rotationSnap with
  | minimum => exact ⟨by norm_num [IoroomPlayerState.getRotStep], 360, by
      norm_num [IoroomPlayerState.getRotStep]⟩
  | fine => exact ⟨by norm_num [IoroomPlayerState.getRotStep], 72, by
      norm_num [IoroomPlayerState.getRotStep]⟩
  | small => exact ⟨by norm_num [IoroomPlayerState.getRotStep], 24, by
      norm_num [IoroomPlayerState.getRotStep]⟩
  | medium => exact ⟨by norm_num [IoroomPlayerState.getRotStep], 8, by
      norm_num [IoroomPlayerState.getRotStep]⟩
  | large => exact ⟨by norm_num [IoroomPlayerState.getRotStep], 4, by
      norm_num [IoroomPlayerState.getRotStep]⟩
  | count => exact ⟨by norm_num [IoroomPlayerState.getRotStep], 24, by
      norm_num [IoroomPlayerState.getRotStep]⟩

/-- The yaw of a ring gesture. -/
def ringYaw (startYaw grabAngle step currentAngle : R) : R :=
  startYaw + gridSnap (currentAngle - grabAngle) step

variable {step : R} {steps : ℤ}

theorem ringYaw_eq (positive : 0 < step) (startYaw grabAngle currentAngle : R) :
    ringYaw startYaw grabAngle step currentAngle =
      startYaw + roundTo step (currentAngle - grabAngle) := by
  rw [ringYaw, gridSnap_eq_roundTo positive]

theorem abs_ringYaw_sub_le (positive : 0 < step) (startYaw grabAngle currentAngle : R) :
    |ringYaw startYaw grabAngle step currentAngle - (startYaw + (currentAngle - grabAngle))| ≤
      step / 2 := by
  rw [ringYaw_eq positive, add_sub_add_left_eq_sub]
  exact abs_roundTo_sub_le positive (currentAngle - grabAngle)

theorem ringYaw_add_turns (positive : 0 < step) (whole : (360 : R) = steps * step)
    (startYaw grabAngle currentAngle : R) (turns : ℤ) :
    ringYaw startYaw grabAngle step (currentAngle + turns * 360) =
      ringYaw startYaw grabAngle step currentAngle + turns * 360 := by
  have shifted : currentAngle + turns * 360 - grabAngle =
      currentAngle - grabAngle + turns * 360 := by ring
  rw [ringYaw_eq positive, ringYaw_eq positive, shifted, roundTo_add_turns positive whole]
  ring

theorem ringYaw_grab_add_turns (positive : 0 < step) (whole : (360 : R) = steps * step)
    (startYaw grabAngle currentAngle : R) (turns : ℤ) :
    ringYaw startYaw (grabAngle + turns * 360) step currentAngle =
      ringYaw startYaw grabAngle step currentAngle - turns * 360 := by
  have shifted : currentAngle - (grabAngle + turns * 360) =
      currentAngle - grabAngle + (-turns : ℤ) * 360 := by
    push_cast
    ring
  rw [ringYaw_eq positive, ringYaw_eq positive, shifted, roundTo_add_turns positive whole]
  push_cast
  ring

/-- Cursors less than a step apart, modulo whole turns, give yaws at most a step apart. -/
theorem abs_ringYaw_turns_le (positive : 0 < step) (whole : (360 : R) = steps * step)
    (startYaw grabAngle : R) {currentAngle nextAngle : R} {turns : ℤ}
    (close : |nextAngle + turns * 360 - currentAngle| ≤ step) :
    |ringYaw startYaw grabAngle step nextAngle + turns * 360 -
        ringYaw startYaw grabAngle step currentAngle| ≤ step := by
  have closeAngles :
      |nextAngle - grabAngle + turns * 360 - (currentAngle - grabAngle)| ≤ step := by
    have regrouped : nextAngle - grabAngle + turns * 360 - (currentAngle - grabAngle) =
        nextAngle + turns * 360 - currentAngle := by ring
    rw [regrouped]
    exact close
  have bound := abs_roundTo_add_turns_le positive whole closeAngles
  rw [ringYaw_eq positive, ringYaw_eq positive]
  calc
    |startYaw + roundTo step (nextAngle - grabAngle) + turns * 360 -
        (startYaw + roundTo step (currentAngle - grabAngle))| =
        |roundTo step (nextAngle - grabAngle) + turns * 360 -
          roundTo step (currentAngle - grabAngle)| := by
      congr 1
      ring
    _ ≤ step := bound

end Snapping

namespace LocalWorld

variable {F R : Type*} [DecidableEq F] [Field R] [LinearOrder R] [FloorRing R] [EngineMath R]

/-- The direction in which the cursor meets a horizontal plane, seen from a centre. -/
def cursorAngle (view : PlayerView F R) (planeZ : R) (center : FVector R) : R :=
  let worldPoint := rayAtPlane view.rayOrigin view.rayDirection planeZ
  EngineMath.atan2Deg (worldPoint.y - center.y) (worldPoint.x - center.x)

variable {world : LocalWorld F R} {view : PlayerView F R} {held : F}

theorem handleRotate_furniture (holds : world.pawn.selectedFurniture = some held)
    (steep : isNearlyZero view.rayDirection.z = false) :
    (world.handleRotate view).furniture = Function.update world.furniture held
      ((world.furniture held).setActorRotation
        { (world.furniture held).rotation with
          yaw := ringYaw world.pawn.rotationStartYaw world.pawn.rotationGrabAngle
            world.rotationSnap
            (cursorAngle view world.pawn.rotationPlaneZ (world.furniture held).location) }) := by
  simp only [handleRotate, holds, steep]
  exact (move_call_furniture held (.rotateFurniture _) rfl world holds).1

/-- A ring call: the player state of the moment and what the player controller reports. -/
structure RingCall (F R : Type*) [One R] where
  playerState : Option (IoroomPlayerState R)
  view : PlayerView F R

/-- The rotation step which a ring call reads. -/
def RingCall.step (call : RingCall F R) : R :=
  match call.playerState with
  | some playerState => playerState.getRotStep
  | none => 15.0

def ringCall (call : RingCall F R) (world : LocalWorld F R) : LocalWorld F R :=
  { world with playerState := call.playerState }.handleRotate call.view

/-- A sequence of ring calls. -/
def ringCalls (calls : List (RingCall F R)) (world : LocalWorld F R) : LocalWorld F R :=
  calls.foldl (fun world call => world.ringCall call) world

/-- What a ring gesture leaves as it was: the pawn, and of the furniture its place and tilt. -/
structure KeepsGrab (held : F) (world after : LocalWorld F R) : Prop where
  pawn : after.pawn = world.pawn
  location : (after.furniture held).location = (world.furniture held).location
  pitch : (after.furniture held).rotation.pitch = (world.furniture held).rotation.pitch
  roll : (after.furniture held).rotation.roll = (world.furniture held).rotation.roll

omit [DecidableEq F] [LinearOrder R] [FloorRing R] [EngineMath R] in
theorem KeepsGrab.trans {first second third : LocalWorld F R} (left : KeepsGrab held first second)
    (right : KeepsGrab held second third) : KeepsGrab held first third :=
  ⟨right.pawn.trans left.pawn, right.location.trans left.location, right.pitch.trans left.pitch,
    right.roll.trans left.roll⟩

/-- A ring call with a steep ray turns the furniture by the step it reads. -/
theorem ringCall_rotation (holds : world.pawn.selectedFurniture = some held) (call : RingCall F R)
    (steep : isNearlyZero call.view.rayDirection.z = false) :
    (world.ringCall call).furniture held =
      (world.furniture held).setActorRotation
        { (world.furniture held).rotation with
          yaw := ringYaw world.pawn.rotationStartYaw world.pawn.rotationGrabAngle call.step
            (cursorAngle call.view world.pawn.rotationPlaneZ
              (world.furniture held).location) } := by
  have turned := @handleRotate_furniture F R _ _ _ _ _
    { world with playerState := call.playerState } call.view held holds steep
  rw [ringCall, turned, Function.update_self]
  rfl

theorem ringCall_keepsGrab (holds : world.pawn.selectedFurniture = some held)
    (call : RingCall F R) : KeepsGrab held world (world.ringCall call) := by
  have pawn : (world.ringCall call).pawn = world.pawn := handleRotate_pawn call.view _
  cases steep : isNearlyZero call.view.rayDirection.z with
  | true =>
      have same : world.ringCall call = { world with playerState := call.playerState } := by
        simp [ringCall, handleRotate, holds, steep]
      rw [same]
      exact ⟨rfl, rfl, rfl, rfl⟩
  | false =>
      have turned := ringCall_rotation holds call steep
      exact ⟨pawn, by rw [turned]; rfl, by rw [turned]; rfl, by rw [turned]; rfl⟩

theorem ringCalls_keepsGrab (holds : world.pawn.selectedFurniture = some held)
    (calls : List (RingCall F R)) : KeepsGrab held world (world.ringCalls calls) := by
  induction calls generalizing world with
  | nil => exact ⟨rfl, rfl, rfl, rfl⟩
  | cons call calls induction =>
      have first := ringCall_keepsGrab holds call
      have holdsNext : (world.ringCall call).pawn.selectedFurniture = some held := by
        rw [first.pawn]
        exact holds
      exact first.trans (induction holdsNext)

theorem ringCalls_rotation (holds : world.pawn.selectedFurniture = some held)
    (calls : List (RingCall F R)) (call : RingCall F R)
    (steep : isNearlyZero call.view.rayDirection.z = false) :
    ((world.ringCalls (calls ++ [call])).furniture held).rotation =
      { (world.furniture held).rotation with
        yaw := ringYaw world.pawn.rotationStartYaw world.pawn.rotationGrabAngle call.step
          (cursorAngle call.view world.pawn.rotationPlaneZ (world.furniture held).location) } := by
  have kept := ringCalls_keepsGrab holds calls
  have holdsLast : (world.ringCalls calls).pawn.selectedFurniture = some held := by
    rw [kept.pawn]
    exact holds
  have last : world.ringCalls (calls ++ [call]) = (world.ringCalls calls).ringCall call := by
    simp [ringCalls]
  rw [last, ringCall_rotation holdsLast call steep, kept.pawn, kept.location]
  ext
  · exact kept.pitch
  · rfl
  · exact kept.roll

omit [DecidableEq F] [EngineMath R] [FloorRing R] in
theorem RingCall.step_divides_turn [IsStrictOrderedRing R] (call : RingCall F R) :
    0 < call.step ∧ ∃ steps : ℤ, (360 : R) = steps * call.step := by
  obtain ⟨playerState, view⟩ := call
  cases playerState with
  | none => exact ⟨by norm_num [RingCall.step], 24, by norm_num [RingCall.step]⟩
  | some playerState => exact getRotStep_divides_turn playerState

/-- Rotation by the ring is snapped to the step of the moment, independent of the earlier calls of
the gesture, and without a seam: angles which differ by whole turns give yaws which differ by whole
turns, and cursors less than a step apart, modulo whole turns, give yaws at most a step apart. -/
theorem ringRotation_snapped [IsStrictOrderedRing R]
    (holds : world.pawn.selectedFurniture = some held)
    (upright : (world.furniture held).rotation.pitch = 0 ∧
      (world.furniture held).rotation.roll = 0)
    (calls : List (RingCall F R)) (call : RingCall F R)
    (steep : isNearlyZero call.view.rayDirection.z = false) :
    let startYaw := world.pawn.rotationStartYaw
    let grabAngle := world.pawn.rotationGrabAngle
    let angle (view : PlayerView F R) :=
      cursorAngle view world.pawn.rotationPlaneZ (world.furniture held).location
    let rotation (calls : List (RingCall F R)) :=
      ((world.ringCalls calls).furniture held).rotation
    let turned := rotation (calls ++ [call])
    (turned.pitch = 0 ∧ turned.roll = 0) ∧
    (∃ steps : ℤ, turned.yaw = startYaw + steps * call.step) ∧
    |turned.yaw - (startYaw + (angle call.view - grabAngle))| ≤ call.step / 2 ∧
    (∀ others, rotation (others ++ [call]) = turned) ∧
    turned.yaw = ringYaw startYaw grabAngle call.step (angle call.view) ∧
    (∀ turns : ℤ,
      ringYaw startYaw grabAngle call.step (angle call.view + turns * 360) =
          turned.yaw + turns * 360 ∧
        ringYaw startYaw (grabAngle + turns * 360) call.step (angle call.view) =
          turned.yaw - turns * 360) ∧
    ∀ (next : RingCall F R) (turns : ℤ), next.step = call.step →
      isNearlyZero next.view.rayDirection.z = false →
      |angle next.view + turns * 360 - angle call.view| < call.step →
      |(rotation (calls ++ [call] ++ [next])).yaw + turns * 360 - turned.yaw| ≤ call.step := by
  intro startYaw grabAngle angle rotation turned
  obtain ⟨positive, steps, whole⟩ := call.step_divides_turn
  have turned_eq : turned = _ := ringCalls_rotation holds calls call steep
  have yaw : turned.yaw = ringYaw startYaw grabAngle call.step (angle call.view) := by
    rw [turned_eq]
  refine ⟨?_, ?_, ?_, ?_, yaw, ?_, ?_⟩
  · rw [turned_eq]
    exact upright
  · obtain ⟨multiple, rounded⟩ := exists_roundTo_eq call.step (angle call.view - grabAngle)
    exact ⟨multiple, by rw [yaw, ringYaw_eq positive, rounded]⟩
  · rw [yaw]
    exact abs_ringYaw_sub_le positive startYaw grabAngle _
  · intro others
    exact (ringCalls_rotation holds others call steep).trans turned_eq.symm
  · intro turns
    rw [yaw]
    exact ⟨ringYaw_add_turns positive whole startYaw grabAngle _ turns,
      ringYaw_grab_add_turns positive whole startYaw grabAngle _ turns⟩
  · intro next turns sameStep steepNext close
    have next_eq : rotation (calls ++ [call] ++ [next]) = _ :=
      ringCalls_rotation holds (calls ++ [call]) next steepNext
    rw [yaw, next_eq, sameStep]
    exact abs_ringYaw_turns_le positive whole startYaw grabAngle close.le

section QuarterTurn

local instance ringMath : EngineMath ℚ := quarterTurnMath

/-- Furniture 5 at the origin, grabbed by its ring a little to the north of the east. -/
def grabbedEast : LocalWorld Nat ℚ where
  hasAuthority := false
  furniture _ := { location := 0, rotation := ⟨0, 0, 0⟩ }
  pawn :=
    { DesktopPawn.spawn 0 with
      selectedFurniture := some 5
      leftClickState := .rotating
      rotationGrabAngle := 20 }
  playerState := none

theorem grabbedEast_holds : grabbedEast.pawn.selectedFurniture = some 5 := rfl

/-- The cursor straight above a point to the north. -/
def northView : PlayerView Nat ℚ := { PlayerView.overhead none none with rayOrigin := ⟨0, 10, 10⟩ }

/-- The cursor straight above a point to the west. -/
def westView : PlayerView Nat ℚ := { PlayerView.overhead none none with rayOrigin := ⟨-10, 0, 10⟩ }

/-- Turned to the north and to the west in steps of 45 and then, in steps of 15, back to the north,
the furniture ends five small steps from its start, as if it had been turned there at once. -/
theorem ringRotation_snapped_stepChange :
    let coarse : Option (IoroomPlayerState ℚ) := some { rotationSnap := .medium }
    let fine : Option (IoroomPlayerState ℚ) := some { rotationSnap := .small }
    let earlier : List (RingCall Nat ℚ) := [⟨coarse, northView⟩, ⟨coarse, westView⟩]
    let rotation (calls : List (RingCall Nat ℚ)) :=
      ((grabbedEast.ringCalls calls).furniture 5).rotation
    let turned := rotation (earlier ++ [⟨fine, northView⟩])
    (rotation earlier).yaw = 180 ∧ turned.yaw = 75 ∧
      (∃ steps : ℤ, turned.yaw = 0 + steps * (15.0 : ℚ)) ∧
      rotation [⟨fine, northView⟩] = turned := by
  intro coarse fine earlier rotation turned
  obtain ⟨_, multiple, _, independent, _⟩ := ringRotation_snapped grabbedEast_holds ⟨rfl, rfl⟩
    earlier ⟨fine, northView⟩ (by decide +kernel)
  exact ⟨by decide +kernel, by decide +kernel, multiple, independent []⟩

end QuarterTurn

end LocalWorld

end Ioroom
