import Ioroom.DragGesture
import Ioroom.RingRotation

/-!
# Projections of the cursor

Ring, drag and rotation take from the cursor's ray the points where its line meets horizontal
planes, and nothing else.  The guard of the handlers only rejects rays which are nearly parallel to
such a plane, so a point may lie on the half of the line which the camera does not see, and the
furniture follows it there.
-/

namespace Ioroom

/-- A use of the cursor's ray: the plane in which a handler takes the point under the cursor. -/
structure Projection (R : Type*) where
  rayOrigin : FVector R
  rayDirection : FVector R
  planeZ : R
deriving DecidableEq, Repr

namespace Projection

variable {R : Type*} [Field R] [LinearOrder R]

def point (projection : Projection R) : FVector R :=
  rayAtPlane projection.rayOrigin projection.rayDirection projection.planeZ

/-- The point is on the plane and on the visible half of the ray. -/
def Forward (projection : Projection R) : Prop :=
  projection.point.z = projection.planeZ ∧
    ∃ t : R, 0 ≤ t ∧ projection.point = projection.rayOrigin + t • projection.rayDirection

/-- A descending ray starts at or above the plane, and an ascending one at or below it. -/
def Faces (projection : Projection R) : Prop :=
  (projection.rayDirection.z < 0 → projection.planeZ ≤ projection.rayOrigin.z) ∧
    (0 < projection.rayDirection.z → projection.rayOrigin.z ≤ projection.planeZ)

instance (projection : Projection R) : Decidable projection.Faces :=
  inferInstanceAs (Decidable (_ ∧ _))

variable {projection : Projection R}

omit [LinearOrder R] in
theorem point_z (sloped : projection.rayDirection.z ≠ 0) :
    projection.point.z = projection.planeZ := by
  simp only [point, rayAtPlane, FVector.add_z, FVector.smul_z]
  rw [div_mul_cancel₀ _ sloped]
  ring

omit [LinearOrder R] in
theorem point_eq_iff (sloped : projection.rayDirection.z ≠ 0) (t : R) :
    projection.point = projection.rayOrigin + t • projection.rayDirection ↔
      t = (projection.planeZ - projection.rayOrigin.z) / projection.rayDirection.z := by
  constructor
  · intro same
    have height := congrArg FVector.z same
    rw [point_z sloped, FVector.add_z, FVector.smul_z] at height
    rw [eq_div_iff sloped, height]
    ring
  · rintro rfl
    rfl

variable [IsStrictOrderedRing R]

/-- A sloped ray is projected forward exactly when it heads for the plane. -/
theorem forward_iff_faces (sloped : projection.rayDirection.z ≠ 0) :
    projection.Forward ↔ projection.Faces := by
  have forward_iff : projection.Forward ↔
      0 ≤ (projection.planeZ - projection.rayOrigin.z) / projection.rayDirection.z := by
    simp only [Forward, point_eq_iff sloped, point_z sloped, true_and, exists_eq_right]
  rw [forward_iff, Faces]
  rcases sloped.lt_or_gt with descends | ascends
  · rw [le_div_iff_of_neg descends, zero_mul, sub_nonpos]
    simp [descends, descends.not_gt]
  · rw [le_div_iff₀ ascends, zero_mul, sub_nonneg]
    simp [ascends, ascends.not_gt]

end Projection

section Handlers

variable {F R : Type*} [DecidableEq F] [Field R] [LinearOrder R]

/-- The view with another ray under the cursor. -/
def PlayerView.withRay (rayOrigin rayDirection : FVector R) (view : PlayerView F R) :
    PlayerView F R :=
  { view with rayOrigin, rayDirection }

/-- The view which a left-button handler gets. -/
def PawnEvent.leftView : PawnEvent F R → Option (PlayerView F R)
  | .leftClicking playerController => playerController
  | .leftClickingHeld playerController => playerController
  | _ => none

/-- The left-button handler with another ray under the cursor. -/
def PawnEvent.withRay (rayOrigin rayDirection : FVector R) : PawnEvent F R → PawnEvent F R
  | .leftClicking playerController =>
      .leftClicking (playerController.map (·.withRay rayOrigin rayDirection))
  | .leftClickingHeld playerController =>
      .leftClickingHeld (playerController.map (·.withRay rayOrigin rayDirection))
  | event => event

namespace LocalWorld

/-- The plane of the ring grab in `LeftClicking`. -/
def ringPlanes (view : PlayerView F R) (world : LocalWorld F R) : List R :=
  match world.pawn.activeManipulator, world.pawn.selectedFurniture, view.handleHit with
  | some _, some selected, some component =>
      if resolveHandle component = .rotate then [(world.furniture selected).location.z] else []
  | _, _, _ => []

/-- The height of the surface which `HandleDrag` traces at the point under the cursor, moved by the
drag offset, or of the drag plane where the trace hits nothing. -/
def surfaceZ (view : PlayerView F R) (pawn : DesktopPawn F R) : R :=
  let worldPoint := rayAtPlane view.rayOrigin view.rayDirection pawn.dragPlaneZ
  let newX := worldPoint.x + pawn.dragOffset.x
  let newY := worldPoint.y + pawn.dragOffset.y
  match view.lineTrace ⟨newX, newY, pawn.dragPlaneZ + (500 : ℕ)⟩ ⟨newX, newY, -(10000 : ℕ)⟩ with
  | some impactPoint => impactPoint.z
  | none => pawn.dragPlaneZ

/-- The plane of the drag start in `LeftClickingHeld`, the two planes of `HandleDrag` and the plane
of `HandleRotate`. -/
def heldPlanes [EngineMath R] (view : PlayerView F R) (world : LocalWorld F R) : List R :=
  match world.pawn.leftClickState with
  | .pressed =>
      match world.pawn.pressedFurniture with
      | some pressed =>
          if world.pawn.orbitDragThreshold <
                view.mousePosition.distance world.pawn.mousePositionOnClick ∧
              world.pawn.selectedFurniture = some pressed then
            [(world.furniture pressed).location.z]
          else []
      | none => []
  | .rotating =>
      if world.pawn.selectedFurniture.isSome then [world.pawn.rotationPlaneZ] else []
  | .dragging =>
      if world.pawn.selectedFurniture.isSome then
        [world.pawn.dragPlaneZ, surfaceZ view world.pawn]
      else []
  | .idle | .orbiting => []

/-- The planes in which a handler takes the point under the cursor, past its guard. -/
def cursorPlanes [EngineMath R] (world : LocalWorld F R) : PawnEvent F R → List R
  | .leftClicking (some view) =>
      if world.pawn.bCameraControlActive || isNearlyZero view.rayDirection.z then []
      else world.ringPlanes view
  | .leftClickingHeld (some view) =>
      if isNearlyZero view.rayDirection.z then [] else world.heldPlanes view
  | _ => []

/-- The uses of the cursor's ray by a handler. -/
def projections [EngineMath R] (world : LocalWorld F R) (event : PawnEvent F R) :
    List (Projection R) :=
  match event.leftView with
  | none => []
  | some view =>
      (world.cursorPlanes event).map fun planeZ => ⟨view.rayOrigin, view.rayDirection, planeZ⟩

/-- The direction in which a point is seen from a centre. -/
def directionFrom [EngineMath R] (center point : FVector R) : R :=
  EngineMath.atan2Deg (point.y - center.y) (point.x - center.x)

/-- The furniture after a drag to a point: moved by the drag offset, at a height. -/
def draggedTo (world : LocalWorld F R) (furniture : F) (point : FVector R) (height : R) :
    FurnitureActor R :=
  (world.furniture furniture).setActorLocation
    ⟨point.x + world.pawn.dragOffset.x, point.y + world.pawn.dragOffset.y, height⟩

/-- The furniture after a rotation towards a point: by whole steps from the point of the grab. -/
def turnedTowards [FloorRing R] [EngineMath R] (world : LocalWorld F R) (furniture : F)
    (point : FVector R) : FurnitureActor R :=
  (world.furniture furniture).setActorRotation
    { (world.furniture furniture).rotation with
      yaw := world.pawn.rotationStartYaw +
        gridSnap (directionFrom (world.furniture furniture).location point -
          world.pawn.rotationGrabAngle) world.rotationSnap }

/-- What a handler writes from the points under the cursor which it takes. -/
inductive CursorUse [FloorRing R] [EngineMath R] (world after : LocalWorld F R) :
    List (Projection R) → Prop
  | unused : CursorUse world after []
  | grabbed (projection : Projection R) (held : F)
      (selected : world.pawn.selectedFurniture = some held)
      (furniture : after.furniture = world.furniture)
      (plane : after.pawn.rotationPlaneZ = projection.planeZ)
      (grabAngle : after.pawn.rotationGrabAngle =
        directionFrom (world.furniture held).location projection.point) :
      CursorUse world after [projection]
  | begun (projection : Projection R) (pressed : F)
      (selected : world.pawn.selectedFurniture = some pressed)
      (furniture : after.furniture = world.furniture)
      (plane : after.pawn.dragPlaneZ = projection.planeZ)
      (offset : after.pawn.dragOffset =
        ⟨(world.furniture pressed).location.x - projection.point.x,
          (world.furniture pressed).location.y - projection.point.y, 0⟩) :
      CursorUse world after [projection]
  | turned (projection : Projection R) (held : F)
      (selected : world.pawn.selectedFurniture = some held)
      (furniture : after.furniture =
        Function.update world.furniture held (world.turnedTowards held projection.point))
      (pawn : after.pawn = world.pawn) :
      CursorUse world after [projection]
  | dragged (aimed landed : Projection R) (held : F)
      (selected : world.pawn.selectedFurniture = some held)
      (furniture : after.furniture =
        Function.update world.furniture held (world.draggedTo held aimed.point landed.planeZ))
      (pawn : after.pawn =
        { world.pawn with
          dragOffset :=
            ⟨aimed.point.x + world.pawn.dragOffset.x - landed.point.x,
              aimed.point.y + world.pawn.dragOffset.y - landed.point.y,
              world.pawn.dragOffset.z⟩
          dragPlaneZ := landed.planeZ }) :
      CursorUse world after [aimed, landed]

/-- The handler drags the furniture to the point or turns it towards the point. -/
def LedBy [FloorRing R] [EngineMath R] (world after : LocalWorld F R) (furniture : F)
    (point : FVector R) : Prop :=
  (∃ height, after.furniture furniture = world.draggedTo furniture point height) ∨
    after.furniture furniture = world.turnedTowards furniture point

/-- A handler only uses points on their planes and in front of the camera, and only to such points
it drags and turns furniture. -/
structure ForwardOnly [FloorRing R] [EngineMath R] (event : PawnEvent F R)
    (world : LocalWorld F R) : Prop where
  forward : ∀ projection ∈ world.projections event, projection.Forward
  led : world.projections event ≠ [] → ∀ furniture,
    (world.handle event).furniture furniture ≠ world.furniture furniture →
      ∃ projection ∈ world.projections event, projection.Forward ∧
        world.LedBy (world.handle event) furniture projection.point

/-- The rays of two views meet the plane at the same point. -/
def SamePoint (left right : PlayerView F R) (planeZ : R) : Prop :=
  rayAtPlane left.rayOrigin left.rayDirection planeZ =
    rayAtPlane right.rayOrigin right.rayDirection planeZ

variable {world : LocalWorld F R} {view : PlayerView F R} {held : F}
  {rayOrigin rayDirection : FVector R}

omit [DecidableEq F] [LinearOrder R] in
theorem dragTarget_eq (pawn : DesktopPawn F R) :
    dragTarget view pawn =
      ⟨(rayAtPlane view.rayOrigin view.rayDirection pawn.dragPlaneZ).x + pawn.dragOffset.x,
        (rayAtPlane view.rayOrigin view.rayDirection pawn.dragPlaneZ).y + pawn.dragOffset.y,
        surfaceZ view pawn⟩ := by
  simp only [dragTarget, surfaceZ]
  cases view.lineTrace _ _ <;> rfl

omit [DecidableEq F] [LinearOrder R] in
theorem dragTarget_withRay {pawn : DesktopPawn F R}
    (same : SamePoint (view.withRay rayOrigin rayDirection) view pawn.dragPlaneZ) :
    dragTarget (view.withRay rayOrigin rayDirection) pawn = dragTarget view pawn := by
  unfold SamePoint at same
  simp only [dragTarget, same]
  rfl

omit [DecidableEq F] [LinearOrder R] in
theorem offsetFrom_withRay {location : FVector R}
    (same : SamePoint (view.withRay rayOrigin rayDirection) view location.z) (z : R) :
    offsetFrom (view.withRay rayOrigin rayDirection) location z = offsetFrom view location z := by
  unfold SamePoint at same
  simp only [offsetFrom, same]

omit [DecidableEq F] in
theorem grabRing_withRay [EngineMath R]
    (guard : isNearlyZero rayDirection.z = isNearlyZero view.rayDirection.z)
    (same : isNearlyZero view.rayDirection.z = false →
      SamePoint (view.withRay rayOrigin rayDirection) view (world.furniture held).location.z) :
    world.grabRing held (view.withRay rayOrigin rayDirection) = world.grabRing held view := by
  cases steep : isNearlyZero view.rayDirection.z with
  | true => simp [grabRing, PlayerView.withRay, guard, steep]
  | false =>
      have point := same steep
      simp only [SamePoint, PlayerView.withRay] at point
      simp only [grabRing, PlayerView.withRay, guard, steep, point]

omit [DecidableEq F] in
theorem beginDrag_withRay (guard : isNearlyZero rayDirection.z = isNearlyZero view.rayDirection.z)
    (same : isNearlyZero view.rayDirection.z = false →
      SamePoint (view.withRay rayOrigin rayDirection) view (world.furniture held).location.z) :
    world.beginDrag held (view.withRay rayOrigin rayDirection) = world.beginDrag held view := by
  cases steep : isNearlyZero view.rayDirection.z with
  | true => simp [beginDrag, PlayerView.withRay, guard, steep]
  | false =>
      have point := same steep
      simp only [SamePoint, PlayerView.withRay] at point
      simp only [beginDrag, PlayerView.withRay, guard, steep, point]

theorem handleRotate_withRay [FloorRing R] [EngineMath R]
    (holds : world.pawn.selectedFurniture = some held)
    (guard : isNearlyZero rayDirection.z = isNearlyZero view.rayDirection.z)
    (same : isNearlyZero view.rayDirection.z = false →
      SamePoint (view.withRay rayOrigin rayDirection) view world.pawn.rotationPlaneZ) :
    world.handleRotate (view.withRay rayOrigin rayDirection) = world.handleRotate view := by
  cases steep : isNearlyZero view.rayDirection.z with
  | true => simp [handleRotate, PlayerView.withRay, holds, guard, steep]
  | false =>
      have point := same steep
      simp only [SamePoint, PlayerView.withRay] at point
      simp only [handleRotate, PlayerView.withRay, holds, guard, steep, point]

theorem handleDrag_withRay (holds : world.pawn.selectedFurniture = some held)
    (guard : isNearlyZero rayDirection.z = isNearlyZero view.rayDirection.z)
    (same : isNearlyZero view.rayDirection.z = false →
      SamePoint (view.withRay rayOrigin rayDirection) view world.pawn.dragPlaneZ ∧
        SamePoint (view.withRay rayOrigin rayDirection) view (surfaceZ view world.pawn)) :
    world.handleDrag (view.withRay rayOrigin rayDirection) = world.handleDrag view := by
  cases steep : isNearlyZero view.rayDirection.z with
  | true => simp [handleDrag, PlayerView.withRay, holds, guard, steep]
  | false =>
      obtain ⟨aimed, landed⟩ := same steep
      have height : (dragTarget view world.pawn).z = surfaceZ view world.pawn := by
        rw [dragTarget_eq]
      rw [← height] at landed
      have steepToo : isNearlyZero (view.withRay rayOrigin rayDirection).rayDirection.z = false :=
        guard.trans steep
      simp only [handleDrag_eq holds steepToo, handleDrag_eq holds steep,
        dragTarget_withRay aimed, offsetFrom_withRay landed]

variable [FloorRing R] [EngineMath R]

omit [FloorRing R] in
theorem leftClicking_withRay
    (guard : isNearlyZero rayDirection.z = isNearlyZero view.rayDirection.z)
    (same : ∀ planeZ ∈ world.cursorPlanes (.leftClicking (some view)),
      SamePoint (view.withRay rayOrigin rayDirection) view planeZ) :
    world.leftClicking (some (view.withRay rayOrigin rayDirection)) =
      world.leftClicking (some view) := by
  cases active : world.pawn.bCameraControlActive with
  | true => simp only [leftClicking, active, if_true]
  | false =>
      have clicked : world.clickManipulator (view.withRay rayOrigin rayDirection) =
          world.clickManipulator view := by
        have hit : (view.withRay rayOrigin rayDirection).handleHit = view.handleHit := rfl
        simp only [clickManipulator, hit]
        cases manipulator : world.pawn.activeManipulator with
        | none => rfl
        | some _ =>
            cases holds : world.pawn.selectedFurniture with
            | none => rfl
            | some held =>
                cases struck : view.handleHit with
                | none => rfl
                | some component =>
                    by_cases ring : resolveHandle component = .rotate
                    · simp only [ring, if_true]
                      refine congrArg some (grabRing_withRay guard fun steep => same _ ?_)
                      simp [cursorPlanes, ringPlanes, active, steep, manipulator, holds, struck,
                        ring]
                    · simp only [ring, if_false]
      simp only [leftClicking, active, clicked]
      rfl

omit [FloorRing R] in
theorem heldPressed_withRay (pressing : world.pawn.leftClickState = .pressed)
    (guard : isNearlyZero rayDirection.z = isNearlyZero view.rayDirection.z)
    (same : ∀ planeZ ∈ world.cursorPlanes (.leftClickingHeld (some view)),
      SamePoint (view.withRay rayOrigin rayDirection) view planeZ) :
    world.heldPressed (view.withRay rayOrigin rayDirection) = world.heldPressed view := by
  have mouse : (view.withRay rayOrigin rayDirection).mousePosition = view.mousePosition := rfl
  simp only [heldPressed, mouse]
  split
  · next moved =>
      cases hit : world.pawn.pressedFurniture with
      | none => rfl
      | some pressed =>
          by_cases holds : world.pawn.selectedFurniture = some pressed
          · simp only [holds, if_true]
            refine beginDrag_withRay guard fun steep => same _ ?_
            simp [cursorPlanes, heldPlanes, steep, pressing, hit, moved, holds]
          · simp only [holds, if_false]
  · rfl

theorem leftClickingHeld_withRay
    (guard : isNearlyZero rayDirection.z = isNearlyZero view.rayDirection.z)
    (same : ∀ planeZ ∈ world.cursorPlanes (.leftClickingHeld (some view)),
      SamePoint (view.withRay rayOrigin rayDirection) view planeZ) :
    world.leftClickingHeld (some (view.withRay rayOrigin rayDirection)) =
      world.leftClickingHeld (some view) := by
  simp only [leftClickingHeld]
  cases state : world.pawn.leftClickState with
  | idle => rfl
  | orbiting => rfl
  | pressed => exact heldPressed_withRay state guard same
  | rotating =>
      cases holds : world.pawn.selectedFurniture with
      | none => simp only [handleRotate, holds]
      | some held =>
          refine handleRotate_withRay holds guard fun steep => same _ ?_
          simp [cursorPlanes, heldPlanes, steep, state, holds]
  | dragging =>
      cases holds : world.pawn.selectedFurniture with
      | none => simp only [handleDrag, holds]
      | some held =>
          refine handleDrag_withRay holds guard fun steep => ⟨same _ ?_, same _ ?_⟩ <;>
            simp [cursorPlanes, heldPlanes, steep, state, holds]

/-- Of the cursor's ray a handler uses the verdict of its guard and the projected points, and
nothing else: any other ray with the same verdict and the same points has the same effect. -/
theorem handle_withRay {event : PawnEvent F R}
    (guard : ∀ view, event.leftView = some view →
      isNearlyZero rayDirection.z = isNearlyZero view.rayDirection.z)
    (same : ∀ projection ∈ world.projections event,
      rayAtPlane rayOrigin rayDirection projection.planeZ = projection.point) :
    world.handle (event.withRay rayOrigin rayDirection) = world.handle event := by
  have points : ∀ view, event.leftView = some view → ∀ planeZ ∈ world.cursorPlanes event,
      SamePoint (view.withRay rayOrigin rayDirection) view planeZ := by
    intro view seen planeZ member
    refine same ⟨view.rayOrigin, view.rayDirection, planeZ⟩ ?_
    simp only [projections, seen]
    exact List.mem_map.mpr ⟨planeZ, member, rfl⟩
  cases event with
  | leftClicking playerController =>
      cases playerController with
      | none => rfl
      | some view => exact leftClicking_withRay (guard view rfl) (points view rfl)
  | leftClickingHeld playerController =>
      cases playerController with
      | none => rfl
      | some view => exact leftClickingHeld_withRay (guard view rfl) (points view rfl)
  | leftClickingReleased spawned => rfl
  | panStarted => rfl
  | panStopped => rfl
  | cameraControlStarted playerController => rfl
  | cameraControlStopped playerController => rfl
  | tick playerController => rfl

theorem leftClicking_use :
    CursorUse world (world.leftClicking (some view))
      (world.projections (.leftClicking (some view))) := by
  have idle : CursorUse world (world.leftClicking (some view)) [] := .unused
  cases active : world.pawn.bCameraControlActive with
  | true => simpa [projections, PawnEvent.leftView, cursorPlanes, active] using idle
  | false =>
      cases steep : isNearlyZero view.rayDirection.z with
      | true => simpa [projections, PawnEvent.leftView, cursorPlanes, steep] using idle
      | false =>
          simp only [projections, PawnEvent.leftView, cursorPlanes, ringPlanes, active, steep,
            Bool.or_self, Bool.false_eq_true, if_false]
          split
          · next manipulator held component shown holds struck =>
              split
              · next ring =>
                  have clicked : world.clickManipulator view =
                      some (world.grabRing held view) := by
                    simp only [clickManipulator, shown, holds, struck, ring, if_true]
                  simp only [leftClicking, active, clicked, Bool.false_eq_true, if_false,
                    Option.getD_some, grabRing, steep, List.map_cons, List.map_nil]
                  exact .grabbed _ held holds rfl rfl rfl
              · exact idle
          · exact idle

theorem heldPressed_use (pressing : world.pawn.leftClickState = .pressed)
    (steep : isNearlyZero view.rayDirection.z = false) :
    CursorUse world (world.heldPressed view)
      ((world.heldPlanes view).map fun planeZ => ⟨view.rayOrigin, view.rayDirection, planeZ⟩) := by
  simp only [heldPlanes, pressing]
  split
  · next pressed hit =>
      split
      · next moved =>
          obtain ⟨far, holds⟩ := moved
          have begun : world.heldPressed view =
              beginDrag pressed view { world with
                pawn := { world.pawn with lastMousePosition := view.mousePosition } } := by
            simp only [heldPressed, far, hit, holds, if_true]
          rw [begun]
          simp only [beginDrag, steep, Bool.false_eq_true, if_false]
          exact .begun _ pressed holds rfl rfl rfl
      · exact .unused
  · exact .unused

theorem leftClickingHeld_use :
    CursorUse world (world.leftClickingHeld (some view))
      (world.projections (.leftClickingHeld (some view))) := by
  have idle : CursorUse world (world.leftClickingHeld (some view)) [] := .unused
  cases steep : isNearlyZero view.rayDirection.z with
  | true => simpa [projections, PawnEvent.leftView, cursorPlanes, steep] using idle
  | false =>
      simp only [projections, PawnEvent.leftView, cursorPlanes, steep, Bool.false_eq_true, if_false,
        leftClickingHeld]
      cases state : world.pawn.leftClickState with
      | pressed => exact heldPressed_use state steep
      | idle | orbiting =>
          simp only [heldPlanes, state]
          exact .unused
      | rotating =>
          simp only [heldPlanes, state]
          cases holds : world.pawn.selectedFurniture with
          | none => exact .unused
          | some held =>
              exact .turned _ held holds (handleRotate_furniture holds steep)
                (handleRotate_pawn view world)
      | dragging =>
          simp only [heldPlanes, state]
          cases holds : world.pawn.selectedFurniture with
          | none => exact .unused
          | some held =>
              obtain ⟨furniture, pawn, _⟩ := handleDrag_spec holds steep
              rw [dragTarget_eq] at furniture pawn
              exact .dragged _ _ held holds furniture pawn

theorem handle_use (event : PawnEvent F R) (world : LocalWorld F R) :
    CursorUse world (world.handle event) (world.projections event) := by
  cases event with
  | leftClicking playerController =>
      cases playerController with
      | none => exact .unused
      | some view => exact leftClicking_use
  | leftClickingHeld playerController =>
      cases playerController with
      | none => exact .unused
      | some view => exact leftClickingHeld_use
  | leftClickingReleased | panStarted | panStopped | cameraControlStarted
  | cameraControlStopped | tick => exact .unused

/-- Furniture which changes through the points under the cursor is led by one of them. -/
theorem CursorUse.led {after : LocalWorld F R} {used : List (Projection R)}
    (use : CursorUse world after used) (some_used : used ≠ []) {furniture : F}
    (changed : after.furniture furniture ≠ world.furniture furniture) :
    ∃ projection ∈ used, world.LedBy after furniture projection.point := by
  cases use with
  | unused => exact absurd rfl some_used
  | grabbed projection held _ same =>
      rw [same] at changed
      exact absurd rfl changed
  | begun projection pressed _ same =>
      rw [same] at changed
      exact absurd rfl changed
  | turned projection held _ moved =>
      obtain rfl : furniture = held := by
        by_contra other
        rw [moved, Function.update_of_ne other] at changed
        exact changed rfl
      refine ⟨projection, List.mem_cons_self, Or.inr ?_⟩
      rw [moved, Function.update_self]
  | dragged aimed landed held _ moved =>
      obtain rfl : furniture = held := by
        by_contra other
        rw [moved, Function.update_of_ne other] at changed
        exact changed rfl
      refine ⟨aimed, List.mem_cons_self, Or.inl ⟨landed.planeZ, ?_⟩⟩
      rw [moved, Function.update_self]

omit [FloorRing R] in
theorem cursorPlanes_steep {event : PawnEvent F R} {planeZ : R}
    (plane : planeZ ∈ world.cursorPlanes event) (seen : event.leftView = some view) :
    isNearlyZero view.rayDirection.z = false := by
  cases event with
  | leftClicking playerController =>
      obtain rfl : playerController = some view := seen
      cases steep : isNearlyZero view.rayDirection.z with
      | false => rfl
      | true => simp [cursorPlanes, steep] at plane
  | leftClickingHeld playerController =>
      obtain rfl : playerController = some view := seen
      cases steep : isNearlyZero view.rayDirection.z with
      | false => rfl
      | true => simp [cursorPlanes, steep] at plane
  | leftClickingReleased | panStarted | panStopped | cameraControlStarted
  | cameraControlStopped | tick => cases seen

omit [FloorRing R] in
theorem projections_sloped [IsStrictOrderedRing R] {event : PawnEvent F R}
    {projection : Projection R} (member : projection ∈ world.projections event) :
    projection.rayDirection.z ≠ 0 := by
  cases seen : event.leftView with
  | none => simp [projections, seen] at member
  | some view =>
      simp only [projections, seen] at member
      obtain ⟨planeZ, plane, rfl⟩ := List.mem_map.mp member
      intro flat
      have steep := cursorPlanes_steep plane seen
      rw [flat] at steep
      simp [isNearlyZero] at steep

/-- A handler takes from the cursor's ray the listed points and its guard's verdict only, it writes
from them the offset, the angle, the location or the yaw, and it stays in front of the camera
exactly when the ray heads for every plane in which a point is taken. -/
theorem projections_forward_iff [IsStrictOrderedRing R] (event : PawnEvent F R)
    (world : LocalWorld F R) :
    (∀ rayOrigin rayDirection : FVector R,
        (∀ view, event.leftView = some view →
          isNearlyZero rayDirection.z = isNearlyZero view.rayDirection.z) →
        (∀ projection ∈ world.projections event,
          rayAtPlane rayOrigin rayDirection projection.planeZ = projection.point) →
        world.handle (event.withRay rayOrigin rayDirection) = world.handle event) ∧
      CursorUse world (world.handle event) (world.projections event) ∧
      (world.ForwardOnly event ↔ ∀ projection ∈ world.projections event, projection.Faces) := by
  have use := handle_use event world
  refine ⟨fun _ _ => handle_withRay, use, ?_, ?_⟩
  · intro only projection member
    exact (Projection.forward_iff_faces (projections_sloped member)).mp (only.forward _ member)
  · intro faces
    have forward : ∀ projection ∈ world.projections event, projection.Forward :=
      fun projection member =>
        (Projection.forward_iff_faces (projections_sloped member)).mpr (faces _ member)
    refine ⟨forward, fun taken furniture changed => ?_⟩
    obtain ⟨projection, member, leads⟩ := use.led taken changed
    exact ⟨projection, member, forward projection member, leads⟩

end LocalWorld

end Handlers

namespace LocalWorld

/-- Furniture 5, which the pawn has selected, stands at the origin below the camera. -/
def selectsFive : LocalWorld Nat ℚ where
  hasAuthority := false
  furniture _ := { location := 0, rotation := ⟨0, 0, 0⟩ }
  pawn := { DesktopPawn.spawn ⟨0, 0, 10⟩ with selectedFurniture := some 5 }
  playerState := none

/-- The cursor over furniture 5, with its ray from the camera. -/
def fromCamera (mouseX : ℚ) (rayDirection : FVector ℚ) : PlayerView Nat ℚ :=
  { PlayerView.overhead none (some 5) with
    mousePosition := ⟨mouseX, 0⟩
    rayOrigin := ⟨0, 0, 10⟩
    rayDirection }

section

local instance projectionMath : EngineMath ℚ := quarterTurnMath

/-- A drag begun and continued with a descending ray projects the cursor forward, twice. -/
theorem projections_forward_iff_down :
    let down : FVector ℚ := ⟨0, 0, -1⟩
    let dragging := (selectsFive.handle (.leftClicking (some (fromCamera 0 down)))).handle
      (.leftClickingHeld (some (fromCamera 10 down)))
    let held := PawnEvent.leftClickingHeld (some (fromCamera 20 down))
    (dragging.projections held).length = 2 ∧ dragging.ForwardOnly held := by
  intro down dragging held
  exact ⟨by decide +kernel, (projections_forward_iff held dragging).2.2.mpr (by decide +kernel)⟩

/-- A drag begun with a descending ray and continued with the cursor above the horizon: the ray
moves away from the plane, and the furniture is moved behind the camera. -/
theorem drag_behind_camera :
    let down : FVector ℚ := ⟨0, 0, -1⟩
    let up : FVector ℚ := ⟨3 / 5, 0, 4 / 5⟩
    let dragging := (selectsFive.handle (.leftClicking (some (fromCamera 0 down)))).handle
      (.leftClickingHeld (some (fromCamera 10 down)))
    let held := PawnEvent.leftClickingHeld (some (fromCamera 10 up))
    dragging.pawn.leftClickState = .dragging ∧ isNearlyZero up.z = false ∧
      ((dragging.handle held).furniture 5).location = ⟨-(15 / 2), 0, 0⟩ ∧
      ¬dragging.ForwardOnly held := by
  intro down up dragging held
  refine ⟨by decide +kernel, by decide +kernel, by decide +kernel, fun only => ?_⟩
  have member : (⟨⟨0, 0, 10⟩, up, 0⟩ : Projection ℚ) ∈ dragging.projections held := by
    decide +kernel
  have faces := (Projection.forward_iff_faces (projections_sloped member)).mp
    (only.forward _ member)
  exact absurd faces (by decide +kernel)

end

end LocalWorld

end Ioroom
