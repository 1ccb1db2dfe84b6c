import Ioroom.CameraGeometry
import Ioroom.FurnitureBounds
import Ioroom.HandlerEffects

/-!
# Where a nudge goes

The manipulator hangs on the furniture without its scale, so an arrow stands where its placement in
the axes of the furniture puts it.  Pressing an arrow moves the furniture towards it: along a unit
direction in which the arrow is ahead of every point of the mesh.
-/

namespace Ioroom

open FVector LocalWorld

/-- `FRotator::RotateVector`. -/
def FRotator.rotateVector {R : Type*} [Field R] [EngineMath R] (rotator : FRotator R)
    (v : FVector R) : FVector R :=
  v.x • rotator.vector + v.y • rotator.rightVector + v.z • rotator.upVector

/-- The place of a point given in the axes of a furniture, as `AttachToActor` with
`SnapToTargetNotIncludingScale` puts it. -/
def FurnitureActor.placeOf {R : Type*} [Field R] [EngineMath R] (actor : FurnitureActor R)
    (relative : FVector R) : FVector R :=
  actor.location + actor.rotation.rotateVector relative

/-- Where a component of the manipulator stands in the axes of the furniture. -/
def HandleComponents.relativeLocation {R : Type*} (handles : HandleComponents R) :
    HandleComponent → Option (FVector R)
  | .arrowXPlus => some handles.arrowXPlus
  | .arrowXMinus => some handles.arrowXMinus
  | .arrowYPlus => some handles.arrowYPlus
  | .arrowYMinus => some handles.arrowYMinus
  | .rotationRing => some handles.ringLocation
  | .other => none

/-- The direction of an arrow in the axes of the furniture. -/
def HandleComponent.ahead {R : Type*} [Zero R] [One R] [Neg R] :
    HandleComponent → Option (FVector R)
  | .arrowXPlus => some ⟨1, 0, 0⟩
  | .arrowXMinus => some ⟨-1, 0, 0⟩
  | .arrowYPlus => some ⟨0, 1, 0⟩
  | .arrowYMinus => some ⟨0, -1, 0⟩
  | .rotationRing => none
  | .other => none

/-- An arrow nudges in its direction, turned with the furniture. -/
theorem nudgeDirection_resolve {R : Type*} [Field R] [EngineMath R] (component : HandleComponent)
    (actor : FurnitureActor R) :
    nudgeDirection (resolveHandle component) actor =
      (component.ahead (R := R)).map actor.rotation.rotateVector := by
  cases component <;>
    simp only [nudgeDirection, resolveHandle, HandleComponent.ahead, Option.map_some,
      Option.map_none, Option.some.injEq] <;>
    ext <;> simp [FRotator.rotateVector]

namespace FVector

theorem dot_rotateVector (rotation : FRotator ℝ) {ahead : FVector ℝ} (flat : ahead.z = 0)
    (v : FVector ℝ) :
    dot (rotation.rotateVector ahead) (rotation.rotateVector v) =
      ahead.x * v.x + ahead.y * v.y := by
  have forward : dot rotation.vector (rotation.rotateVector v) = v.x := by
    simp only [FRotator.rotateVector, dot_add_right, dot_smul_right, rotation.dot_vector_self,
      rotation.dot_vector_right, rotation.dot_vector_up]
    ring
  have right : dot rotation.rightVector (rotation.rotateVector v) = v.y := by
    simp only [FRotator.rotateVector, dot_add_right, dot_smul_right, rotation.dot_right_self,
      rotation.dot_right_up, dot_comm rotation.rightVector rotation.vector,
      rotation.dot_vector_right]
    ring
  calc
    dot (rotation.rotateVector ahead) (rotation.rotateVector v) =
        ahead.x * dot rotation.vector (rotation.rotateVector v) +
          ahead.y * dot rotation.rightVector (rotation.rotateVector v) +
          ahead.z * dot rotation.upVector (rotation.rotateVector v) := by
      simp only [dot_comm _ (rotation.rotateVector v), ← dot_smul_right, ← dot_add_right]
      rfl
    _ = ahead.x * v.x + ahead.y * v.y := by
      rw [forward, right, flat]
      ring

theorem rotateVector_sub (rotation : FRotator ℝ) (v w : FVector ℝ) :
    rotation.rotateVector v - rotation.rotateVector w = rotation.rotateVector (v - w) := by
  ext <;> simp only [FRotator.rotateVector, sub_x, sub_y, sub_z, add_x, add_y, add_z, smul_x,
    smul_y, smul_z] <;> ring

end FVector

namespace HandleComponents

variable {handles : HandleComponents ℝ} {bounds : FBox ℝ} {component : HandleComponent}

/-- An arrow is ahead of every point of the box by the margin and the space to the ring at least. -/
theorem positionHandle_ahead {ahead : FVector ℝ} (towards : component.ahead = some ahead)
    {arrow : FVector ℝ}
    (stands : (handles.positionHandle bounds).relativeLocation component = some arrow)
    {point : FVector ℝ} (inside : point ∈ bounds.points) :
    handles.handleMargin + handles.handleSpaceArrowRing ≤
      ahead.x * (arrow - point).x + ahead.y * (arrow - point).y := by
  have x_radius : bounds.getExtent.x ≤ max bounds.getExtent.x bounds.getExtent.y :=
    le_max_left _ _
  have y_radius : bounds.getExtent.y ≤ max bounds.getExtent.x bounds.getExtent.y :=
    le_max_right _ _
  have center_x := bounds.getCenter_component .x
  have center_y := bounds.getCenter_component .y
  have extent_x := bounds.getExtent_component .x
  have extent_y := bounds.getExtent_component .y
  obtain ⟨left, right⟩ := inside .x
  obtain ⟨front, back⟩ := inside .y
  simp only [FVector.getComponentForAxis] at center_x center_y extent_x extent_y
  simp only [FVector.getComponentForAxis] at left right front back
  cases component with
  | arrowXPlus =>
      obtain rfl := Option.some.inj towards
      rw [← Option.some.inj stands]
      simp only [positionHandle, targetRadius, sub_x, sub_y, add_x, add_y]
      linarith
  | arrowXMinus =>
      obtain rfl := Option.some.inj towards
      rw [← Option.some.inj stands]
      simp only [positionHandle, targetRadius, sub_x, sub_y, add_x, add_y]
      linarith
  | arrowYPlus =>
      obtain rfl := Option.some.inj towards
      rw [← Option.some.inj stands]
      simp only [positionHandle, targetRadius, sub_x, sub_y, add_x, add_y]
      linarith
  | arrowYMinus =>
      obtain rfl := Option.some.inj towards
      rw [← Option.some.inj stands]
      simp only [positionHandle, targetRadius, sub_x, sub_y, add_x, add_y]
      linarith
  | rotationRing => simp [HandleComponent.ahead] at towards
  | other => simp [HandleComponent.ahead] at towards

end HandleComponents

namespace HandleComponent

variable {component : HandleComponent} {ahead : FVector ℝ}

theorem exists_arrow (towards : component.ahead = some ahead) (handles : HandleComponents ℝ) :
    ∃ arrow, handles.relativeLocation component = some arrow := by
  cases component with
  | rotationRing => simp [HandleComponent.ahead] at towards
  | other => simp [HandleComponent.ahead] at towards
  | _ => exact ⟨_, rfl⟩

theorem ahead_flat (towards : component.ahead = some ahead) : ahead.z = 0 := by
  cases component <;> simp only [HandleComponent.ahead, Option.some.injEq, reduceCtorEq] at towards
    <;> rw [← towards]

theorem ahead_unit (towards : component.ahead = some ahead) :
    ahead.x * ahead.x + ahead.y * ahead.y = 1 := by
  cases component <;> simp only [HandleComponent.ahead, Option.some.injEq, reduceCtorEq] at towards
    <;> rw [← towards] <;> norm_num

end HandleComponent

theorem FurnitureShape.scaled_inside {shape : FurnitureShape ℝ} {mesh : FBox ℝ}
    (emptyBox : FBox ℝ) (staticMesh : shape.staticMesh = some mesh)
    (upright : ∀ axis, 0 ≤ shape.actorScale.getComponentForAxis axis) {point : FVector ℝ}
    (inside : point ∈ mesh.points) :
    point.scaledBy shape.actorScale ∈ (shape.getMeshBoundingBox emptyBox).points := by
  intro axis
  simp only [getMeshBoundingBox, staticMesh, scaledBy_component]
  exact ⟨mul_le_mul_of_nonneg_right (inside axis).1 (upright axis),
    mul_le_mul_of_nonneg_right (inside axis).2 (upright axis)⟩

namespace LocalWorld

variable {F : Type*} [DecidableEq F]

/-- What a nudge by an arrow does to the selected furniture. -/
theorem nudge_location {world after : LocalWorld F ℝ} {held : F} {component : HandleComponent}
    (holds : world.pawn.selectedFurniture = some held)
    (nudged : world.nudgeSelectedFurniture (resolveHandle component) = some after) :
    ∃ ahead, component.ahead = some ahead ∧
      (after.furniture held).location = (world.furniture held).location +
        world.gridStep • (world.furniture held).rotation.rotateVector ahead := by
  simp only [nudgeSelectedFurniture, holds, nudgeDirection_resolve] at nudged
  cases towards : (component.ahead : Option (FVector ℝ)) with
  | none => simp [towards] at nudged
  | some ahead =>
      simp only [towards, Option.map_some, Option.some.injEq] at nudged
      refine ⟨ahead, rfl, ?_⟩
      have moved := (move_call_furniture held (.dragFurniture ((world.furniture held).location +
        world.gridStep • (world.furniture held).rotation.rotateVector ahead)) rfl world holds).1
      rw [← nudged]
      refine (congrArg (fun furniture => (furniture held).location) moved).trans ?_
      simp [modify_furniture, ServerCall.move, FurnitureActor.setActorLocation]

/-- Pressing an arrow moves the selected furniture, whose scale is neither mirrored nor zero,
towards it: by the grid step along a unit direction in which that arrow is ahead of every point of
the mesh, by the margin of the ring and the space between ring and arrow at least. -/
theorem nudge_towards_arrow {world after : LocalWorld F ℝ} {held : F}
    {component : HandleComponent} (handles : HandleComponents ℝ) (emptyBox : FBox ℝ)
    {shape : FurnitureShape ℝ} {mesh : FBox ℝ}
    (holds : world.pawn.selectedFurniture = some held)
    (nudged : world.nudgeSelectedFurniture (resolveHandle component) = some after)
    (staticMesh : shape.staticMesh = some mesh)
    (upright : ∀ axis, 0 < shape.actorScale.getComponentForAxis axis) :
    let actor := world.furniture held
    let placed := handles.attachTo emptyBox (some shape)
    ∃ direction arrow : FVector ℝ, direction.size = 1 ∧
      placed.relativeLocation component = some arrow ∧
      (after.furniture held).location = actor.location + world.gridStep • direction ∧
      ∀ point ∈ mesh.points,
        handles.handleMargin + handles.handleSpaceArrowRing ≤
          dot direction
            (actor.placeOf arrow - actor.placeOf (point.scaledBy shape.actorScale)) := by
  intro actor placed
  obtain ⟨ahead, towards, moved⟩ := nudge_location holds nudged
  have flat := HandleComponent.ahead_flat towards
  obtain ⟨arrow, stands⟩ := HandleComponent.exists_arrow towards placed
  refine ⟨actor.rotation.rotateVector ahead, arrow, ?_, stands, moved, ?_⟩
  · have squared : (actor.rotation.rotateVector ahead).sizeSquared = 1 :=
      (dot_rotateVector actor.rotation flat ahead).trans (HandleComponent.ahead_unit towards)
    change Real.sqrt (actor.rotation.rotateVector ahead).sizeSquared = 1
    rw [squared, Real.sqrt_one]
  · intro point inside
    rw [FurnitureActor.placeOf, FurnitureActor.placeOf, add_sub_add_left_eq_sub, rotateVector_sub,
      dot_rotateVector actor.rotation flat]
    exact HandleComponents.positionHandle_ahead towards stands
      (FurnitureShape.scaled_inside emptyBox staticMesh (fun axis => (upright axis).le) inside)

/-- A tilted furniture at the origin, selected by a pawn without a player state. -/
noncomputable def holdingAtOrigin : LocalWorld Nat ℝ where
  hasAuthority := false
  furniture _ := { location := 0, rotation := ⟨(10 : ℕ), (30 : ℕ), 0⟩ }
  pawn := { DesktopPawn.spawn 0 with selectedFurniture := some 5 }
  playerState := none

/-- A cube stretched to twice its width. -/
noncomputable def stretchedCube : FurnitureShape ℝ :=
  ⟨some ⟨-⟨1, 1, 1⟩, ⟨1, 1, 1⟩⟩, ⟨(2 : ℕ), 1, 1⟩⟩

/-- A nudge of the cube by its left arrow, which is ahead of the cube by thirty at least. -/
theorem nudge_towards_arrow_left :
    let actor := holdingAtOrigin.furniture 5
    ∃ (after : LocalWorld Nat ℝ) (direction arrow : FVector ℝ), direction.size = 1 ∧
      (after.furniture 5).location = 0 + holdingAtOrigin.gridStep • direction ∧
      ∀ point ∈ (⟨-⟨1, 1, 1⟩, ⟨1, 1, 1⟩⟩ : FBox ℝ).points,
        20 + 10 ≤ dot direction
          (actor.placeOf arrow - actor.placeOf (point.scaledBy ⟨2, 1, 1⟩)) := by
  intro actor
  obtain ⟨after, nudged⟩ : ∃ after,
      holdingAtOrigin.nudgeSelectedFurniture (resolveHandle .arrowYMinus) = some after := ⟨_, rfl⟩
  have upright : ∀ axis, 0 < stretchedCube.actorScale.getComponentForAxis axis := by
    rintro (_ | _ | _) <;> simp [stretchedCube, FVector.getComponentForAxis]
  obtain ⟨direction, arrow, unit, _, moved, clear⟩ :=
    nudge_towards_arrow (.constructed none) ⟨0, 0⟩ rfl nudged rfl upright
  refine ⟨after, direction, arrow, unit, moved, fun point inside => ?_⟩
  refine le_trans ?_ (clear point inside)
  norm_num [HandleComponents.constructed]

end LocalWorld

end Ioroom
