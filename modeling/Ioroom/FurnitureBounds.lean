import Ioroom.Engine
import Ioroom.ScaledInterval
import Mathlib.Tactic.Linarith
import Mathlib.Tactic.NormNum

/-!
# Furniture bounds and manipulator handles

The bounding box of a furniture in its own axes and the handles the manipulator puts around it.  The
box is made from two scaled corners; where they keep their order, the handles surround the mesh.
-/

namespace Ioroom

/-- `EAxis`. -/
inductive Axis
  | x
  | y
  | z
deriving DecidableEq, Repr

namespace FVector

variable {R : Type*}

def getComponentForAxis (v : FVector R) : Axis → R
  | .x => v.x
  | .y => v.y
  | .z => v.z

/-- The product of two vectors, component by component. -/
def scaledBy [Mul R] (v scale : FVector R) : FVector R :=
  ⟨v.x * scale.x, v.y * scale.y, v.z * scale.z⟩

theorem scaledBy_component [Mul R] (v scale : FVector R) (axis : Axis) :
    (v.scaledBy scale).getComponentForAxis axis =
      v.getComponentForAxis axis * scale.getComponentForAxis axis := by
  cases axis <;> rfl

end FVector

/-- `FBox`. -/
structure FBox (R : Type*) where
  min : FVector R
  max : FVector R
deriving DecidableEq, Repr

namespace FBox

section Arithmetic

variable {R : Type*} [Field R]

def getCenter (box : FBox R) : FVector R := (0.5 : R) • (box.min + box.max)

def getExtent (box : FBox R) : FVector R := (0.5 : R) • (box.max - box.min)

end Arithmetic

variable {R : Type*} [Preorder R]

def Ordered (box : FBox R) : Prop :=
  ∀ axis, box.min.getComponentForAxis axis ≤ box.max.getComponentForAxis axis

def points (box : FBox R) : Set (FVector R) :=
  {point | ∀ axis, point.getComponentForAxis axis ∈
    Set.Icc (box.min.getComponentForAxis axis) (box.max.getComponentForAxis axis)}

/-- The smallest box with sides along the axes around a set of points. -/
def IsHull (box : FBox R) (points : Set (FVector R)) : Prop :=
  ∀ axis,
    IsLeast ((·.getComponentForAxis axis) '' points) (box.min.getComponentForAxis axis) ∧
      IsGreatest ((·.getComponentForAxis axis) '' points) (box.max.getComponentForAxis axis)

/-- The point lies above or below a point of the box. -/
def InFootprint (box : FBox R) (point : FVector R) : Prop :=
  point.x ∈ Set.Icc box.min.x box.max.x ∧ point.y ∈ Set.Icc box.min.y box.max.y

theorem IsHull.ordered {box : FBox R} {points : Set (FVector R)} (hull : box.IsHull points) :
    box.Ordered :=
  fun axis => (hull axis).2.2 (hull axis).1.1

end FBox

/-- What `GetMeshBoundingBox` reads of a furniture: the bounding box of its mesh, if it has one, and
its scale. -/
structure FurnitureShape (R : Type*) where
  staticMesh : Option (FBox R)
  actorScale : FVector R

/-- `GetMeshBoundingBox`; `emptyBox` is `FBox()`. -/
def FurnitureShape.getMeshBoundingBox {R : Type*} [Mul R] (emptyBox : FBox R)
    (shape : FurnitureShape R) : FBox R :=
  match shape.staticMesh with
  | none => emptyBox
  | some mesh => ⟨mesh.min.scaledBy shape.actorScale, mesh.max.scaledBy shape.actorScale⟩

/-- The components `PositionHandle` moves, in the axes of the furniture, with the properties it
reads. -/
structure HandleComponents (R : Type*) where
  handleMargin : R
  handleHeightOffset : R
  handleSpaceArrowRing : R
  /-- The bounding box of the mesh of `RotationRing`. -/
  ringMesh : Option (FBox R)
  arrowXPlus : FVector R
  arrowXMinus : FVector R
  arrowYPlus : FVector R
  arrowYMinus : FVector R
  ringLocation : FVector R
  ringScale : FVector R

namespace HandleComponents

section Placement

variable {R : Type*} [Field R]

/-- The components as constructed. -/
def constructed (ringMesh : Option (FBox R)) : HandleComponents R where
  handleMargin := 20.0
  handleHeightOffset := 0.0
  handleSpaceArrowRing := 10.0
  ringMesh := ringMesh
  arrowXPlus := 0
  arrowXMinus := 0
  arrowYPlus := 0
  arrowYMinus := 0
  ringLocation := 0
  ringScale := ⟨1, 1, 1⟩

variable [LinearOrder R]

/-- The radius of the ring around a box. -/
def targetRadius (handles : HandleComponents R) (bounds : FBox R) : R :=
  max bounds.getExtent.x bounds.getExtent.y + handles.handleMargin

/-- `RingScale`; 0.0001 is `KINDA_SMALL_NUMBER`. -/
def scaleOfRing (handles : HandleComponents R) (targetRadius : R) : R :=
  match handles.ringMesh with
  | none => 1
  | some ringMesh =>
      if 0.0001 < ringMesh.getExtent.x then targetRadius / ringMesh.getExtent.x else 1

/-- `PositionHandle`. -/
def positionHandle (bounds : FBox R) (handles : HandleComponents R) : HandleComponents R :=
  let center := bounds.getCenter
  let halfExtent := bounds.getExtent
  let targetRadius := handles.targetRadius bounds
  let arrowZ := -halfExtent.z + handles.handleHeightOffset
  let ringScale := handles.scaleOfRing targetRadius
  { handles with
    arrowXPlus := center + ⟨targetRadius + handles.handleSpaceArrowRing, 0, arrowZ⟩
    arrowXMinus := center + ⟨-(targetRadius + handles.handleSpaceArrowRing), 0, arrowZ⟩
    arrowYPlus := center + ⟨0, targetRadius + handles.handleSpaceArrowRing, arrowZ⟩
    arrowYMinus := center + ⟨0, -(targetRadius + handles.handleSpaceArrowRing), arrowZ⟩
    ringScale := ⟨ringScale, ringScale, 1⟩
    ringLocation := ⟨center.x, center.y, center.z + arrowZ⟩ }

/-- `AttachTo`; a null target changes nothing. -/
def attachTo (emptyBox : FBox R) (target : Option (FurnitureShape R))
    (handles : HandleComponents R) : HandleComponents R :=
  match target with
  | none => handles
  | some target => handles.positionHandle (target.getMeshBoundingBox emptyBox)

def arrows (handles : HandleComponents R) : List (FVector R) :=
  [handles.arrowXPlus, handles.arrowXMinus, handles.arrowYPlus, handles.arrowYMinus]

/-- The arrows stand on the axes through the centre, at equal distances from it. -/
def ArrowsOpposite (handles : HandleComponents R) (center : FVector R) : Prop :=
  ∃ distance > 0,
    (handles.arrowXPlus.x = center.x + distance ∧ handles.arrowXPlus.y = center.y) ∧
      (handles.arrowXMinus.x = center.x - distance ∧ handles.arrowXMinus.y = center.y) ∧
      (handles.arrowYPlus.x = center.x ∧ handles.arrowYPlus.y = center.y + distance) ∧
      handles.arrowYMinus.x = center.x ∧ handles.arrowYMinus.y = center.y - distance

/-- The handles surround a box. -/
structure Surround (handles : HandleComponents R) (box : FBox R) : Prop where
  outside : ∀ arrow ∈ handles.arrows, ¬box.InFootprint arrow
  opposite : handles.ArrowsOpposite box.getCenter
  height : ∀ arrow ∈ handles.arrows, arrow.z = box.min.z + handles.handleHeightOffset
  ring : ∀ ringMesh, handles.ringMesh = some ringMesh → 0.0001 < ringMesh.getExtent.x →
    box.getExtent.x ≤ ringMesh.getExtent.x * handles.ringScale.x ∧
      box.getExtent.y ≤ ringMesh.getExtent.x * handles.ringScale.y

end Placement

end HandleComponents

section Bounds

variable {R : Type*} [Field R] [LinearOrder R] [IsStrictOrderedRing R]

theorem FBox.getCenter_component (box : FBox R) (axis : Axis) :
    box.getCenter.getComponentForAxis axis =
      (box.min.getComponentForAxis axis + box.max.getComponentForAxis axis) / 2 := by
  cases axis <;> simp only [getCenter, FVector.getComponentForAxis, FVector.smul_x,
    FVector.smul_y, FVector.smul_z, FVector.add_x, FVector.add_y, FVector.add_z] <;> norm_num <;>
    ring

theorem FBox.getExtent_component (box : FBox R) (axis : Axis) :
    box.getExtent.getComponentForAxis axis =
      (box.max.getComponentForAxis axis - box.min.getComponentForAxis axis) / 2 := by
  cases axis <;> simp only [getExtent, FVector.getComponentForAxis, FVector.smul_x,
    FVector.smul_y, FVector.smul_z, FVector.sub_x, FVector.sub_y, FVector.sub_z] <;> norm_num <;>
    ring

omit [IsStrictOrderedRing R] in
theorem FBox.scaled_component {box : FBox R} (ordered : box.Ordered) (scale : FVector R)
    (axis : Axis) :
    (·.getComponentForAxis axis) '' ((·.scaledBy scale) '' box.points) =
      (· * scale.getComponentForAxis axis) ''
        Set.Icc (box.min.getComponentForAxis axis) (box.max.getComponentForAxis axis) := by
  apply Set.Subset.antisymm
  · rintro _ ⟨_, ⟨point, inside, rfl⟩, rfl⟩
    exact ⟨_, inside axis, (FVector.scaledBy_component point scale axis).symm⟩
  · rintro _ ⟨value, between, rfl⟩
    -- the corner `min` moved along the axis
    obtain ⟨point, inside, component⟩ :
        ∃ point ∈ box.points, point.getComponentForAxis axis = value := by
      have corner : ∀ other, box.min.getComponentForAxis other ∈
          Set.Icc (box.min.getComponentForAxis other) (box.max.getComponentForAxis other) :=
        fun other => ⟨le_rfl, ordered other⟩
      cases axis with
      | x =>
          refine ⟨⟨value, box.min.y, box.min.z⟩, ?_, rfl⟩
          rintro (_ | _ | _)
          exacts [between, corner .y, corner .z]
      | y =>
          refine ⟨⟨box.min.x, value, box.min.z⟩, ?_, rfl⟩
          rintro (_ | _ | _)
          exacts [corner .x, between, corner .z]
      | z =>
          refine ⟨⟨box.min.x, box.min.y, value⟩, ?_, rfl⟩
          rintro (_ | _ | _)
          exacts [corner .x, corner .y, between]
    exact ⟨_, ⟨point, inside, rfl⟩, by simp only [FVector.scaledBy_component, component]⟩

/-- The scaled corners span the hull of the scaled box exactly when no axis of positive length is
mirrored. -/
theorem FurnitureShape.getMeshBoundingBox_isHull_iff (emptyBox : FBox R) {mesh : FBox R}
    {actorScale : FVector R} (ordered : mesh.Ordered)
    (nonzero : ∀ axis, actorScale.getComponentForAxis axis ≠ 0) :
    ((FurnitureShape.mk (some mesh) actorScale).getMeshBoundingBox emptyBox).IsHull
        ((·.scaledBy actorScale) '' mesh.points) ↔
      ∀ axis, 0 < actorScale.getComponentForAxis axis ∨
        mesh.min.getComponentForAxis axis = mesh.max.getComponentForAxis axis := by
  refine forall_congr' fun axis => ?_
  simp only [getMeshBoundingBox]
  rw [FBox.scaled_component ordered, FVector.scaledBy_component, FVector.scaledBy_component]
  exact ScaledInterval.ends_iff (ordered axis) (nonzero axis)

end Bounds

namespace HandleComponents

variable {R : Type*} [Field R] [LinearOrder R] [IsStrictOrderedRing R]
variable {bounds : FBox R} {handles : HandleComponents R}

theorem halfWidth_le_targetRadius (bounds : FBox R) (margin : 0 ≤ handles.handleMargin) :
    bounds.getExtent.x ≤ handles.targetRadius bounds ∧
      bounds.getExtent.y ≤ handles.targetRadius bounds := by
  have x_le : bounds.getExtent.x ≤ max bounds.getExtent.x bounds.getExtent.y := le_max_left _ _
  have y_le : bounds.getExtent.y ≤ max bounds.getExtent.x bounds.getExtent.y := le_max_right _ _
  constructor <;> unfold targetRadius <;> linarith

theorem scaleOfRing_radius {ringMesh : FBox R} (mesh : handles.ringMesh = some ringMesh)
    (large : 0.0001 < ringMesh.getExtent.x) (radius : R) :
    ringMesh.getExtent.x * handles.scaleOfRing radius = radius := by
  have positive : 0 < ringMesh.getExtent.x := lt_trans (by norm_num) large
  simp only [scaleOfRing, mesh, if_pos large]
  exact mul_div_cancel₀ radius positive.ne'

theorem positionHandle_height (bounds : FBox R) (handles : HandleComponents R) :
    ∀ arrow ∈ (handles.positionHandle bounds).arrows,
      arrow.z = bounds.min.z + handles.handleHeightOffset := by
  have center := bounds.getCenter_component .z
  have extent := bounds.getExtent_component .z
  simp only [FVector.getComponentForAxis] at center extent
  simp only [arrows, positionHandle, List.forall_mem_cons, List.not_mem_nil, false_implies,
    implies_true, and_true, FVector.add_z, center, extent]
  refine ⟨?_, ?_, ?_, ?_⟩ <;> ring

theorem positionHandle_opposite (ordered : bounds.Ordered) (margin : 0 ≤ handles.handleMargin)
    (space : 0 < handles.handleSpaceArrowRing) :
    (handles.positionHandle bounds).ArrowsOpposite bounds.getCenter := by
  have wide : 0 ≤ bounds.getExtent.x := by
    have extent := bounds.getExtent_component .x
    have along := ordered .x
    simp only [FVector.getComponentForAxis] at extent along
    linarith
  have radius := (halfWidth_le_targetRadius bounds margin).1
  refine ⟨handles.targetRadius bounds + handles.handleSpaceArrowRing, by linarith, ?_⟩
  simp [positionHandle, sub_eq_add_neg]

theorem positionHandle_outside (margin : 0 ≤ handles.handleMargin)
    (space : 0 < handles.handleSpaceArrowRing) :
    ∀ arrow ∈ (handles.positionHandle bounds).arrows, ¬bounds.InFootprint arrow := by
  obtain ⟨x_radius, y_radius⟩ := halfWidth_le_targetRadius bounds margin
  have center_x := bounds.getCenter_component .x
  have center_y := bounds.getCenter_component .y
  have extent_x := bounds.getExtent_component .x
  have extent_y := bounds.getExtent_component .y
  simp only [FVector.getComponentForAxis] at center_x center_y extent_x extent_y
  intro arrow member
  simp only [arrows, positionHandle, List.mem_cons, List.not_mem_nil, or_false] at member
  rintro ⟨⟨left, right⟩, front, back⟩
  rcases member with rfl | rfl | rfl | rfl <;>
    simp only [FVector.add_x, FVector.add_y] at left right front back <;> linarith

theorem positionHandle_ring (margin : 0 ≤ handles.handleMargin) {ringMesh : FBox R}
    (mesh : handles.ringMesh = some ringMesh) (large : 0.0001 < ringMesh.getExtent.x) :
    bounds.getExtent.x ≤ ringMesh.getExtent.x * (handles.positionHandle bounds).ringScale.x ∧
      bounds.getExtent.y ≤
        ringMesh.getExtent.x * (handles.positionHandle bounds).ringScale.y := by
  have scaled := scaleOfRing_radius mesh large (handles.targetRadius bounds)
  simp only [positionHandle, scaled]
  exact halfWidth_le_targetRadius bounds margin

/-- Around a box whose corners are in order, the handles are where they belong. -/
theorem positionHandle_surround (ordered : bounds.Ordered) (margin : 0 ≤ handles.handleMargin)
    (space : 0 < handles.handleSpaceArrowRing) :
    (handles.positionHandle bounds).Surround bounds where
  outside := positionHandle_outside margin space
  opposite := positionHandle_opposite ordered margin space
  height := positionHandle_height bounds handles
  ring _ mesh large := positionHandle_ring margin mesh large

/-- Attached to a furniture, the handles surround the hull of its scaled mesh exactly when no axis
along which the mesh has a length is mirrored. -/
theorem attachTo_surround_iff (emptyBox mesh : FBox R) (actorScale : FVector R)
    (handles : HandleComponents R) (ordered : mesh.Ordered)
    (nonzero : ∀ axis, actorScale.getComponentForAxis axis ≠ 0)
    (margin : 0 ≤ handles.handleMargin) (space : 0 < handles.handleSpaceArrowRing) :
    let shape : FurnitureShape R := ⟨some mesh, actorScale⟩
    let bounds := shape.getMeshBoundingBox emptyBox
    (bounds.IsHull ((·.scaledBy actorScale) '' mesh.points) ∧ bounds.Ordered ∧
        (handles.attachTo emptyBox (some shape)).Surround bounds) ↔
      ∀ axis, 0 < actorScale.getComponentForAxis axis ∨
        mesh.min.getComponentForAxis axis = mesh.max.getComponentForAxis axis := by
  intro shape bounds
  have hull_iff := FurnitureShape.getMeshBoundingBox_isHull_iff emptyBox ordered nonzero
  constructor
  · rintro ⟨hull, _, _⟩
    exact hull_iff.mp hull
  · intro straight
    have hull := hull_iff.mpr straight
    exact ⟨hull, hull.ordered, positionHandle_surround hull.ordered margin space⟩

/-- A mesh of width 100 and depth 10. -/
def bench : FBox ℚ := ⟨⟨-50, -5, 0⟩, ⟨50, 5, 100⟩⟩

theorem bench_ordered : bench.Ordered := by
  rintro (_ | _ | _) <;> simp only [bench, FVector.getComponentForAxis] <;> norm_num

/-- Stretched to twice its width, the bench has the hull of its scaled points as bounds, and the
handles surround them. -/
theorem attachTo_surround_iff_bench :
    let shape : FurnitureShape ℚ := ⟨some bench, ⟨2, 1, 1⟩⟩
    let bounds := shape.getMeshBoundingBox ⟨0, 0⟩
    bounds = ⟨⟨-100, -5, 0⟩, ⟨100, 5, 100⟩⟩ ∧
      bounds.IsHull ((·.scaledBy ⟨2, 1, 1⟩) '' bench.points) ∧
        ((constructed (some bench)).attachTo ⟨0, 0⟩ (some shape)).Surround bounds := by
  intro shape bounds
  obtain ⟨hull, _, surround⟩ := (attachTo_surround_iff ⟨0, 0⟩ bench ⟨2, 1, 1⟩
    (constructed (some bench)) bench_ordered
    (by rintro (_ | _ | _) <;> simp [FVector.getComponentForAxis])
    (by norm_num [constructed]) (by norm_num [constructed])).mpr (by
      rintro (_ | _ | _) <;> simp [FVector.getComponentForAxis])
  exact ⟨by decide +kernel, hull, surround⟩

/-- Mirrored along its width, the bench spans the same box, but the box reported for it is inverted:
the arrows of the X axis stand inside the bench and the ring is half as wide as it. -/
theorem mirrored_bench_not_surrounded :
    let shape : FurnitureShape ℚ := ⟨some bench, ⟨-1, 1, 1⟩⟩
    let bounds := shape.getMeshBoundingBox ⟨0, 0⟩
    let handles := (constructed (some bench)).attachTo ⟨0, 0⟩ (some shape)
    bench.IsHull ((·.scaledBy ⟨-1, 1, 1⟩) '' bench.points) ∧ ¬bounds.Ordered ∧
      bounds ≠ bench ∧ bench.InFootprint handles.arrowXPlus ∧
      bench.InFootprint handles.arrowXMinus ∧
      bench.getExtent.x * handles.ringScale.x = 25 ∧ bench.getExtent.x = 50 := by
  refine ⟨?_, ?_, by decide +kernel, ?_, ?_, by decide +kernel, by decide +kernel⟩
  · intro axis
    rw [FBox.scaled_component bench_ordered]
    cases axis with
    | x =>
        simpa [bench, FVector.getComponentForAxis] using
          ScaledInterval.ends_of_neg (bench_ordered .x) (show (-1 : ℚ) < 0 by norm_num)
    | y =>
        simpa [bench, FVector.getComponentForAxis] using
          ScaledInterval.ends_of_pos (bench_ordered .y) (show (0 : ℚ) < 1 by norm_num)
    | z =>
        simpa [bench, FVector.getComponentForAxis] using
          ScaledInterval.ends_of_pos (bench_ordered .z) (show (0 : ℚ) < 1 by norm_num)
  · intro ordered
    exact absurd (ordered .x) (by decide +kernel)
  · unfold FBox.InFootprint
    simp only [Set.mem_Icc]
    decide +kernel
  · unfold FBox.InFootprint
    simp only [Set.mem_Icc]
    decide +kernel

end HandleComponents

end Ioroom
