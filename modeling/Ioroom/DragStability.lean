import Ioroom.DragGesture

/-!
# Dragging under a motionless cursor

The trace of a drag step runs between a height above the plane which the previous step has found and
a fixed depth.  Over stacked surfaces a second step with the same ray may therefore see a surface
which the first could not.
-/

namespace Ioroom

/-- A horizontal surface which blocks traces. -/
structure HorizontalSurface (R : Type*) where
  height : R
  covers : R → R → Bool

section Surfaces

variable {R : Type*}

/-- The heights of the surfaces over a point. -/
def column (surfaces : List (HorizontalSurface R)) (x y : R) : List R :=
  (surfaces.filter (·.covers x y)).map (·.height)

variable [LinearOrder R]

/-- The heights between the ends of a vertical trace, whichever end is the upper one. -/
def reach (surfaces : List (HorizontalSurface R)) (start stop : FVector R) : List R :=
  (column surfaces start.x start.y).filter fun height =>
    min start.z stop.z ≤ height ∧ height ≤ max start.z stop.z

/-- A vertical trace hits the highest surface between its ends. -/
def traceColumn (surfaces : List (HorizontalSurface R)) (start stop : FVector R) :
    Option (FVector R) :=
  (reach surfaces start stop).max?.map fun height => ⟨start.x, start.y, height⟩

variable {surfaces : List (HorizontalSurface R)} {start stop : FVector R}

theorem mem_reach {height : R} : height ∈ reach surfaces start stop ↔
    height ∈ column surfaces start.x start.y ∧ min start.z stop.z ≤ height ∧
      height ≤ max start.z stop.z := by
  simp [reach]

theorem traceColumn_eq_none : traceColumn surfaces start stop = none ↔
    ∀ height ∈ column surfaces start.x start.y, min start.z stop.z ≤ height →
      ¬height ≤ max start.z stop.z := by
  simp only [traceColumn, Option.map_eq_none_iff, List.max?_eq_none_iff,
    List.eq_nil_iff_forall_not_mem, mem_reach, not_and]

theorem traceColumn_eq_some {point : FVector R}
    (hit : traceColumn surfaces start stop = some point) :
    point.z ∈ reach surfaces start stop ∧
      ∀ height ∈ reach surfaces start stop, height ≤ point.z := by
  obtain ⟨top, highest, rfl⟩ := Option.map_eq_some_iff.mp hit
  exact List.max?_eq_some_iff.mp highest

end Surfaces

section Landing

variable {R : Type*} [Field R] [LinearOrder R]

/-- The lower end of the trace of a drag step from a plane. -/
def traceLow (planeZ : R) : R := min (planeZ + (500 : ℕ)) (-(10000 : ℕ))

/-- The upper end of the trace of a drag step from a plane. -/
def traceHigh (planeZ : R) : R := max (planeZ + (500 : ℕ)) (-(10000 : ℕ))

variable {planeZ : R}

theorem traceLow_le_floor : traceLow planeZ ≤ -(10000 : ℕ) := min_le_right _ _

theorem floor_le_traceHigh : -(10000 : ℕ) ≤ traceHigh planeZ := le_max_right _ _

theorem lift_le_traceHigh : planeZ + (500 : ℕ) ≤ traceHigh planeZ := le_max_left _ _

/-- The height at which a drag step from a plane sets the furniture down at a point. -/
def landing (surfaces : List (HorizontalSurface R)) (x y planeZ : R) : R :=
  match traceColumn surfaces ⟨x, y, planeZ + (500 : ℕ)⟩ ⟨x, y, -(10000 : ℕ)⟩ with
  | some impactPoint => impactPoint.z
  | none => planeZ

/-- Two surfaces over the point are at most 500 apart, and the reach of the trace ends between
them. -/
def StackedAtReach (surfaces : List (HorizontalSurface R)) (x y planeZ : R) : Prop :=
  ∃ lower ∈ column surfaces x y, ∃ upper ∈ column surfaces x y,
    traceLow planeZ ≤ lower ∧ lower ≤ traceHigh planeZ ∧ traceHigh planeZ < upper ∧
      upper ≤ lower + (500 : ℕ)

/-- A landing is the highest surface in reach, or the plane itself when there is none. -/
theorem landing_cases (surfaces : List (HorizontalSurface R)) (x y planeZ : R) :
    (landing surfaces x y planeZ = planeZ ∧
        ∀ height ∈ column surfaces x y, traceLow planeZ ≤ height →
          ¬height ≤ traceHigh planeZ) ∨
      (landing surfaces x y planeZ ∈ column surfaces x y ∧
        traceLow planeZ ≤ landing surfaces x y planeZ ∧
        landing surfaces x y planeZ ≤ traceHigh planeZ ∧
        ∀ height ∈ column surfaces x y, traceLow planeZ ≤ height → height ≤ traceHigh planeZ →
          height ≤ landing surfaces x y planeZ) := by
  cases hit : traceColumn surfaces ⟨x, y, planeZ + (500 : ℕ)⟩ ⟨x, y, -(10000 : ℕ)⟩ with
  | none =>
      refine Or.inl ⟨by simp only [landing, hit], ?_⟩
      exact traceColumn_eq_none.mp hit
  | some point =>
      have landed : landing surfaces x y planeZ = point.z := by simp only [landing, hit]
      obtain ⟨member, highest⟩ := traceColumn_eq_some hit
      obtain ⟨inColumn, above, below⟩ := mem_reach.mp member
      rw [landed]
      exact Or.inr ⟨inColumn, above, below, fun height isOver isAbove isBelow =>
        highest height (mem_reach.mpr ⟨isOver, isAbove, isBelow⟩)⟩

variable [IsStrictOrderedRing R] {surfaces : List (HorizontalSurface R)} {x y : R}

theorem traceLow_mono {top : R} (above : traceLow planeZ ≤ top) : traceLow planeZ ≤ traceLow top :=
  le_min (by linarith) traceLow_le_floor

/-- The upper one of two stacked surfaces comes into reach of the step after a landing which is no
lower than the lower one. -/
theorem upper_in_reach {top lower upper : R} (lower_le : lower ≤ top)
    (beyond : traceHigh planeZ < upper) (close : upper ≤ lower + (500 : ℕ)) :
    traceLow top ≤ upper ∧ upper ≤ traceHigh top := by
  constructor
  · exact (traceLow_le_floor.trans floor_le_traceHigh).trans beyond.le
  · exact le_trans (by linarith) lift_le_traceHigh

/-- Landing again changes nothing exactly when no stacked surface lies just out of reach. -/
theorem landing_landing_iff :
    landing surfaces x y (landing surfaces x y planeZ) = landing surfaces x y planeZ ↔
      ¬StackedAtReach surfaces x y planeZ := by
  rcases landing_cases surfaces x y planeZ with
    ⟨stays, missed⟩ | ⟨inColumn, above, below, highest⟩
  · rw [stays, stays]
    refine iff_of_true rfl ?_
    rintro ⟨lower, isOver, _, _, isAbove, isBelow, _⟩
    exact missed lower isOver isAbove isBelow
  · generalize landed : landing surfaces x y planeZ = top at *
    rcases landing_cases surfaces x y top with
      ⟨again, missed⟩ | ⟨inColumnAgain, aboveAgain, belowAgain, highestAgain⟩
    · refine iff_of_true again ?_
      rintro ⟨lower, isOver, upper, upperOver, isAbove, isBelow, beyond, close⟩
      obtain ⟨low, high⟩ := upper_in_reach (highest lower isOver isAbove isBelow) beyond close
      exact missed upper upperOver low high
    · constructor
      · rintro same ⟨lower, isOver, upper, upperOver, isAbove, isBelow, beyond, close⟩
        obtain ⟨low, high⟩ := upper_in_reach (highest lower isOver isAbove isBelow) beyond close
        have upper_le := highestAgain upper upperOver low high
        rw [same] at upper_le
        exact absurd (beyond.trans_le upper_le) (not_lt.mpr below)
      · intro unstacked
        apply le_antisymm
        · have notBelow := (traceLow_mono above).trans aboveAgain
          by_contra higher
          have beyond : traceHigh planeZ < landing surfaces x y top := by
            by_contra inReach
            exact higher (highest _ inColumnAgain notBelow (not_lt.mp inReach))
          have close : landing surfaces x y top ≤ top + (500 : ℕ) := by
            refine (le_max_iff.mp belowAgain).resolve_right ?_
            exact not_le.mpr (floor_le_traceHigh.trans_lt beyond)
          exact unstacked ⟨top, inColumn, _, inColumnAgain, above, below, beyond, close⟩
        · rcases le_total top (traceLow top) with beneath | inReach
          · exact beneath.trans aboveAgain
          · refine highestAgain top inColumn inReach (le_trans ?_ lift_le_traceHigh)
            simp

end Landing

namespace LocalWorld

variable {F R : Type*} [DecidableEq F] [Field R] [LinearOrder R]
  {world : LocalWorld F R} {view : PlayerView F R} {held : F}
  {surfaces : List (HorizontalSurface R)}

/-- The point under the cursor in the drag plane, moved by the drag offset. -/
def underCursor (view : PlayerView F R) (pawn : DesktopPawn F R) : R × R :=
  let worldPoint := rayAtPlane view.rayOrigin view.rayDirection pawn.dragPlaneZ
  (worldPoint.x + pawn.dragOffset.x, worldPoint.y + pawn.dragOffset.y)

omit [DecidableEq F] in
/-- Over horizontal surfaces a drag step puts the furniture at the point under the cursor, on the
surface where it lands. -/
theorem dragTarget_traceColumn (pawn : DesktopPawn F R) :
    dragTarget { view with lineTrace := traceColumn surfaces } pawn =
      ⟨(underCursor view pawn).1, (underCursor view pawn).2,
        landing surfaces (underCursor view pawn).1 (underCursor view pawn).2 pawn.dragPlaneZ⟩ := by
  simp only [dragTarget, underCursor, landing]
  generalize traceColumn surfaces _ _ = surfaceHit
  cases surfaceHit with
  | none => rfl
  | some impactPoint => rfl

theorem underCursor_handleDrag (holds : world.pawn.selectedFurniture = some held)
    (steep : isNearlyZero view.rayDirection.z = false) :
    underCursor view (world.handleDrag view).pawn =
      ((dragTarget view world.pawn).x, (dragTarget view world.pawn).y) := by
  obtain ⟨placed, follows⟩ := handleDrag_follows holds steep
  rw [← placed, follows.x, follows.y]
  rfl

/-- The next drag step with the same ray lands again at the same point. -/
theorem dragTarget_handleDrag (holds : world.pawn.selectedFurniture = some held)
    (steep : isNearlyZero view.rayDirection.z = false) :
    let seen : PlayerView F R := { view with lineTrace := traceColumn surfaces }
    let cursor := underCursor view world.pawn
    dragTarget seen (world.handleDrag seen).pawn =
      ⟨cursor.1, cursor.2,
        landing surfaces cursor.1 cursor.2
          (landing surfaces cursor.1 cursor.2 world.pawn.dragPlaneZ)⟩ := by
  intro seen cursor
  have steepSeen : isNearlyZero seen.rayDirection.z = false := steep
  have target : dragTarget seen world.pawn = _ := dragTarget_traceColumn world.pawn
  have sameCursor : underCursor view (world.handleDrag seen).pawn = cursor := by
    have moved := underCursor_handleDrag holds steepSeen
    rw [target] at moved
    exact moved
  have plane : (world.handleDrag seen).pawn.dragPlaneZ =
      landing surfaces cursor.1 cursor.2 world.pawn.dragPlaneZ := by
    obtain ⟨_, pawn, _⟩ := handleDrag_spec holds steepSeen
    rw [pawn, target]
  have targetAgain : dragTarget seen (world.handleDrag seen).pawn = _ :=
    dragTarget_traceColumn (world.handleDrag seen).pawn
  rw [targetAgain, sameCursor, plane]

/-- A second drag step with the same ray leaves the furniture, the offset and the plane as the first
one left them if and only if no stacked surface lies just out of the first trace's reach at the
point under the cursor. -/
theorem handleDrag_stable_iff [IsStrictOrderedRing R] (surfaces : List (HorizontalSurface R))
    (holds : world.pawn.selectedFurniture = some held)
    (steep : isNearlyZero view.rayDirection.z = false) :
    let seen : PlayerView F R := { view with lineTrace := traceColumn surfaces }
    let once := world.handleDrag seen
    let twice := once.handleDrag seen
    ((twice.furniture held).location = (once.furniture held).location ∧
        twice.pawn.dragOffset = once.pawn.dragOffset ∧
        twice.pawn.dragPlaneZ = once.pawn.dragPlaneZ) ↔
      ¬StackedAtReach surfaces (underCursor view world.pawn).1 (underCursor view world.pawn).2
        world.pawn.dragPlaneZ := by
  intro seen once twice
  have holdsOnce : once.pawn.selectedFurniture = some held :=
    (handleDrag_effect seen world).selected.trans holds
  have steepSeen : isNearlyZero seen.rayDirection.z = false := steep
  obtain ⟨_, pawnOnce, _⟩ := handleDrag_spec holds steepSeen
  obtain ⟨_, pawnTwice, _⟩ := handleDrag_spec holdsOnce steepSeen
  have placedOnce := (handleDrag_follows holds steepSeen).1
  have placedTwice := (handleDrag_follows holdsOnce steepSeen).1
  have target : dragTarget seen world.pawn = _ := dragTarget_traceColumn world.pawn
  have targetAgain : dragTarget seen once.pawn = _ := dragTarget_handleDrag holds steep
  rw [← landing_landing_iff]
  constructor
  · rintro ⟨placed, -, -⟩
    have heights := congrArg FVector.z (placedTwice.symm.trans (placed.trans placedOnce))
    rw [target, targetAgain] at heights
    exact heights
  · intro again
    have same : dragTarget seen once.pawn = dragTarget seen world.pawn := by
      rw [targetAgain, target, again]
    refine ⟨?_, ?_, ?_⟩
    · rw [placedTwice, placedOnce, same]
    · rw [pawnTwice, same, pawnOnce]
      rfl
    · rw [pawnTwice, same, pawnOnce]

/-- Furniture 5 is dragged at the origin, in the plane at height 0. -/
def dragsFive : LocalWorld Nat ℚ where
  hasAuthority := false
  furniture _ := { location := 0, rotation := ⟨0, 0, 0⟩ }
  pawn := { DesktopPawn.spawn 0 with selectedFurniture := some 5, leftClickState := .dragging }
  playerState := none

/-- Unbounded surfaces at the given heights. -/
def floors (heights : List ℚ) : List (HorizontalSurface ℚ) :=
  heights.map fun height => { height, covers := fun _ _ => true }

theorem column_floors (heights : List ℚ) (x y : ℚ) : column (floors heights) x y = heights := by
  simp [column, floors, List.filter_map, Function.comp_def]

/-- Over a floor and a high ceiling dragging is stable. -/
theorem handleDrag_stable_iff_ceiling :
    let seen : PlayerView Nat ℚ :=
      { PlayerView.overhead none none with lineTrace := traceColumn (floors [0, 600]) }
    (((dragsFive.handleDrag seen).handleDrag seen).furniture 5).location =
      ((dragsFive.handleDrag seen).furniture 5).location := by
  refine ((handleDrag_stable_iff (floors [0, 600]) rfl (by decide +kernel)).mpr ?_).1
  rintro ⟨lower, isOver, upper, upperOver, -, isBelow, beyond, close⟩
  have plane : dragsFive.pawn.dragPlaneZ = 0 := rfl
  rw [column_floors] at isOver upperOver
  rw [plane] at isBelow beyond
  simp only [List.mem_cons, List.not_mem_nil, or_false] at isOver upperOver
  norm_num at close
  rcases isOver with rfl | rfl <;> rcases upperOver with rfl | rfl <;> linarith

/-- Under a motionless cursor furniture climbs from the shelf at 300 to the one at 700. -/
theorem drag_climbs_shelves :
    let seen : PlayerView Nat ℚ :=
      { PlayerView.overhead none none with lineTrace := traceColumn (floors [300, 700]) }
    let once := dragsFive.handleDrag seen
    let twice := once.handleDrag seen
    isNearlyZero seen.rayDirection.z = false ∧
      (once.furniture 5).location = ⟨0, 0, 300⟩ ∧ (twice.furniture 5).location = ⟨0, 0, 700⟩ ∧
      ¬((twice.furniture 5).location = (once.furniture 5).location ∧
        twice.pawn.dragOffset = once.pawn.dragOffset ∧
        twice.pawn.dragPlaneZ = once.pawn.dragPlaneZ) := by
  decide +kernel

end LocalWorld

end Ioroom
