import Ioroom.CameraGeometry
import Ioroom.Orbit

/-!
# The entry of an orbit

An orbit begins about the point the camera looks at and moves its pivot to the pressed point over
ten steps.  Each step is an ordinary orbit step about the pivot of the moment, so the camera stays
on the sphere about that one wherever it was off its vertical axis.
-/

namespace Ioroom

open PlaneAngle

namespace FVector

variable (v : FVector ℝ)

theorem getSafeNormal_sizeSquared :
    v.getSafeNormal.sizeSquared = if 1 / 10 ^ 8 ≤ v.sizeSquared then 1 else 0 := by
  rw [getSafeNormal]
  split
  · rename_i unit
    rw [unit, if_pos (by norm_num)]
  · split
    · rename_i small
      rw [if_neg small.not_ge]
      simp [sizeSquared]
    · rename_i large
      rw [not_lt] at large
      rw [if_pos large]
      have positive : 0 < v.sizeSquared := lt_of_lt_of_le (by norm_num) large
      have root : Real.sqrt v.sizeSquared * Real.sqrt v.sizeSquared = v.sizeSquared :=
        Real.mul_self_sqrt positive.le
      change ((1 / Real.sqrt v.sizeSquared) • v).sizeSquared = 1
      have scaled : ((1 / Real.sqrt v.sizeSquared) • v).sizeSquared =
          v.sizeSquared / (Real.sqrt v.sizeSquared * Real.sqrt v.sizeSquared) := by
        simp only [sizeSquared, smul_x, smul_y, smul_z]
        ring
      rw [scaled, root, div_self positive.ne']

variable {v} in
theorem getSafeNormal_flat (flat : v.z = 0) : v.getSafeNormal.z = 0 := by
  rw [getSafeNormal]
  split
  · exact flat
  · split
    · rfl
    · simp [flat]

end FVector

namespace LocalWorld

variable {F : Type*} [DecidableEq F] {world : LocalWorld F ℝ} {pawn : DesktopPawn F ℝ}

/-- The pivot of the next orbit step. -/
noncomputable def effectivePivot (pawn : DesktopPawn F ℝ) : FVector ℝ :=
  FVector.lerp pawn.orbitEntryStartPivot pawn.orbitPivot (min (pawn.orbitEntryAlpha + 0.1) 1)

/-- The pawn as if it orbited about the pivot of the next step. -/
noncomputable def aimed (pawn : DesktopPawn F ℝ) : DesktopPawn F ℝ :=
  { pawn with orbitPivot := effectivePivot pawn }

theorem handleOrbit_entering (mouse : FVector2D ℝ) (world : LocalWorld F ℝ) :
    (world.handleOrbit mouse).pawn =
      { world.pawn with
        orbitEntryAlpha := min (world.pawn.orbitEntryAlpha + 0.1) 1
        location := effectivePivot world.pawn + orbitedOffset mouse (aimed world.pawn)
        controlRotation := (effectivePivot world.pawn - (effectivePivot world.pawn +
          orbitedOffset mouse (aimed world.pawn))).getSafeNormal.rotation
        lastMousePosition := mouse } :=
  orbit_call_pawn rfl rfl

omit [DecidableEq F] in
/-- An orbit offset has the length of the radius off the vertical axis, and on it that of the
vertical part alone. -/
theorem orbitedOffset_sizeSquared (mouse : FVector2D ℝ) (pawn : DesktopPawn F ℝ) :
    (orbitedOffset mouse pawn).sizeSquared =
      if 1 / 10 ^ 8 ≤ (pivotToCamera pawn).horizontalSquared then pawn.orbitRadius ^ 2
      else pawn.orbitRadius ^ 2 * sinDeg (newElevation mouse pawn) ^ 2 := by
  have unit := sinDeg_sq_add_cosDeg_sq (newElevation mouse pawn)
  have flat : FVector.sizeSquared (⟨(turnedOffset mouse pawn).x, (turnedOffset mouse pawn).y, 0⟩ :
      FVector ℝ) = (pivotToCamera pawn).horizontalSquared := by
    rw [← rotateAboutUp_horizontalSquared
      ((mouse.x - pawn.lastMousePosition.x) * pawn.orbitSensitivity)]
    simp [FVector.sizeSquared, FVector.horizontalSquared, turnedOffset]
  let horizontal : FVector ℝ := ⟨(turnedOffset mouse pawn).x, (turnedOffset mouse pawn).y, 0⟩
  have level : horizontal.getSafeNormal.z = 0 := FVector.getSafeNormal_flat rfl
  have normal := FVector.getSafeNormal_sizeSquared horizontal
  have split : (orbitedOffset mouse pawn).sizeSquared =
      (cosDeg (newElevation mouse pawn) * pawn.orbitRadius) ^ 2 *
          horizontal.getSafeNormal.sizeSquared +
        (sinDeg (newElevation mouse pawn) * pawn.orbitRadius) ^ 2 := by
    simp only [orbitedOffset, FVector.sizeSquared, FVector.add_x, FVector.add_y, FVector.add_z,
      FVector.smul_x, FVector.smul_y, FVector.smul_z]
    rw [level]
    ring
  rw [split, normal, flat]
  split_ifs
  · linear_combination pawn.orbitRadius ^ 2 * unit
  · ring

omit [DecidableEq F] in
theorem sinDeg_newElevation_sq_lt (mouse : FVector2D ℝ) (pawn : DesktopPawn F ℝ) :
    sinDeg (newElevation mouse pawn) ^ 2 < 1 := by
  obtain ⟨lower, upper⟩ := newElevation_mem mouse pawn
  have unit := sinDeg_sq_add_cosDeg_sq (newElevation mouse pawn)
  have cosine : 0 < cosDeg (newElevation mouse pawn) := cosDeg_pos (by linarith) (by linarith)
  have positive : 0 < cosDeg (newElevation mouse pawn) ^ 2 := pow_pos cosine 2
  linarith

omit [DecidableEq F] in
theorem orbitedOffset_size (nonneg : 0 ≤ pawn.orbitRadius) (mouse : FVector2D ℝ) :
    (orbitedOffset mouse pawn).size ≤ pawn.orbitRadius ∧
      (0 < pawn.orbitRadius → ((orbitedOffset mouse pawn).size = pawn.orbitRadius ↔
        1 / 10 ^ 8 ≤ (pivotToCamera pawn).horizontalSquared)) := by
  have squared := orbitedOffset_sizeSquared mouse pawn
  have sine := sinDeg_newElevation_sq_lt mouse pawn
  have size : (orbitedOffset mouse pawn).size ^ 2 = (orbitedOffset mouse pawn).sizeSquared :=
    Real.sq_sqrt (orbitedOffset mouse pawn).sizeSquared_nonneg
  by_cases apart : 1 / 10 ^ 8 ≤ (pivotToCamera pawn).horizontalSquared
  · rw [if_pos apart] at squared
    have exact : (orbitedOffset mouse pawn).size = pawn.orbitRadius := by
      change Real.sqrt _ = _
      rw [squared, Real.sqrt_sq nonneg]
    exact ⟨exact.le, fun _ => ⟨fun _ => apart, fun _ => exact⟩⟩
  · rw [if_neg apart] at squared
    constructor
    · refine abs_le_of_sq_le_sq' ?_ nonneg |>.2
      rw [size, squared]
      exact mul_le_of_le_one_right (sq_nonneg _) sine.le
    · intro positive
      refine ⟨fun exact => absurd ?_ (lt_irrefl (pawn.orbitRadius ^ 2)), fun near =>
        absurd near apart⟩
      calc
        pawn.orbitRadius ^ 2 = pawn.orbitRadius ^ 2 * sinDeg (newElevation mouse pawn) ^ 2 := by
          rw [← squared, ← size, exact]
        _ < pawn.orbitRadius ^ 2 := mul_lt_of_lt_one_right (pow_pos positive 2) sine

/-- What orbit steps keep, and how far they blend. -/
theorem orbits_blend (world : LocalWorld F ℝ) (mice : List (FVector2D ℝ))
    (entering : world.pawn.orbitEntryAlpha ≤ 1) :
    (world.orbits mice).pawn.orbitEntryAlpha =
        min (world.pawn.orbitEntryAlpha + mice.length / 10) 1 ∧
      (world.orbits mice).pawn.orbitEntryStartPivot = world.pawn.orbitEntryStartPivot ∧
      (world.orbits mice).pawn.orbitPivot = world.pawn.orbitPivot ∧
      (world.orbits mice).pawn.orbitRadius = world.pawn.orbitRadius := by
  induction mice generalizing world with
  | nil => simp [orbits, entering]
  | cons mouse mice induction =>
      have stepped := handleOrbit_entering mouse world
      have alpha : (world.handleOrbit mouse).pawn.orbitEntryAlpha =
          min (world.pawn.orbitEntryAlpha + 0.1) 1 := by rw [stepped]
      obtain ⟨blended, start, pivot, radius⟩ :=
        induction (world.handleOrbit mouse) (alpha.trans_le (min_le_right _ _))
      refine ⟨blended.trans ?_, start.trans ?_, pivot.trans ?_, radius.trans ?_⟩
      · have nonneg : (0 : ℝ) ≤ mice.length / 10 := by positivity
        have full : min (1 + (mice.length : ℝ) / 10) 1 = 1 := min_eq_right (by linarith)
        rw [alpha, ← min_add_add_right, min_assoc, full, List.length_cons]
        congr 1
        push_cast
        ring
      · rw [stepped]
      · rw [stepped]
      · rw [stepped]

omit [DecidableEq F] in
theorem beginOrbit_onSphere (world : LocalWorld F ℝ) :
    FVector.dist world.beginOrbit.pawn.orbitEntryStartPivot world.pawn.location =
      world.beginOrbit.pawn.orbitRadius := by
  have away : world.pawn.location - world.beginOrbit.pawn.orbitEntryStartPivot =
      -world.beginOrbit.pawn.orbitRadius • world.pawn.controlRotation.vector := by
    ext <;> simp [beginOrbit]
  have nonneg : 0 ≤ world.beginOrbit.pawn.orbitRadius := Real.sqrt_nonneg _
  rw [FVector.dist, away, FVector.size_smul, FRotator.size_vector, abs_neg, abs_of_nonneg nonneg,
    mul_one]

/-- The entry of an orbit: it begins on the sphere about the point the camera looks at; after any
number of steps with any mouse motion the pivot has moved by a tenth of the way for each step, up to
the pressed point, and the camera is in the ball about the pivot of the moment, on its sphere
exactly if it stood off its vertical axis before the last step. -/
theorem orbit_entry_blends (world : LocalWorld F ℝ) (mice : List (FVector2D ℝ))
    (mouse : FVector2D ℝ) :
    let begun := world.beginOrbit
    let radius := begun.pawn.orbitRadius
    let after := (begun.orbits (mice ++ [mouse])).pawn
    let alpha := min (((mice.length : ℝ) + 1) / 10) 1
    let pivot := FVector.lerp begun.pawn.orbitEntryStartPivot world.pawn.orbitPivot alpha
    FVector.dist begun.pawn.orbitEntryStartPivot world.pawn.location = radius ∧
      after.orbitEntryAlpha = alpha ∧ (9 ≤ mice.length → pivot = world.pawn.orbitPivot) ∧
      FVector.dist pivot after.location ≤ radius ∧
      (0 < radius → (FVector.dist pivot after.location = radius ↔
        1 / 10 ^ 8 ≤ ((begun.orbits mice).pawn.location - pivot).horizontalSquared)) := by
  intro begun radius after alpha pivot
  let before := begun.orbits mice
  obtain ⟨_, start, pressed, sameRadius⟩ := orbits_blend begun mice zero_le_one
  obtain ⟨blended, _⟩ := orbits_blend begun (mice ++ [mouse]) zero_le_one
  have last : begun.orbits (mice ++ [mouse]) = before.handleOrbit mouse := by
    simp [before, orbits]
  have stepped : after = _ :=
    (congrArg LocalWorld.pawn last).trans (handleOrbit_entering mouse before)
  have reached : after.orbitEntryAlpha = alpha := by
    refine blended.trans ?_
    have empty : begun.pawn.orbitEntryAlpha = 0 := rfl
    rw [empty, zero_add, List.length_append, List.length_singleton]
    push_cast
    rfl
  have next : min (before.pawn.orbitEntryAlpha + 0.1) 1 = alpha := by
    rw [← reached, stepped]
  have effective : effectivePivot before.pawn = pivot := by
    rw [effectivePivot, next, start, pressed]
    rfl
  have offset : after.location - pivot = orbitedOffset mouse (aimed before.pawn) := by
    rw [stepped, effective]
    exact add_sub_cancel_left _ _
  have nonneg : 0 ≤ (aimed before.pawn).orbitRadius := by
    refine le_of_le_of_eq ?_ sameRadius.symm
    exact Real.sqrt_nonneg _
  have from_pivot : pivotToCamera (aimed before.pawn) = before.pawn.location - pivot := by
    rw [← effective]
    rfl
  obtain ⟨inside, onSphere⟩ := orbitedOffset_size nonneg mouse
  have aimedRadius : (aimed before.pawn).orbitRadius = radius := sameRadius
  rw [aimedRadius] at inside onSphere
  rw [from_pivot] at onSphere
  refine ⟨beginOrbit_onSphere world, reached, ?_, ?_, ?_⟩
  · intro ten
    have many : (9 : ℝ) ≤ mice.length := by exact_mod_cast ten
    have complete : alpha = 1 := min_eq_right (by linarith)
    simp only [pivot, complete]
    ext <;> simp [FVector.lerp]
  · rw [FVector.dist, offset]
    exact inside
  · rw [FVector.dist, offset]
    exact onSphere

end LocalWorld

end Ioroom
