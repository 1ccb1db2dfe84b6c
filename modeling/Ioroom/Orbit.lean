import Ioroom.PawnControl
import Ioroom.PlaneAngle

/-!
# Orbiting

In exact real arithmetic an orbit step turns the camera about the pivot, clamps its elevation and
rebuilds its offset from the normalised horizontal part.  The clamp keeps that part from vanishing,
so that the camera stays on its sphere for ever.
-/

namespace Ioroom

open PlaneAngle

/-- The engine functions over the real numbers. -/
noncomputable instance realMath : EngineMath ℝ where
  sqrt := Real.sqrt
  sinDeg := sinDeg
  cosDeg := cosDeg
  atan2Deg := atan2Deg

namespace FVector

/-- The squared distance from the vertical axis. -/
def horizontalSquared (v : FVector ℝ) : ℝ := v.x * v.x + v.y * v.y

noncomputable def azimuth (v : FVector ℝ) : ℝ := atan2Deg v.y v.x

noncomputable def elevation (v : FVector ℝ) : ℝ := atan2Deg v.z (Real.sqrt v.horizontalSquared)

theorem getSafeNormal_eq {v : FVector ℝ} (large : 1 / 10 ^ 8 < v.sizeSquared) :
    v.getSafeNormal = (1 / Real.sqrt v.sizeSquared) • v := by
  rw [getSafeNormal]
  split
  · rename_i unit
    rw [unit, Real.sqrt_one]
    ext <;> simp
  · rw [if_neg large.not_gt]
    rfl

theorem rotation_vector {v : FVector ℝ} (unit : v.sizeSquared = 1) : v.rotation.vector = v := by
  have size : Real.sqrt (Real.sqrt v.horizontalSquared * Real.sqrt v.horizontalSquared +
      v.z * v.z) = 1 := by
    have nonneg : 0 ≤ v.horizontalSquared := add_nonneg (mul_self_nonneg _) (mul_self_nonneg _)
    rw [Real.mul_self_sqrt nonneg, horizontalSquared]
    rw [sizeSquared] at unit
    rw [unit, Real.sqrt_one]
  have cosPitch := size_mul_cosDeg_atan2Deg v.z (Real.sqrt v.horizontalSquared)
  have sinPitch := size_mul_sinDeg_atan2Deg v.z (Real.sqrt v.horizontalSquared)
  rw [size, one_mul] at cosPitch sinPitch
  ext
  · change cosDeg (atan2Deg v.z (Real.sqrt v.horizontalSquared)) * cosDeg (atan2Deg v.y v.x) = v.x
    rw [cosPitch]
    exact size_mul_cosDeg_atan2Deg v.y v.x
  · change cosDeg (atan2Deg v.z (Real.sqrt v.horizontalSquared)) * sinDeg (atan2Deg v.y v.x) = v.y
    rw [cosPitch]
    exact size_mul_sinDeg_atan2Deg v.y v.x
  · exact sinPitch

/-- A vector of the given length at the given elevation. -/
structure IsPolar (v : FVector ℝ) (radius elevation : ℝ) : Prop where
  horizontal : v.horizontalSquared = (radius * PlaneAngle.cosDeg elevation) ^ 2
  vertical : v.z = radius * PlaneAngle.sinDeg elevation

namespace IsPolar

variable {v : FVector ℝ} {radius angle : ℝ}

theorem sizeSquared_eq (polar : v.IsPolar radius angle) : v.sizeSquared = radius ^ 2 := by
  have unit := sinDeg_sq_add_cosDeg_sq angle
  have split : v.sizeSquared = v.horizontalSquared + v.z * v.z := rfl
  rw [split, polar.horizontal, polar.vertical]
  linear_combination radius ^ 2 * unit

theorem size_eq (polar : v.IsPolar radius angle) (nonneg : 0 ≤ radius) : v.size = radius := by
  change Real.sqrt v.sizeSquared = radius
  rw [polar.sizeSquared_eq, Real.sqrt_sq nonneg]

theorem elevation_eq (polar : v.IsPolar radius angle) (positive : 0 < radius)
    (lower : -89 ≤ angle) (upper : angle ≤ 89) : v.elevation = angle := by
  have cosine : 0 < cosDeg angle := cosDeg_pos (by linarith) (by linarith)
  rw [elevation, polar.horizontal, Real.sqrt_sq (by positivity), polar.vertical]
  exact atan2Deg_polar positive (by linarith) (by linarith)

theorem neg (polar : v.IsPolar radius angle) : (-v).IsPolar radius (-angle) := by
  constructor
  · rw [cosDeg_neg, ← polar.horizontal, horizontalSquared, horizontalSquared, neg_x, neg_y]
    ring
  · rw [sinDeg_neg, neg_z, polar.vertical]
    ring

theorem smul (polar : v.IsPolar radius angle) (scale : ℝ) :
    (scale • v).IsPolar (scale * radius) angle := by
  constructor
  · have horizontal := polar.horizontal
    rw [horizontalSquared] at horizontal
    rw [horizontalSquared, smul_x, smul_y]
    linear_combination scale ^ 2 * horizontal
  · rw [smul_z, polar.vertical]
    ring

end IsPolar

end FVector

namespace LocalWorld

variable {F : Type*} [DecidableEq F]

/-- The camera as seen from the pivot. -/
def pivotToCamera (pawn : DesktopPawn F ℝ) : FVector ℝ := pawn.location - pawn.orbitPivot

/-- The offset turned about the vertical axis by the horizontal mouse motion. -/
noncomputable def turnedOffset (mouse : FVector2D ℝ) (pawn : DesktopPawn F ℝ) : FVector ℝ :=
  (pivotToCamera pawn).rotateAboutUp ((mouse.x - pawn.lastMousePosition.x) * pawn.orbitSensitivity)

/-- The elevation to which the vertical mouse motion leads. -/
noncomputable def newElevation (mouse : FVector2D ℝ) (pawn : DesktopPawn F ℝ) : ℝ :=
  let turned := turnedOffset mouse pawn
  clamp (atan2Deg turned.z (FVector.size ⟨turned.x, turned.y, 0⟩) +
    (mouse.y - pawn.lastMousePosition.y) * pawn.orbitSensitivity) (-89.0) 89.0

/-- The offset after an orbit step. -/
noncomputable def orbitedOffset (mouse : FVector2D ℝ) (pawn : DesktopPawn F ℝ) : FVector ℝ :=
  let turned := turnedOffset mouse pawn
  (cosDeg (newElevation mouse pawn) * pawn.orbitRadius) •
      FVector.getSafeNormal ⟨turned.x, turned.y, 0⟩ +
    ⟨0, 0, sinDeg (newElevation mouse pawn) * pawn.orbitRadius⟩

variable {world : LocalWorld F ℝ} {pawn : DesktopPawn F ℝ}

theorem orbit_call_pawn {newLocation : FVector ℝ} {newRotation : FRotator ℝ}
    (location : world.pawn.location = newLocation)
    (controlRotation : world.pawn.controlRotation = newRotation) :
    (world.call (.orbitTransform newLocation newRotation)).pawn = world.pawn := by
  subst location controlRotation
  rw [call]
  split <;> rfl

theorem handleOrbit_pawn (entered : world.pawn.orbitEntryAlpha = 1) (mouse : FVector2D ℝ) :
    (world.handleOrbit mouse).pawn =
      { world.pawn with
        location := world.pawn.orbitPivot + orbitedOffset mouse world.pawn
        controlRotation := (-orbitedOffset mouse world.pawn).getSafeNormal.rotation
        lastMousePosition := mouse } := by
  have alpha : min (world.pawn.orbitEntryAlpha + 0.1) 1 = world.pawn.orbitEntryAlpha := by
    rw [entered]
    norm_num
  have pivot : FVector.lerp world.pawn.orbitEntryStartPivot world.pawn.orbitPivot
      world.pawn.orbitEntryAlpha = world.pawn.orbitPivot := by
    rw [entered]
    ext <;> simp [FVector.lerp]
  have away : world.pawn.orbitPivot -
      (world.pawn.orbitPivot + orbitedOffset mouse world.pawn) =
      -orbitedOffset mouse world.pawn := by abel
  rw [← away]
  simp only [handleOrbit, alpha, pivot]
  exact orbit_call_pawn rfl rfl

/-- The entry blend is complete, and neither the camera nor the sphere at 89 degrees is within the
tolerance of the vertical axis. -/
structure CanOrbit (pawn : DesktopPawn F ℝ) : Prop where
  entered : pawn.orbitEntryAlpha = 1
  apart : 1 / 10 ^ 8 < (pivotToCamera pawn).horizontalSquared
  wide : 1 / 10 ^ 4 < pawn.orbitRadius * cosDeg 89

/-- The camera is on its sphere, off the poles and the axis, and looks at the pivot. -/
structure OnSphere (pawn : DesktopPawn F ℝ) : Prop where
  distance : FVector.dist pawn.orbitPivot pawn.location = pawn.orbitRadius
  elevation : (pivotToCamera pawn).elevation ∈ Set.Icc (-89) 89
  apart : 1 / 10 ^ 8 < (pivotToCamera pawn).horizontalSquared
  looksAtPivot : pawn.orbitRadius • pawn.controlRotation.vector = pawn.orbitPivot - pawn.location
  pitch : pawn.controlRotation.pitch ∈ Set.Icc (-89) 89

omit [DecidableEq F] in
theorem CanOrbit.radius_pos (can : CanOrbit pawn) : 0 < pawn.orbitRadius := by
  have cosine : 0 < cosDeg 89 := cosDeg_pos (by norm_num) (by norm_num)
  have wide := can.wide
  by_contra negative
  have product := mul_nonpos_of_nonpos_of_nonneg (not_lt.mp negative) cosine.le
  norm_num at wide
  linarith

theorem tolerance_lt {radius angle : ℝ} (positive : 0 < radius)
    (wide : 1 / 10 ^ 4 < radius * cosDeg 89) (range : angle ∈ Set.Icc (-89) 89) :
    1 / 10 ^ 8 < (radius * cosDeg angle) ^ 2 := by
  have cosine := cosDeg_le_cosDeg (by norm_num) range.1 range.2
  have wider : 1 / 10 ^ 4 < radius * cosDeg angle :=
    wide.trans_le (mul_le_mul_of_nonneg_left cosine positive.le)
  calc
    (1 : ℝ) / 10 ^ 8 = (1 / 10 ^ 4) ^ 2 := by norm_num
    _ < (radius * cosDeg angle) ^ 2 := by gcongr

theorem rotateAboutUp_horizontalSquared (angle : ℝ) (v : FVector ℝ) :
    (v.rotateAboutUp angle).horizontalSquared = v.horizontalSquared := by
  have unit := sinDeg_sq_add_cosDeg_sq angle
  change (cosDeg angle * v.x - sinDeg angle * v.y) * (cosDeg angle * v.x - sinDeg angle * v.y) +
    (sinDeg angle * v.x + cosDeg angle * v.y) * (sinDeg angle * v.x + cosDeg angle * v.y) =
      v.x * v.x + v.y * v.y
  linear_combination (v.x * v.x + v.y * v.y) * unit

omit [DecidableEq F] in
theorem newElevation_mem (mouse : FVector2D ℝ) (pawn : DesktopPawn F ℝ) :
    newElevation mouse pawn ∈ Set.Icc (-89) 89 := by
  simp only [newElevation, clamp]
  constructor
  · refine le_trans ?_ (le_max_left _ _)
    norm_num
  · refine max_le (by norm_num) ((min_le_right _ _).trans ?_)
    norm_num

omit [DecidableEq F] in
/-- The horizontal part of the new offset is a positive multiple of the turned one. -/
theorem orbitedOffset_scaled (can : CanOrbit pawn) (mouse : FVector2D ℝ) : ∃ scale, 0 < scale ∧
    (orbitedOffset mouse pawn).x = scale * (turnedOffset mouse pawn).x ∧
    (orbitedOffset mouse pawn).y = scale * (turnedOffset mouse pawn).y ∧
    (orbitedOffset mouse pawn).z = pawn.orbitRadius * sinDeg (newElevation mouse pawn) ∧
    scale ^ 2 * (turnedOffset mouse pawn).horizontalSquared =
      (pawn.orbitRadius * cosDeg (newElevation mouse pawn)) ^ 2 := by
  obtain ⟨lower, upper⟩ := newElevation_mem mouse pawn
  have cosine : 0 < cosDeg (newElevation mouse pawn) := cosDeg_pos (by linarith) (by linarith)
  have large : 1 / 10 ^ 8 < (turnedOffset mouse pawn).horizontalSquared := by
    rw [turnedOffset, rotateAboutUp_horizontalSquared]
    exact can.apart
  have positive : 0 < (turnedOffset mouse pawn).horizontalSquared := lt_trans (by norm_num) large
  have flat : FVector.sizeSquared (⟨(turnedOffset mouse pawn).x, (turnedOffset mouse pawn).y, 0⟩ :
      FVector ℝ) = (turnedOffset mouse pawn).horizontalSquared := by
    simp [FVector.sizeSquared, FVector.horizontalSquared]
  have normal := FVector.getSafeNormal_eq (large.trans_eq flat.symm)
  rw [flat] at normal
  have root := Real.sqrt_pos.mpr positive
  have square := Real.sq_sqrt positive.le
  refine ⟨cosDeg (newElevation mouse pawn) * pawn.orbitRadius *
    (1 / Real.sqrt (turnedOffset mouse pawn).horizontalSquared), ?_, ?_, ?_, ?_, ?_⟩
  · have radius := can.radius_pos
    positivity
  · simp [orbitedOffset, normal, mul_assoc]
  · simp [orbitedOffset, normal, mul_assoc]
  · simp [orbitedOffset, normal, mul_comm]
  · field_simp
    rw [square]

omit [DecidableEq F] in
theorem orbitedOffset_polar (can : CanOrbit pawn) (mouse : FVector2D ℝ) :
    (orbitedOffset mouse pawn).IsPolar pawn.orbitRadius (newElevation mouse pawn) := by
  obtain ⟨scale, _, xScaled, yScaled, vertical, squared⟩ := orbitedOffset_scaled can mouse
  refine ⟨?_, vertical⟩
  rw [← squared, FVector.horizontalSquared, xScaled, yScaled, FVector.horizontalSquared]
  ring

omit [DecidableEq F] in
/-- An orbit step changes the azimuth by the horizontal mouse motion, up to whole turns. -/
theorem orbitedOffset_azimuth (can : CanOrbit pawn) (mouse : FVector2D ℝ) :
    ∃ turns : ℤ, (orbitedOffset mouse pawn).azimuth = (pivotToCamera pawn).azimuth +
      (mouse.x - pawn.lastMousePosition.x) * pawn.orbitSensitivity + turns * 360 := by
  obtain ⟨scale, positive, xScaled, yScaled, _, _⟩ := orbitedOffset_scaled can mouse
  have apart : (pivotToCamera pawn).horizontalSquared ≠ 0 := by
    have large := can.apart
    intro vanishes
    norm_num [vanishes] at large
  rw [FVector.azimuth, xScaled, yScaled, atan2Deg_smul positive]
  exact exists_atan2Deg_rotate apart _

/-- Looking back from a point of the sphere, the normalised view direction is the exact one. -/
theorem lookBack {offset : FVector ℝ} {radius angle : ℝ} (polar : offset.IsPolar radius angle)
    (positive : 0 < radius) (large : 1 / 10 ^ 8 < radius ^ 2) :
    (-offset).getSafeNormal = (1 / radius) • -offset ∧
      (-offset).getSafeNormal.sizeSquared = 1 ∧
      (-offset).getSafeNormal.IsPolar 1 (-angle) := by
  have size := polar.neg.sizeSquared_eq
  have normal : (-offset).getSafeNormal = (1 / radius) • -offset := by
    rw [FVector.getSafeNormal_eq (large.trans_eq size.symm), size, Real.sqrt_sq positive.le]
  have unit := polar.neg.smul (1 / radius)
  rw [one_div_mul_cancel positive.ne', ← normal] at unit
  exact ⟨normal, by rw [unit.sizeSquared_eq, one_pow], unit⟩

/-- One orbit step leads onto the sphere from wherever orbiting is possible, and it stays
possible. -/
theorem handleOrbit_onSphere (can : CanOrbit world.pawn) (mouse : FVector2D ℝ) :
    CanOrbit (world.handleOrbit mouse).pawn ∧ OnSphere (world.handleOrbit mouse).pawn := by
  have range := newElevation_mem mouse world.pawn
  have positive := can.radius_pos
  have polar := orbitedOffset_polar can mouse
  have stepped := handleOrbit_pawn can.entered mouse
  have offset : pivotToCamera (world.handleOrbit mouse).pawn = orbitedOffset mouse world.pawn := by
    rw [stepped, pivotToCamera]
    exact add_sub_cancel_left _ _
  have apart : 1 / 10 ^ 8 < (pivotToCamera (world.handleOrbit mouse).pawn).horizontalSquared := by
    rw [offset, polar.horizontal]
    exact tolerance_lt positive can.wide range
  have large : 1 / 10 ^ 8 < world.pawn.orbitRadius ^ 2 := by
    have level : (0 : ℝ) ∈ Set.Icc (-89) 89 := by norm_num
    have equator := tolerance_lt positive can.wide level
    simpa [cosDeg] using equator
  obtain ⟨normal, unit, looking⟩ := lookBack polar positive large
  refine ⟨⟨?_, apart, ?_⟩, ⟨?_, ?_, apart, ?_, ?_⟩⟩
  · rw [stepped]
    exact can.entered
  · rw [stepped]
    exact can.wide
  · change (pivotToCamera (world.handleOrbit mouse).pawn).size = _
    rw [offset, polar.size_eq positive.le, stepped]
  · rw [offset, polar.elevation_eq positive range.1 range.2]
    exact range
  · have away : (world.handleOrbit mouse).pawn.orbitPivot -
        (world.handleOrbit mouse).pawn.location = -orbitedOffset mouse world.pawn := by
      rw [← offset, pivotToCamera, neg_sub]
    rw [away, stepped, FVector.rotation_vector unit, normal]
    ext <;> simp [positive.ne']
  · have pitch : (world.handleOrbit mouse).pawn.controlRotation.pitch =
        -newElevation mouse world.pawn := by
      rw [stepped]
      exact looking.elevation_eq one_pos (by linarith [range.2]) (by linarith [range.1])
    rw [pitch]
    exact ⟨by linarith [range.2], by linarith [range.1]⟩

/-- A sequence of orbit steps. -/
noncomputable def orbits (mice : List (FVector2D ℝ)) (world : LocalWorld F ℝ) : LocalWorld F ℝ :=
  mice.foldl (fun world mouse => world.handleOrbit mouse) world

/-- The horizontal mouse motion over a sequence of positions. -/
def horizontalMotion : ℝ → List (FVector2D ℝ) → ℝ
  | _, [] => 0
  | last, mouse :: mice => mouse.x - last + horizontalMotion mouse.x mice

theorem orbits_azimuth (can : CanOrbit world.pawn) (mice : List (FVector2D ℝ)) :
    CanOrbit (world.orbits mice).pawn ∧
      (world.orbits mice).pawn.orbitPivot = world.pawn.orbitPivot ∧
      (world.orbits mice).pawn.orbitRadius = world.pawn.orbitRadius ∧
      ∃ turns : ℤ, (pivotToCamera (world.orbits mice).pawn).azimuth =
        (pivotToCamera world.pawn).azimuth +
          horizontalMotion world.pawn.lastMousePosition.x mice * world.pawn.orbitSensitivity +
          turns * 360 := by
  induction mice generalizing world with
  | nil => exact ⟨can, rfl, rfl, 0, by simp [orbits, horizontalMotion]⟩
  | cons mouse mice induction =>
      have stepped := handleOrbit_pawn can.entered mouse
      have canNext := (handleOrbit_onSphere can mouse).1
      have offset : pivotToCamera (world.handleOrbit mouse).pawn =
          orbitedOffset mouse world.pawn := by
        rw [stepped, pivotToCamera]
        exact add_sub_cancel_left _ _
      obtain ⟨canLast, pivot, radius, later, azimuth⟩ := induction canNext
      obtain ⟨first, turned⟩ := orbitedOffset_azimuth can mouse
      refine ⟨canLast, ?_, ?_, first + later, ?_⟩
      · exact pivot.trans (by rw [stepped])
      · exact radius.trans (by rw [stepped])
      · have unfolded : world.orbits (mouse :: mice) = (world.handleOrbit mouse).orbits mice := rfl
        rw [unfolded, azimuth, offset, turned, stepped, horizontalMotion]
        push_cast
        ring

/-- Orbiting keeps the camera on its sphere and off the poles: after every sequence of orbit steps
it is at the orbit radius from the pivot, between 89 degrees below and above it, beyond the
tolerance from the vertical axis, looking at the pivot, and its azimuth has changed by the
horizontal mouse motion, up to whole turns. -/
theorem orbit_stays_on_sphere (entered : world.pawn.orbitEntryAlpha = 1)
    (apart : 1 / 10 ^ 8 < (pivotToCamera world.pawn).horizontalSquared)
    (wide : 1 / 10 ^ 4 < world.pawn.orbitRadius * cosDeg 89)
    (mice : List (FVector2D ℝ)) (mouse : FVector2D ℝ) :
    let after := (world.orbits (mice ++ [mouse])).pawn
    after.orbitPivot = world.pawn.orbitPivot ∧ after.orbitRadius = world.pawn.orbitRadius ∧
      OnSphere after ∧
      ∃ turns : ℤ, (pivotToCamera after).azimuth = (pivotToCamera world.pawn).azimuth +
        horizontalMotion world.pawn.lastMousePosition.x (mice ++ [mouse]) *
          world.pawn.orbitSensitivity + turns * 360 := by
  intro after
  have can : CanOrbit world.pawn := ⟨entered, apart, wide⟩
  obtain ⟨_, pivot, radius, azimuth⟩ := orbits_azimuth can (mice ++ [mouse])
  have last : world.orbits (mice ++ [mouse]) = (world.orbits mice).handleOrbit mouse := by
    simp [orbits]
  refine ⟨pivot, radius, ?_, azimuth⟩
  change OnSphere (world.orbits (mice ++ [mouse])).pawn
  rw [last]
  exact (handleOrbit_onSphere (orbits_azimuth can mice).1 mouse).2

/-- The camera ten units east of the pivot, with the entry blend behind it. -/
noncomputable def orbitingEast : LocalWorld Nat ℝ where
  hasAuthority := false
  furniture _ := { location := 0, rotation := ⟨0, 0, 0⟩ }
  pawn := { DesktopPawn.spawn ⟨10.0, 0, 0⟩ with
    leftClickState := .orbiting, orbitEntryAlpha := 1, orbitRadius := 10.0 }
  playerState := none

theorem orbitingEast_entered : orbitingEast.pawn.orbitEntryAlpha = 1 := rfl

/-- However the mouse moves next, the camera stays ten units from the pivot. -/
theorem orbit_stays_on_sphere_east :
    FVector.dist 0 (orbitingEast.orbits [⟨3, 1000⟩, ⟨4, -50⟩]).pawn.location = 10 := by
  have chord := one_sub_div_le_cosDeg (by norm_num : (0 : ℝ) ≤ 89) (by norm_num)
  have apart : 1 / 10 ^ 8 < (pivotToCamera orbitingEast.pawn).horizontalSquared := by
    norm_num [orbitingEast, pivotToCamera, DesktopPawn.spawn, FVector.horizontalSquared]
  have ten : orbitingEast.pawn.orbitRadius = 10 := by norm_num [orbitingEast]
  have wide : 1 / 10 ^ 4 < orbitingEast.pawn.orbitRadius * cosDeg 89 := by
    rw [ten]
    linarith
  obtain ⟨pivot, radius, onSphere, _⟩ :=
    orbit_stays_on_sphere orbitingEast_entered apart wide [⟨3, 1000⟩] ⟨4, -50⟩
  have distance := onSphere.distance
  rw [pivot, radius, ten] at distance
  exact distance

end LocalWorld

end Ioroom
