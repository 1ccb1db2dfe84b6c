import Mathlib.Analysis.SpecialFunctions.Complex.Arg
import Mathlib.Analysis.SpecialFunctions.Trigonometric.Bounds

/-!
# Directions in the plane, in degrees

Sine, cosine and the two-argument arctangent over the reals with angles in degrees: polar
coordinates and back, and what a rotation does to the direction of a point.
-/

namespace PlaneAngle

open Real

noncomputable section

def sinDeg (angle : ℝ) : ℝ := sin (angle * (π / 180))

def cosDeg (angle : ℝ) : ℝ := cos (angle * (π / 180))

/-- The direction of the point `(x, y)`. -/
def atan2Deg (y x : ℝ) : ℝ := Complex.arg ⟨x, y⟩ * (180 / π)

end

theorem sinDeg_sq_add_cosDeg_sq (angle : ℝ) : sinDeg angle ^ 2 + cosDeg angle ^ 2 = 1 :=
  sin_sq_add_cos_sq _

@[simp]
theorem sinDeg_neg (angle : ℝ) : sinDeg (-angle) = -sinDeg angle := by
  rw [sinDeg, neg_mul, sin_neg, sinDeg]

@[simp]
theorem cosDeg_neg (angle : ℝ) : cosDeg (-angle) = cosDeg angle := by
  rw [cosDeg, neg_mul, cos_neg, cosDeg]

theorem degrees_radians (angle : ℝ) : angle * (180 / π) * (π / 180) = angle := by
  field_simp

theorem radians_degrees (angle : ℝ) : angle * (π / 180) * (180 / π) = angle := by
  field_simp

theorem size_mul_cosDeg_atan2Deg (y x : ℝ) :
    sqrt (x * x + y * y) * cosDeg (atan2Deg y x) = x := by
  have polar := Complex.norm_mul_cos_arg ⟨x, y⟩
  rw [cosDeg, atan2Deg, degrees_radians]
  rwa [Complex.norm_def, Complex.normSq_mk] at polar

theorem size_mul_sinDeg_atan2Deg (y x : ℝ) :
    sqrt (x * x + y * y) * sinDeg (atan2Deg y x) = y := by
  have polar := Complex.norm_mul_sin_arg ⟨x, y⟩
  rw [sinDeg, atan2Deg, degrees_radians]
  rwa [Complex.norm_def, Complex.normSq_mk] at polar

theorem atan2Deg_polar {radius angle : ℝ} (positive : 0 < radius) (lower : -180 < angle)
    (upper : angle ≤ 180) : atan2Deg (radius * sinDeg angle) (radius * cosDeg angle) = angle := by
  have range : angle * (π / 180) ∈ Set.Ioc (-π) π := by
    constructor
    · calc
        -π = -180 * (π / 180) := by ring
        _ < angle * (π / 180) := by gcongr
    · calc
        angle * (π / 180) ≤ 180 * (π / 180) := by gcongr
        _ = π := by ring
  have polar := Complex.arg_mul_cos_add_sin_mul_I positive range
  have point : (⟨radius * cosDeg angle, radius * sinDeg angle⟩ : ℂ) =
      radius * (Complex.cos (angle * (π / 180) : ℝ) +
        Complex.sin (angle * (π / 180) : ℝ) * Complex.I) := by
    rw [← Complex.ofReal_cos, ← Complex.ofReal_sin]
    apply Complex.ext <;>
      simp [cosDeg, sinDeg, -Complex.ofReal_cos, -Complex.ofReal_sin]
  rw [atan2Deg, point, polar, radians_degrees]

theorem atan2Deg_smul {scale : ℝ} (positive : 0 < scale) (y x : ℝ) :
    atan2Deg (scale * y) (scale * x) = atan2Deg y x := by
  have scaled : (⟨scale * x, scale * y⟩ : ℂ) = scale * ⟨x, y⟩ := by
    apply Complex.ext <;> simp
  rw [atan2Deg, scaled, Complex.arg_real_mul _ positive, atan2Deg]

theorem coe_arg_cos_sin (angle : ℝ) :
    (Complex.arg ⟨cos angle, sin angle⟩ : Angle) = (angle : Angle) := by
  have unit : (⟨cos angle, sin angle⟩ : ℂ) =
      Angle.cos angle + Angle.sin angle * Complex.I := by
    rw [Angle.cos_coe, Angle.sin_coe]
    apply Complex.ext <;> simp [-Complex.ofReal_cos, -Complex.ofReal_sin]
  rw [unit]
  exact Complex.arg_cos_add_sin_mul_I_coe_angle angle

/-- Rotating a point other than the centre adds to its direction, up to whole turns. -/
theorem exists_atan2Deg_rotate {x y : ℝ} (apart : x * x + y * y ≠ 0) (angle : ℝ) :
    ∃ turns : ℤ, atan2Deg (sinDeg angle * x + cosDeg angle * y)
        (cosDeg angle * x - sinDeg angle * y) = atan2Deg y x + angle + turns * 360 := by
  let rotation : ℂ := ⟨cosDeg angle, sinDeg angle⟩
  let point : ℂ := ⟨x, y⟩
  have rotation_ne : rotation ≠ 0 := by
    intro vanishes
    have unit := sinDeg_sq_add_cosDeg_sq angle
    have re : cosDeg angle = 0 := congrArg Complex.re vanishes
    have im : sinDeg angle = 0 := congrArg Complex.im vanishes
    simp [re, im] at unit
  have point_ne : point ≠ 0 := by
    intro vanishes
    have re : x = 0 := congrArg Complex.re vanishes
    have im : y = 0 := congrArg Complex.im vanishes
    simp [re, im] at apart
  have rotated : (⟨cosDeg angle * x - sinDeg angle * y,
      sinDeg angle * x + cosDeg angle * y⟩ : ℂ) = rotation * point := by
    apply Complex.ext <;> simp [rotation, point]
    ring
  have added : (Complex.arg (rotation * point) : Angle) =
      ((angle * (π / 180) + Complex.arg point : ℝ) : Angle) := by
    rw [Complex.arg_mul_coe_angle rotation_ne point_ne, Angle.coe_add]
    congr 1
    exact coe_arg_cos_sin _
  obtain ⟨turns, difference⟩ := Angle.angle_eq_iff_two_pi_dvd_sub.mp added
  refine ⟨turns, ?_⟩
  have argument : Complex.arg (rotation * point) =
      angle * (π / 180) + Complex.arg point + 2 * π * turns := by linarith
  rw [atan2Deg, rotated, argument, atan2Deg]
  field_simp
  ring

theorem cosDeg_le_cosDeg {limit angle : ℝ} (range : limit ≤ 180) (lower : -limit ≤ angle)
    (upper : angle ≤ limit) : cosDeg limit ≤ cosDeg angle := by
  have within : |angle| ≤ limit := abs_le.mpr ⟨lower, upper⟩
  have even : cosDeg angle = cos (|angle| * (π / 180)) := by
    rcases abs_choice angle with same | opposite
    · rw [same, cosDeg]
    · rw [opposite, ← cosDeg, cosDeg_neg]
  rw [even, cosDeg]
  refine cos_le_cos_of_nonneg_of_le_pi (by positivity) ?_ (by gcongr)
  calc
    limit * (π / 180) ≤ 180 * (π / 180) := by gcongr
    _ = π := by ring

theorem cosDeg_pos {angle : ℝ} (lower : -90 < angle) (upper : angle < 90) : 0 < cosDeg angle := by
  refine cos_pos_of_mem_Ioo ⟨?_, ?_⟩
  · calc
      -(π / 2) = -90 * (π / 180) := by ring
      _ < angle * (π / 180) := by gcongr
  · calc
      angle * (π / 180) < 90 * (π / 180) := by gcongr
      _ = π / 2 := by ring

theorem one_sub_div_le_cosDeg {angle : ℝ} (nonneg : 0 ≤ angle) (upper : angle ≤ 90) :
    1 - angle / 90 ≤ cosDeg angle := by
  have quarter : angle * (π / 180) ≤ π / 2 := by
    calc
      angle * (π / 180) ≤ 90 * (π / 180) := by gcongr
      _ = π / 2 := by ring
  have chord : 2 / π * (angle * (π / 180)) = angle / 90 := by
    field_simp
    ring
  have above := one_sub_mul_le_cos (by positivity) quarter
  rwa [chord] at above

end PlaneAngle
