import Mathlib.Algebra.Order.Field.Basic
import Mathlib.Algebra.Order.Floor.Defs
import Mathlib.Data.Rat.Cast.OfScientific
import Mathlib.Data.Rat.Floor
import Mathlib.Tactic.Abel
import Mathlib.Tactic.Ring

/-!
# Engine arithmetic

Vectors, rotators and the `FMath` helpers used by the project, in exact arithmetic over an
ordered field.  Square roots and trigonometric functions belong to the engine and are a
parameter of the field; angles are in degrees.
-/

namespace Ioroom

/-- The engine functions which are not field arithmetic: `FMath::Sqrt`, the sine and cosine of an
angle in degrees, and `FMath::Atan2` converted to degrees. -/
class EngineMath (R : Type*) where
  sqrt : R → R
  sinDeg : R → R
  cosDeg : R → R
  atan2Deg : R → R → R

@[ext]
structure FVector (R : Type*) where
  x : R
  y : R
  z : R
deriving DecidableEq, Repr

@[ext]
structure FVector2D (R : Type*) where
  x : R
  y : R
deriving DecidableEq, Repr

@[ext]
structure FRotator (R : Type*) where
  pitch : R
  yaw : R
  roll : R
deriving DecidableEq, Repr

structure FLinearColor (R : Type*) where
  r : R
  g : R
  b : R
  a : R
deriving DecidableEq, Repr

def FLinearColor.white {R : Type*} [One R] : FLinearColor R := ⟨1, 1, 1, 1⟩

namespace FVector

variable {R : Type*}

instance [Zero R] : Zero (FVector R) := ⟨⟨0, 0, 0⟩⟩
instance [Add R] : Add (FVector R) := ⟨fun v w => ⟨v.x + w.x, v.y + w.y, v.z + w.z⟩⟩
instance [Neg R] : Neg (FVector R) := ⟨fun v => ⟨-v.x, -v.y, -v.z⟩⟩
instance [Sub R] : Sub (FVector R) := ⟨fun v w => ⟨v.x - w.x, v.y - w.y, v.z - w.z⟩⟩
instance [Mul R] : SMul R (FVector R) := ⟨fun s v => ⟨s * v.x, s * v.y, s * v.z⟩⟩

@[simp] theorem zero_x [Zero R] : (0 : FVector R).x = 0 := rfl
@[simp] theorem zero_y [Zero R] : (0 : FVector R).y = 0 := rfl
@[simp] theorem zero_z [Zero R] : (0 : FVector R).z = 0 := rfl
@[simp] theorem add_x [Add R] (v w : FVector R) : (v + w).x = v.x + w.x := rfl
@[simp] theorem add_y [Add R] (v w : FVector R) : (v + w).y = v.y + w.y := rfl
@[simp] theorem add_z [Add R] (v w : FVector R) : (v + w).z = v.z + w.z := rfl
@[simp] theorem neg_x [Neg R] (v : FVector R) : (-v).x = -v.x := rfl
@[simp] theorem neg_y [Neg R] (v : FVector R) : (-v).y = -v.y := rfl
@[simp] theorem neg_z [Neg R] (v : FVector R) : (-v).z = -v.z := rfl
@[simp] theorem sub_x [Sub R] (v w : FVector R) : (v - w).x = v.x - w.x := rfl
@[simp] theorem sub_y [Sub R] (v w : FVector R) : (v - w).y = v.y - w.y := rfl
@[simp] theorem sub_z [Sub R] (v w : FVector R) : (v - w).z = v.z - w.z := rfl
@[simp] theorem smul_x [Mul R] (s : R) (v : FVector R) : (s • v).x = s * v.x := rfl
@[simp] theorem smul_y [Mul R] (s : R) (v : FVector R) : (s • v).y = s * v.y := rfl
@[simp] theorem smul_z [Mul R] (s : R) (v : FVector R) : (s • v).z = s * v.z := rfl

instance [AddCommGroup R] : AddCommGroup (FVector R) where
  add_assoc u v w := by ext <;> simp [add_assoc]
  zero_add v := by ext <;> simp
  add_zero v := by ext <;> simp
  add_comm v w := by ext <;> simp [add_comm]
  neg_add_cancel v := by ext <;> simp
  sub_eq_add_neg v w := by ext <;> simp [sub_eq_add_neg]
  nsmul := nsmulRec
  zsmul := zsmulRec

variable [Field R]

def sizeSquared (v : FVector R) : R := v.x * v.x + v.y * v.y + v.z * v.z

def size [EngineMath R] (v : FVector R) : R := EngineMath.sqrt v.sizeSquared

def dist [EngineMath R] (v w : FVector R) : R := (w - v).size

def lerp (v w : FVector R) (alpha : R) : FVector R := v + alpha • (w - v)

/-- `FVector::GetSafeNormal` with the default tolerance. -/
def getSafeNormal [LinearOrder R] [EngineMath R] (v : FVector R) : FVector R :=
  if v.sizeSquared = 1 then v
  else if v.sizeSquared < 1 / 10 ^ 8 then 0
  else (1 / EngineMath.sqrt v.sizeSquared) • v

def rotation [EngineMath R] (v : FVector R) : FRotator R where
  pitch := EngineMath.atan2Deg v.z (EngineMath.sqrt (v.x * v.x + v.y * v.y))
  yaw := EngineMath.atan2Deg v.y v.x
  roll := 0

/-- `FQuat(FVector::UpVector, Angle).RotateVector`, with the angle in degrees. -/
def rotateAboutUp [EngineMath R] (angle : R) (v : FVector R) : FVector R where
  x := EngineMath.cosDeg angle * v.x - EngineMath.sinDeg angle * v.y
  y := EngineMath.sinDeg angle * v.x + EngineMath.cosDeg angle * v.y
  z := v.z

end FVector

/-- `FVector2D::Size` of a difference. -/
def FVector2D.distance {R : Type*} [Field R] [EngineMath R] (v w : FVector2D R) : R :=
  EngineMath.sqrt ((v.x - w.x) * (v.x - w.x) + (v.y - w.y) * (v.y - w.y))

namespace FRotator

variable {R : Type*} [Field R] [EngineMath R]

/-- `FRotator::Vector`, the forward axis of the rotation. -/
def vector (rotator : FRotator R) : FVector R where
  x := EngineMath.cosDeg rotator.pitch * EngineMath.cosDeg rotator.yaw
  y := EngineMath.cosDeg rotator.pitch * EngineMath.sinDeg rotator.yaw
  z := EngineMath.sinDeg rotator.pitch

/-- `FRotationMatrix(Rot).GetUnitAxis(EAxis::Y)`, the right axis of the rotation. -/
def rightVector (rotator : FRotator R) : FVector R where
  x := EngineMath.sinDeg rotator.roll * EngineMath.sinDeg rotator.pitch *
      EngineMath.cosDeg rotator.yaw -
    EngineMath.cosDeg rotator.roll * EngineMath.sinDeg rotator.yaw
  y := EngineMath.sinDeg rotator.roll * EngineMath.sinDeg rotator.pitch *
      EngineMath.sinDeg rotator.yaw +
    EngineMath.cosDeg rotator.roll * EngineMath.cosDeg rotator.yaw
  z := -(EngineMath.sinDeg rotator.roll * EngineMath.cosDeg rotator.pitch)

end FRotator

section FMath

variable {R : Type*} [Field R] [LinearOrder R]

/-- `FMath::IsNearlyZero` with the default tolerance. -/
def isNearlyZero (value : R) : Bool := |value| ≤ 1 / 10 ^ 8

def gridSnap [FloorRing R] (location grid : R) : R :=
  if grid = 0 then location else ⌊(location + grid / 2) / grid⌋ * grid

def clamp (value low high : R) : R := max low (min value high)

/-- The point where the ray meets a horizontal plane, as every cursor handler computes it. -/
def rayAtPlane (rayOrigin rayDirection : FVector R) (planeZ : R) : FVector R :=
  let t := (planeZ - rayOrigin.z) / rayDirection.z
  rayOrigin + t • rayDirection

end FMath

/-- Engine functions which are exact on quarter turns and on squares of rationals. -/
@[reducible]
def quarterTurnMath : EngineMath ℚ where
  sqrt value := Nat.sqrt value.num.toNat / Nat.sqrt value.den
  sinDeg angle := if angle = 90 then 1 else if angle = -90 then -1 else 0
  cosDeg angle := if angle = 0 then 1 else if angle = 180 then -1 else 0
  atan2Deg y x :=
    if y = 0 then (if x < 0 then 180 else 0) else if y < 0 then -90 else 90

end Ioroom
