/-
The `FP32` of the controller.

A value is a finite number; what rounds it is the library the compiler puts in, there is
no floating-point unit (`-msoft-float`).  Rounded here are the conversions between an
angle and its thousandths, which is how angles are stored and sent; all other arithmetic
is exact.  Where a value may be no finite number it is an `AnyFP32`.

A conversion to an integer type that it does not fit is undefined in C, and comes to the
low 32 bits, or to zero for a negative number, here.
-/
import SwiftAcu.Acu.Basic
import SwiftAcu.Lib.FloatingPoint

namespace SwiftAcu

/-- The finite values of an `FP32`. -/
abbrev FP32 := Rat

/-- All values of an `FP32`. -/
abbrev AnyFP32 := FloatingPoint.Value

/-- How a result is rounded: at most in the last of 24 bits, and not if it has no more. -/
class SoftFloat where
  round : FP32 → FP32
  round_dyadic {z : Int} (hz : |z| < 2 ^ 24) (k : Nat) : round ((z : FP32) / 2 ^ k) = z / 2 ^ k
  abs_round_sub_le (x : FP32) : |round x - x| ≤ |x| / 2 ^ 24

/-- IEEE single precision. -/
@[reducible] def SoftFloat.single : SoftFloat where
  round := FloatingPoint.roundTo 24
  round_dyadic := FloatingPoint.roundTo_dyadic
  abs_round_sub_le := FloatingPoint.abs_roundTo_sub_le 24

/-- Exact arithmetic. -/
@[reducible] def SoftFloat.exact : SoftFloat where
  round := id
  round_dyadic _ _ := rfl
  abs_round_sub_le x := by
    rw [id, sub_self, abs_zero]
    positivity

/-! ### Integers -/

/-- `(INT32S) x`. -/
def int32s (x : FP32) : Int := x.num.tdiv x.den

/-- `(INT32U) x`. -/
def int32u (x : FP32) : Nat := u32 (int32s x).toNat

section
variable [SoftFloat]

/-- `(FP32) n / 1000`. -/
def degreeOf (n : Int) : FP32 := SoftFloat.round (SoftFloat.round n / 1000)

/-- `x * 1000`. -/
def thousandths (x : FP32) : FP32 := SoftFloat.round (x * 1000)

/-- So many thousandths are the same number again after they have been an angle. -/
def ComesBack (n : Nat) : Prop := int32u (thousandths (degreeOf n)) = n

instance (n : Nat) : Decidable (ComesBack n) := inferInstanceAs (Decidable (_ = _))

end

end SwiftAcu
