/-
Binary floating point, on the rational numbers.

A number keeps its first `p` bits: it is rounded to the nearest number that has no more,
and to the even one of two that are as near.  The exponent is not bounded, so nothing
overflows and nothing is subnormal.  Two facts say what rounding does: it errs by at most
half a unit of the last place, and a number of at most `p` bits is kept.

A result may be no number at all, or infinite: `Value` has these too, and compares and adds
as the standard says, without rounding.
-/
import Mathlib.Algebra.Order.Field.Power
import Mathlib.Algebra.Order.Ring.Rat
import Mathlib.Algebra.Order.Field.Rat
import Mathlib.Tactic.FieldSimp
import Mathlib.Tactic.Linarith
import Mathlib.Tactic.Ring
import Mathlib.Tactic.Positivity

namespace FloatingPoint

/-! ### The nearest integer -/

/-- The integer nearest to `x`; of two that are as near, the even one. -/
def nearestEven (x : Rat) : Int :=
  let n := x.floor
  if x - n < 1 / 2 then n
  else if 1 / 2 < x - n then n + 1
  else if n % 2 = 0 then n else n + 1

/-- It is at most half away. -/
theorem abs_nearestEven_sub_le (x : Rat) : |(nearestEven x : Rat) - x| ≤ 1 / 2 := by
  have hle := Rat.floor_le x
  have hlt := Rat.lt_floor_add_one x
  push_cast at hlt
  unfold nearestEven
  dsimp only
  split
  · rw [abs_le]
    constructor <;> linarith
  · split
    · push_cast
      rw [abs_le]
      constructor <;> linarith
    · split
      · rw [abs_le]
        constructor <;> linarith
      · push_cast
        rw [abs_le]
        constructor <;> linarith

@[simp] theorem nearestEven_intCast (n : Int) : nearestEven n = n := by
  have hzero : (n : Rat) - n < 1 / 2 := by
    rw [sub_self]
    norm_num
  simp only [nearestEven, Rat.floor_intCast, if_pos hzero]

/-! ### The exponent -/

/-- `2 ^ k`. -/
def pow2 : Int → Rat
  | .ofNat n => (2 ^ n : Nat)
  | .negSucc n => 1 / (2 ^ (n + 1) : Nat)

theorem pow2_eq (k : Int) : pow2 k = 2 ^ k := by
  cases k with
  | ofNat n => simp [pow2]
  | negSucc n => simp [pow2, zpow_negSucc]

/-- The place of the leading bit. -/
def exponent (x : Rat) : Int :=
  let e := (x.num.natAbs.log2 : Int) - x.den.log2
  if |x| < pow2 e then e - 1 else e

/-- **The leading bit** stands at the exponent. -/
theorem exponent_spec {x : Rat} (hx : x ≠ 0) :
    (2 : Rat) ^ exponent x ≤ |x| ∧ |x| < (2 : Rat) ^ (exponent x + 1) := by
  have hnum : x.num.natAbs ≠ 0 := by simpa using hx
  have hden : (0 : Rat) < x.den := by exact_mod_cast x.den_pos
  have habs : |x| = (x.num.natAbs : Rat) / x.den := by
    conv_lhs => rw [← Rat.num_div_den x]
    rw [abs_div, abs_of_pos hden, ← Int.cast_abs, Int.abs_eq_natAbs, Int.cast_natCast]
  have hnlo : (2 : Rat) ^ x.num.natAbs.log2 ≤ x.num.natAbs := by
    exact_mod_cast Nat.log2_self_le hnum
  have hnhi : (x.num.natAbs : Rat) < 2 ^ (x.num.natAbs.log2 + 1) := by
    exact_mod_cast Nat.lt_log2_self
  have hdlo : (2 : Rat) ^ x.den.log2 ≤ x.den := by
    exact_mod_cast Nat.log2_self_le x.den_nz
  have hdhi : (x.den : Rat) < 2 ^ (x.den.log2 + 1) := by
    exact_mod_cast Nat.lt_log2_self
  have htwo : (2 : Rat) ≠ 0 := by norm_num
  unfold exponent
  dsimp only
  rw [pow2_eq]
  split
  next h =>
    refine ⟨?_, ?_⟩
    · rw [habs, le_div_iff₀ hden]
      calc (2 : Rat) ^ ((x.num.natAbs.log2 : Int) - x.den.log2 - 1) * x.den
          ≤ 2 ^ ((x.num.natAbs.log2 : Int) - x.den.log2 - 1) * 2 ^ (x.den.log2 + 1) := by gcongr
        _ = 2 ^ x.num.natAbs.log2 := by
          rw [← zpow_natCast, ← zpow_natCast, ← zpow_add₀ htwo]
          congr 1
          push_cast
          omega
        _ ≤ _ := hnlo
    · rwa [sub_add_cancel]
  next h =>
    refine ⟨le_of_not_gt h, ?_⟩
    rw [habs, div_lt_iff₀ hden]
    calc (x.num.natAbs : Rat) < 2 ^ (x.num.natAbs.log2 + 1) := hnhi
      _ = 2 ^ ((x.num.natAbs.log2 : Int) - x.den.log2 + 1) * 2 ^ x.den.log2 := by
          rw [← zpow_natCast, ← zpow_natCast, ← zpow_add₀ htwo]
          congr 1
          push_cast
          omega
      _ ≤ _ := by gcongr

/-! ### Significant bits -/

/-- `x` with `p` significant bits. -/
def roundTo (p : Nat) (x : Rat) : Rat :=
  if x = 0 then 0
  else
    let ulp := pow2 (exponent x + 1 - p)
    nearestEven (x / ulp) * ulp

/-- **The error is at most half a unit of the last place.** -/
theorem abs_roundTo_sub_le (p : Nat) (x : Rat) : |roundTo p x - x| ≤ |x| / 2 ^ p := by
  unfold roundTo
  split
  · next h => simp [h]
  dsimp only
  rw [pow2_eq]
  next h =>
  have hulp : (0 : Rat) < 2 ^ (exponent x + 1 - p) := by positivity
  have herr := abs_nearestEven_sub_le (x / 2 ^ (exponent x + 1 - p))
  calc |(nearestEven (x / 2 ^ (exponent x + 1 - p)) : Rat) * 2 ^ (exponent x + 1 - p) - x|
      = |(nearestEven (x / 2 ^ (exponent x + 1 - p)) : Rat) - x / 2 ^ (exponent x + 1 - p)| *
          2 ^ (exponent x + 1 - p) := by
        rw [← abs_of_pos hulp, ← abs_mul, sub_mul, abs_of_pos hulp, div_mul_cancel₀ _ hulp.ne']
    _ ≤ 1 / 2 * 2 ^ (exponent x + 1 - p) := by gcongr
    _ = 2 ^ exponent x / 2 ^ p := by
        rw [show exponent x + 1 - (p : Int) = exponent x - p + 1 by ring, zpow_add_one₀ two_ne_zero,
          zpow_sub₀ two_ne_zero, zpow_natCast]
        ring
    _ ≤ |x| / 2 ^ p := by
        have := (exponent_spec h).1
        gcongr

/-- **A number of at most `p` bits is kept.** -/
theorem roundTo_dyadic {p : Nat} {z : Int} (hz : |z| < 2 ^ p) (k : Nat) :
    roundTo p ((z : Rat) / 2 ^ k) = z / 2 ^ k := by
  unfold roundTo
  split
  · next h => rw [h]
  next h =>
  dsimp only
  rw [pow2_eq]
  have htwo : (2 : Rat) ≠ 0 := two_ne_zero
  -- the unit of the last place divides `1 / 2 ^ k`
  have hexp : exponent ((z : Rat) / 2 ^ k) + 1 - p ≤ -(k : Int) := by
    have hlow := (exponent_spec h).1
    have hhigh : |(z : Rat) / 2 ^ k| < 2 ^ ((p : Int) - k) := by
      rw [abs_div, abs_of_pos (by positivity : (0 : Rat) < 2 ^ k), zpow_sub₀ htwo, zpow_natCast,
        zpow_natCast]
      gcongr
      exact_mod_cast hz
    have hlt := (zpow_lt_zpow_iff_right₀ (by norm_num : (1 : Rat) < 2)).mp (hlow.trans_lt hhigh)
    omega
  obtain ⟨j, hj⟩ := Int.le.dest hexp
  have hdiv : (z : Rat) / 2 ^ k / 2 ^ (exponent ((z : Rat) / 2 ^ k) + 1 - p) =
      ((z * 2 ^ j : Int) : Rat) := by
    rw [show exponent ((z : Rat) / 2 ^ k) + 1 - (p : Int) = -(k : Int) - j by omega,
      zpow_sub₀ htwo, zpow_neg, zpow_natCast, zpow_natCast]
    push_cast
    field_simp
  rw [hdiv, nearestEven_intCast, ← hdiv, div_mul_cancel₀ _ (by positivity)]

/-! ### What is no finite number -/

/-- What an operation may give. -/
inductive Value where
  | nan
  | inf (negative : Bool)
  | finite (x : Rat)
  deriving DecidableEq

namespace Value

instance : Coe Rat Value := ⟨.finite⟩

instance : Zero Value := ⟨.finite 0⟩

/-- `<`, which is false where there is no number. -/
def lt : Value → Value → Bool
  | .finite x, .finite y => x < y
  | .finite _, .inf negative => !negative
  | .inf negative, .finite _ => negative
  | .inf negative, .inf negative' => negative && !negative'
  | _, _ => false

/-- `<=`, which is false where there is no number. -/
def le : Value → Value → Bool
  | .finite x, .finite y => x ≤ y
  | .finite _, .inf negative => !negative
  | .inf negative, .finite _ => negative
  | .inf negative, .inf negative' => negative || !negative'
  | _, _ => false

instance : LT Value := ⟨fun a b => lt a b = true⟩

instance : LE Value := ⟨fun a b => le a b = true⟩

instance : DecidableLT Value := fun a b => inferInstanceAs (Decidable (lt a b = true))

instance : DecidableLE Value := fun a b => inferInstanceAs (Decidable (le a b = true))

instance : Neg Value where
  neg
    | .nan => .nan
    | .inf negative => .inf !negative
    | .finite x => .finite (-x)

instance : Add Value where
  add
    | .finite x, .finite y => .finite (x + y)
    | .finite _, .inf negative => .inf negative
    | .inf negative, .finite _ => .inf negative
    | .inf negative, .inf negative' => if negative = negative' then .inf negative else .nan
    | _, _ => .nan

instance : Sub Value := ⟨fun a b => a + -b⟩

@[simp] theorem finite_le_finite (x y : Rat) : (x : Value) ≤ y ↔ x ≤ y := decide_eq_true_iff

@[simp] theorem finite_lt_finite (x y : Rat) : (x : Value) < y ↔ x < y := decide_eq_true_iff

theorem finite_sub_finite (x y : Rat) : (x : Value) - y = (x - y : Rat) :=
  congrArg finite (sub_eq_add_neg x y).symm

/-- Numbers are compared one way or the other. -/
theorem le_iff (a b : Value) : a ≤ b ↔ ¬ b < a ∧ a ≠ .nan ∧ b ≠ .nan := by
  change le a b = true ↔ ¬ lt b a = true ∧ _
  cases a with
  | nan => simp [le]
  | inf negative =>
      cases b with
      | nan => simp [le]
      | inf negative' => cases negative <;> cases negative' <;> simp [le, lt]
      | finite y => cases negative <;> simp [le, lt]
  | finite x =>
      cases b with
      | nan => simp [le]
      | inf negative => cases negative <;> simp [le, lt]
      | finite y => simp [le, lt]

section
variable (x d : Rat) (a : Value)

/-- A difference from a number tells which one is the larger. -/
theorem zero_le_finite_sub : 0 ≤ (x : Value) - a ↔ a ≤ x := by
  cases a with
  | nan => exact Iff.rfl
  | inf negative => cases negative <;> exact Iff.rfl
  | finite y =>
      rw [finite_sub_finite]
      exact (finite_le_finite 0 _).trans (sub_nonneg.trans (finite_le_finite y x).symm)

theorem finite_sub_le_iff : (x : Value) - a ≤ d ↔ (x : Value) ≤ a + d := by
  cases a with
  | nan => exact Iff.rfl
  | inf negative => cases negative <;> exact Iff.rfl
  | finite y =>
      rw [finite_sub_finite, finite_le_finite, sub_le_iff_le_add']
      exact (finite_le_finite x (y + d)).symm

theorem sub_finite_le_iff : a - (x : Value) ≤ d ↔ a - (d : Value) ≤ x := by
  cases a with
  | nan => exact Iff.rfl
  | inf negative => cases negative <;> exact Iff.rfl
  | finite y => rw [finite_sub_finite, finite_sub_finite, finite_le_finite, finite_le_finite,
      sub_le_comm]

end

end Value

end FloatingPoint
