/-
Thousandths that come back.

An angle is stored as its thousandths, which are cut off.  Where the quotient was rounded
down they may come back one too small, as 32003 does in single precision; where 24 bits
hold the angle exactly they come back as they were.
-/
import Mathlib.Tactic.FieldSimp
import SwiftAcu.Acu.SoftFloat

namespace SwiftAcu

theorem int32s_intCast (n : Int) : int32s (n : FP32) = n := by
  simp [int32s]

/-- What is cut off a number that is not negative. -/
theorem int32s_eq_floor {x : FP32} (hx : 0 ≤ x) : int32s x = x.floor := by
  rw [int32s, Rat.floor_def, Int.tdiv_eq_ediv_of_nonneg (Rat.num_nonneg.mpr hx)]

variable [SoftFloat]

theorem round_intCast {z : Int} (hz : |z| < 2 ^ 24) : SoftFloat.round (z : FP32) = z := by
  simpa using SoftFloat.round_dyadic hz 0

/-- **Eighths of a degree come back**: an `FP32` holds them exactly. -/
theorem comesBack_eighths {k : Nat} (hk : 125 * k < 2 ^ 24) : ComesBack (125 * k) := by
  have hbound : |((125 * k : Nat) : Int)| < 2 ^ 24 := by
    rw [abs_of_nonneg (Int.natCast_nonneg _)]
    exact_mod_cast hk
  have hsmall : |(k : Int)| < 2 ^ 24 := by
    rw [abs_of_nonneg (Int.natCast_nonneg _)]
    omega
  have hdegree : degreeOf ((125 * k : Nat) : Int) = (k : Int) / 2 ^ 3 := by
    rw [degreeOf, round_intCast hbound, ← SoftFloat.round_dyadic hsmall 3]
    congr 1
    push_cast
    ring
  have hback : (((k : Int) : FP32) / 2 ^ 3) * 1000 = ((125 * k : Nat) : Int) := by
    push_cast
    ring
  rw [ComesBack, hdegree, thousandths, hback, round_intCast hbound, int32u, int32s_intCast,
    Int.toNat_natCast]
  exact Nat.mod_eq_of_lt (by omega)

theorem round_le {x : FP32} (hx : 0 ≤ x) :
    0 ≤ SoftFloat.round x ∧ SoftFloat.round x ≤ x * (1 + 1 / 2 ^ 24) := by
  have herr := abs_le.mp (SoftFloat.abs_round_sub_le x)
  rw [abs_of_nonneg hx] at herr
  constructor
  · linarith [herr.1]
  · linarith [herr.2]

/-- What comes back of a number of 24 bits is hardly greater. -/
theorem int32u_thousandths_degreeOf_le {n : Nat} (hn : n < 2 ^ 24) :
    int32u (thousandths (degreeOf n)) ≤ n + 2 := by
  have hbound : |(n : Int)| < 2 ^ 24 := by
    rw [abs_of_nonneg (Int.natCast_nonneg n)]
    exact_mod_cast hn
  have hpos : (0 : FP32) ≤ ((n : Int) : FP32) / 1000 := by positivity
  have hlt : (n : FP32) < 2 ^ 24 := by exact_mod_cast hn
  have hdegree := round_le hpos
  have hback := round_le (mul_nonneg hdegree.1 (by norm_num : (0 : FP32) ≤ 1000))
  rw [thousandths, degreeOf, round_intCast hbound]
  generalize SoftFloat.round (((n : Int) : FP32) / 1000) = x at hdegree hback
  generalize SoftFloat.round (x * 1000) = y at hback
  have hy : y < (n + 3 : Nat) := by
    rw [Int.cast_natCast] at hdegree
    push_cast
    calc y ≤ x * 1000 * (1 + 1 / 2 ^ 24) := hback.2
      _ ≤ n / 1000 * (1 + 1 / 2 ^ 24) * 1000 * (1 + 1 / 2 ^ 24) := by
        have := hdegree.2
        gcongr
      _ = n + n * (2 / 2 ^ 24 + 1 / 2 ^ 48) := by ring
      _ < n + 3 := by linarith
  have hfloor : y.floor < (n + 3 : Nat) := Rat.floor_lt_iff.mpr (by exact_mod_cast hy)
  rw [int32u, int32s_eq_floor hback.1]
  exact (Nat.mod_le _ _).trans (by omega)

/-- In single precision 32003 thousandths come back as 32002. -/
example : @thousandths .single (@degreeOf .single 32003) < 32003 := by decide +kernel

end SwiftAcu
