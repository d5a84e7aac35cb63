/-
A table of priorities, one bit for each.

The bits are counted from the top of a word, and the words from the first, so that the lowest
number in the table is found with the count of leading zeros of the first word that is not zero.
-/
import Mathlib.Data.List.GetD
import Mathlib.Logic.Function.Basic
import Mathlib.Tactic.Common

namespace PrioTable

variable {w : Nat}

/-- The bit of `p` in its word. -/
def bit (w p : Nat) : BitVec w := 1#w <<< (w - 1 - p % w)

/-- `p` is in the table. -/
def has (tbl : Nat → BitVec w) (p : Nat) : Bool := (tbl (p / w)).getMsbD (p % w)

def insert (tbl : Nat → BitVec w) (p : Nat) : Nat → BitVec w :=
  Function.update tbl (p / w) (tbl (p / w) ||| bit w p)

def remove (tbl : Nat → BitVec w) (p : Nat) : Nat → BitVec w :=
  Function.update tbl (p / w) (tbl (p / w) &&& ~~~bit w p)

/-- The lowest number among words that come one behind the other. -/
def first : List (BitVec w) → Option Nat
  | [] => none
  | x :: xs => if x = 0#w then (first xs).map (w + ·) else some x.clz.toNat

theorem getMsbD_bit (hw : 0 < w) (p j : Nat) :
    (bit w p).getMsbD j = decide (j = p % w) := by
  have hp := Nat.mod_lt p hw
  rw [bit, BitVec.getMsbD_shiftLeft, BitVec.getMsbD_one]
  have : (w - 1 - p % w + j = w - 1) = (j = p % w) := by
    apply propext
    omega
  simp only [Nat.add_comm j, this, decide_eq_true hw, Bool.and_true]

/-- Nothing is in a table of zeros. -/
theorem has_zero (p : Nat) : has (fun _ => 0#w) p = false := by
  simp [has]

theorem has_insert (hw : 0 < w) (tbl : Nat → BitVec w) (p q : Nat) :
    has (insert tbl p) q = (decide (q = p) || has tbl q) := by
  unfold has insert
  by_cases hword : q / w = p / w
  · have hq : (q = p) = (q % w = p % w) := by
      apply propext
      refine ⟨fun h => h ▸ rfl, fun h => ?_⟩
      rw [← Nat.div_add_mod q w, ← Nat.div_add_mod p w, hword, h]
    rw [hword, Function.update_self, BitVec.getMsbD_or, getMsbD_bit hw, Bool.or_comm]
    simp only [hq]
  · rw [Function.update_of_ne hword, decide_eq_false fun h : q = p => hword (h ▸ rfl), Bool.false_or]

theorem has_remove (hw : 0 < w) (tbl : Nat → BitVec w) (p q : Nat) :
    has (remove tbl p) q = (decide (q ≠ p) && has tbl q) := by
  unfold has remove
  by_cases hword : q / w = p / w
  · have hq : (q = p) = (q % w = p % w) := by
      apply propext
      refine ⟨fun h => h ▸ rfl, fun h => ?_⟩
      rw [← Nat.div_add_mod q w, ← Nat.div_add_mod p w, hword, h]
    rw [hword, Function.update_self, BitVec.getMsbD_and, BitVec.getMsbD_not, getMsbD_bit hw,
      decide_eq_true (Nat.mod_lt q hw), Bool.and_comm]
    simp only [ne_eq, hq, Bool.true_and, decide_not]
  · have hne : q ≠ p := fun h => hword (h ▸ rfl)
    rw [Function.update_of_ne hword, decide_eq_true hne, Bool.true_and]

/-! ### The lowest number -/

theorem clz_lt {x : BitVec w} (hx : x ≠ 0#w) : x.clz.toNat < w := by
  have h := BitVec.lt_def.mp (BitVec.clz_lt_iff_ne_zero.mpr hx)
  rwa [BitVec.natCast_eq_ofNat, BitVec.toNat_ofNat, Nat.mod_eq_of_lt Nat.lt_two_pow_self] at h

theorem getMsbD_clz {x : BitVec w} (hx : x ≠ 0#w) : x.getMsbD x.clz.toNat = true := by
  have hlt := clz_lt hx
  rw [BitVec.getMsbD_eq_getLsbD, decide_eq_true hlt, Bool.true_and]
  exact BitVec.getLsbD_true_clz_of_ne_zero (by omega) hx

theorem getMsbD_of_lt_clz {x : BitVec w} {i : Nat} (hi : i < x.clz.toNat) :
    x.getMsbD i = false := by
  rw [BitVec.getMsbD_eq_getLsbD]
  by_cases hiw : i < w
  · have hsmall : x.toNat < 2 ^ (w - 1 - i) :=
      Nat.lt_of_lt_of_le BitVec.toNat_lt_two_pow_sub_clz
        (Nat.pow_le_pow_right (by decide) (by omega))
    rw [decide_eq_true hiw, Bool.true_and]
    exact Nat.testBit_lt_two_pow hsmall
  · rw [decide_eq_false hiw, Bool.false_and]

/-- `p` is the lowest number in the table. -/
structure Lowest (tbl : Nat → BitVec w) (p : Nat) : Prop where
  mem : has tbl p = true
  least : ∀ q, has tbl q = true → p ≤ q

theorem Lowest.unique {tbl : Nat → BitVec w} {p q : Nat} (hp : Lowest tbl p) (hq : Lowest tbl q) :
    p = q := Nat.le_antisymm (hp.least q hq.mem) (hq.least p hp.mem)

theorem has_tail (hw : 0 < w) (tbl : Nat → BitVec w) (q : Nat) :
    has (fun i => tbl (i + 1)) q = has tbl (w + q) := by
  unfold has
  rw [Nat.add_div_left q hw, Nat.add_mod_left]

/-- **The search finds the lowest number**, if there is one in the words it looks through. -/
theorem first_eq_some (hw : 0 < w) {n : Nat} {tbl : Nat → BitVec w}
    (hsome : ∃ p < n * w, has tbl p = true) :
    ∃ p, first ((List.range n).map tbl) = some p ∧ Lowest tbl p := by
  induction n generalizing tbl with
  | zero =>
      obtain ⟨p, hp, -⟩ := hsome
      omega
  | succ n ih =>
      rw [List.range_succ_eq_map, List.map_cons, List.map_map, first]
      by_cases hzero : tbl 0 = 0#w
      · have hlow : ∀ q, has tbl q = true → w ≤ q := by
          intro q hq
          by_contra hlt
          rw [has, Nat.div_eq_of_lt (Nat.not_le.mp hlt), hzero, BitVec.getMsbD_zero] at hq
          cases hq
        obtain ⟨p, hp, hhas⟩ := hsome
        have hwp := hlow p hhas
        have hsum : w + (p - w) = p := by omega
        have hrest : ∃ q < n * w, has (fun i => tbl (i + 1)) q = true :=
          ⟨p - w, by rw [Nat.succ_mul] at hp; omega, by rw [has_tail hw, hsum, hhas]⟩
        obtain ⟨q, hq, hlowest⟩ := ih hrest
        rw [if_pos hzero, show (tbl ∘ Nat.succ) = fun i => tbl (i + 1) from rfl, hq]
        refine ⟨w + q, rfl, by rw [← has_tail hw, hlowest.mem], fun r hr => ?_⟩
        have hwr := hlow r hr
        have hsum : w + (r - w) = r := by omega
        have hqr := hlowest.least (r - w) (by rw [has_tail hw, hsum, hr])
        omega
      · have hlt := clz_lt hzero
        rw [if_neg hzero]
        refine ⟨_, rfl, ?_, fun q hq => ?_⟩
        · rw [has, Nat.div_eq_of_lt hlt, Nat.mod_eq_of_lt hlt, getMsbD_clz hzero]
        · by_contra hqlt
          have hqw : q < w := by omega
          rw [has, Nat.div_eq_of_lt hqw, Nat.mod_eq_of_lt hqw,
            getMsbD_of_lt_clz (Nat.not_le.mp hqlt)] at hq
          cases hq

end PrioTable
