/-
Ranges laid end to end.

A range is a start and a length.  `Tiles lo hi rs` says that the ranges `rs`, in
order, begin at `lo`, each begin where the one before it ends, and end at `hi`.  A
loop that walks a buffer piece by piece has done its work exactly when its pieces
tile the range the buffer goes to.
-/
import Mathlib.Data.List.Basic
import Mathlib.Tactic.Common

namespace Tiling

/-- The ranges `rs` cover `[lo, hi)` from left to right, without a gap or an overlap. -/
def Tiles : Nat → Nat → List (Nat × Nat) → Prop
  | lo, hi, [] => lo = hi
  | lo, hi, r :: rs => r.1 = lo ∧ 0 < r.2 ∧ Tiles (lo + r.2) hi rs

theorem tiles_single (lo : Nat) {n : Nat} (h : 0 < n) : Tiles lo (lo + n) [(lo, n)] :=
  ⟨rfl, h, rfl⟩

theorem Tiles.append {lo mid hi : Nat} {rs ss : List (Nat × Nat)} (h : Tiles lo mid rs)
    (h' : Tiles mid hi ss) : Tiles lo hi (rs ++ ss) := by
  induction rs generalizing lo with
  | nil =>
      obtain rfl : lo = mid := h
      exact h'
  | cons r rs ih =>
      obtain ⟨hstart, hpos, hrest⟩ := h
      exact ⟨hstart, hpos, ih hrest⟩

theorem Tiles.le {lo hi : Nat} {rs : List (Nat × Nat)} (h : Tiles lo hi rs) : lo ≤ hi := by
  induction rs generalizing lo with
  | nil => exact Nat.le_of_eq h
  | cons r rs ih => exact Nat.le_trans (Nat.le_add_right lo r.2) (ih h.2.2)

/-- What lies in one of the ranges is what lies between the ends. -/
theorem Tiles.mem_iff {lo hi : Nat} {rs : List (Nat × Nat)} (h : Tiles lo hi rs) (x : Nat) :
    (∃ r ∈ rs, r.1 ≤ x ∧ x < r.1 + r.2) ↔ lo ≤ x ∧ x < hi := by
  induction rs generalizing lo with
  | nil =>
      obtain rfl : lo = hi := h
      refine iff_of_false ?_ (by omega)
      rintro ⟨r, hr, -⟩
      exact absurd hr List.not_mem_nil
  | cons r rs ih =>
      obtain ⟨hstart, hpos, hrest⟩ := h
      have hle := hrest.le
      rw [List.exists_mem_cons_iff, ih hrest, hstart]
      omega

/-- Ranges that start at the same places and tile the same range are the same. -/
theorem Tiles.eq_of_starts {lo hi : Nat} {rs ss : List (Nat × Nat)} (h : Tiles lo hi rs)
    (h' : Tiles lo hi ss) (hstarts : rs.map Prod.fst = ss.map Prod.fst) : rs = ss := by
  induction rs generalizing lo ss with
  | nil => exact (List.map_eq_nil_iff.mp hstarts.symm).symm
  | cons r rs ih =>
      cases ss with
      | nil => exact absurd hstarts (by simp)
      | cons s ss =>
          obtain ⟨hr, -, hrs⟩ := h
          obtain ⟨hs, -, hss⟩ := h'
          have htail : rs.map Prod.fst = ss.map Prod.fst := (List.cons.inj hstarts).2
          -- a range ends where the next one starts, or at the end
          have hend : lo + r.2 = lo + s.2 := by
            cases rs with
            | nil =>
                obtain rfl : ss = [] := List.map_eq_nil_iff.mp htail.symm
                exact Eq.trans hrs (Eq.symm hss)
            | cons r' rs =>
                cases ss with
                | nil => exact absurd htail (by simp)
                | cons s' ss => exact hrs.1.symm.trans ((List.cons.inj htail).1.trans hss.1)
          have hhead : r = s := Prod.ext (hr.trans hs.symm) (Nat.add_left_cancel hend)
          rw [hend] at hrs
          rw [hhead, ih hrs hss htail]

/-! ### Pieces of one length -/

/-- How many pieces of at most `c` there are in `n`. -/
def pieceNum (c n : Nat) : Nat := (n + c - 1) / c

/-- The length of piece `k`; all but the last are full. -/
def piece (c n k : Nat) : Nat := min c (n - c * k)

section
variable {c n k : Nat}

theorem lt_pieceNum_iff (hc : 0 < c) : k < pieceNum c n ↔ c * k < n := by
  have hle : k + 1 ≤ pieceNum c n ↔ (k + 1) * c ≤ n + c - 1 := Nat.le_div_iff_mul_le hc
  rw [Nat.succ_mul, Nat.mul_comm] at hle
  omega

theorem pieceNum_mul (hc : 0 < c) : n ≤ c * pieceNum c n := by
  by_contra h
  exact absurd ((lt_pieceNum_iff hc).mpr (Nat.not_le.mp h)) (Nat.lt_irrefl _)

/-- The first `k` pieces. -/
theorem tiles_take_pieces (hc : 0 < c) (lo : Nat) (hk : k ≤ pieceNum c n) :
    Tiles lo (lo + min n (c * k)) ((List.range k).map fun j => (lo + c * j, piece c n j)) := by
  induction k with
  | zero => exact (by simp : lo = lo + min n (c * 0))
  | succ k ih =>
      have hlt : c * k < n := (lt_pieceNum_iff hc).mp hk
      have hfirst := ih (Nat.le_of_succ_le hk)
      have hpos : 0 < piece c n k := by
        unfold piece
        omega
      have hstart : min n (c * k) = c * k := Nat.min_eq_right (Nat.le_of_lt hlt)
      have hend : lo + c * k + piece c n k = lo + min n (c * (k + 1)) := by
        unfold piece
        rw [Nat.mul_succ]
        omega
      rw [List.range_succ, List.map_append, ← hend]
      rw [hstart] at hfirst
      exact hfirst.append (tiles_single _ hpos)

/-- **The pieces tile the range.** -/
theorem tiles_pieces (hc : 0 < c) (lo n : Nat) :
    Tiles lo (lo + n) ((List.range (pieceNum c n)).map fun j => (lo + c * j, piece c n j)) := by
  have htiles := tiles_take_pieces hc lo (Nat.le_refl (pieceNum c n))
  rwa [Nat.min_eq_left (pieceNum_mul hc)] at htiles

end

end Tiling
