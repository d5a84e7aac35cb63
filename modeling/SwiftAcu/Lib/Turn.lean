/-
Full turns.

A quantity that is counted around a circle is known up to whole turns.  Mathlib brings
any value into the first turn, `toIcoMod`; a program that knows its values to be at most
one turn off adds or subtracts one turn.  The two are the same exactly there.
-/
import Mathlib.Algebra.Order.ToIntervalMod
import Mathlib.Tactic.Abel

namespace Turn

variable {α : Type} [AddCommGroup α] [LinearOrder α] {p x y : α}

/-- A value brought back by at most one turn. -/
def once (p x : α) : α := if x < 0 then x + p else if p ≤ x then x - p else x

theorem once_of_neg (h : x < 0) : once p x = x + p := if_pos h

theorem once_of_mem (h : x ∈ Set.Ico 0 p) : once p x = x := by
  rw [once, if_neg h.1.not_gt, if_neg h.2.not_ge]

theorem once_of_le (hp : 0 < p) (h : p ≤ x) : once p x = x - p := by
  rw [once, if_neg (hp.le.trans h).not_gt, if_pos h]

/-- Whole turns are added, none, one or minus one. -/
theorem exists_once_eq (p x : α) : ∃ z : ℤ, x = once p x + z • p := by
  unfold once
  split
  · exact ⟨-1, by simp⟩
  · split
    · exact ⟨1, by simp⟩
    · exact ⟨0, by simp⟩

section
variable [IsOrderedAddMonoid α]

/-- **One turn is enough** for the values that are at most one turn off, and for no others. -/
theorem once_mem_iff (hp : 0 < p) : once p x ∈ Set.Ico 0 p ↔ x ∈ Set.Ico (-p) (p + p) := by
  simp only [Set.mem_Ico]
  rcases lt_or_ge x 0 with hneg | hpos
  · have hlt : x + p < p := by simpa using hneg
    have htop : x < p + p := hneg.trans (add_pos hp hp)
    rw [once_of_neg hneg]
    simp only [hlt, htop, and_true]
    exact neg_le_iff_add_nonneg.symm
  · have hlow : -p ≤ x := (neg_nonpos.mpr hp.le).trans hpos
    rcases lt_or_ge x p with hlt | hge
    · have htop : x < p + p := hlt.trans (lt_add_of_pos_left p hp)
      rw [once_of_mem ⟨hpos, hlt⟩]
      simp only [hpos, hlt, hlow, htop]
    · rw [once_of_le hp hge]
      simp only [sub_nonneg, hge, hlow, true_and, sub_lt_iff_lt_add]

variable [Archimedean α]

/-- **The value in the first turn** is the only one there that is whole turns off. -/
theorem eq_of_mem {z : ℤ} (hp : 0 < p) (hy : y ∈ Set.Ico 0 p) (h : x = y + z • p) :
    y = toIcoMod hp 0 x :=
  ((toIcoMod_eq_iff hp).mpr ⟨by simpa using hy, z, h⟩).symm

theorem once_eq_toIcoMod (hp : 0 < p) (h : x ∈ Set.Ico (-p) (p + p)) :
    once p x = toIcoMod hp 0 x := by
  obtain ⟨z, hz⟩ := exists_once_eq p x
  exact eq_of_mem hp ((once_mem_iff hp).mpr h) hz

end

end Turn
