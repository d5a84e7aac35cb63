/-
One row of a terminal.

A glyph is written where the cursor stands and moves it on; a backspace moves it back and
writes nothing.  To erase a glyph takes three operations: back, a blank over it, and back
again.  What is said of a row is that it shows a list: the list from the first column on,
blanks behind it, the cursor right behind its last glyph.
-/
import SwiftAcu.Lib.Runs
import Mathlib.Data.List.GetD
import Mathlib.Data.List.Induction
import Mathlib.Order.Basic

namespace Terminal

variable {α : Type}

/-- What a row is told. -/
inductive Op (α : Type) where
  | glyph (a : α)
  | back
  deriving DecidableEq, Repr

/-- A row and its cursor. -/
structure Row (α : Type) where
  cells : Nat → α
  cursor : Nat

/-- One operation. -/
def step (r : Row α) : Op α → Row α
  | .glyph a => ⟨Function.update r.cells r.cursor a, r.cursor + 1⟩
  | .back => { r with cursor := r.cursor - 1 }

/-- The three operations that erase a glyph. -/
def erase (blank : α) : List (Op α) := [.back, .glyph blank, .back]

/-- The row shows `s` and nothing else, and the cursor stands behind it. -/
structure Shows (blank : α) (s : List α) (r : Row α) : Prop where
  cursor : r.cursor = s.length
  cells : ∀ i, r.cells i = s.getD i blank

section
variable {blank : α} {s : List α} {r : Row α}

/-- A blank row. -/
theorem shows_nil (blank : α) : Shows blank [] ⟨fun _ => blank, 0⟩ := ⟨rfl, fun _ => rfl⟩

theorem getD_concat (s : List α) (a blank : α) (i : Nat) :
    (s ++ [a]).getD i blank = if i = s.length then a else s.getD i blank := by
  rcases Nat.lt_trichotomy i s.length with hlt | heq | hgt
  · rw [List.getD_append s [a] blank i hlt, if_neg (Nat.ne_of_lt hlt)]
  · rw [if_pos heq, heq, List.getD_append_right s [a] blank s.length (Nat.le_refl _), Nat.sub_self]
    rfl
  · have hlen : (s ++ [a]).length ≤ i := by
      rw [List.length_append, List.length_singleton]
      exact hgt
    rw [if_neg (Nat.ne_of_gt hgt), List.getD_eq_default _ _ hlen,
      List.getD_eq_default _ _ (Nat.le_of_lt hgt)]

theorem Shows.glyph (h : Shows blank s r) (a : α) : Shows blank (s ++ [a]) (step r (.glyph a)) := by
  constructor
  · simp [step, h.cursor]
  · intro i
    rw [getD_concat, ← h.cursor, ← h.cells i]
    by_cases hi : i = r.cursor
    · rw [if_pos hi, hi]
      exact Function.update_self ..
    · rw [if_neg hi]
      exact Function.update_of_ne hi ..

theorem Shows.glyphs (h : Shows blank s r) (as : List α) :
    Shows blank (s ++ as) (Runs.run step r (as.map .glyph)) := by
  induction as generalizing s r with
  | nil => simpa using h
  | cons a as ih => simpa using ih (h.glyph a)

/-- Erasing takes the last glyph away. -/
theorem Shows.erase {a : α} (h : Shows blank (s ++ [a]) r) :
    Shows blank s (Runs.run step r (erase blank)) := by
  have hcur : r.cursor = s.length + 1 := by simpa using h.cursor
  constructor
  · show r.cursor - 1 + 1 - 1 = s.length
    omega
  · intro i
    have hcell := h.cells i
    rw [getD_concat] at hcell
    show Function.update r.cells (r.cursor - 1) blank i = _
    rw [hcur, Nat.add_sub_cancel]
    by_cases hi : i = s.length
    · rw [hi, Function.update_self, List.getD_eq_default _ _ (Nat.le_refl _)]
    · rw [Function.update_of_ne hi, hcell, if_neg hi]

/-- Erasing as often as `as` is long takes `as` away. -/
theorem Shows.erases {as : List α} (h : Shows blank (s ++ as) r) :
    Shows blank s (Runs.run step r (List.replicate as.length (Terminal.erase blank)).flatten) := by
  induction as using List.reverseRecOn generalizing r with
  | nil => simpa using h
  | append_singleton as a ih =>
      rw [List.length_append, List.length_singleton, List.replicate_succ, List.flatten_cons,
        Runs.run_append]
      refine ih ?_
      rw [← List.append_assoc] at h
      exact h.erase

end

end Terminal
