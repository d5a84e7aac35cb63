/-
Sequences that are written piece by piece and taken apart by index.

A piece stands at an index of a sequence if it is found there.  Pieces that were written
one behind the other stand one behind the other, and what a piece consists of is read at
the index of the piece; which index that is follows from the lengths of the pieces in
front of it.
-/
import Mathlib.Data.List.GetD
import Mathlib.Tactic.Common

namespace Fields

variable {α : Type} {s as bs : List α} {a d : α} {i j : Nat}

/-- `as` stands in `s` from index `i` on. -/
def At (s : List α) (i : Nat) (as : List α) : Prop := as <+: s.drop i

theorem at_of_prefix (h : as <+: s) : At s 0 as := by
  rwa [At, List.drop_zero]

/-- The first of two pieces. -/
theorem At.left (h : At s i (as ++ bs)) : At s i as := (List.prefix_append as bs).trans h

/-- The second of two pieces. -/
theorem At.right (h : At s i (as ++ bs)) (hj : i + as.length = j) : At s j bs := by
  obtain ⟨rest, hrest⟩ := h
  refine ⟨rest, ?_⟩
  rw [← hj, ← List.drop_drop, ← hrest, List.append_assoc, List.drop_left]

theorem At.head (h : At s i (a :: as)) : s.getD i d = a := by
  obtain ⟨rest, hrest⟩ := h
  have hget : (s.drop i)[0]? = some a := by
    rw [← hrest]
    rfl
  rw [List.getElem?_drop, Nat.add_zero] at hget
  rw [List.getD_eq_getElem?_getD, hget, Option.getD_some]

theorem At.tail (h : At s i (a :: as)) : At s (i + 1) as :=
  At.right (show At s i ([a] ++ as) from h) rfl

/-- An element of a piece. -/
theorem At.getD (h : At s i as) {k : Nat} (hk : k < as.length) :
    s.getD (i + k) d = as.getD k d := by
  induction as generalizing i k with
  | nil => exact absurd hk (Nat.not_lt_zero k)
  | cons a as ih =>
      cases k with
      | zero => exact h.head
      | succ k =>
          rw [Nat.add_comm k 1, ← Nat.add_assoc, ih h.tail (Nat.lt_of_succ_lt_succ hk),
            Nat.add_comm 1 k]
          rfl

/-! ### Slices -/

/-- The `n` elements of `s` from index `i` on. -/
def slice (s : List α) (i n : Nat) : List α := (s.drop i).take n

theorem slice_append (s : List α) (i m n : Nat) :
    slice s i m ++ slice s (i + m) n = slice s i (m + n) := by
  rw [slice, slice, slice, List.take_add, List.drop_drop]

theorem slice_to_end {n : Nat} (h : s.length ≤ i + n) : slice s i n = s.drop i := by
  rw [slice, List.take_of_length_le]
  rw [List.length_drop]
  omega

theorem slice_one (h : i < s.length) : slice s i 1 = [s.getD i d] := by
  rw [slice, List.drop_eq_getElem_cons h, List.take_succ_cons, List.take_zero,
    List.getD_eq_getElem _ _ h]

theorem slice_succ {n : Nat} (h : i < s.length) :
    slice s i (n + 1) = s.getD i d :: slice s (i + 1) n := by
  rw [Nat.add_comm n 1, ← slice_append, slice_one h]
  rfl

end Fields
