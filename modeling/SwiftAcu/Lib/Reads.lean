/-
Programs that read a memory cell by cell.

A decoder reads a cell, decides from its value which cell to read next, and leaves
what it has read to the rest of the program.  `Reads` is that decision tree.  The
two facts below are what makes it a notion of information flow: a decoder that stays
within some of the cells reads the same values from every memory that agrees on
them, and one that leaves them does not.
-/
import Mathlib.Logic.Function.Basic
import Mathlib.Logic.Nontrivial.Defs
import Mathlib.Tactic.Common

variable {ι β : Type}

/-- A decoder over cells `ι` that hold values `β`. -/
inductive Reads (ι β : Type) where
  | done
  | read (i : ι) (next : β → Reads ι β)

namespace Reads

/-- Read the cells `is` in order, then go on with their values. -/
def cells : List ι → (List β → Reads ι β) → Reads ι β
  | [], next => next []
  | i :: is, next => .read i fun b => cells is fun bs => next (b :: bs)

/-- The values read from the memory `m`. -/
def values (m : ι → β) : Reads ι β → List β
  | .done => []
  | .read i next => m i :: (next (m i)).values m

/-- Every cell read from the memory `m` satisfies `P`. -/
def Within (P : ι → Prop) (m : ι → β) : Reads ι β → Prop
  | .done => True
  | .read i next => P i ∧ (next (m i)).Within P m

/-- The memory `m` with the cells a decoder reads put to the values `vs`, in their order. -/
def replay [DecidableEq ι] (m : ι → β) : Reads ι β → List β → ι → β
  | .read i next, v :: vs => Function.update ((next v).replay m vs) i v
  | .read _ _, [] => m
  | .done, _ => m

section
variable {P Q : ι → Prop} {m m' : ι → β}

@[simp] theorem values_read (i : ι) (next : β → Reads ι β) :
    (read i next).values m = m i :: (next (m i)).values m := rfl

@[simp] theorem within_done : (done : Reads ι β).Within P m := trivial

@[simp] theorem within_read (i : ι) (next : β → Reads ι β) :
    (read i next).Within P m ↔ P i ∧ (next (m i)).Within P m := Iff.rfl

@[simp] theorem within_cells (is : List ι) (next : List β → Reads ι β) :
    (cells is next).Within P m ↔ (∀ i ∈ is, P i) ∧ (next (is.map m)).Within P m := by
  induction is generalizing next with
  | nil => simp [cells]
  | cons i is ih => simp [cells, ih, and_assoc]

/-- A decoder reads the same from a memory that agrees on the cells it stays within. -/
theorem Within.values_eq {p : Reads ι β} (h : p.Within P m) (heq : ∀ i, P i → m' i = m i) :
    p.values m' = p.values m := by
  induction p with
  | done => rfl
  | read i next ih =>
      obtain ⟨hi, hnext⟩ := h
      have hcell : m' i = m i := heq i hi
      rw [values_read, values_read, hcell, ih (m i) hnext]

theorem Within.congr {p : Reads ι β} (h : p.Within P m) (heq : ∀ i, P i → m' i = m i) :
    p.Within P m' := by
  induction p with
  | done => trivial
  | read i next ih =>
      obtain ⟨hi, hnext⟩ := h
      refine ⟨hi, ?_⟩
      rw [heq i hi]
      exact ih (m i) hnext

theorem Within.imp (hPQ : ∀ i, P i → Q i) {p : Reads ι β} (h : p.Within P m) : p.Within Q m := by
  induction p with
  | done => trivial
  | read i next ih => exact ⟨hPQ i h.1, ih (m i) h.2⟩

/-- **What a decoder has read of a memory is there again in the replay.** -/
theorem within_replay [DecidableEq ι] (m₀ : ι → β) (p : Reads ι β) :
    p.Within (fun i => p.replay m₀ (p.values m) i = m i) m := by
  induction p with
  | done => trivial
  | read i next ih =>
      rw [values_read]
      refine ⟨Function.update_self _ _ _, (ih (m i)).imp fun j hj => ?_⟩
      by_cases hji : j = i
      · rw [hji]
        exact Function.update_self _ _ _
      · exact (Function.update_of_ne hji _ _).trans hj

/-- A cell of a replay is as it was, or as it was read. -/
theorem replay_eq_or [DecidableEq ι] (m₀ : ι → β) (p : Reads ι β) (j : ι) :
    p.replay m₀ (p.values m) j = m₀ j ∨ p.replay m₀ (p.values m) j = m j := by
  induction p with
  | done => exact Or.inl rfl
  | read i next ih =>
      rw [values_read]
      by_cases hji : j = i
      · rw [hji]
        exact Or.inr (Function.update_self _ _ _)
      · have hother : (read i next).replay m₀ (m i :: (next (m i)).values m) j =
            (next (m i)).replay m₀ ((next (m i)).values m) j := Function.update_of_ne hji _ _
        rw [hother]
        exact ih (m i)

/-- A decoder that leaves the cells reads something else from some memory that agrees on them. -/
theorem exists_values_ne [Nontrivial β] {p : Reads ι β} (h : ¬p.Within P m) :
    ∃ m', (∀ i, P i → m' i = m i) ∧ p.values m' ≠ p.values m := by
  classical
  induction p with
  | done => exact absurd trivial h
  | read i next ih =>
      by_cases hi : P i
      · obtain ⟨m', heq, hne⟩ := ih (m i) fun hnext => h ⟨hi, hnext⟩
        refine ⟨m', heq, fun hvalues => hne ?_⟩
        rw [values_read, values_read, heq i hi] at hvalues
        exact (List.cons.inj hvalues).2
      · obtain ⟨b, hb⟩ := exists_ne (m i)
        refine ⟨Function.update m i b, fun j hj => ?_, fun hvalues => hb ?_⟩
        · have hji : j ≠ i := fun hc => hi (hc ▸ hj)
          rw [Function.update_of_ne hji]
        · rw [values_read, values_read, Function.update_self] at hvalues
          exact (List.cons.inj hvalues).1

end

end Reads
