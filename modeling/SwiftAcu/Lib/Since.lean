/-
What has happened so far.

A property of the past speaks about the actions behind a point of a run: `Through R`
is that `R` held of each of a stretch of actions, and `Since Q R` that some action met
`Q` and every action after it met `R`.  Both take the actions that came before as an
argument, so that they nest, and the state at a point of a run is the run of those
actions.  The rules are the ones an induction from the back of a run needs.
-/
import Mathlib.Data.List.Basic
import Mathlib.Tactic.Common

namespace Past

variable {ε : Type}

/-- `R` holds of each of the given actions, which come after `pre`. -/
def Through (R : List ε → ε → Prop) (pre : List ε) : List ε → Prop
  | [] => True
  | e :: es => R pre e ∧ Through R (pre ++ [e]) es

/-- Some action met `Q`, and `R` held of every action after it. -/
def Since (Q R : List ε → ε → Prop) (as : List ε) : Prop :=
  ∃ pre e post, as = pre ++ e :: post ∧ Q pre e ∧ Through R (pre ++ [e]) post

section
variable {Q Q' R R' : List ε → ε → Prop} {as : List ε} {e : ε}

@[simp] theorem through_nil (pre : List ε) : Through R pre [] := trivial

@[simp] theorem through_cons (pre : List ε) (e : ε) (es : List ε) :
    Through R pre (e :: es) ↔ R pre e ∧ Through R (pre ++ [e]) es := Iff.rfl

theorem through_append (pre es fs : List ε) :
    Through R pre (es ++ fs) ↔ Through R pre es ∧ Through R (pre ++ es) fs := by
  induction es generalizing pre with
  | nil => simp
  | cons e es ih => simp [ih, and_assoc]

@[simp] theorem through_concat (pre es : List ε) (e : ε) :
    Through R pre (es ++ [e]) ↔ Through R pre es ∧ R (pre ++ es) e := by
  simp [through_append]

theorem Through.imp (h : ∀ pre e, R pre e → R' pre e) {pre es : List ε} (hr : Through R pre es) :
    Through R' pre es := by
  induction es generalizing pre with
  | nil => trivial
  | cons e es ih => exact ⟨h pre e hr.1, ih hr.2⟩

/-- A stretch is met action by action. -/
theorem through_iff_split (pre es : List ε) :
    Through R pre es ↔ ∀ q f t, es = q ++ f :: t → R (pre ++ q) f := by
  constructor
  · rintro h q f t rfl
    exact ((through_append pre q (f :: t)).mp h).2.1
  · intro h
    induction es generalizing pre with
    | nil => trivial
    | cons e es ih =>
        refine ⟨by simpa using h [] e es rfl, ih (pre ++ [e]) fun q f t heq => ?_⟩
        have hstep := h (e :: q) f t (by rw [heq]; rfl)
        simpa using hstep

theorem Since.start (h : Q as e) : Since Q R (as ++ [e]) := ⟨as, e, [], rfl, h, trivial⟩

theorem Since.keep (h : Since Q R as) (hr : R as e) : Since Q R (as ++ [e]) := by
  obtain ⟨pre, f, post, rfl, hq, hpost⟩ := h
  refine ⟨pre, f, post ++ [e], by simp, hq, ?_⟩
  rw [through_concat]
  refine ⟨hpost, ?_⟩
  simpa using hr

theorem Since.imp (hq : ∀ pre e, Q pre e → Q' pre e) (hr : ∀ pre e, R pre e → R' pre e)
    (h : Since Q R as) : Since Q' R' as := by
  obtain ⟨pre, e, post, has, hstart, hpost⟩ := h
  exact ⟨pre, e, post, has, hq pre e hstart, hpost.imp hr⟩

end

end Past
