/-
A resource that one party holds at a time.

A party requests the resource and an attendant grants it; the party releases it, the
attendant revokes it, it expires, or somebody with a better claim seizes it.  A grant
that nobody asked for leaves the resource held by nobody.

Any machine whose steps come to operations of this protocol inherits its history:
what a party holds now it once requested, that request stood until it was granted,
and the grant has stood since.
-/
import Mathlib.Data.List.Induction
import SwiftAcu.Lib.Runs
import SwiftAcu.Lib.Since

variable {α : Type}

/-- Who holds the resource. -/
inductive Control (α : Type) where
  | free
  | asked (a : α)
  /-- Granted; `none` is a grant without a request. -/
  | held (a : Option α)
  | seized
  deriving DecidableEq, Repr

/-- What can be done to the resource. -/
inductive ControlOp (α : Type) where
  | request (a : α)
  | release (a : α)
  | grant
  | revoke
  | seize
  | giveBack
  | expire
  deriving DecidableEq, Repr

namespace Control

section
variable [DecidableEq α]

/-- One operation. -/
@[grind =]
def step : Control α → ControlOp α → Control α
  | .free, .request a => .asked a
  | .asked b, .release a => if a = b then .free else .asked b
  | .held b, .release a => if some a = b then .free else .held b
  | .asked b, .grant => .held (some b)
  | _, .grant => .held none
  | _, .revoke => .free
  | _, .seize => .seized
  | .seized, .giveBack => .free
  | .asked _, .expire => .free
  | .held _, .expire => .free
  | c, _ => c

/-- No operation, or one. -/
@[grind =]
def after (c : Control α) : Option (ControlOp α) → Control α
  | none => c
  | some o => c.step o

/-- A party asks only by requesting a free resource. -/
theorem after_eq_asked {c : Control α} {o : Option (ControlOp α)} {a : α}
    (h : c.after o = .asked a) : c = .asked a ∨ (c = .free ∧ o = some (.request a)) := by
  cases o with
  | none => exact Or.inl h
  | some o => cases c <;> cases o <;> grind

/-- A party holds only by a grant of what it asked for. -/
theorem after_eq_held {c : Control α} {o : Option (ControlOp α)} {a : α}
    (h : c.after o = .held (some a)) :
    c = .held (some a) ∨ (c = .asked a ∧ o = some .grant) := by
  cases o with
  | none => exact Or.inl h
  | some o => cases c <;> cases o <;> grind

/-- Held by nobody is held by a grant that nobody asked for. -/
theorem after_eq_held_none {c : Control α} {o : Option (ControlOp α)}
    (h : c.after o = .held none) : c = .held none ∨ (o = some .grant ∧ ∀ a, c ≠ .asked a) := by
  cases o with
  | none => exact Or.inl h
  | some o => cases c <;> cases o <;> grind

/-- Only a grant makes the resource held. -/
theorem after_eq_held_any {c : Control α} {o : Option (ControlOp α)} {b : Option α}
    (h : c.after o = .held b) : o = some .grant ∨ c = .held b := by
  cases o with
  | none => exact Or.inr h
  | some o => cases c <;> cases o <;> grind

/-- What is held stays held only if it was not taken away, or granted anew. -/
theorem held_kept {o : Option (ControlOp α)} {a : α}
    (h : (Control.held (some a)).after o = .held (some a)) :
    o ≠ some (.release a) ∧ o ≠ some .grant ∧ o ≠ some .revoke ∧ o ≠ some .seize ∧
      o ≠ some .expire := by
  refine ⟨?_, ?_, ?_, ?_, ?_⟩
  all_goals
    rintro rfl
    simp [after, step] at h

end

/-! ### Machines that follow the protocol -/

section
variable [DecidableEq α] {σ ε : Type} (step : σ → ε → σ) (s₀ : σ) (control : σ → Control α)
  (op : σ → ε → Option (ControlOp α))

/-- The state at a point of the run. -/
def At (pre : List ε) : σ := Runs.run step s₀ pre

/-- The step is an operation of the protocol. -/
def Follows (pre : List ε) (e : ε) : Prop :=
  control (At step s₀ (pre ++ [e])) =
    (control (At step s₀ pre)).after (op (At step s₀ pre) e)

/-- The party `a` requested the free resource. -/
def Requested (a : α) (pre : List ε) (e : ε) : Prop :=
  control (At step s₀ pre) = .free ∧ op (At step s₀ pre) e = some (.request a)

/-- The step leaves who holds the resource at `c`. -/
def Stays (c : Control α) (pre : List ε) (e : ε) : Prop :=
  control (At step s₀ pre) = c ∧ control (At step s₀ (pre ++ [e])) = c

/-- The request of `a` was granted. -/
def Granted (a : α) (pre : List ε) (e : ε) : Prop :=
  op (At step s₀ pre) e = some .grant ∧ control (At step s₀ pre) = .asked a

/-- What `a` holds was neither taken away nor granted anew. -/
def Kept (a : α) (pre : List ε) (e : ε) : Prop :=
  op (At step s₀ pre) e ≠ some (.release a) ∧ op (At step s₀ pre) e ≠ some .grant ∧
    op (At step s₀ pre) e ≠ some .revoke ∧ op (At step s₀ pre) e ≠ some .seize ∧
    op (At step s₀ pre) e ≠ some .expire

/-- The resource was held before and after, and not granted anew. -/
def Holds (b : Option α) (pre : List ε) (e : ε) : Prop :=
  op (At step s₀ pre) e ≠ some .grant ∧ Stays step s₀ control (.held b) pre e

variable {step s₀ control op} {as : List ε} {a : α}

theorem At.concat (pre : List ε) (e : ε) :
    At step s₀ (pre ++ [e]) = step (At step s₀ pre) e := Runs.run_concat s₀ pre e

/-- **What is asked was requested**, and the request has stood since. -/
theorem asked_since (h₀ : control s₀ = .free)
    (hsim : Past.Through (Follows step s₀ control op) [] as)
    (hasked : control (At step s₀ as) = .asked a) :
    Past.Since (Requested step s₀ control op a) (Stays step s₀ control (.asked a)) as := by
  induction as using List.reverseRecOn with
  | nil =>
      have hfree : control (At step s₀ []) = .free := h₀
      simp [hfree] at hasked
  | append_singleton as e ih =>
      obtain ⟨hsim, hstep⟩ := (Past.through_concat [] as e).mp hsim
      rw [List.nil_append] at hstep
      rcases after_eq_asked (hstep.symm.trans hasked) with hbefore | hrequest
      · exact (ih hsim hbefore).keep ⟨hbefore, hasked⟩
      · exact Past.Since.start hrequest

/-- **What is held was granted**, the request for it stood until then, and the grant since. -/
theorem held_since (h₀ : control s₀ = .free)
    (hsim : Past.Through (Follows step s₀ control op) [] as)
    (hheld : control (At step s₀ as) = .held (some a)) :
    Past.Since
      (fun pre e => Granted step s₀ control op a pre e ∧
        Past.Since (Requested step s₀ control op a) (Stays step s₀ control (.asked a)) pre)
      (Kept step s₀ op a) as := by
  induction as using List.reverseRecOn with
  | nil =>
      have hfree : control (At step s₀ []) = .free := h₀
      simp [hfree] at hheld
  | append_singleton as e ih =>
      obtain ⟨hsim, hstep⟩ := (Past.through_concat [] as e).mp hsim
      rw [List.nil_append] at hstep
      rcases after_eq_held (hstep.symm.trans hheld) with hbefore | ⟨hasked, hgrant⟩
      · refine (ih hsim hbefore).keep (held_kept ?_)
        rw [← hbefore, ← hstep, hheld, hbefore]
      · exact Past.Since.start ⟨⟨hgrant, hasked⟩, asked_since h₀ hsim hasked⟩

/-- What is held by anybody has been held since the last grant. -/
theorem held_since_grant (h₀ : control s₀ = .free)
    (hsim : Past.Through (Follows step s₀ control op) [] as) {b : Option α}
    (hheld : control (At step s₀ as) = .held b) :
    Past.Since (fun pre e => op (At step s₀ pre) e = some .grant) (Holds step s₀ control op b)
      as := by
  induction as using List.reverseRecOn with
  | nil =>
      have hfree : control (At step s₀ []) = .free := h₀
      simp [hfree] at hheld
  | append_singleton as e ih =>
      obtain ⟨hsim, hstep⟩ := (Past.through_concat [] as e).mp hsim
      rw [List.nil_append] at hstep
      by_cases hgrant : op (At step s₀ as) e = some .grant
      · exact Past.Since.start hgrant
      · have hbefore : control (At step s₀ as) = .held b :=
          (after_eq_held_any (hstep.symm.trans hheld)).resolve_left hgrant
        exact (ih hsim hbefore).keep ⟨hgrant, hbefore, hheld⟩

/-- **Where grants answer requests**, whatever is held is held by somebody. -/
theorem not_held_none (h₀ : control s₀ = .free)
    (hsim : Past.Through (Follows step s₀ control op) [] as)
    (hgrants : Past.Through
      (fun pre e => op (At step s₀ pre) e = some .grant → ∃ a, Granted step s₀ control op a pre e)
      [] as) :
    control (At step s₀ as) ≠ .held none := by
  induction as using List.reverseRecOn with
  | nil =>
      have hfree : control (At step s₀ []) = .free := h₀
      simp [hfree]
  | append_singleton as e ih =>
      obtain ⟨hsim, hstep⟩ := (Past.through_concat [] as e).mp hsim
      obtain ⟨hgrants, hgrant⟩ := (Past.through_concat [] as e).mp hgrants
      rw [List.nil_append] at hstep hgrant
      intro hnone
      rcases after_eq_held_none (hstep.symm.trans hnone) with hbefore | ⟨hop, hunasked⟩
      · exact ih hsim hgrants hbefore
      · obtain ⟨a, -, hasked⟩ := hgrant hop
        exact hunasked a hasked

end

end Control
