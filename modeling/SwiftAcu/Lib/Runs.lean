/-
Runs of a machine that takes one action at a time.

A machine is a total step function, a run is a fold of it over a list of actions,
and a property of steps is checked along the run, at the state each action meets.
The rules below are the only inductions on runs the development makes: an
invariant that every admissible step keeps holds after every admissible run, and
two step properties that agree wherever the invariant holds agree on whole runs.
-/
import Mathlib.Data.List.Basic
import Mathlib.Tactic.Common

namespace Runs

variable {σ α : Type}

/-- The state after the actions `as`. -/
def run (step : σ → α → σ) (s : σ) (as : List α) : σ := as.foldl step s

/-- `P` holds of every action at the state it is taken in. -/
def AllSteps (step : σ → α → σ) (P : σ → α → Prop) : σ → List α → Prop
  | _, [] => True
  | s, a :: as => P s a ∧ AllSteps step P (step s a) as

/-- Along a given run the steps are checked one by one. -/
instance decidableAllSteps (step : σ → α → σ) (P : σ → α → Prop) [∀ s a, Decidable (P s a)] :
    ∀ (s : σ) (as : List α), Decidable (AllSteps step P s as)
  | _, [] => isTrue trivial
  | s, a :: as =>
    have := decidableAllSteps step P (step s a) as
    inferInstanceAs (Decidable (P s a ∧ AllSteps step P (step s a) as))

section
variable {step : σ → α → σ} {P Q : σ → α → Prop} {Inv : σ → Prop}

@[simp] theorem run_nil (s : σ) : run step s [] = s := rfl

@[simp] theorem run_cons (s : σ) (a : α) (as : List α) :
    run step s (a :: as) = run step (step s a) as := rfl

theorem run_append (s : σ) (as bs : List α) :
    run step s (as ++ bs) = run step (run step s as) bs := List.foldl_append

@[simp] theorem run_concat (s : σ) (as : List α) (a : α) :
    run step s (as ++ [a]) = step (run step s as) a := by
  rw [run_append]
  rfl

@[simp] theorem allSteps_nil (s : σ) : AllSteps step P s [] := trivial

@[simp] theorem allSteps_cons (s : σ) (a : α) (as : List α) :
    AllSteps step P s (a :: as) ↔ P s a ∧ AllSteps step P (step s a) as := Iff.rfl

theorem allSteps_append (s : σ) (as bs : List α) :
    AllSteps step P s (as ++ bs) ↔
      AllSteps step P s as ∧ AllSteps step P (run step s as) bs := by
  induction as generalizing s with
  | nil => simp
  | cons a as ih => simp [ih, and_assoc]

@[simp] theorem allSteps_concat (s : σ) (as : List α) (a : α) :
    AllSteps step P s (as ++ [a]) ↔ AllSteps step P s as ∧ P (run step s as) a := by
  simp [allSteps_append]

/-- Every step of a run is a step after some prefix of it. -/
theorem allSteps_iff_split (s : σ) (as : List α) :
    AllSteps step P s as ↔
      ∀ pre a post, as = pre ++ a :: post → P (run step s pre) a := by
  constructor
  · rintro h pre a post rfl
    exact ((allSteps_append s pre (a :: post)).mp h).2.1
  · intro h
    induction as generalizing s with
    | nil => trivial
    | cons a as ih =>
        refine ⟨h [] a as rfl, ih (step s a) fun pre b post heq => ?_⟩
        exact h (a :: pre) b post (by rw [heq]; rfl)

theorem AllSteps.imp (h : ∀ s a, P s a → Q s a) {s : σ} {as : List α}
    (hp : AllSteps step P s as) : AllSteps step Q s as := by
  induction as generalizing s with
  | nil => trivial
  | cons a as ih => exact ⟨h s a hp.1, ih hp.2⟩

/-- A property of the actions alone holds of them one by one. -/
theorem allSteps_const {R : α → Prop} (s : σ) (as : List α) :
    AllSteps step (fun _ a => R a) s as ↔ ∀ a ∈ as, R a := by
  induction as generalizing s with
  | nil => simp
  | cons a as ih => rw [allSteps_cons, ih, List.forall_mem_cons]

/-- **The invariant rule.**  What every admissible step keeps, an admissible run keeps. -/
theorem inv_run (hstep : ∀ s a, Inv s → P s a → Inv (step s a)) {s : σ} (h : Inv s)
    {as : List α} (hp : AllSteps step P s as) : Inv (run step s as) := by
  induction as generalizing s with
  | nil => exact h
  | cons a as ih => exact ih (hstep s a h hp.1) hp.2

/-- **The simulation rule.**  What another machine follows step by step, it follows in a run. -/
theorem view_run {τ : Type} {step' : τ → α → τ} {view : σ → τ}
    (hstep : ∀ s a, P s a → view (step s a) = step' (view s) a) {s : σ} {as : List α}
    (hp : AllSteps step P s as) : view (run step s as) = run step' (view s) as := by
  induction as generalizing s with
  | nil => rfl
  | cons a as ih =>
      rw [run_cons, run_cons, ← hstep s a hp.1]
      exact ih hp.2

/-- What an admissible step implies at a state of the invariant holds along an admissible run. -/
theorem AllSteps.imp_of_inv (h : ∀ s a, Inv s → P s a → Q s a ∧ Inv (step s a)) {s : σ}
    (hs : Inv s) {as : List α} (hp : AllSteps step P s as) : AllSteps step Q s as := by
  induction as generalizing s with
  | nil => trivial
  | cons a as ih =>
      obtain ⟨hq, hinv⟩ := h s a hs hp.1
      exact ⟨hq, ih hinv hp.2⟩

/--
Two step properties that agree at every state of the invariant hold of the same
runs, provided one of them keeps the invariant.
-/
theorem allSteps_iff_of_inv {as : List α} (hiff : ∀ s, ∀ a ∈ as, Inv s → (P s a ↔ Q s a))
    (hstep : ∀ s, ∀ a ∈ as, Inv s → Q s a → Inv (step s a)) {s : σ} (h : Inv s) :
    AllSteps step P s as ↔ AllSteps step Q s as := by
  induction as generalizing s with
  | nil => simp
  | cons a as ih =>
      have hhead : P s a ↔ Q s a := hiff s a (by simp) h
      have htail : Q s a → (AllSteps step P (step s a) as ↔ AllSteps step Q (step s a) as) := by
        intro hq
        exact ih (fun s b hb => hiff s b (by simp [hb])) (fun s b hb => hstep s b (by simp [hb]))
          (hstep s a (by simp) h hq)
      constructor
      · rintro ⟨hp, hps⟩
        have hq := hhead.mp hp
        exact ⟨hq, (htail hq).mp hps⟩
      · rintro ⟨hq, hqs⟩
        exact ⟨hhead.mpr hq, (htail hq).mpr hqs⟩

/-! ### Every state of a run -/

/-- `Inv` holds of every state the run goes through, the first and the last among them. -/
def AllStates (step : σ → α → σ) (Inv : σ → Prop) (s : σ) (as : List α) : Prop :=
  ∀ pre post, as = pre ++ post → Inv (run step s pre)

theorem allStates_cons (s : σ) (a : α) (as : List α) :
    AllStates step Inv s (a :: as) ↔ Inv s ∧ AllStates step Inv (step s a) as := by
  constructor
  · intro h
    exact ⟨h [] (a :: as) rfl, fun pre post heq => h (a :: pre) post (by rw [heq]; rfl)⟩
  · rintro ⟨hs, h⟩ pre post heq
    cases pre with
    | nil => exact hs
    | cons b pre =>
        simp only [List.cons_append, List.cons.injEq] at heq
        obtain ⟨rfl, htail⟩ := heq
        exact h pre post htail

/--
**Exactly the admissible runs are good throughout**, if an invariant makes a state good,
admissible steps keep it, and any other step leaves the good states.
-/
theorem allStates_iff_of_inv {Good : σ → Prop} (hgood : ∀ s, Inv s → Good s)
    (hkeep : ∀ s a, Inv s → P s a → Inv (step s a))
    (hleave : ∀ s a, Inv s → ¬ P s a → ¬ Good (step s a)) {s : σ} (h : Inv s) (as : List α) :
    AllStates step Good s as ↔ AllSteps step P s as := by
  induction as generalizing s with
  | nil =>
      refine ⟨fun _ => trivial, fun _ pre post heq => ?_⟩
      obtain ⟨rfl, -⟩ := List.append_eq_nil_iff.mp heq.symm
      exact hgood s h
  | cons a as ih =>
      rw [allStates_cons, allSteps_cons]
      constructor
      · rintro ⟨-, htail⟩
        have hnext : Good (step s a) := htail [] as rfl
        have hp : P s a := by
          by_contra hnot
          exact hleave s a h hnot hnext
        exact ⟨hp, (ih (hkeep s a h hp)).mp htail⟩
      · rintro ⟨hp, htail⟩
        exact ⟨hgood s h, (ih (hkeep s a h hp)).mpr htail⟩

/-- The same of the runs that keep to a rule. -/
theorem allStates_iff_of_rule {Good : σ → Prop} {R : σ → α → Prop} (hgood : ∀ s, Inv s → Good s)
    (hkeep : ∀ s a, Inv s → R s a → P s a → Inv (step s a))
    (hleave : ∀ s a, Inv s → R s a → ¬ P s a → ¬ Good (step s a)) {s : σ} (h : Inv s) {as : List α}
    (hrule : AllSteps step R s as) : AllStates step Good s as ↔ AllSteps step P s as := by
  induction as generalizing s with
  | nil =>
      refine ⟨fun _ => trivial, fun _ pre post heq => ?_⟩
      obtain ⟨rfl, -⟩ := List.append_eq_nil_iff.mp heq.symm
      exact hgood s h
  | cons a as ih =>
      rw [allStates_cons, allSteps_cons]
      constructor
      · rintro ⟨-, htail⟩
        have hp : P s a := by
          by_contra hnot
          exact hleave s a h hrule.1 hnot (htail [] as rfl)
        exact ⟨hp, (ih (hkeep s a h hrule.1 hp) hrule.2).mp htail⟩
      · rintro ⟨hp, htail⟩
        exact ⟨hgood s h, (ih (hkeep s a h hrule.1 hp) hrule.2).mpr htail⟩

/-- **Exactly the admissible runs keep the invariant**, if exactly the admissible steps do. -/
theorem allStates_iff (hstep : ∀ s a, Inv s → (Inv (step s a) ↔ P s a)) {s : σ} (h : Inv s)
    (as : List α) : AllStates step Inv s as ↔ AllSteps step P s as :=
  allStates_iff_of_inv (fun _ hs => hs) (fun s a hs => (hstep s a hs).mpr)
    (fun s a hs => mt (hstep s a hs).mp) h as

end

end Runs
