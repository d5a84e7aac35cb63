/-
Machines that stop.

A machine has at most one next state.  It stops if a measure falls with every step, and it
never does if it comes back to where it was.  For a machine that climbs, the measure is the
number of points still above it, in a set of finitely many; such a set is a grid cut off by
a box.
-/
import Mathlib.Algebra.Order.Archimedean.Basic
import Mathlib.Algebra.Order.Floor.Ring
import Mathlib.Data.Set.Card
import Mathlib.Data.Set.Finite.Lattice
import Mathlib.Order.Interval.Finset.Basic
import Mathlib.Order.Interval.Finset.Defs
import Mathlib.Data.Int.Interval
import Mathlib.Tactic.Linarith

namespace Ascent

/-! ### Machines with at most one next state -/

section
variable {σ : Type} (next : σ → Option σ)

/-- The state after so many steps, if there were as many. -/
def after : Nat → σ → Option σ
  | 0, s => some s
  | n + 1, s => (next s).bind (after n)

theorem after_add (m n : Nat) (s : σ) :
    after next (m + n) s = (after next m s).bind (after next n) := by
  induction m generalizing s with
  | zero =>
      rw [Nat.zero_add]
      rfl
  | succ m ih =>
      rw [Nat.succ_add, after, after, Option.bind_assoc]
      exact congrArg _ (funext ih)

/-- A machine that has stopped does not go on. -/
theorem after_none_mono {m n : Nat} {s : σ} (h : after next m s = none) (hle : m ≤ n) :
    after next n s = none := by
  obtain ⟨k, rfl⟩ := Nat.exists_eq_add_of_le hle
  rw [after_add, h]
  rfl

variable {next} {τ : Type} {r : τ → τ → Prop}

/-- **A machine stops** if a measure falls with every step. -/
theorem stops_of_measure (hwf : WellFounded r) (μ : σ → τ) (I : σ → Prop)
    (hstep : ∀ s s', I s → next s = some s' → I s' ∧ r (μ s') (μ s)) {s : σ} (h : I s) :
    ∃ n, after next n s = none := by
  induction hs : μ s using hwf.induction generalizing s with
  | _ m ih =>
      subst hs
      cases hnext : next s with
      | none => exact ⟨1, by rw [after, hnext]; rfl⟩
      | some s' =>
          obtain ⟨hI, hr⟩ := hstep s s' h hnext
          obtain ⟨n, hn⟩ := ih (μ s') hr hI rfl
          exact ⟨n + 1, by rw [after, hnext]; exact hn⟩

/-- **A machine does not stop** if it comes back. -/
theorem ne_none_of_returns {k : Nat} (hk : 0 < k) {s : σ} (h : after next k s = some s) (n : Nat) :
    after next n s ≠ none := by
  intro hn
  have hturns (m : Nat) : after next (k * m) s = some s := by
    induction m with
    | zero => rfl
    | succ m ih =>
        rw [Nat.mul_succ, after_add, ih]
        exact h
  have hlong := after_none_mono next hn (Nat.le_mul_of_pos_left n hk)
  rw [hturns n] at hlong
  cases hlong

end

/-! ### Finitely many points -/

section
variable {α β : Type} [LinearOrder β]

/-- How many of the points lie above a value. -/
noncomputable def above (K : Set α) (f : α → β) (x : β) : Nat := {q ∈ K | x < f q}.ncard

theorem above_lt {K : Set α} (hK : K.Finite) (f : α → β) {x : β} {q : α} (hq : q ∈ K)
    (hx : x < f q) : above K f (f q) < above K f x := by
  have hsub : {p ∈ K | f q < f p} ⊆ {p ∈ K | x < f p} := fun p hp => ⟨hp.1, hx.trans hp.2⟩
  refine Set.ncard_lt_ncard ((Set.ssubset_iff_of_subset hsub).mpr ?_) (hK.subset fun p hp => hp.1)
  exact ⟨q, ⟨hq, hx⟩, fun hself => lt_irrefl _ hself.2⟩

end

section
variable {α : Type} [Field α] [LinearOrder α] [IsStrictOrderedRing α] [FloorRing α]

/-- Finitely many steps of one length end between two bounds. -/
theorem finite_steps {a : α} (ha : 0 < a) (b lo hi : α) :
    {n : ℤ | lo ≤ b + a * n ∧ b + a * n ≤ hi}.Finite := by
  refine (Set.finite_Icc ⌈(lo - b) / a⌉ ⌊(hi - b) / a⌋).subset fun n hn => ?_
  refine ⟨Int.ceil_le.mpr ((div_le_iff₀ ha).mpr ?_), Int.le_floor.mpr ((le_div_iff₀ ha).mpr ?_)⟩
  · linarith [hn.1, mul_comm (n : α) a]
  · linarith [hn.2, mul_comm (n : α) a]

/-- The points of a grid: the steps of one kind go along the first axis, those of the other
along both. -/
def grid (x y a b c : α) : Set (α × α) := {q | ∃ i j : ℤ, q = (x + a * i + b * j, y + c * i)}

/-- **Finitely many points of a grid lie in a box.** -/
theorem finite_grid (x y a : α) {b c : α} (hb : 0 < b) (hc : 0 < c) (lo hi : α × α) :
    {q ∈ grid x y a b c | lo.1 ≤ q.1 ∧ q.1 ≤ hi.1 ∧ lo.2 ≤ q.2 ∧ q.2 ≤ hi.2}.Finite := by
  have hrows := finite_steps hc y lo.2 hi.2
  refine (Set.Finite.biUnion hrows fun i _ => (finite_steps hb (x + a * i) lo.1 hi.1).image
    fun j : ℤ => (x + a * i + b * j, y + c * i)).subset fun q hq => ?_
  obtain ⟨⟨i, j, rfl⟩, hlo1, hhi1, hlo2, hhi2⟩ := hq
  exact Set.mem_biUnion (show i ∈ {n : ℤ | lo.2 ≤ y + c * n ∧ y + c * n ≤ hi.2} from ⟨hlo2, hhi2⟩)
    ⟨j, ⟨hlo1, hhi1⟩, rfl⟩

end

end Ascent
