/-
A table of labelled slots with a counter.

An entry of the table is free, and then it holds zero, or it holds the label of its
slot; next to the entries stands a count of the used ones.  Taking a free slot and
giving a used one back keep the two in step.  What puts them out of step is an
operation that does not look at the entry it writes, and a deletion by value that is
asked for zero: the first free entry holds it, and is counted as given back.

How far a list of deletions goes wrong is settled here once, for every table.  The
count never gets above the number of used entries, and it gets below it at a zero that
meets a free entry; after that it is right again only when the table is empty.
-/
import Mathlib.Data.Nat.Count
import Mathlib.Tactic.Common

namespace Slots

variable {α : Type} [DecidableEq α] [Zero α]

/-- A counter, and entries of which zero marks the free ones. -/
structure Table (α : Type) where
  total : Nat
  ids : Nat → α

/-- How many of the first `n` entries are used. -/
def used (n : Nat) (ids : Nat → α) : Nat := Nat.count (fun i => ids i ≠ 0) n

/-- The first of `n` entries that holds `a`. -/
def first (n : Nat) (ids : Nat → α) (a : α) : Option Nat := (List.range n).find? fun i => ids i = a

/-- Use the free slot `i`. -/
def Table.take (t : Table α) (i : Nat) (a : α) : Table α := ⟨t.total + 1, Function.update t.ids i a⟩

/-- Write an entry, and leave the count. -/
def Table.put (t : Table α) (i : Nat) (a : α) : Table α := ⟨t.total, Function.update t.ids i a⟩

/-- Give back the first slot that holds `a`. -/
def Table.delete (n : Nat) (t : Table α) (a : α) : Table α :=
  match first n t.ids a with
  | some i => ⟨t.total - 1, Function.update t.ids i 0⟩
  | none => t

/-- Every entry is free or holds its label. -/
def Labelled (n : Nat) (label : Nat → α) (ids : Nat → α) : Prop :=
  ∀ i < n, ids i = 0 ∨ ids i = label i

/-- Every entry is free or holds its label, and the count is right. -/
structure Counted (n : Nat) (label : Nat → α) (t : Table α) : Prop where
  labelled : Labelled n label t.ids
  total_eq : t.total = used n t.ids

/-- Labels are not zero, and no two slots have the same. -/
structure Labels (n : Nat) (label : Nat → α) : Prop where
  ne_zero : ∀ i < n, label i ≠ 0
  inj : ∀ i < n, ∀ j < n, label i = label j → i = j

/-! ### The first entry with a value -/

omit [Zero α] in
theorem first_eq_none {n : Nat} {ids : Nat → α} {a : α} :
    first n ids a = none ↔ ∀ i < n, ids i ≠ a := by
  simp [first]

omit [Zero α] in
theorem first_eq_some {n : Nat} {ids : Nat → α} {a : α} {i : Nat} (h : first n ids a = some i) :
    i < n ∧ ids i = a ∧ ∀ j < i, ids j ≠ a := by
  simp only [first, List.find?_range_eq_some] at h
  obtain ⟨hi, hn, hlt⟩ := h
  exact ⟨List.mem_range.mp hn, by simpa using hi, fun j hj => by simpa using hlt j hj⟩

/-! ### Counting -/

theorem used_congr {n : Nat} {ids ids' : Nat → α} (h : ∀ i < n, ids i = 0 ↔ ids' i = 0) :
    used n ids = used n ids' := by
  induction n with
  | zero => rfl
  | succ n ih =>
      have hn : (ids n ≠ 0) = (ids' n ≠ 0) := by rw [ne_eq, ne_eq, h n (Nat.lt_succ_self n)]
      unfold used at ih ⊢
      rw [Nat.count_succ, Nat.count_succ, ih fun i hi => h i (Nat.lt_succ_of_lt hi)]
      simp only [hn]

theorem used_le (n : Nat) (ids : Nat → α) : used n ids ≤ n := Nat.count_le _

/-- Using a free slot adds one. -/
theorem used_update_of_free {n : Nat} {ids : Nat → α} {i : Nat} {a : α} (hi : i < n)
    (hfree : ids i = 0) (ha : a ≠ 0) : used n (Function.update ids i a) = used n ids + 1 := by
  induction n with
  | zero => omega
  | succ n ih =>
      unfold used at ih ⊢
      rw [Nat.count_succ, Nat.count_succ]
      by_cases hin : i = n
      · subst hin
        have hsame : Nat.count (fun j => Function.update ids i a j ≠ 0) i =
            Nat.count (fun j => ids j ≠ 0) i :=
          used_congr fun j hj => by rw [Function.update_of_ne (Nat.ne_of_lt hj)]
        rw [hsame]
        simp [ha, hfree]
      · rw [ih (by omega), Function.update_of_ne (Ne.symm hin)]
        omega

/-- Giving back a used slot takes one away. -/
theorem used_update_of_used {n : Nat} {ids : Nat → α} {i : Nat} (hi : i < n) (hused : ids i ≠ 0) :
    used n (Function.update ids i 0) + 1 = used n ids := by
  have hback := used_update_of_free hi (Function.update_self i 0 ids) hused
  rw [← hback]
  simp

theorem used_eq_zero {n : Nat} {ids : Nat → α} : used n ids = 0 ↔ ∀ i < n, ids i = 0 := by
  rw [used, Nat.count_iff_forall_not]
  simp

/-- There is a free entry as long as not all are used. -/
theorem exists_free {n : Nat} {ids : Nat → α} (h : used n ids < n) : ∃ i < n, ids i = 0 := by
  by_contra hfull
  have hall : ∀ i < n, ids i ≠ 0 := fun i hi h0 => hfull ⟨i, hi, h0⟩
  have : used n ids = n := Nat.count_iff_forall.mpr hall
  omega

/-- Of the places with `p`, the first `t` are `t`, or all there are. -/
theorem count_first (p : Nat → Prop) [DecidablePred p] (t n : Nat) :
    Nat.count (fun i => p i ∧ Nat.count p i < t) n = min t (Nat.count p n) := by
  induction n with
  | zero => simp
  | succ n ih =>
      rw [Nat.count_succ, Nat.count_succ, ih]
      by_cases hp : p n
      · by_cases hlt : Nat.count p n < t
        · simp only [hp, hlt, and_self, if_true]
          omega
        · simp only [hp, hlt, and_false, if_false, if_true]
          omega
      · simp [hp]

/-- **The first of them.**  Where those with `q` all have `p`, and no other with `p` comes in
front of one of them, they are the first with `p`, as many as there are. -/
theorem first_iff {p q : Nat → Prop} [DecidablePred p] [DecidablePred q] {n : Nat}
    (hqp : ∀ i < n, q i → p i) (hfront : ∀ i < n, ∀ j < n, q i → p j → ¬ q j → i < j) {i : Nat}
    (hi : i < n) : q i ↔ p i ∧ Nat.count p i < Nat.count q n := by
  constructor
  · intro hq
    have hsame : Nat.count p i = Nat.count q i := by
      refine List.countP_congr fun j hj => ?_
      have hj : j < i := List.mem_range.mp hj
      simp only [decide_eq_true_eq]
      refine ⟨fun hp => ?_, hqp j (hj.trans hi)⟩
      by_contra hnq
      have := hfront i hi j (hj.trans hi) hq hp hnq
      omega
    rw [hsame]
    exact ⟨hqp i hi hq, Nat.count_strict_mono hq hi⟩
  · rintro ⟨hp, hlt⟩
    by_contra hnq
    -- all with `q` lie in front of `i`
    have hall : Nat.count q n ≤ Nat.count p i := by
      have hsplit : Nat.count q n = Nat.count q i := by
        have hadd := Nat.count_add q i (n - i)
        have hnone : Nat.count (fun k => q (i + k)) (n - i) = 0 := by
          refine Nat.count_iff_forall_not.mpr fun k hk hq => ?_
          have := hfront (i + k) (by omega) i hi hq hp hnq
          omega
        rw [Nat.add_sub_cancel' hi.le] at hadd
        omega
      rw [hsplit, Nat.count, Nat.count]
      refine List.countP_mono_left fun j hj hq => ?_
      have hj : j < i := List.mem_range.mp hj
      simp only [decide_eq_true_eq] at hq ⊢
      exact hqp j (hj.trans hi) hq
    omega

/-! ### One operation -/

section
variable {n : Nat} {label : Nat → α} {t : Table α}

omit [DecidableEq α] in
theorem Labelled.update {ids : Nat → α} (h : Labelled n label ids) {i : Nat} {a : α}
    (ha : a = 0 ∨ a = label i) : Labelled n label (Function.update ids i a) := by
  intro j hj
  by_cases hji : j = i
  · subst hji
    simpa using ha
  · rw [Function.update_of_ne hji]
    exact h j hj

omit [DecidableEq α] in
/-- An entry that holds a label is its slot. -/
theorem Labelled.eq_of_label {ids : Nat → α} (h : Labelled n label ids) (hl : Labels n label)
    {i j : Nat} (hi : i < n) (hj : j < n) (heq : ids j = ids i) (hused : ids i ≠ 0) : j = i := by
  have hi' := (h i hi).resolve_left hused
  have hj' := (h j hj).resolve_left (heq ▸ hused)
  exact hl.inj j hj i hi (by rw [← hj', ← hi', heq])

/-- A free slot exists exactly as long as the count is below the number of slots. -/
theorem Counted.exists_free (h : Counted n label t) (hlt : t.total < n) :
    ∃ i < n, t.ids i = 0 := Slots.exists_free (h.total_eq ▸ hlt)

theorem Counted.take (h : Counted n label t) (hl : Labels n label) {i : Nat} (hi : i < n)
    (hfree : t.ids i = 0) : Counted n label (t.take i (label i)) :=
  ⟨h.labelled.update (Or.inr rfl), by
    simp only [Table.take]
    rw [used_update_of_free hi hfree (hl.ne_zero i hi), h.total_eq]⟩

/-- Writing the label of a slot that the count does not know puts the two out of step. -/
theorem Counted.put_iff (h : Counted n label t) (hl : Labels n label) {i : Nat} (hi : i < n) :
    Counted n label (t.put i (label i)) ↔ t.ids i = label i := by
  constructor
  · intro hput
    refine (h.labelled i hi).resolve_left fun hfree => ?_
    have := hput.total_eq
    simp only [Table.put] at this
    rw [used_update_of_free hi hfree (hl.ne_zero i hi), h.total_eq] at this
    omega
  · intro hid
    have hsame : t.put i (label i) = t := by rw [Table.put, ← hid, Function.update_eq_self]
    rwa [hsame]

/-- Nothing that lies behind the table matters. -/
theorem Counted.put_outside (h : Counted n label t) {i : Nat} (hi : n ≤ i) (a : α) :
    Counted n label (t.put i a) := by
  have hsame : ∀ j < n, (t.put i a).ids j = t.ids j := fun j hj =>
    Function.update_of_ne (by omega) _ _
  refine ⟨fun j hj => by rw [hsame j hj]; exact h.labelled j hj, ?_⟩
  rw [used_congr fun j hj => by rw [hsame j hj]]
  exact h.total_eq

end

/-! ### Deletions -/

/-- Give back the slots that hold `as`, one after the other. -/
def Table.deleteAll (n : Nat) (t : Table α) (as : List α) : Table α := as.foldl (Table.delete n) t

/-- A zero among `as` meets no free entry: the table is full, and nothing was given back yet. -/
def NoZeroHit (n : Nat) (ids : Nat → α) (as : List α) : Prop :=
  ∀ pre post, as = pre ++ 0 :: post → ∀ i < n, ids i ≠ 0 ∧ ids i ∉ pre

/-- Every used entry is among `as`. -/
def AllNamed (n : Nat) (ids : Nat → α) (as : List α) : Prop := ∀ i < n, ids i ≠ 0 → ids i ∈ as

section
variable {n : Nat} {label : Nat → α} {t : Table α} {a : α} {as : List α}

theorem delete_of_none (h : first n t.ids a = none) : t.delete n a = t := by
  rw [Table.delete, h]

theorem delete_of_some {i : Nat} (h : first n t.ids a = some i) :
    t.delete n a = ⟨t.total - 1, Function.update t.ids i 0⟩ := by
  rw [Table.delete, h]

omit [DecidableEq α] in
/-- A value no entry holds is passed over. -/
theorem noZeroHit_cons_of_none (h : ∀ i < n, t.ids i ≠ a) :
    NoZeroHit n t.ids (a :: as) ↔ NoZeroHit n t.ids as := by
  constructor
  · intro hall pre post heq i hi
    have := hall (a :: pre) post (by rw [heq]; rfl) i hi
    exact ⟨this.1, fun hmem => this.2 (List.mem_cons_of_mem a hmem)⟩
  · intro hall pre post heq i hi
    cases pre with
    | nil =>
        simp only [List.nil_append, List.cons.injEq] at heq
        exact ⟨heq.1 ▸ h i hi, List.not_mem_nil⟩
    | cons b pre =>
        simp only [List.cons_append, List.cons.injEq] at heq
        obtain ⟨rfl, rfl⟩ := heq
        have := hall pre post rfl i hi
        exact ⟨this.1, by simp [h i hi, this.2]⟩

omit [DecidableEq α] in
theorem allNamed_cons_of_ne (h : ∀ i < n, t.ids i ≠ 0 → t.ids i ≠ a) :
    AllNamed n t.ids (a :: as) ↔ AllNamed n t.ids as := by
  refine forall_congr' fun i => forall_congr' fun hi => forall_congr' fun hused => ?_
  simp [h i hi hused]

omit [DecidableEq α] in
/-- A list without a zero meets no free entry. -/
theorem noZeroHit_of_not_mem {ids : Nat → α} (h : 0 ∉ as) : NoZeroHit n ids as := by
  intro pre post heq
  exact absurd (by simp [heq]) h

omit [DecidableEq α] in
/-- Where there is a free entry, a list without a hit is a list without a zero. -/
theorem noZeroHit_of_free {i : Nat} (hi : i < n) (hfree : t.ids i = 0) :
    NoZeroHit n t.ids as ↔ 0 ∉ as := by
  constructor
  · intro hall hmem
    obtain ⟨pre, post, heq⟩ := List.append_of_mem hmem
    exact (hall pre post heq i hi).1 hfree
  · exact noZeroHit_of_not_mem

omit [DecidableEq α] in
/-- Once a slot has been given back, a zero is a hit. -/
theorem noZeroHit_cons_of_used {i : Nat} (hi : i < n) (ha : t.ids i = a) (hne : a ≠ 0) :
    NoZeroHit n t.ids (a :: as) ↔ 0 ∉ as := by
  constructor
  · intro hall hmem
    obtain ⟨pre, post, rfl⟩ := List.append_of_mem hmem
    exact (hall (a :: pre) post rfl i hi).2 (by simp [ha])
  · intro hno pre post heq j hj
    exfalso
    have hmem : (0 : α) ∈ a :: as := heq ▸ by simp
    rcases List.mem_cons.mp hmem with h | h
    · exact hne h.symm
    · exact hno h

omit [DecidableEq α] in
/-- The slot that is given back is named, and the others stay as they are. -/
theorem allNamed_cons_of_used (hlab : Labelled n label t.ids) (hl : Labels n label) {i : Nat}
    (hi : i < n) (ha : t.ids i = a) (hne : a ≠ 0) :
    AllNamed n t.ids (a :: as) ↔ AllNamed n (Function.update t.ids i 0) as := by
  have hother (j : Nat) (hj : j < n) (hji : j ≠ i) : t.ids j ≠ a := fun heq =>
    hji (hlab.eq_of_label hl hi hj (heq.trans ha.symm) (ha ▸ hne))
  constructor
  · intro hall j hj hused
    by_cases hji : j = i
    · subst hji
      simp at hused
    · rw [Function.update_of_ne hji] at hused ⊢
      exact (List.mem_cons.mp (hall j hj hused)).resolve_left (hother j hj hji)
  · intro hall j hj hused
    by_cases hji : j = i
    · simp [hji, ha]
    · have := hall j hj
      rw [Function.update_of_ne hji] at this
      exact List.mem_cons_of_mem a (this hused)

/--
**What a list of deletions does to the count.**  It never gets above the used entries.
It is right in the end if it was right and no zero met a free entry, or if every used
slot has been given back, and not otherwise.
-/
theorem deleteAll_total (hl : Labels n label) (as : List α) (t : Table α)
    (hlab : Labelled n label t.ids) (hle : t.total ≤ used n t.ids) :
    (t.deleteAll n as).total = used n (t.deleteAll n as).ids ↔
      (t.total = used n t.ids ∧ NoZeroHit n t.ids as) ∨ AllNamed n t.ids as := by
  induction as generalizing t with
  | nil =>
      have hno : NoZeroHit n t.ids [] := fun pre post h => by simp at h
      have hnamed : AllNamed n t.ids [] ↔ used n t.ids = 0 := by
        rw [used_eq_zero]
        refine forall_congr' fun i => forall_congr' fun hi => ?_
        simp
      rw [hnamed]
      show t.total = used n t.ids ↔ _
      constructor
      · exact fun heq => Or.inl ⟨heq, hno⟩
      · rintro (⟨heq, -⟩ | hzero)
        · exact heq
        · omega
  | cons a as ih =>
      show ((t.delete n a).deleteAll n as).total = used n ((t.delete n a).deleteAll n as).ids ↔ _
      obtain hnone | ⟨i, hsome⟩ := Option.eq_none_or_eq_some (first n t.ids a)
      · have hne := first_eq_none.mp hnone
        rw [delete_of_none hnone, ih t hlab hle, noZeroHit_cons_of_none hne,
          allNamed_cons_of_ne fun j hj _ => hne j hj]
      · obtain ⟨hi, ha, -⟩ := first_eq_some hsome
        by_cases ha0 : a = 0
        · -- the free entry stays free, and the count goes down all the same
          subst ha0
          have hids : Function.update t.ids i 0 = t.ids := by rw [← ha, Function.update_eq_self]
          have hhit : ¬ NoZeroHit n t.ids (0 :: as) := fun hall => (hall [] as rfl i hi).1 ha
          rw [delete_of_some hsome, hids, ih ⟨t.total - 1, t.ids⟩ hlab (by simp only; omega),
            allNamed_cons_of_ne fun j _ hused => hused]
          constructor
          · rintro (⟨heq, -⟩ | hall)
            · refine Or.inr fun j hj hused => absurd ?_ hused
              simp only at heq
              exact used_eq_zero.mp (by omega) j hj
            · exact Or.inr hall
          · rintro (⟨-, hno⟩ | hall)
            · exact absurd hno hhit
            · exact Or.inr hall
        · have hdec := used_update_of_used hi (ha ▸ ha0 : t.ids i ≠ 0)
          have hfree : Function.update t.ids i 0 i = 0 := Function.update_self i 0 t.ids
          rw [delete_of_some hsome,
            ih ⟨t.total - 1, Function.update t.ids i 0⟩ (hlab.update (Or.inl rfl))
              (by simp only; omega),
            noZeroHit_of_free (t := ⟨t.total - 1, Function.update t.ids i 0⟩) hi hfree,
            noZeroHit_cons_of_used hi ha ha0, allNamed_cons_of_used hlab hl hi ha ha0]
          simp only
          constructor
          · rintro (⟨heq, hno⟩ | hall)
            · by_cases hzero : t.total = 0
              · -- the slot given back was the last one
                refine Or.inr fun j hj hused => absurd ?_ hused
                exact used_eq_zero.mp (by omega) j hj
              · exact Or.inl ⟨by omega, hno⟩
            · exact Or.inr hall
          · rintro (⟨heq, hno⟩ | hall)
            · exact Or.inl ⟨by omega, hno⟩
            · exact Or.inr hall

theorem labelled_deleteAll (as : List α) (t : Table α) (hlab : Labelled n label t.ids) :
    Labelled n label (t.deleteAll n as).ids := by
  induction as generalizing t with
  | nil => exact hlab
  | cons a as ih =>
      refine ih (t.delete n a) ?_
      unfold Table.delete
      split
      · exact hlab.update (Or.inl rfl)
      · exact hlab

/-- Those of `as` that find an entry when their turn comes. -/
def Table.hits (n : Nat) (t : Table α) : List α → List α
  | [] => []
  | a :: as =>
    if first n t.ids a = none then Table.hits n t as
    else a :: Table.hits n (t.delete n a) as

omit [Zero α] in
theorem exists_of_first_ne_none (h : first n t.ids a ≠ none) :
    ∃ i < n, t.ids i = a := by
  obtain ⟨i, hsome⟩ := Option.ne_none_iff_exists'.mp h
  obtain ⟨hi, ha, -⟩ := first_eq_some hsome
  exact ⟨i, hi, ha⟩

/-- A deletion leaves the entries that hold something else. -/
theorem delete_ids_of_ne {b : α} {i : Nat} (hne : t.ids i ≠ b) :
    (t.delete n b).ids i = t.ids i := by
  unfold Table.delete
  split
  · next j hsome =>
      obtain ⟨-, hj, -⟩ := first_eq_some hsome
      have hij : i ≠ j := fun h => hne (h ▸ hj)
      exact Function.update_of_ne hij 0 t.ids
  · rfl

/-- A deletion brings no id into the table. -/
theorem exists_of_delete {b : α} (ha : a ≠ 0) (h : ∃ i < n, (t.delete n b).ids i = a) :
    ∃ i < n, t.ids i = a := by
  obtain ⟨i, hi, hid⟩ := h
  unfold Table.delete at hid
  split at hid
  · next j _ =>
      by_cases hij : i = j
      · subst hij
        simp only [Function.update_self] at hid
        exact absurd hid.symm ha
      · simp only [Function.update_of_ne hij] at hid
        exact ⟨i, hi, hid⟩
  · exact ⟨i, hi, hid⟩

theorem of_mem_hits (ha : a ≠ 0) (h : a ∈ t.hits n as) : a ∈ as ∧ ∃ i < n, t.ids i = a := by
  induction as generalizing t with
  | nil => exact absurd h List.not_mem_nil
  | cons b as ih =>
      rw [Table.hits] at h
      split at h
      · exact (ih h).imp_left (List.mem_cons_of_mem b)
      · next hfound =>
          rcases List.mem_cons.mp h with rfl | hmem
          · exact ⟨List.mem_cons_self, exists_of_first_ne_none hfound⟩
          · obtain ⟨has, hex⟩ := ih hmem
            exact ⟨List.mem_cons_of_mem b has, exists_of_delete ha hex⟩

theorem mem_hits {i : Nat} (hi : i < n) (ha : t.ids i = a) (hmem : a ∈ as) :
    a ∈ t.hits n as := by
  induction as generalizing t with
  | nil => exact absurd hmem List.not_mem_nil
  | cons b as ih =>
      rw [Table.hits]
      by_cases hba : b = a
      · subst hba
        rw [if_neg fun hnone => first_eq_none.mp hnone i hi ha]
        exact List.mem_cons_self
      · have hmem' : a ∈ as := (List.mem_cons.mp hmem).resolve_left fun h => hba h.symm
        split
        · exact ih ha hmem'
        · have hid : (t.delete n b).ids i = a := by
            rw [delete_ids_of_ne fun h => hba (h.symm.trans ha), ha]
          exact List.mem_cons_of_mem b (ih hid hmem')

/-- **A zero finds a free entry** exactly if one is met. -/
theorem zero_mem_hits_iff : 0 ∈ t.hits n as ↔ ¬ NoZeroHit n t.ids as := by
  induction as generalizing t with
  | nil => exact iff_of_false List.not_mem_nil fun h => h fun pre post heq => by simp at heq
  | cons a as ih =>
      rw [Table.hits]
      obtain hnone | ⟨i, hsome⟩ := Option.eq_none_or_eq_some (first n t.ids a)
      · rw [if_pos hnone, ih, noZeroHit_cons_of_none (first_eq_none.mp hnone)]
      · obtain ⟨hi, ha, -⟩ := first_eq_some hsome
        rw [if_neg (by simp [hsome])]
        by_cases ha0 : a = 0
        · subst ha0
          exact iff_of_true List.mem_cons_self fun hall => (hall [] as rfl i hi).1 ha
        · have hfree : (t.delete n a).ids i = 0 := by
            rw [delete_of_some hsome]
            exact Function.update_self i 0 t.ids
          rw [List.mem_cons, ih, noZeroHit_of_free hi hfree, noZeroHit_cons_of_used hi ha ha0]
          simp [Ne.symm ha0]

/-- **When a list of deletions keeps entries and count in step.** -/
theorem Counted.deleteAll_iff (h : Counted n label t) (hl : Labels n label) (as : List α) :
    Counted n label (t.deleteAll n as) ↔ NoZeroHit n t.ids as ∨ AllNamed n t.ids as := by
  have htotal := deleteAll_total hl as t h.labelled h.total_eq.le
  constructor
  · intro hc
    exact (htotal.mp hc.total_eq).imp And.right id
  · intro hok
    exact ⟨labelled_deleteAll as t h.labelled,
      htotal.mpr (hok.imp (fun hno => ⟨h.total_eq, hno⟩) id)⟩

end

end Slots
