/-
The ready lists hold what they should.

What is said of them is which tasks are in the list of each priority: the order of a list is
left open, because whoever is at its head, it is of the highest priority.
-/
import Mathlib.Data.List.Lemmas
import SwiftAcu.Acu.Kernel.Lists

namespace SwiftAcu.Kernel

open DList

variable {T : Type} {r : ReadyLists T} {rdy : Nat → List T} {p : Nat} {t : T} {xs ys : List T}

/-- The list that holds `xs`. -/
def OsList.of (xs : List T) : OsList T := ⟨xs.head?, xs.getLast?, xs.length⟩

/-- The lists are `rdy`, and the table says which of them have an entry. -/
structure ReadyLists.Holds (r : ReadyLists T) (rdy : Nat → List T) : Prop where
  kept : Kept r.links rdy
  ends : ∀ p, r.rdyList p = .of (rdy p)
  table : ∀ p, PrioTable.has r.prioTbl p = true ↔ rdy p ≠ []

/-- The ends of a list that is changed, and of the others. -/
theorem ends_update {ι : Type} [DecidableEq ι] {tbl : ι → OsList T} {lists : ι → List T}
    (h : ∀ i, tbl i = .of (lists i)) (i : ι) (xs : List T) (j : ι) :
    Function.update tbl i (.of xs) j = .of (Function.update lists i xs j) := by
  rw [Function.apply_update fun _ => OsList.of, funext h]

theorem prioInsert_eq (p : Nat) (r : ReadyLists T) :
    r.prioInsert p = { r with prioTbl := PrioTable.insert r.prioTbl p } := by
  have hand : p &&& (defIntCpuNbrBits - 1) = p % 32 := Nat.and_two_pow_sub_one_eq_mod p 5
  simp only [ReadyLists.prioInsert, hand]
  rfl

theorem prioRemove_eq (p : Nat) (r : ReadyLists T) :
    r.prioRemove p = { r with prioTbl := PrioTable.remove r.prioTbl p } := by
  have hand : p &&& (defIntCpuNbrBits - 1) = p % 32 := Nat.and_two_pow_sub_one_eq_mod p 5
  simp only [ReadyLists.prioRemove, hand]
  rfl

/-- **The search** finds the head of the first list that has one. -/
theorem ReadyLists.Holds.highest (h : r.Holds rdy) (hp : p < osCfgPrioMax) (ht : t ∈ rdy p) :
    ∃ q u, r.prioGetHighest = some q ∧ (r.rdyList q).headPtr = some u ∧ u ∈ rdy q ∧
      ∀ q' u', u' ∈ rdy q' → q ≤ q' := by
  have hsome : ∃ p < osPrioTblSize * 32, PrioTable.has r.prioTbl p = true :=
    ⟨p, Nat.lt_of_lt_of_le hp (by decide), (h.table p).mpr (List.ne_nil_of_mem ht)⟩
  obtain ⟨q, hq, hlowest⟩ := PrioTable.first_eq_some (by decide) hsome
  obtain ⟨u, us, hus⟩ := List.exists_cons_of_ne_nil ((h.table q).mp hlowest.mem)
  refine ⟨q, u, hq, ?_, ?_, fun q' u' hu' =>
    hlowest.least q' ((h.table q').mpr (List.ne_nil_of_mem hu'))⟩
  · rw [h.ends, hus]
    rfl
  · rw [hus]
    exact List.mem_cons_self ..

variable [DecidableEq T]

/-- A task is put among those of its priority, at one place or the other. -/
theorem ReadyLists.Holds.insert_of (h : r.Holds rdy) (hp : rdy p = xs ++ ys) (ht : ∀ q, t ∉ rdy q)
    {r' : ReadyLists T} (htbl : r'.prioTbl = PrioTable.insert r.prioTbl p)
    (hlinks : r'.links = r.links.insert xs.getLast? t ys.head?)
    (hlist : r'.rdyList = Function.update r.rdyList p (.of (xs ++ t :: ys))) :
    r'.Holds (Function.update rdy p (xs ++ t :: ys)) := by
  refine ⟨hlinks ▸ h.kept.insert hp ht, fun q => ?_, fun q => ?_⟩
  · rw [hlist]
    exact ends_update h.ends p _ q
  · rw [htbl, PrioTable.has_insert (by decide), Bool.or_eq_true, decide_eq_true_iff]
    by_cases hq : q = p
    · subst hq
      rw [Function.update_self]
      simp
    · rw [Function.update_of_ne hq, h.table q]
      simp [hq]

theorem insertHead_eq (hlist : r.rdyList p = .of xs) :
    r.insertHead p t =
      { r with
        links := r.links.insert none t xs.head?
        rdyList := Function.update r.rdyList p (.of (t :: xs)) } := by
  cases xs with
  | nil =>
      simp only [ReadyLists.insertHead, hlist, OsList.of, List.length_nil, if_true]
      rfl
  | cons x xs =>
      simp only [ReadyLists.insertHead, hlist, OsList.of, List.length_cons, Nat.succ_ne_zero,
        if_false]
      rfl

theorem insertTail_eq (hlist : r.rdyList p = .of xs) :
    r.insertTail p t =
      { r with
        links := r.links.insert xs.getLast? t none
        rdyList := Function.update r.rdyList p (.of (xs ++ [t])) } := by
  cases xs with
  | nil =>
      simp only [ReadyLists.insertTail, hlist, OsList.of, List.length_nil, if_true]
      rfl
  | cons x xs =>
      have hlast : (x :: xs ++ [t]).getLast? = some t := List.getLast?_concat ..
      simp only [ReadyLists.insertTail, hlist, OsList.of, List.length_cons, Nat.succ_ne_zero,
        if_false, hlast, List.getLast?_cons, List.length_append]
      rfl

theorem ReadyLists.Holds.insertHead (h : r.Holds rdy) (ht : ∀ q, t ∉ rdy q) :
    ((r.prioInsert p).insertHead p t).Holds (Function.update rdy p (t :: rdy p)) := by
  have hends : (r.prioInsert p).rdyList p = .of (rdy p) := h.ends p
  rw [insertHead_eq hends, prioInsert_eq]
  exact h.insert_of (List.nil_append (rdy p)).symm ht rfl rfl rfl

theorem ReadyLists.Holds.insertTail (h : r.Holds rdy) (ht : ∀ q, t ∉ rdy q) :
    ((r.prioInsert p).insertTail p t).Holds (Function.update rdy p (rdy p ++ [t])) := by
  have hends : (r.prioInsert p).rdyList p = .of (rdy p) := h.ends p
  rw [insertTail_eq hends, prioInsert_eq]
  exact h.insert_of (List.append_nil (rdy p)).symm ht rfl rfl rfl

/-- **A task that gets ready** is among those of its priority. -/
theorem ReadyLists.Holds.insert (h : r.Holds rdy) (ht : ∀ q, t ∉ rdy q) (prioCur : Nat) :
    ∃ rdy', (r.insert prioCur p t).Holds rdy' ∧
      ∀ q u, u ∈ rdy' q ↔ u ∈ rdy q ∨ q = p ∧ u = t := by
  have hmem : ∀ (zs : List T), (∀ u, u ∈ zs ↔ u ∈ rdy p ∨ u = t) → ∀ q u,
      u ∈ Function.update rdy p zs q ↔ u ∈ rdy q ∨ q = p ∧ u = t := by
    intro zs hzs q u
    by_cases hq : q = p
    · subst hq
      rw [Function.update_self, hzs]
      simp
    · rw [Function.update_of_ne hq]
      simp [hq]
  unfold ReadyLists.insert
  split
  · exact ⟨_, h.insertTail ht, hmem _ fun u => by simp⟩
  · exact ⟨_, h.insertHead ht, hmem _ fun u => by simp [or_comm]⟩

/-! ### A task that is no longer ready -/

theorem remove_links (L : Links T) (t : T) :
    (((L.setNext (L.prev t) (L.next t)).setPrev (L.next t) (L.prev t)).setPrev (some t)
      none).setNext (some t) none = L.unlink t := rfl

theorem remove_eq (hlist : r.rdyList p = .of (xs ++ t :: ys)) (hprev : r.links.prev t = xs.getLast?)
    (hnext : r.links.next t = ys.head?) :
    r.remove p t =
      { prioTbl := if xs ++ ys = [] then PrioTable.remove r.prioTbl p else r.prioTbl
        links := r.links.unlink t
        rdyList := Function.update r.rdyList p (.of (xs ++ ys)) } := by
  rw [← remove_links]
  unfold ReadyLists.remove
  rw [hprev, hnext, hlist, prioRemove_eq]
  rcases List.eq_nil_or_concat xs with rfl | ⟨us, u, rfl⟩
  · cases ys with
    | nil => simp [OsList.of, OsList.empty, Links.setNext, Links.setPrev]
    | cons y ys => simp [OsList.of, Links.setNext, Links.setPrev]
  · cases ys with
    | nil => simp [OsList.of, Links.setNext, Links.setPrev]
    | cons y ys => simp [OsList.of, Links.setNext, Links.setPrev]

/-- **A task that is taken out** is in no list. -/
theorem ReadyLists.Holds.remove (h : r.Holds rdy) (ht : t ∈ rdy p) :
    ∃ rdy', (r.remove p t).Holds rdy' ∧ ∀ q u, u ∈ rdy' q ↔ u ∈ rdy q ∧ u ≠ t := by
  obtain ⟨xs, ys, hp⟩ := List.append_of_mem ht
  have hlist : IsList r.links (xs ++ t :: ys) := hp ▸ h.kept.isList p
  have hends : r.rdyList p = .of (xs ++ t :: ys) := hp ▸ h.ends p
  rw [remove_eq hends hlist.prev_eq hlist.next_eq]
  have hmem : ∀ q u, u ∈ Function.update rdy p (xs ++ ys) q ↔ u ∈ rdy q ∧ u ≠ t := by
    intro q u
    by_cases hq : q = p
    · subst hq
      have hnotin : t ∉ xs ++ ys := (List.nodup_cons.mp (List.nodup_middle.mp hlist.nodup)).1
      rw [Function.update_self, hp]
      constructor
      · intro hu
        exact ⟨by simp only [List.mem_append, List.mem_cons] at hu ⊢; tauto,
          fun heq => hnotin (heq ▸ hu)⟩
      · rintro ⟨hu, hne⟩
        simp only [List.mem_append, List.mem_cons] at hu ⊢
        tauto
    · rw [Function.update_of_ne hq]
      exact ⟨fun hu => ⟨hu, fun heq => hq (h.kept.one (heq ▸ hu) ht)⟩, fun hu => hu.1⟩
  refine ⟨_, ⟨h.kept.unlink hp, fun q => ?_, fun q => ?_⟩, hmem⟩
  · exact ends_update h.ends p _ q
  · show PrioTable.has (if xs ++ ys = [] then _ else _) q = true ↔ _
    by_cases hnil : xs ++ ys = []
    · rw [if_pos hnil, PrioTable.has_remove (by decide), Bool.and_eq_true, decide_eq_true_iff]
      by_cases hq : q = p
      · subst hq
        rw [Function.update_self]
        simp [hnil]
      · rw [Function.update_of_ne hq, h.table q]
        simp [hq]
    · rw [if_neg hnil]
      by_cases hq : q = p
      · subst hq
        rw [Function.update_self, h.table q, hp]
        simp [hnil]
      · rw [Function.update_of_ne hq, h.table q]

end SwiftAcu.Kernel
