/-
The wait lists hold who waits, the highest priority first.

`OS_PendListInsertPrio` looks for the first task of a lower priority and puts the new one in
front of it, so that tasks of one priority wait in the order they came in.
-/
import Mathlib.Data.List.Sort
import SwiftAcu.Proofs.Kernel.Ready

namespace SwiftAcu.Kernel

open DList

variable {T S : Type} {q : PendLists T S} {wait : S → List T} {s : S} {t : T} {xs ys : List T}
  {prio : T → Nat}

/-- The lists are `wait`. -/
structure PendLists.Holds (q : PendLists T S) (wait : S → List T) : Prop where
  kept : Kept q.links wait
  ends : ∀ s, q.pendList s = .of (wait s)
  obj : ∀ s t, t ∈ wait s ↔ q.pendObj t = some s

/-- The place of a task in a wait list. -/
abbrev enqueue (prio : T → Nat) (t : T) (xs : List T) : List T :=
  xs.orderedInsert (fun a b => prio a < prio b) t

/-- The tasks that stay in front of `t`. -/
def notBehind (prio : T → Nat) (t : T) (u : T) : Bool := decide ¬prio t < prio u

theorem enqueue_eq (prio : T → Nat) (t : T) (xs : List T) :
    enqueue prio t xs =
      xs.takeWhile (notBehind prio t) ++ t :: xs.dropWhile (notBehind prio t) :=
  List.orderedInsert_eq_take_drop ..

/-- The search finds the first task of a lower priority. -/
theorem findPrio_eq (prio : T → Nat) (t : T) {L : Links T} {p : Option T} {n : Nat} (hseg : Seg L p xs none)
    (hn : xs.length ≤ n) :
    PendLists.findPrio prio t L n xs.head? = (xs.dropWhile (notBehind prio t)).head? := by
  induction xs generalizing p n with
  | nil => cases n <;> rfl
  | cons x xs ih =>
      cases n with
      | zero => exact absurd hn (by simp)
      | succ n =>
          rw [List.head?_cons, PendLists.findPrio, List.dropWhile_cons]
          by_cases hlt : prio t < prio x
          · rw [if_pos hlt, if_neg (by simp [notBehind, hlt])]
            rfl
          · have hnext : L.next x = xs.head? := by rw [hseg.2.1, Option.or_none]
            rw [if_neg hlt, if_pos (by simp [notBehind, hlt]), hnext]
            exact ih hseg.2.2 (Nat.le_of_succ_le_succ hn)

variable [DecidableEq T]

/-- The pointers of a task that is in no list may be cleared. -/
theorem kept_cleared {ι : Type} {L : Links T} {lists : ι → List T} (h : Kept L lists)
    (ht : ∀ i, t ∉ lists i) :
    Kept ((L.setNext (some t) none).setPrev (some t) none) lists := by
  refine ⟨fun i => (h.isList i).congr fun x hx => ?_, h.one⟩
  have hne : x ≠ t := fun heq => ht i (heq ▸ hx)
  exact ⟨Function.update_of_ne hne .., Function.update_of_ne hne ..⟩

variable [DecidableEq S]

/-- The pointers of a new node do not matter. -/
theorem insert_cleared (L : Links T) (p n : Option T) (t : T) :
    ((L.setNext (some t) none).setPrev (some t) none).insert p t n = L.insert p t n := by
  simp only [Links.insert, Links.setNext, Links.setPrev, poke_some, Function.update_idem]

theorem insertPrio_eq (hlist : q.pendList s = .of (xs ++ ys)) (hl : IsList q.links (xs ++ ys))
    (ht : t ∉ xs ++ ys) (hys : ys = (xs ++ ys).dropWhile (notBehind prio t)) :
    q.insertPrio prio s t =
      { pendObj := Function.update q.pendObj t (some s)
        links := q.links.insert xs.getLast? t ys.head?
        pendList := Function.update q.pendList s (.of (xs ++ t :: ys)) } := by
  have hkept : Kept q.links fun _ : Unit => xs ++ ys := ⟨fun _ => hl, fun _ _ => rfl⟩
  have hcleared : IsList ((q.links.setNext (some t) none).setPrev (some t) none) (xs ++ ys) :=
    (kept_cleared hkept fun _ => ht).isList ()
  have hfind := findPrio_eq prio t hcleared.seg (Nat.le_refl _)
  rw [← hys] at hfind
  unfold PendLists.insertPrio
  simp only [hlist, OsList.of, hfind]
  by_cases hnil : xs ++ ys = []
  · obtain ⟨rfl, rfl⟩ := List.append_eq_nil_iff.mp hnil
    rfl
  rw [if_neg (by simpa using hnil), ← insert_cleared]
  generalize (q.links.setNext (some t) none).setPrev (some t) none = L at hcleared
  cases ys with
  | nil =>
      obtain ⟨x, xs, rfl⟩ := List.exists_cons_of_ne_nil (List.append_nil xs ▸ hnil)
      have hlast : (x :: (xs ++ [t])).getLast? = some t :=
        List.getLast?_append_of_ne_nil (x :: xs) (List.cons_ne_nil t [])
      simp [Links.insert, Links.setNext, Links.setPrev, hlast]
  | cons y ys =>
      have hprev : L.prev y = xs.getLast? := hcleared.prev_eq
      have hyt : y ≠ t := fun heq => ht (heq ▸ List.mem_append_right _ (List.mem_cons_self ..))
      simp only [List.head?_cons, hprev]
      rcases List.eq_nil_or_concat xs with rfl | ⟨us, u, rfl⟩
      · simp [Links.insert, Links.setNext, Links.setPrev, Function.update_comm hyt]
      · simp [Links.insert, Links.setNext, Links.setPrev, Nat.add_assoc]

/-- **A task that waits** is behind those of its priority, and before those of a lower one. -/
theorem PendLists.Holds.insertPrio (h : q.Holds wait) (prio : T → Nat) (ht : ∀ s, t ∉ wait s) (s : S) :
    (q.insertPrio prio s t).Holds (Function.update wait s (enqueue prio t (wait s))) := by
  have hsplit : wait s = (wait s).takeWhile (notBehind prio t) ++
      (wait s).dropWhile (notBehind prio t) := List.takeWhile_append_dropWhile.symm
  rw [enqueue_eq]
  generalize (wait s).takeWhile (notBehind prio t) = xs at hsplit ⊢
  generalize hys : (wait s).dropWhile (notBehind prio t) = ys at hsplit ⊢
  have hends : q.pendList s = .of (xs ++ ys) := hsplit ▸ h.ends s
  have hlist : IsList q.links (xs ++ ys) := hsplit ▸ h.kept.isList s
  rw [insertPrio_eq hends hlist (hsplit ▸ ht s) (hsplit ▸ hys.symm)]
  have howned : Owned q.pendObj wait := h.obj
  exact ⟨h.kept.insert hsplit ht, ends_update h.ends s _, howned.insert hsplit ht⟩

/-! ### A task that waits no longer -/

theorem remove1_eq (hlist : q.pendList s = .of (xs ++ t :: ys))
    (hprev : q.links.prev t = xs.getLast?) (hnext : q.links.next t = ys.head?) :
    q.remove1 s t =
      { q with
        links := q.links.unlink t
        pendList := Function.update q.pendList s (.of (xs ++ ys)) } := by
  rw [← remove_links]
  unfold PendLists.remove1
  rw [hprev, hnext, hlist]
  rcases List.eq_nil_or_concat xs with rfl | ⟨us, u, rfl⟩
  · cases ys with
    | nil => simp [OsList.of, OsList.empty, Links.setNext, Links.setPrev]
    | cons y ys => simp [OsList.of, Links.setNext, Links.setPrev]
  · cases ys with
    | nil => simp [OsList.of, Links.setNext, Links.setPrev]
    | cons y ys =>
        have hmany : us.length + (ys.length + 1 + 1 + 1) ≠ 1 := by omega
        simp [OsList.of, Links.setNext, Links.setPrev, hmany]

/-- **A task that waits no longer** is in no list. -/
theorem PendLists.Holds.remove (h : q.Holds wait) (ht : t ∈ wait s) :
    (q.remove t).Holds (Function.update wait s ((wait s).erase t)) := by
  obtain ⟨xs, ys, hsplit⟩ := List.append_of_mem ht
  have hlist : IsList q.links (xs ++ t :: ys) := hsplit ▸ h.kept.isList s
  have hnotin : t ∉ xs ++ ys := (List.nodup_cons.mp (List.nodup_middle.mp hlist.nodup)).1
  have herase : (wait s).erase t = xs ++ ys := by
    rw [hsplit, List.erase_append_right _ fun hmem => hnotin (List.mem_append_left _ hmem),
      List.erase_cons_head]
  rw [herase]
  have hremove : q.remove t =
      { pendObj := Function.update q.pendObj t none
        links := q.links.unlink t
        pendList := Function.update q.pendList s (.of (xs ++ ys)) } := by
    unfold PendLists.remove
    rw [(h.obj s t).mp ht]
    simp only [remove1_eq (hsplit ▸ h.ends s) hlist.prev_eq hlist.next_eq]
  rw [hremove]
  have howned : Owned q.pendObj wait := h.obj
  exact ⟨h.kept.unlink hsplit, ends_update h.ends s _, howned.unlink hsplit hnotin⟩

/-- Nothing is done for a task that does not wait. -/
theorem pends_remove_of_none (h : q.pendObj t = none) : q.remove t = q := by
  unfold PendLists.remove
  rw [h]

end SwiftAcu.Kernel
