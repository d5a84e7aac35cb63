/-
Doubly linked lists.

Each node has two pointers, and many lists are kept in the pointers of one set of nodes.  All
that is ever done to such a list is to put a node between two neighbours, or to take one out
from between its neighbours; at an end of the list the neighbour is missing, and then there is
nothing to write.  What is proved of the two is what they make of the list, and that every
other list is as it was.
-/
import Mathlib.Data.List.Basic
import Mathlib.Data.List.Nodup
import Mathlib.Logic.Function.Basic
import Mathlib.Tactic.Common

namespace DList

variable {α ι : Type}

/-- The two pointers of each node. -/
structure Links (α : Type) where
  next : α → Option α
  prev : α → Option α

/-- The nodes `xs` hang together, with `p` in front of them and `n` behind. -/
def Seg (L : Links α) (p : Option α) : List α → Option α → Prop
  | [], _ => True
  | x :: xs, n => L.prev x = p ∧ L.next x = xs.head?.or n ∧ Seg L (some x) xs n

/-- `xs` is a list of its own. -/
structure IsList (L : Links α) (xs : List α) : Prop where
  seg : Seg L none xs none
  nodup : xs.Nodup

section
variable {L L' : Links α} {p n : Option α} {x : α} {xs ys : List α}

theorem seg_append :
    Seg L p (xs ++ ys) n ↔ Seg L p xs (ys.head?.or n) ∧ Seg L (xs.getLast?.or p) ys n := by
  induction xs generalizing p with
  | nil => simp [Seg]
  | cons x xs ih =>
      have hhead : (xs ++ ys).head?.or n = xs.head?.or (ys.head?.or n) := by
        rw [List.head?_append, Option.or_assoc]
      have hlast : (x :: xs).getLast?.or p = xs.getLast?.or (some x) := by
        rw [List.getLast?_cons]
        cases xs.getLast? <;> rfl
      simp only [List.cons_append, Seg, hhead, hlast, ih, and_assoc]

theorem Seg.congr (h : Seg L p xs n)
    (hsame : ∀ x ∈ xs, L'.next x = L.next x ∧ L'.prev x = L.prev x) : Seg L' p xs n := by
  induction xs generalizing p with
  | nil => trivial
  | cons x xs ih =>
      obtain ⟨hprev, hnext, hrest⟩ := h
      obtain ⟨hn, hp⟩ := hsame x (List.mem_cons_self ..)
      exact ⟨hp.trans hprev, hn.trans hnext,
        ih hrest fun y hy => hsame y (List.mem_cons_of_mem _ hy)⟩

theorem IsList.congr (h : IsList L xs)
    (hsame : ∀ x ∈ xs, L'.next x = L.next x ∧ L'.prev x = L.prev x) : IsList L' xs :=
  ⟨h.seg.congr hsame, h.nodup⟩

theorem isList_nil (L : Links α) : IsList L [] := ⟨trivial, List.nodup_nil⟩

/-- The neighbours of a node. -/
theorem IsList.prev_eq (h : IsList L (xs ++ x :: ys)) : L.prev x = xs.getLast? := by
  rw [(seg_append.mp h.seg).2.1, Option.or_none]

theorem IsList.next_eq (h : IsList L (xs ++ x :: ys)) : L.next x = ys.head? := by
  rw [(seg_append.mp h.seg).2.2.1, Option.or_none]

end

/-! ### The two operations -/

section
variable [DecidableEq α]

/-- A write through a pointer; through a null pointer nothing is written. -/
def poke (f : α → Option α) (p v : Option α) : α → Option α :=
  match p with
  | none => f
  | some a => Function.update f a v

/-- The pointer to the next node is set, of the node at a pointer. -/
def Links.setNext (L : Links α) (p v : Option α) : Links α := { L with next := poke L.next p v }

/-- The pointer to the node in front is set. -/
def Links.setPrev (L : Links α) (p v : Option α) : Links α := { L with prev := poke L.prev p v }

/-- `x` is put between `p` and `n`. -/
def Links.insert (L : Links α) (p : Option α) (x : α) (n : Option α) : Links α where
  next := poke (Function.update L.next x n) p (some x)
  prev := poke (Function.update L.prev x p) n (some x)

/-- `x` is taken out from between its neighbours. -/
def Links.unlink (L : Links α) (x : α) : Links α where
  next := Function.update (poke L.next (L.prev x) (L.next x)) x none
  prev := Function.update (poke L.prev (L.next x) (L.prev x)) x none

variable {L : Links α} {p n : Option α} {x : α} {xs ys zs : List α}

@[simp] theorem poke_none (f : α → Option α) (v : Option α) : poke f none v = f := rfl

@[simp] theorem poke_some (f : α → Option α) (a : α) (v : Option α) :
    poke f (some a) v = Function.update f a v := rfl

theorem poke_of_ne {f : α → Option α} {v : Option α} {y : α} (h : p ≠ some y) :
    poke f p v y = f y := by
  cases p with
  | none => rfl
  | some a => exact Function.update_of_ne (fun heq => h (congrArg some heq.symm)) ..

/-- What an insertion leaves as it was. -/
theorem IsList.insert_of_notMem (h : IsList L zs) (hp : ∀ a ∈ p, a ∉ zs) (hx : x ∉ zs)
    (hn : ∀ a ∈ n, a ∉ zs) : IsList (L.insert p x n) zs := by
  refine h.congr fun y hy => ?_
  have hyx : y ≠ x := fun heq => hx (heq ▸ hy)
  constructor
  · show poke (Function.update L.next x n) p (some x) y = L.next y
    rw [poke_of_ne fun heq => hp y heq hy, Function.update_of_ne hyx]
  · show poke (Function.update L.prev x p) n (some x) y = L.prev y
    rw [poke_of_ne fun heq => hn y heq hy, Function.update_of_ne hyx]

/-- The part in front of a new node. -/
theorem Seg.insert_front (hseg : Seg L none xs n) (hnodup : xs.Nodup) (hx : x ∉ xs)
    (hn : ∀ a ∈ n, a ∉ xs) : Seg (L.insert xs.getLast? x n) none xs (some x) := by
  rcases List.eq_nil_or_concat xs with rfl | ⟨front, last, rfl⟩
  · trivial
  rw [List.concat_eq_append] at *
  obtain ⟨hfront, hprev, -, -⟩ := seg_append.mp hseg
  have hlast : last ∉ front := fun hmem =>
    (List.nodup_append.mp hnodup).2.2 last hmem last (List.mem_singleton.mpr rfl) rfl
  have hmem : last ∈ front ++ [last] := List.mem_append_right _ (List.mem_singleton.mpr rfl)
  have hgetLast : (front ++ [last]).getLast? = some last := List.getLast?_concat ..
  rw [hgetLast]
  refine seg_append.mpr ⟨hfront.congr fun y hy => ?_, ?_, ?_, trivial⟩
  · have hyx : y ≠ x := fun heq => hx (heq ▸ List.mem_append_left _ hy)
    have hyl : y ≠ last := fun heq => hlast (heq ▸ hy)
    constructor
    · show Function.update (Function.update L.next x n) last (some x) y = L.next y
      rw [Function.update_of_ne hyl, Function.update_of_ne hyx]
    · show poke (Function.update L.prev x (some last)) n (some x) y = L.prev y
      rw [poke_of_ne fun heq => hn y heq (List.mem_append_left _ hy), Function.update_of_ne hyx]
  · have hlx : last ≠ x := fun heq => hx (heq ▸ hmem)
    show poke (Function.update L.prev x (some last)) n (some x) last = _
    rw [poke_of_ne fun heq => hn last heq hmem, Function.update_of_ne hlx, hprev]
  · show Function.update (Function.update L.next x n) last (some x) last = some x
    exact Function.update_self ..

/-- The part behind a new node. -/
theorem Seg.insert_back (hseg : Seg L p ys none) (hnodup : ys.Nodup) (hx : x ∉ ys)
    (hp : ∀ a ∈ p, a ∉ ys) : Seg (L.insert p x ys.head?) (some x) ys none := by
  cases ys with
  | nil => trivial
  | cons y ys =>
      obtain ⟨-, hnext, hrest⟩ := hseg
      have hyx : y ≠ x := fun heq => hx (heq ▸ List.mem_cons_self ..)
      refine ⟨Function.update_self .., ?_, hrest.congr fun z hz => ?_⟩
      · show poke (Function.update L.next x (some y)) p (some x) y = _
        rw [poke_of_ne fun heq => hp y heq (List.mem_cons_self ..), Function.update_of_ne hyx,
          hnext]
      · have hzx : z ≠ x := fun heq => hx (heq ▸ List.mem_cons_of_mem _ hz)
        have hzy : z ≠ y := fun heq => (List.nodup_cons.mp hnodup).1 (heq ▸ hz)
        constructor
        · show poke (Function.update L.next x (some y)) p (some x) z = L.next z
          rw [poke_of_ne fun heq => hp z heq (List.mem_cons_of_mem _ hz), Function.update_of_ne hzx]
        · show Function.update (Function.update L.prev x p) y (some x) z = L.prev z
          rw [Function.update_of_ne hzy, Function.update_of_ne hzx]

/-- **A node put between two neighbours** is in the list, between them. -/
theorem IsList.insert (h : IsList L (xs ++ ys)) (hx : x ∉ xs ++ ys) :
    IsList (L.insert xs.getLast? x ys.head?) (xs ++ x :: ys) := by
  obtain ⟨hfront, hback⟩ := seg_append.mp h.seg
  obtain ⟨hxs, hys, hdisj⟩ := List.nodup_append.mp h.nodup
  rw [Option.or_none] at hfront hback
  have hxxs : x ∉ xs := fun hmem => hx (List.mem_append_left _ hmem)
  have hxys : x ∉ ys := fun hmem => hx (List.mem_append_right _ hmem)
  have hlast : ∀ a ∈ xs.getLast?, a ∉ ys := fun a ha hmem =>
    hdisj a (List.mem_of_getLast? ha) a hmem rfl
  have hhead : ∀ a ∈ ys.head?, a ∉ xs := fun a ha hmem =>
    hdisj a hmem a (List.mem_of_head? ha) rfl
  refine ⟨seg_append.mpr ⟨hfront.insert_front hxs hxxs hhead, ?_, ?_, ?_⟩, ?_⟩
  · show poke (Function.update L.prev x xs.getLast?) ys.head? (some x) x = _
    rw [poke_of_ne fun heq => hxys (List.mem_of_head? heq), Function.update_self, Option.or_none]
  · show poke (Function.update L.next x ys.head?) xs.getLast? (some x) x = _
    rw [poke_of_ne fun heq => hxxs (List.mem_of_getLast? heq), Function.update_self,
      Option.or_none]
  · exact hback.insert_back hys hxys hlast
  · exact (List.nodup_middle.mpr (List.nodup_cons.mpr ⟨hx, h.nodup⟩))

/-- What an unlinking leaves as it was. -/
theorem IsList.unlink_of_notMem (h : IsList L zs) (hp : ∀ a ∈ L.prev x, a ∉ zs) (hx : x ∉ zs)
    (hn : ∀ a ∈ L.next x, a ∉ zs) : IsList (L.unlink x) zs := by
  refine h.congr fun y hy => ?_
  have hyx : y ≠ x := fun heq => hx (heq ▸ hy)
  constructor
  · show Function.update (poke L.next (L.prev x) (L.next x)) x none y = L.next y
    rw [Function.update_of_ne hyx, poke_of_ne fun heq => hp y heq hy]
  · show Function.update (poke L.prev (L.next x) (L.prev x)) x none y = L.prev y
    rw [Function.update_of_ne hyx, poke_of_ne fun heq => hn y heq hy]

/-- The part in front of a node that goes. -/
theorem Seg.unlink_front (hseg : Seg L none xs (some x)) (hnodup : xs.Nodup) (hx : x ∉ xs)
    (hp : L.prev x = xs.getLast?) (hn : ∀ a ∈ L.next x, a ∉ xs) :
    Seg (L.unlink x) none xs (L.next x) := by
  rcases List.eq_nil_or_concat xs with rfl | ⟨front, last, rfl⟩
  · trivial
  rw [List.concat_eq_append] at *
  obtain ⟨hfront, hprev, -, -⟩ := seg_append.mp hseg
  have hlast : last ∉ front := fun hmem =>
    (List.nodup_append.mp hnodup).2.2 last hmem last (List.mem_singleton.mpr rfl) rfl
  have hp : L.prev x = some last := hp.trans (List.getLast?_concat ..)
  have hmem : last ∈ front ++ [last] := List.mem_append_right _ (List.mem_singleton.mpr rfl)
  have hlx : last ≠ x := fun heq => hx (heq ▸ hmem)
  refine seg_append.mpr ⟨hfront.congr fun y hy => ?_, ?_, ?_, trivial⟩
  · have hyx : y ≠ x := fun heq => hx (heq ▸ List.mem_append_left _ hy)
    have hyl : y ≠ last := fun heq => hlast (heq ▸ hy)
    constructor
    · show Function.update (poke L.next (L.prev x) (L.next x)) x none y = L.next y
      rw [Function.update_of_ne hyx, hp, poke_some, Function.update_of_ne hyl]
    · show Function.update (poke L.prev (L.next x) (L.prev x)) x none y = L.prev y
      rw [Function.update_of_ne hyx, poke_of_ne fun heq => hn y heq (List.mem_append_left _ hy)]
  · show Function.update (poke L.prev (L.next x) (L.prev x)) x none last = _
    rw [Function.update_of_ne hlx, poke_of_ne fun heq => hn last heq hmem, hprev]
  · show Function.update (poke L.next (L.prev x) (L.next x)) x none last = _
    rw [Function.update_of_ne hlx, hp, poke_some, Function.update_self]
    rfl

/-- The part behind a node that goes. -/
theorem Seg.unlink_back (hseg : Seg L (some x) ys none) (hnodup : ys.Nodup) (hx : x ∉ ys)
    (hn : L.next x = ys.head?) (hp : ∀ a ∈ L.prev x, a ∉ ys) :
    Seg (L.unlink x) (L.prev x) ys none := by
  cases ys with
  | nil => trivial
  | cons y ys =>
      obtain ⟨-, hnext, hrest⟩ := hseg
      have hn : L.next x = some y := hn
      have hyx : y ≠ x := fun heq => hx (heq ▸ List.mem_cons_self ..)
      refine ⟨?_, ?_, hrest.congr fun z hz => ?_⟩
      · show Function.update (poke L.prev (L.next x) (L.prev x)) x none y = _
        rw [Function.update_of_ne hyx, hn, poke_some, Function.update_self]
      · show Function.update (poke L.next (L.prev x) (L.next x)) x none y = _
        rw [Function.update_of_ne hyx, poke_of_ne fun heq => hp y heq (List.mem_cons_self ..),
          hnext]
      · have hzx : z ≠ x := fun heq => hx (heq ▸ List.mem_cons_of_mem _ hz)
        have hzy : z ≠ y := fun heq => (List.nodup_cons.mp hnodup).1 (heq ▸ hz)
        constructor
        · show Function.update (poke L.next (L.prev x) (L.next x)) x none z = L.next z
          rw [Function.update_of_ne hzx, poke_of_ne fun heq => hp z heq (List.mem_cons_of_mem _ hz)]
        · show Function.update (poke L.prev (L.next x) (L.prev x)) x none z = L.prev z
          rw [Function.update_of_ne hzx, hn, poke_some, Function.update_of_ne hzy]

/-- **A node taken out** is not in the list, and its neighbours are neighbours. -/
theorem IsList.unlink (h : IsList L (xs ++ x :: ys)) : IsList (L.unlink x) (xs ++ ys) := by
  have hprev := h.prev_eq
  have hnext := h.next_eq
  obtain ⟨hfront, -, -, hback⟩ := seg_append.mp h.seg
  obtain ⟨hxs, hcons, hdisj⟩ := List.nodup_append.mp h.nodup
  obtain ⟨hxys, hys⟩ := List.nodup_cons.mp hcons
  have hxxs : x ∉ xs := fun hmem => hdisj x hmem x (List.mem_cons_self ..) rfl
  have hlast : ∀ a ∈ L.prev x, a ∉ ys := fun a ha hmem =>
    hdisj a (List.mem_of_getLast? (hprev ▸ ha)) a (List.mem_cons_of_mem _ hmem) rfl
  have hhead : ∀ a ∈ L.next x, a ∉ xs := fun a ha hmem =>
    hdisj a hmem a (List.mem_cons_of_mem _ (List.mem_of_head? (hnext ▸ ha))) rfl
  refine ⟨seg_append.mpr ⟨?_, ?_⟩, ?_⟩
  · rw [Option.or_none, ← hnext]
    exact hfront.unlink_front hxs hxxs hprev hhead
  · rw [Option.or_none, ← hprev]
    exact hback.unlink_back hys hxys hnext hlast
  · exact List.nodup_append.mpr
      ⟨hxs, hys, fun a ha b hb => hdisj a ha b (List.mem_cons_of_mem _ hb)⟩

end

/-! ### Many lists -/

/-- Each of the `lists` is a list of its own, and a node is in one of them at most. -/
structure Kept (L : Links α) (lists : ι → List α) : Prop where
  isList : ∀ i, IsList L (lists i)
  one : ∀ {i j : ι} {x : α}, x ∈ lists i → x ∈ lists j → i = j

theorem kept_nil (L : Links α) : Kept L fun _ : ι => [] :=
  ⟨fun _ => isList_nil L, fun h => absurd h List.not_mem_nil⟩

section
variable [DecidableEq α] [DecidableEq ι] {L : Links α} {lists : ι → List α} {i : ι} {x : α}
  {xs ys : List α}

theorem Kept.insert (h : Kept L lists) (hi : lists i = xs ++ ys) (hx : ∀ j, x ∉ lists j) :
    Kept (L.insert xs.getLast? x ys.head?) (Function.update lists i (xs ++ x :: ys)) := by
  have hmem : ∀ {j y}, y ∈ Function.update lists i (xs ++ x :: ys) j →
      y = x ∧ j = i ∨ y ∈ lists j := by
    intro j y hy
    by_cases hj : j = i
    · subst hj
      rw [Function.update_self] at hy
      rw [hi]
      simp only [List.mem_append, List.mem_cons] at hy ⊢
      tauto
    · rw [Function.update_of_ne hj] at hy
      exact Or.inr hy
  constructor
  · intro j
    by_cases hj : j = i
    · subst hj
      rw [Function.update_self]
      exact (hi ▸ h.isList j).insert (hi ▸ hx j)
    · rw [Function.update_of_ne hj]
      refine (h.isList j).insert_of_notMem (fun a ha hmem => hj (h.one hmem ?_)) (hx j)
        fun a ha hmem => hj (h.one hmem ?_)
      · rw [hi]
        exact List.mem_append_left _ (List.mem_of_getLast? ha)
      · rw [hi]
        exact List.mem_append_right _ (List.mem_of_head? ha)
  · intro j k y hj hk
    rcases hmem hj with ⟨hyx, hji⟩ | hyj <;> rcases hmem hk with ⟨hyx', hki⟩ | hyk
    · exact hji.trans hki.symm
    · exact absurd (hyx ▸ hyk) (hx k)
    · exact absurd (hyx' ▸ hyj) (hx j)
    · exact h.one hyj hyk

theorem Kept.unlink (h : Kept L lists) (hi : lists i = xs ++ x :: ys) :
    Kept (L.unlink x) (Function.update lists i (xs ++ ys)) := by
  have hlist : IsList L (xs ++ x :: ys) := hi ▸ h.isList i
  have hmem : ∀ {j y}, y ∈ Function.update lists i (xs ++ ys) j → y ∈ lists j := by
    intro j y hy
    by_cases hj : j = i
    · subst hj
      rw [Function.update_self] at hy
      rw [hi]
      simp only [List.mem_append, List.mem_cons] at hy ⊢
      tauto
    · rwa [Function.update_of_ne hj] at hy
  constructor
  · intro j
    by_cases hj : j = i
    · subst hj
      rw [Function.update_self]
      exact hlist.unlink
    · rw [Function.update_of_ne hj]
      have hout : ∀ {y}, y ∈ xs ++ x :: ys → y ∉ lists j := fun hy hmem =>
        hj (h.one hmem (hi ▸ hy))
      refine (h.isList j).unlink_of_notMem (fun a ha => hout ?_) (hout (by simp))
        fun a ha => hout ?_
      · rw [hlist.prev_eq] at ha
        exact List.mem_append_left _ (List.mem_of_getLast? ha)
      · rw [hlist.next_eq] at ha
        exact List.mem_append_right _ (List.mem_cons_of_mem _ (List.mem_of_head? ha))
  · exact fun hj hk => h.one (hmem hj) (hmem hk)

/-! ### Nodes that know their list -/

/-- Each node points to the list that it is in. -/
def Owned (owner : α → Option ι) (lists : ι → List α) : Prop :=
  ∀ i x, x ∈ lists i ↔ owner x = some i

variable {owner : α → Option ι}

theorem Owned.insert (h : Owned owner lists) (hi : lists i = xs ++ ys) (hx : ∀ j, x ∉ lists j) :
    Owned (Function.update owner x (some i)) (Function.update lists i (xs ++ x :: ys)) := by
  intro j y
  by_cases hy : y = x
  · subst hy
    rw [Function.update_self]
    by_cases hj : j = i
    · subst hj
      rw [Function.update_self]
      exact iff_of_true (List.mem_append_right _ (List.mem_cons_self ..)) rfl
    · rw [Function.update_of_ne hj]
      exact iff_of_false (hx j) fun heq => hj (Option.some.inj heq).symm
  · rw [Function.update_of_ne hy, ← h]
    by_cases hj : j = i
    · subst hj
      rw [Function.update_self, List.mem_append, List.mem_cons, or_iff_right hy, ← List.mem_append,
        ← hi]
    · rw [Function.update_of_ne hj]

omit [DecidableEq α] in
/-- A node that is taken out of its list is in none. -/
theorem Owned.notMem (h : Owned owner lists) (hi : lists i = xs ++ x :: ys) (hx : x ∉ xs ++ ys)
    (j : ι) : x ∉ Function.update lists i (xs ++ ys) j := by
  have hmem : x ∈ lists i := hi ▸ List.mem_append_right _ (List.mem_cons_self ..)
  refine (Function.forall_update_iff lists fun _ zs => x ∉ zs).mpr ⟨hx, fun k hk hin => hk ?_⟩ j
  exact Option.some.inj (((h k x).mp hin).symm.trans ((h i x).mp hmem))

theorem Owned.unlink (h : Owned owner lists) (hi : lists i = xs ++ x :: ys) (hx : x ∉ xs ++ ys) :
    Owned (Function.update owner x none) (Function.update lists i (xs ++ ys)) := by
  intro j y
  by_cases hy : y = x
  · subst hy
    rw [Function.update_self]
    exact iff_of_false (h.notMem hi hx j) (Option.some_ne_none j).symm
  · rw [Function.update_of_ne hy, ← h]
    by_cases hj : j = i
    · subst hj
      rw [Function.update_self, hi, List.mem_append, List.mem_append, List.mem_cons,
        or_iff_right hy]
    · rw [Function.update_of_ne hj]

/-- A node is erased everywhere by taking it out of its list. -/
theorem Owned.erase_eq (h : Owned owner lists) (hi : lists i = xs ++ x :: ys) (hx : x ∉ xs ++ ys) :
    (fun j => (lists j).erase x) = Function.update lists i (xs ++ ys) := by
  funext j
  by_cases hj : j = i
  · subst hj
    rw [Function.update_self, hi, List.erase_append_right _ fun hmem =>
      hx (List.mem_append_left _ hmem), List.erase_cons_head]
  · have hnotin := h.notMem hi hx j
    rw [Function.update_of_ne hj] at hnotin ⊢
    exact List.erase_of_not_mem hnotin

end

end DList
