/-
The tick wheel holds who is due, and when.

The counter and what is compared with it have 32 bits; what a task is due at is said here as a
number of ticks since the start.  A task is never due more than 2^32 ticks from now, so what is
left of its time is found by the subtraction, whether or not the counter has wrapped, and the
tasks of one spoke are in the order they are due.
-/
import Mathlib
import SwiftAcu.Acu.Kernel.Tick
import SwiftAcu.Proofs.Kernel.Pends

namespace SwiftAcu.Kernel

open DList

variable {T : Type} {w : TickWheel T} {due : T → Option Nat} {now d : Nat} {spk : Nat → List T}
  {t : T} {xs ys : List T}

/-- The spoke of a tick. -/
def spokeOf (d : Nat) : Nat := (UInt32.ofNat d).toNat % osCfgTickWheelSize

/-- `a` is not due behind `b`. -/
def DueLe (due : T → Option Nat) (a b : T) : Prop :=
  ∀ d e, due a = some d → due b = some e → d ≤ e

/-- The tasks on the spokes are those that are `due`, at tick `now`. -/
structure TickWheel.Holds (w : TickWheel T) (due : T → Option Nat) (now : Nat)
    (spk : Nat → List T) : Prop where
  kept : Kept w.links spk
  first : ∀ i, (w.spoke i).firstPtr = (spk i).head?
  count : ∀ i, (w.spoke i).nbrEntries = (spk i).length
  ptr : ∀ i t, t ∈ spk i ↔ w.spokePtr t = some i
  spot : ∀ t, w.spokePtr t = (due t).map spokeOf
  ctr : w.ctr = UInt32.ofNat now
  ctrMatch : ∀ t d, due t = some d → w.ctrMatch t = UInt32.ofNat d
  window : ∀ t d, due t = some d → now ≤ d ∧ d < now + 2 ^ 32
  sorted : ∀ i, (spk i).Pairwise (DueLe due)

theorem TickWheel.Holds.mem (h : w.Holds due now spk) (hd : due t = some d) :
    t ∈ spk (spokeOf d) := by
  rw [h.ptr, h.spot, hd]
  rfl

theorem TickWheel.Holds.notMem (h : w.Holds due now spk) (hd : due t = none) (i : Nat) :
    t ∉ spk i := by
  rw [h.ptr, h.spot, hd]
  exact fun hmap => absurd hmap.symm (Option.some_ne_none i)

theorem TickWheel.Holds.due_of_mem (h : w.Holds due now spk) {i : Nat} (ht : t ∈ spk i) :
    ∃ d, due t = some d ∧ spokeOf d = i := by
  rw [h.ptr, h.spot] at ht
  exact Option.map_eq_some_iff.mp ht

/-- `TickRemain` is worked out where it is looked at. -/
theorem TickWheel.Holds.congr (h : w.Holds due now spk) (remain : T → UInt32) :
    TickWheel.Holds { w with remain } due now spk :=
  ⟨h.kept, h.first, h.count, h.ptr, h.spot, h.ctr, h.ctrMatch, h.window, h.sorted⟩

/-- **What is left of a time** does not depend on the counter's having wrapped. -/
theorem TickWheel.Holds.remain (h : w.Holds due now spk) (hd : due t = some d) :
    (w.ctrMatch t - w.ctr).toNat = d - now := by
  obtain ⟨hle, hlt⟩ := h.window t d hd
  rw [h.ctrMatch t d hd, h.ctr, ← UInt32.ofNat_sub hle, UInt32.toNat_ofNat']
  exact Nat.mod_eq_of_lt (by omega)

theorem TickWheel.Holds.due_iff (h : w.Holds due now spk) (hd : due t = some d) :
    w.ctr = w.ctrMatch t ↔ d = now := by
  have hremain := h.remain hd
  obtain ⟨hle, -⟩ := h.window t d hd
  constructor
  · intro heq
    rw [heq, UInt32.sub_self, UInt32.toNat_zero] at hremain
    omega
  · rintro rfl
    rw [h.ctr, h.ctrMatch t d hd]

/-- Nobody is due now if the first on the spoke of now is not. -/
theorem TickWheel.Holds.none_due (h : w.Holds due now spk)
    (hfirst : ∀ t ∈ (spk (spokeOf now)).head?, due t ≠ some now) (t : T) : due t ≠ some now := by
  intro hd
  have hmem := h.mem hd
  have hsorted := h.sorted (spokeOf now)
  cases hspk : spk (spokeOf now) with
  | nil =>
      rw [hspk] at hmem
      cases hmem
  | cons u us =>
      rw [hspk] at hmem hsorted hfirst
      obtain ⟨e, he, -⟩ := h.due_of_mem (t := u) (i := spokeOf now) (hspk ▸ List.mem_cons_self ..)
      have hne : e ≠ now := fun heq => hfirst u rfl (heq ▸ he)
      rcases List.mem_cons.mp hmem with rfl | hmem
      · exact hne (Option.some.inj (he.symm.trans hd))
      · have hle := (List.pairwise_cons.mp hsorted).1 t hmem e now he hd
        have hge := (h.window u e he).1
        omega

variable [DecidableEq T]

/-! ### A task that is due later -/

/-- The entries that stay in front of `t`. -/
def dueBefore (w : TickWheel T) (t u : T) : Bool := decide (w.ctrMatch u - w.ctr < w.remain t)

/-- The entry is not due before the task. -/
theorem insertLoop_here {ix n : Nat} {y : T} (hty : t ≠ y) (hb : dueBefore w t y = false)
    (hprev : w.links.prev y = xs.getLast?) :
    TickWheel.insertLoop t ix (n + 1) (some y) w =
      { w with
        remain := Function.update w.remain y (w.ctrMatch y - w.ctr)
        links := w.links.insert xs.getLast? t (some y)
        spoke := if xs = [] then
          Function.update w.spoke ix { w.spoke ix with firstPtr := some t } else w.spoke } := by
  have hb : ¬w.ctrMatch y - w.ctr < w.remain t := of_decide_eq_false hb
  rw [TickWheel.insertLoop]
  simp only [Function.update_self, Function.update_of_ne hty, if_neg hb, hprev]
  rcases List.eq_nil_or_concat xs with rfl | ⟨us, u, rfl⟩
  · rfl
  · simp only [List.concat_eq_append, List.getLast?_concat, List.append_eq_nil_iff,
      List.cons_ne_nil, and_false, if_false]
    rfl

/-- The last entry is due before the task. -/
theorem insertLoop_end {ix n : Nat} {y : T} (hty : t ≠ y) (hb : dueBefore w t y = true)
    (hnext : w.links.next y = none) :
    TickWheel.insertLoop t ix (n + 1) (some y) w =
      { w with
        remain := Function.update w.remain y (w.ctrMatch y - w.ctr)
        links := w.links.insert (some y) t none } := by
  have hb : w.ctrMatch y - w.ctr < w.remain t := of_decide_eq_true hb
  rw [TickWheel.insertLoop]
  simp only [Function.update_self, Function.update_of_ne hty, if_pos hb, hnext]
  rfl

/-- An entry that is due before the task, and not the last. -/
theorem insertLoop_next {ix n : Nat} {y z : T} (hty : t ≠ y) (hb : dueBefore w t y = true)
    (hnext : w.links.next y = some z) :
    TickWheel.insertLoop t ix (n + 1) (some y) w =
      TickWheel.insertLoop t ix n (some z)
        { w with remain := Function.update w.remain y (w.ctrMatch y - w.ctr) } := by
  have hb : w.ctrMatch y - w.ctr < w.remain t := of_decide_eq_true hb
  rw [TickWheel.insertLoop]
  simp only [Function.update_self, Function.update_of_ne hty, if_pos hb, hnext]

/-- **The loop** puts the task in front of the first entry that is not due before it. -/
theorem insertLoop_eq (ix : Nat) {n : Nat} {y : T} (hn : (y :: ys).length ≤ n)
    (hlist : IsList w.links (xs ++ y :: ys)) (ht : t ∉ xs ++ y :: ys) :
    ∃ remain, remain t = w.remain t ∧
      TickWheel.insertLoop t ix n (some y) w =
        { w with
          remain
          links := w.links.insert (xs ++ (y :: ys).takeWhile (dueBefore w t)).getLast? t
            ((y :: ys).dropWhile (dueBefore w t)).head?
          spoke := if xs ++ (y :: ys).takeWhile (dueBefore w t) = [] then
            Function.update w.spoke ix { w.spoke ix with firstPtr := some t } else w.spoke } := by
  induction ys generalizing xs n w y with
  | nil =>
      obtain ⟨n, rfl⟩ : ∃ m, n = m + 1 := Nat.exists_eq_succ_of_ne_zero (by simp at hn; omega)
      have hty : t ≠ y := fun heq => ht (heq ▸ by simp)
      refine ⟨_, Function.update_of_ne hty (w.ctrMatch y - w.ctr) w.remain, ?_⟩
      cases hb : dueBefore w t y with
      | true =>
          rw [insertLoop_end hty hb hlist.next_eq]
          simp [hb]
      | false =>
          rw [insertLoop_here hty hb hlist.prev_eq]
          simp [hb]
  | cons z zs ih =>
      obtain ⟨n, rfl⟩ : ∃ m, n = m + 1 := Nat.exists_eq_succ_of_ne_zero (by simp at hn; omega)
      have hty : t ≠ y := fun heq => ht (heq ▸ by simp)
      have hremain := Function.update_of_ne hty (w.ctrMatch y - w.ctr) w.remain
      cases hb : dueBefore w t y with
      | false =>
          refine ⟨_, hremain, ?_⟩
          rw [insertLoop_here hty hb hlist.prev_eq]
          simp [hb]
      | true =>
          have hassoc : xs ++ y :: z :: zs = (xs ++ [y]) ++ z :: zs := List.append_cons ..
          rw [hassoc] at hlist ht
          obtain ⟨remain, hr, hloop⟩ := ih
            (w := { w with remain := Function.update w.remain y (w.ctrMatch y - w.ctr) })
            (Nat.le_of_succ_le_succ hn) hlist ht
          have hsame : dueBefore
              { w with remain := Function.update w.remain y (w.ctrMatch y - w.ctr) } t =
                dueBefore w t := by
            funext u
            simp only [dueBefore, hremain]
          refine ⟨remain, hr.trans hremain, ?_⟩
          rw [insertLoop_next hty hb (hassoc ▸ hlist).next_eq, hloop, hsame,
            List.takeWhile_cons_of_pos hb, List.dropWhile_cons_of_pos hb, List.append_assoc,
            List.singleton_append]

/-- The entry of the task is filled in. -/
def filled (t : T) (time : UInt32) (w : TickWheel T) : TickWheel T :=
  { w with
    ctrMatch := Function.update w.ctrMatch t (w.ctr + time)
    remain := Function.update w.remain t time }

/-- The task is put into the list of its spoke. -/
theorem wheel_insert_eq (h : w.Holds due now spk) (hd : due t = none) {time : UInt32}
    (htime : 0 < time) {ix : Nat} (hix : ix = spokeOf (now + time.toNat))
    (hxs : xs = (spk ix).takeWhile (dueBefore (filled t time w) t))
    (hys : ys = (spk ix).dropWhile (dueBefore (filled t time w) t)) :
    ∃ remain spoke,
      w.insert t time =
        ({ ctr := w.ctr
           spoke
           links := w.links.insert xs.getLast? t ys.head?
           spokePtr := Function.update w.spokePtr t (some ix)
           ctrMatch := Function.update w.ctrMatch t (w.ctr + time)
           remain }, .NONE) ∧
      (∀ i, i ≠ ix → spoke i = w.spoke i) ∧
      (spoke ix).firstPtr = (xs ++ t :: ys).head? ∧
      (spoke ix).nbrEntries = (spk ix).length + 1 := by
  have hspoke : (Function.update w.ctrMatch t (w.ctr + time) t).toNat % osCfgTickWheelSize = ix := by
    rw [Function.update_self, h.ctr, hix, spokeOf, UInt32.ofNat_add, UInt32.ofNat_toNat]
  unfold TickWheel.insert
  simp only [if_pos htime, hspoke]
  by_cases hnil : spk ix = []
  · have hcount : (w.spoke ix).nbrEntries = 0 := by rw [h.count, hnil, List.length_nil]
    rw [hnil, List.takeWhile_nil] at hxs
    rw [hnil, List.dropWhile_nil] at hys
    subst hxs hys
    rw [if_pos hcount]
    refine ⟨_, _, rfl, fun i hi => ?_, ?_, ?_⟩
    · simp only [Function.update_of_ne hi]
    · simp only [Function.update_self]
      rfl
    · simp only [Function.update_self, hnil, List.length_nil]
  · obtain ⟨y, zs, hspk⟩ := List.exists_cons_of_ne_nil hnil
    have hcount : (w.spoke ix).nbrEntries = (y :: zs).length := by rw [h.count, hspk]
    have hfirst : (w.spoke ix).firstPtr = some y := by rw [h.first, hspk]; rfl
    rw [hspk] at hxs hys
    have hlist : IsList (filled t time w).links ([] ++ y :: zs) := hspk ▸ h.kept.isList ix
    have hnotin : t ∉ [] ++ y :: zs := hspk ▸ h.notMem hd ix
    obtain ⟨remain, -, hloop⟩ := insertLoop_eq ix
      (Nat.le_refl (y :: zs).length) hlist hnotin
    rw [List.nil_append, ← hxs, ← hys] at hloop
    rw [if_neg (by rw [hcount]; exact Nat.succ_ne_zero _), hcount, hfirst]
    simp only [filled] at hloop
    simp only [hloop]
    refine ⟨_, _, rfl, fun i hi => ?_, ?_, ?_⟩
    · by_cases hfront : xs = []
      · simp only [if_pos hfront, Function.update_of_ne hi]
      · simp only [if_neg hfront, Function.update_of_ne hi]
    · have hall : xs ++ ys = y :: zs := by rw [hxs, hys, List.takeWhile_append_dropWhile]
      cases xs with
      | nil => simp
      | cons x xs =>
          rw [List.cons_append] at hall
          simp [hfirst, (List.cons.inj hall).1]
    · by_cases hfront : xs = [] <;> simp [hfront, hcount, hspk]

/-- The tasks in front are those due before. -/
theorem TickWheel.Holds.dueBefore_filled (h : w.Holds due now spk) {u : T} {e : Nat} {time : UInt32}
    (hut : u ≠ t) (he : due u = some e) :
    dueBefore (filled t time w) t u = decide (e < now + time.toNat) := by
  obtain ⟨hle, -⟩ := h.window u e he
  have hremain := h.remain he
  unfold dueBefore filled
  simp only [Function.update_of_ne hut, Function.update_self, decide_eq_decide]
  rw [UInt32.lt_iff_toNat_lt, hremain]
  omega

theorem dueLe_update {a b : T} {v : Option Nat} (ha : a ≠ t) (hb : b ≠ t) :
    DueLe (Function.update due t v) a b ↔ DueLe due a b := by
  unfold DueLe
  rw [Function.update_of_ne ha, Function.update_of_ne hb]

/-- A list in order stays in order. -/
theorem sorted_insert {zs : List T} (hsorted : zs.Pairwise (DueLe due)) (ht : t ∉ zs) {P : T → Bool}
    (hP : ∀ u ∈ zs, ∃ e, due u = some e ∧ P u = decide (e < d)) :
    (zs.takeWhile P ++ t :: zs.dropWhile P).Pairwise (DueLe (Function.update due t (some d))) := by
  induction zs with
  | nil => exact List.pairwise_singleton _ t
  | cons u us ih =>
      obtain ⟨hu, hus⟩ := List.pairwise_cons.mp hsorted
      obtain ⟨e, he, hPu⟩ := hP u (List.mem_cons_self ..)
      have htus : t ∉ us := fun hmem => ht (List.mem_cons_of_mem _ hmem)
      have hut : u ≠ t := fun heq => ht (heq ▸ List.mem_cons_self ..)
      have hne : ∀ y ∈ us, y ≠ t := fun y hy heq => htus (heq ▸ hy)
      cases hb : P u with
      | true =>
          have hlt : e < d := of_decide_eq_true (hPu.symm.trans hb)
          rw [List.takeWhile_cons_of_pos hb, List.dropWhile_cons_of_pos hb, List.cons_append]
          refine List.pairwise_cons.mpr
            ⟨fun y hy => ?_, ih hus htus fun y hy => hP y (List.mem_cons_of_mem _ hy)⟩
          rcases List.mem_append.mp hy with hy | hy
          · have hy := List.takeWhile_subset P hy
            exact (dueLe_update hut (hne y hy)).mpr (hu y hy)
          · rcases List.mem_cons.mp hy with rfl | hy
            · intro d' e' hd' he'
              rw [Function.update_of_ne hut, he] at hd'
              rw [Function.update_self] at he'
              cases hd'
              cases he'
              exact Nat.le_of_lt hlt
            · have hy := (List.dropWhile_sublist P).subset hy
              exact (dueLe_update hut (hne y hy)).mpr (hu y hy)
      | false =>
          have hge : d ≤ e := Nat.not_lt.mp (of_decide_eq_false (hPu.symm.trans hb))
          have hb : ¬P u = true := by rw [hb]; exact Bool.false_ne_true
          rw [List.takeWhile_cons_of_neg hb, List.dropWhile_cons_of_neg hb, List.nil_append]
          refine List.pairwise_cons.mpr ⟨fun y hy d' e' hd' he' => ?_, ?_⟩
          · rw [Function.update_self] at hd'
            cases hd'
            rcases List.mem_cons.mp hy with rfl | hy
            · rw [Function.update_of_ne hut, he] at he'
              cases he'
              exact hge
            · rw [Function.update_of_ne (hne y hy)] at he'
              exact hge.trans (hu y hy e e' he he')
          · exact List.pairwise_cons.mpr ⟨fun y hy => (dueLe_update hut (hne y hy)).mpr (hu y hy),
              hus.imp_of_mem fun ha hb => (dueLe_update (hne _ ha) (hne _ hb)).mpr⟩

/-- A list whose tasks are due as before is in order as before. -/
theorem sorted_update {zs : List T} (h : zs.Pairwise (DueLe due)) (ht : t ∉ zs) (v : Option Nat) :
    zs.Pairwise (DueLe (Function.update due t v)) := by
  have hne : ∀ y ∈ zs, y ≠ t := fun y hy heq => ht (heq ▸ hy)
  exact h.imp_of_mem fun ha hb => (dueLe_update (hne _ ha) (hne _ hb)).mpr

/-- **A task that is due** is on the spoke of its tick. -/
theorem TickWheel.Holds.insert (h : w.Holds due now spk) (hd : due t = none) {time : UInt32}
    (htime : 0 < time) :
    (w.insert t time).2 = .NONE ∧
      ∃ spk', (w.insert t time).1.Holds (Function.update due t (some (now + time.toNat))) now
        spk' := by
  have hnotin := fun i => h.notMem hd i
  have howned : Owned w.spokePtr spk := h.ptr
  have hbefore : ∀ i, ∀ u ∈ spk i, ∃ e, due u = some e ∧
      dueBefore (filled t time w) t u = decide (e < now + time.toNat) := by
    intro i u hu
    obtain ⟨e, he, -⟩ := h.due_of_mem hu
    exact ⟨e, he, h.dueBefore_filled (fun heq => hnotin i (heq ▸ hu)) he⟩
  obtain ⟨remain, spoke, heq, hother, hfirst, hcount⟩ := wheel_insert_eq h hd htime rfl rfl rfl
  generalize hix : spokeOf (now + time.toNat) = ix at *
  generalize dueBefore (filled t time w) t = P at *
  have hsplit : spk ix = (spk ix).takeWhile P ++ (spk ix).dropWhile P :=
    List.takeWhile_append_dropWhile.symm
  have hlen : ((spk ix).takeWhile P ++ t :: (spk ix).dropWhile P).length = (spk ix).length + 1 := by
    rw [List.length_append, List.length_cons, ← Nat.add_assoc, ← List.length_append, ← hsplit]
  rw [heq]
  refine ⟨rfl, Function.update spk ix ((spk ix).takeWhile P ++ t :: (spk ix).dropWhile P), ?_⟩
  constructor
  case kept => exact h.kept.insert hsplit hnotin
  case first =>
    refine (Function.forall_update_iff spk fun i zs => (spoke i).firstPtr = zs.head?).mpr
      ⟨hfirst, fun i hi => ?_⟩
    rw [hother i hi, h.first]
  case count =>
    refine (Function.forall_update_iff spk fun i zs => (spoke i).nbrEntries = zs.length).mpr
      ⟨hcount.trans hlen.symm, fun i hi => ?_⟩
    rw [hother i hi, h.count]
  case ptr => exact howned.insert hsplit hnotin
  case spot =>
    intro u
    show Function.update w.spokePtr t (some ix) u = _
    rw [Function.apply_update fun _ => Option.map spokeOf, Option.map_some, hix, funext h.spot]
  case ctr => exact h.ctr
  case ctrMatch =>
    refine (Function.forall_update_iff due fun u v =>
      ∀ e, v = some e → Function.update w.ctrMatch t (w.ctr + time) u = UInt32.ofNat e).mpr
      ⟨fun e he => ?_, fun u hu e he => ?_⟩
    · rw [Function.update_self, h.ctr, ← Option.some.inj he, UInt32.ofNat_add, UInt32.ofNat_toNat]
    · rw [Function.update_of_ne hu]
      exact h.ctrMatch u e he
  case window =>
    refine (Function.forall_update_iff due fun _ v =>
      ∀ e, v = some e → now ≤ e ∧ e < now + 2 ^ 32).mpr ⟨fun e he => ?_, fun u _ => h.window u⟩
    rw [← Option.some.inj he]
    exact ⟨Nat.le_add_right _ _, Nat.add_lt_add_left time.toNat_lt _⟩
  case sorted =>
    refine (Function.forall_update_iff spk fun _ zs => zs.Pairwise (DueLe _)).mpr
      ⟨?_, fun i _ => sorted_update (h.sorted i) (hnotin i) _⟩
    exact sorted_insert (h.sorted ix) (hnotin ix) (hbefore ix)

/-! ### A task that is due no longer -/

theorem wheel_remove_eq {i : Nat} (hi : w.spokePtr t = some i) (hl : IsList w.links (xs ++ t :: ys))
    (hfirst : (w.spoke i).firstPtr = (xs ++ t :: ys).head?) :
    ∃ remain ctrMatch spoke,
      w.remove t =
        { ctr := w.ctr
          spoke
          links := w.links.unlink t
          spokePtr := Function.update w.spokePtr t none
          ctrMatch
          remain } ∧
      (∀ u, u ≠ t → ctrMatch u = w.ctrMatch u) ∧
      (∀ j, j ≠ i → spoke j = w.spoke j) ∧
      (spoke i).firstPtr = (xs ++ ys).head? ∧
      (spoke i).nbrEntries = (w.spoke i).nbrEntries - 1 := by
  have hnotin : t ∉ xs ++ ys := (List.nodup_cons.mp (List.nodup_middle.mp hl.nodup)).1
  unfold TickWheel.remove
  rw [hi]
  cases xs with
  | nil =>
      have hprev : w.links.prev t = none := hl.prev_eq
      have hnext : w.links.next t = ys.head? := hl.next_eq
      have hunlink : w.links.unlink t =
          ((w.links.setPrev (w.links.next t) none).setNext (some t) none).setPrev (some t) none := by
        simp only [Links.unlink, hprev]
        rfl
      simp only [show (w.spoke i).firstPtr = some t from hfirst, if_true]
      rw [hunlink]
      refine ⟨_, _, _, rfl, fun u hu => Function.update_of_ne hu .., fun j hj =>
        Function.update_of_ne hj .., ?_, ?_⟩
      · rw [Function.update_self, hnext]
        rfl
      · rw [Function.update_self]
  | cons x xs =>
      have hxt : x ≠ t := fun heq => hnotin (heq ▸ List.mem_cons_self ..)
      have hfirst : (w.spoke i).firstPtr = some x := hfirst
      simp only [hfirst, Option.some.injEq, if_neg hxt]
      refine ⟨_, _, _, rfl, fun u hu => Function.update_of_ne hu .., fun j hj =>
        Function.update_of_ne hj .., ?_, ?_⟩
      · rw [Function.update_self]
        rfl
      · rw [Function.update_self]

/-- **A task that is due no longer** is on no spoke. -/
theorem TickWheel.Holds.remove (h : w.Holds due now spk) (t : T) :
    (w.remove t).Holds (Function.update due t none) now fun i => (spk i).erase t := by
  cases hd : due t with
  | none =>
      have hptr : w.spokePtr t = none := by rw [h.spot, hd]; rfl
      have hremove : w.remove t = w := by
        unfold TickWheel.remove
        rw [hptr]
      have hspk : (fun i => (spk i).erase t) = spk :=
        funext fun i => List.erase_of_not_mem (h.notMem hd i)
      rw [hremove, hspk, ← hd, Function.update_eq_self]
      exact h
  | some d =>
      obtain ⟨xs, ys, hsplit⟩ := List.append_of_mem (h.mem hd)
      have hi : w.spokePtr t = some (spokeOf d) := by rw [h.spot, hd]; rfl
      generalize spokeOf d = ix at hsplit hi
      have hl : IsList w.links (xs ++ t :: ys) := hsplit ▸ h.kept.isList ix
      have hnotin : t ∉ xs ++ ys := (List.nodup_cons.mp (List.nodup_middle.mp hl.nodup)).1
      have howned : Owned w.spokePtr spk := h.ptr
      have hgone := howned.notMem hsplit hnotin
      obtain ⟨remain, ctrMatch, spoke, heq, hmatch, hother, hfirst, hcount⟩ :=
        wheel_remove_eq hi hl (hsplit ▸ h.first ix)
      rw [heq, howned.erase_eq hsplit hnotin]
      constructor
      case kept => exact h.kept.unlink hsplit
      case first =>
        refine (Function.forall_update_iff spk fun j zs => (spoke j).firstPtr = zs.head?).mpr
          ⟨hfirst, fun j hj => ?_⟩
        rw [hother j hj, h.first]
      case count =>
        refine (Function.forall_update_iff spk fun j zs => (spoke j).nbrEntries = zs.length).mpr
          ⟨?_, fun j hj => ?_⟩
        · rw [hcount, h.count, hsplit, List.length_append, List.length_append, List.length_cons]
          rfl
        · rw [hother j hj, h.count]
      case ptr => exact howned.unlink hsplit hnotin
      case spot =>
        intro u
        show Function.update w.spokePtr t none u = _
        rw [Function.apply_update fun _ => Option.map spokeOf, Option.map_none, funext h.spot]
      case ctr => exact h.ctr
      case ctrMatch =>
        refine (Function.forall_update_iff due fun u v =>
          ∀ e, v = some e → ctrMatch u = UInt32.ofNat e).mpr ⟨nofun, fun u hu e he => ?_⟩
        rw [hmatch u hu]
        exact h.ctrMatch u e he
      case window =>
        exact (Function.forall_update_iff due fun _ v =>
          ∀ e, v = some e → now ≤ e ∧ e < now + 2 ^ 32).mpr ⟨nofun, fun u _ => h.window u⟩
      case sorted =>
        intro j
        have hsorted : ∀ j, (Function.update spk ix (xs ++ ys) j).Pairwise (DueLe due) := by
          refine (Function.forall_update_iff spk fun _ zs => zs.Pairwise (DueLe due)).mpr
            ⟨?_, fun j _ => h.sorted j⟩
          have hsub : (xs ++ ys).Sublist (spk ix) := by
            rw [hsplit]
            exact (List.sublist_cons_self t ys).append_left xs
          exact (h.sorted ix).sublist hsub
        exact sorted_update (hsorted j) (hgone j) none

end SwiftAcu.Kernel
