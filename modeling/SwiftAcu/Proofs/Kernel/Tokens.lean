/-
What a semaphore is given and what it gives.

With `OS_OPT_POST_1` every post is kept, goes to one task or is refused because the count is full,
and none is lost or goes to two.  The functions of `bsp_os.c` post with `OS_OPT_POST_ALL`: a
semaphore that was made with 1 then keeps the tasks apart just as long as no post finds two in line.
-/
import Mathlib.Algebra.BigOperators.Group.Finset.Piecewise
import Mathlib.Data.Fintype.Basic
import SwiftAcu.Proofs.Kernel.Line

namespace SwiftAcu.Kernel

open Runs

variable {T S : Type} [DecidableEq S]

/-- The call posts the semaphore. -/
def Call.posts (s : S) : Call T S → Bool
  | .semPost obj _ => obj = s
  | _ => false

/-- Who gets the semaphore. -/
def Sys.getters (a : Sys T S) (cur : T) (s : S) (e : Call T S) : List T :=
  match e with
  | .semPend obj _ => if obj = s ∧ 0 < a.ctr s then [cur] else []
  | .semPost obj opt => if obj = s then (a.queue s).take (Sys.grants opt (a.queue s).length) else []
  | _ => []

/-- How often a semaphore is posted. -/
def posted (s : S) (es : List (Call T S)) : Nat := es.countP (·.posts s)

theorem posted_cons (s : S) (e : Call T S) (es : List (Call T S)) :
    posted s (e :: es) = (e.posts s).toNat + posted s es := by
  rw [posted, List.countP_cons, posted]
  cases e.posts s <;> simp [Nat.add_comm]

variable {prio : T → Fin osCfgPrioMax} {idle : T} {os : Os T S} {a : Sys T S} {s : S} {t : T}
  {e : Call T S}

theorem getters_nodup (ok : a.Ok fun t => prio t) (cur : T) (e : Call T S) :
    (a.getters cur s e).Nodup := by
  cases e with
  | semPend obj timeout =>
      rw [Sys.getters]
      split
      · exact List.nodup_singleton cur
      · exact List.nodup_nil
  | semPost obj opt =>
      rw [Sys.getters]
      split
      · exact (ok.nodup s).sublist (List.take_sublist ..)
      · exact List.nodup_nil
  | _ => exact List.nodup_nil

variable [DecidableEq T]

/-- The task gets the semaphore: it finds it free, or a post goes to it. -/
def Os.gets (os : Os T S) (s : S) (e : Call T S) (t : T) : Bool :=
  match e with
  | .semPend obj _ => obj = s ∧ 0 < os.semCtr s ∧ t = os.tcbCur
  | .semPost obj _ => obj = s ∧ os.pends.pendObj t = some s ∧ (os.step e).pends.pendObj t = none
  | _ => false

/-- The post is refused with `OS_ERR_SEM_OVF`. -/
def Os.refuses (os : Os T S) (s : S) (e : Call T S) : Bool :=
  match e with
  | .semPost obj opt => obj = s ∧ (os.semPost obj opt).2 = .SEM_OVF
  | _ => false

/-- Who waits for a semaphore that is posted, and is not given it, still waits. -/
theorem post_mode (s : S) (opt : PostOpt) (ht : t ∈ a.queue s) :
    (a.post s opt).mode t =
      if t ∈ (a.queue s).take (Sys.grants opt (a.queue s).length) then .ready else a.mode t := by
  rw [Sys.post, if_neg (List.ne_nil_of_mem ht), Sys.wakes_eq]

theorem Sim.gets_iff (h : Sim prio idle os a) (hadm : os.Admits e) :
    os.gets s e t = true ↔ t ∈ a.getters os.tcbCur s e := by
  cases e with
  | semPend obj timeout =>
      simp only [Os.gets, Sys.getters, decide_eq_true_iff, h.rel.ctr]
      by_cases hobj : obj = s ∧ 0 < a.ctr s
      · rw [if_pos hobj, List.mem_singleton]
        exact ⟨fun hall => hall.2.2, fun ht => ⟨hobj.1, hobj.2, ht⟩⟩
      · rw [if_neg hobj]
        exact iff_of_false (fun hall => hobj ⟨hall.1, hall.2.1⟩) List.not_mem_nil
  | semPost obj opt =>
      simp only [Os.gets, Sys.getters, decide_eq_true_iff]
      by_cases hobj : obj = s
      · subst hobj
        have hsim := h.step hadm
        rw [if_pos rfl, h.rel.waits h.ok, ← h.ok.queue]
        constructor
        · rintro ⟨-, hmem, hnone⟩
          by_contra hnot
          have hmode : (a.post obj opt).mode t = .waiting obj := by
            rw [post_mode obj opt hmem, if_neg hnot, (h.ok.queue obj t).mp hmem]
          have hsome := (hsim.rel.waits hsim.ok obj t).mpr hmode
          rw [hnone] at hsome
          cases hsome
        · intro htake
          have hmem := List.mem_of_mem_take htake
          have hmode : (a.post obj opt).mode t = .ready := by
            rw [post_mode obj opt hmem, if_pos htake]
          refine ⟨rfl, hmem, ?_⟩
          cases hobj' : ((os.step (.semPost obj opt)).pends.pendObj t) with
          | none => rfl
          | some s' =>
              have hwaits := (hsim.rel.waits hsim.ok s' t).mp hobj'
              rw [show (a.post obj opt).mode t = _ from hwaits] at hmode
              cases hmode
      · rw [if_neg hobj]
        exact iff_of_false (fun hall => hobj hall.1) List.not_mem_nil
  | _ => exact iff_of_false Bool.false_ne_true List.not_mem_nil

/-! ### Every post is kept or goes to one task -/

/-- The count of a semaphore that is posted, and another. -/
theorem post_ctr (a : Sys T S) (obj s : S) (opt : PostOpt) :
    (a.post obj opt).ctr s =
      if obj = s ∧ a.queue s = [] ∧ a.ctr s ≠ 0xFFFFFFFF then a.ctr s + 1 else a.ctr s := by
  unfold Sys.post
  by_cases hobj : obj = s
  · subst hobj
    by_cases hnil : a.queue obj = []
    · by_cases hovf : a.ctr obj = 0xFFFFFFFF
      · simp [hnil, hovf]
      · simp [hnil, hovf]
    · simp [hnil, Sys.wakes_eq]
  · have hnot : ¬(obj = s ∧ a.queue s = [] ∧ a.ctr s ≠ 0xFFFFFFFF) := fun hall => hobj hall.1
    rw [if_neg hnot]
    split
    · split
      · rfl
      · exact Function.update_of_ne (Ne.symm hobj) ..
    · rw [Sys.wakes_eq]

/-- A post is refused if nobody waits and the count is full. -/
def Sys.refuses (a : Sys T S) (s : S) (e : Call T S) : Bool :=
  e.posts s && (a.queue s = [] ∧ a.ctr s = 0xFFFFFFFF)

theorem Sim.refuses_eq (h : Sim prio idle os a) (e : Call T S) : os.refuses s e = a.refuses s e := by
  cases e with
  | semPost obj opt =>
      unfold Os.refuses Sys.refuses Call.posts
      by_cases hobj : obj = s
      · subst hobj
        unfold Os.semPost
        simp only [h.rel.pends.ends, OsList.of, List.length_eq_zero_iff, h.rel.ctr]
        by_cases hnil : a.queue obj = []
        · by_cases hovf : a.ctr obj = 0xFFFFFFFF <;> simp [hnil, hovf]
        · simp [hnil]
      · simp [hobj]
  | _ => rfl

/-- The account of a semaphore that is asked for. -/
theorem pend_count (prio : T → Fin osCfgPrioMax) (cur : T) (obj : S) (timeout : UInt32) :
    ((a.pend (fun t => prio t) cur obj timeout).ctr s).toNat +
        (a.getters cur s (.semPend obj timeout)).length =
      (a.ctr s).toNat := by
  rw [Sys.pend, Sys.getters]
  by_cases hobj : obj = s
  · subst hobj
    by_cases hctr : 0 < a.ctr obj
    · rw [if_pos hctr, if_pos ⟨rfl, hctr⟩]
      have hpos : 1 ≤ (a.ctr obj).toNat := UInt32.lt_iff_toNat_lt.mp hctr
      have hle : (1 : UInt32) ≤ a.ctr obj := UInt32.le_iff_toNat_le.mpr hpos
      show (Function.update a.ctr obj (a.ctr obj - 1) obj).toNat + 1 = _
      rw [Function.update_self, UInt32.toNat_sub_of_le _ _ hle]
      exact Nat.sub_add_cancel hpos
    · have hnot : ¬(obj = obj ∧ 0 < a.ctr obj) := fun hall => hctr hall.2
      rw [if_neg hctr, if_neg hnot]
      rfl
  · have hnot : ¬(obj = s ∧ 0 < a.ctr s) := fun hall => hobj hall.1
    rw [if_neg hnot]
    split
    · show (Function.update a.ctr obj (a.ctr obj - 1) s).toNat + 0 = _
      rw [Function.update_of_ne (Ne.symm hobj)]
      rfl
    · rfl

/-- The account of a semaphore that is posted: the post is kept, refused or goes to one. -/
theorem post_count (cur : T) :
    ((a.post s .post1).ctr s).toNat + (a.getters cur s (.semPost s .post1)).length +
        (a.refuses s (.semPost s .post1)).toNat =
      (a.ctr s).toNat + 1 := by
  rw [post_ctr, Sys.getters, Sys.refuses, Call.posts]
  by_cases hnil : a.queue s = []
  · by_cases hovf : a.ctr s = 0xFFFFFFFF
    · simp [hnil, hovf]
    · have hroom : (a.ctr s).toNat + 1 < 2 ^ 32 := by
        have hlt := (a.ctr s).toNat_lt
        have hne : (a.ctr s).toNat ≠ (0xFFFFFFFF : UInt32).toNat :=
          fun heq => hovf (UInt32.toNat_inj.mp heq)
        have hmax : (0xFFFFFFFF : UInt32).toNat = 2 ^ 32 - 1 := rfl
        omega
      have hctr : (a.ctr s + 1).toNat = (a.ctr s).toNat + 1 := by
        rw [UInt32.toNat_add]
        exact Nat.mod_eq_of_lt hroom
      simp [hnil, hovf, hctr]
  · have hlength : 0 < (a.queue s).length := List.length_pos_iff.mpr hnil
    simp [hnil, Sys.grants]
    omega

/-- **A call** keeps the account. -/
theorem getters_count (prio : T → Fin osCfgPrioMax) (idle : T)
    (hone : ∀ opt, e = .semPost s opt → opt = .post1) (cur : T) :
    ((a.step (fun t => prio t) idle cur e).ctr s).toNat + (a.getters cur s e).length +
        (a.refuses s e).toNat =
      (a.ctr s).toNat + (e.posts s).toNat := by
  cases e with
  | semPend obj timeout => exact pend_count prio cur obj timeout
  | semPost obj opt =>
      by_cases hobj : obj = s
      · subst hobj
        obtain rfl := hone opt rfl
        rw [Sys.step, post_count]
        simp [Call.posts]
      · rw [Sys.step, post_ctr]
        simp [Sys.getters, Sys.refuses, Call.posts, hobj]
  | timeDly dly => rw [Sys.step]; split <;> rfl
  | taskCreate t => rw [Sys.step]; split <;> rfl
  | taskDel x => rw [Sys.step]; split <;> rfl
  | tick => rfl

/-- How often a task gets a semaphore. -/
def taken (s : S) : Os T S → List (Call T S) → T → Nat
  | _, [], _ => 0
  | os, e :: es, t => (os.gets s e t).toNat + taken s (os.step e) es t

/-- Those who get it are counted one by one. -/
theorem Sim.gets_sum [Fintype T] (h : Sim prio idle os a) (hadm : os.Admits e) :
    ∑ t, (os.gets s e t).toNat = (a.getters os.tcbCur s e).length := by
  have hset : (Finset.univ.filter fun t => os.gets s e t = true) =
      (a.getters os.tcbCur s e).toFinset := by
    ext t
    simp [h.gets_iff hadm]
  rw [← List.toFinset_card_of_nodup (getters_nodup h.ok os.tcbCur e), ← hset,
    Finset.card_filter]
  exact Finset.sum_congr rfl fun t _ => by cases os.gets s e t <;> rfl

/-- How many posts are refused. -/
def refused (s : S) : Os T S → List (Call T S) → Nat
  | _, [] => 0
  | os, e :: es => (os.refuses s e).toNat + refused s (os.step e) es

theorem Sim.conserves [Fintype T] {es : List (Call T S)} (h : Sim prio idle os a)
    (hadm : AllSteps Os.step Os.Admits os es) (hone : ∀ opt, .semPost s opt ∈ es → opt = .post1) :
    ((run Os.step os es).semCtr s).toNat + ∑ t, taken s os es t + refused s os es =
      (os.semCtr s).toNat + posted s es := by
  induction es generalizing os a with
  | nil => simp [taken, posted, refused]
  | cons e es ih =>
      have hsim := h.step hadm.1
      have hcount := getters_count (a := a) prio idle (s := s) (e := e)
        (fun opt heq => hone opt (heq ▸ List.mem_cons_self ..)) os.tcbCur
      rw [← hsim.rel.ctr, ← h.rel.ctr, ← h.refuses_eq] at hcount
      have hrest := ih hsim hadm.2 fun opt hmem => hone opt (List.mem_cons_of_mem _ hmem)
      have hsum : ∑ t, taken s os (e :: es) t =
          (a.getters os.tcbCur s e).length + ∑ t, taken s (os.step e) es t := by
        rw [← h.gets_sum hadm.1, ← Finset.sum_add_distrib]
        rfl
      rw [hsum, posted_cons, run_cons, refused]
      omega

/-- Too few posts to fill the count. -/
theorem Sim.refused_eq_zero {es : List (Call T S)} (h : Sim prio idle os a)
    (hadm : AllSteps Os.step Os.Admits os es) (hone : ∀ opt, .semPost s opt ∈ es → opt = .post1)
    (hroom : (os.semCtr s).toNat + posted s es < 2 ^ 32) : refused s os es = 0 := by
  induction es generalizing os a with
  | nil => rfl
  | cons e es ih =>
      have hsim := h.step hadm.1
      have hcount := getters_count (a := a) prio idle (s := s) (e := e)
        (fun opt heq => hone opt (heq ▸ List.mem_cons_self ..)) os.tcbCur
      rw [← hsim.rel.ctr, ← h.rel.ctr] at hcount
      rw [posted_cons] at hroom
      have hrest := ih hsim hadm.2 (fun opt hmem => hone opt (List.mem_cons_of_mem _ hmem)) (by omega)
      have hnot : a.refuses s e = false := by
        rw [Bool.eq_false_iff]
        intro hrefuses
        unfold Sys.refuses at hrefuses
        obtain ⟨hposts, hfull⟩ := Bool.and_eq_true_iff.mp hrefuses
        have hmax : (os.semCtr s).toNat = 2 ^ 32 - 1 := by
          rw [h.rel.ctr, (of_decide_eq_true hfull).2]
          rfl
        rw [hposts, hmax, Bool.toNat_true] at hroom
        omega
      rw [refused, h.refuses_eq, hnot, hrest]
      rfl

/-- **Nothing is lost and nothing goes out twice**: a semaphore that is posted one at a time holds
at any time what it was made with and what was posted, without what the tasks got and without the
posts it refused; and it refuses none as long as these cannot fill its count. -/
theorem sem_conserves [Fintype T] (prio : T → Fin osCfgPrioMax) (idle : T) (cnt : S → UInt32)
    (es : List (Call T S)) (s : S) (h : Calls prio idle cnt es)
    (hone : ∀ opt, .semPost s opt ∈ es → opt = .post1) :
    ((after prio idle cnt es).semCtr s).toNat + ∑ t, taken s (Os.start prio idle cnt) es t +
          refused s (Os.start prio idle cnt) es =
        (cnt s).toNat + posted s es ∧
      ((cnt s).toNat + posted s es < 2 ^ 32 → refused s (Os.start prio idle cnt) es = 0) := by
  have hstart := Sim.start prio idle cnt
  have hctr : (Os.start prio idle cnt).semCtr = cnt := hstart.rel.ctr
  have hsum := hstart.conserves (s := s) h hone
  have hnone := hstart.refused_eq_zero (s := s) h hone
  rw [hctr] at hsum hnone
  exact ⟨hsum, hnone⟩

/-- Two tasks that wait for three posts of a third, which takes the last itself; and a count that
is full but for one, which takes one post of two. -/
theorem sem_conserves_one :
    ((after (fun t : Fin 5 => if t = 0 then 62 else 5) 0 (fun _ : Unit => 0)
          [.taskCreate 1, .semPend () 0, .taskCreate 2, .semPend () 0, .taskCreate 3,
            .semPost () .post1, .semPost () .post1, .semPost () .post1, .semPend () 0]).semCtr
        ()).toNat +
        ∑ t, taken () (Os.start (fun t : Fin 5 => if t = 0 then 62 else 5) 0 fun _ : Unit => 0)
          [.taskCreate 1, .semPend () 0, .taskCreate 2, .semPend () 0, .taskCreate 3,
            .semPost () .post1, .semPost () .post1, .semPost () .post1, .semPend () 0] t =
      0 + 3 ∧
    ((after (fun t : Fin 2 => if t = 0 then 62 else 5) 0 (fun _ : Unit => 0xFFFFFFFE)
          [.taskCreate 1, .semPost () .post1, .semPost () .post1]).semCtr ()).toNat +
        ∑ t, taken () (Os.start (fun t : Fin 2 => if t = 0 then 62 else 5) 0
            fun _ : Unit => 0xFFFFFFFE)
          [.taskCreate 1, .semPost () .post1, .semPost () .post1] t + 1 =
      0xFFFFFFFE + 2 := by
  have hserved := sem_conserves (fun t : Fin 5 => if t = 0 then 62 else 5) 0 (fun _ : Unit => 0)
    [.taskCreate 1, .semPend () 0, .taskCreate 2, .semPend () 0, .taskCreate 3,
      .semPost () .post1, .semPost () .post1, .semPost () .post1, .semPend () 0] () (by decide)
    (by simp)
  have hfull := sem_conserves (fun t : Fin 2 => if t = 0 then 62 else 5) 0
    (fun _ : Unit => 0xFFFFFFFE) [.taskCreate 1, .semPost () .post1, .semPost () .post1] ()
    (by decide) (by simp)
  rw [hserved.2 (by decide)] at hserved
  exact ⟨hserved.1, hfull.1⟩

/-! ### A lock -/

/-- The kernel, and the tasks between `BSP_OS_Sem_Pend` and `BSP_OS_Sem_Post` of a semaphore. -/
def locked (s : S) (x : Os T S × (T → Bool)) (e : Call T S) : Os T S × (T → Bool) :=
  (x.1.step e, fun t => x.1.gets s e t || x.2 t && !(e.posts s && t = x.1.tcbCur))

/-- The semaphore is left with `BSP_OS_Sem_Post` and by one that is inside, who does not ask again
before and is not deleted before. -/
def LockRule (s : S) (x : Os T S × (T → Bool)) (e : Call T S) : Prop :=
  x.1.Admits e ∧
    match e with
    | .semPend obj timeout =>
      obj = s → e = .bspOsSemPend s timeout ∧ x.2 x.1.tcbCur = false
    | .semPost obj _ => obj = s → e = .bspOsSemPost s ∧ x.2 x.1.tcbCur = true
    | .taskDel t => x.2 (t.getD x.1.tcbCur) = false
    | _ => True

/-- Along a given run the rule is checked call by call. -/
instance decidableLockRule (s : S) (x : Os T S × (T → Bool)) : ∀ e, Decidable (LockRule s x e)
  | .semPend obj timeout =>
    inferInstanceAs (Decidable (_ ∧ (obj = s →
      .semPend obj timeout = Call.bspOsSemPend s timeout ∧ x.2 x.1.tcbCur = false)))
  | .semPost obj opt =>
    inferInstanceAs (Decidable (_ ∧ (obj = s →
      .semPost obj opt = Call.bspOsSemPost s ∧ x.2 x.1.tcbCur = true)))
  | .taskDel t => inferInstanceAs (Decidable (_ ∧ x.2 (t.getD x.1.tcbCur) = false))
  | .timeDly _ => inferInstanceAs (Decidable (_ ∧ True))
  | .taskCreate _ => inferInstanceAs (Decidable (_ ∧ True))
  | .tick => inferInstanceAs (Decidable (_ ∧ True))

omit [DecidableEq S] [DecidableEq T] in
/-- `BSP_OS_Sem_Post` posts to all who wait. -/
theorem LockRule.leaves {x : Os T S × (T → Bool)} {opt : PostOpt}
    (hrule : LockRule s x (.semPost s opt)) : opt = .postAll ∧ x.2 x.1.tcbCur = true := by
  obtain ⟨heq, hcur⟩ := hrule.2 rfl
  have heq : Call.semPost s opt = (Call.semPost s .postAll : Call T S) := heq
  exact ⟨(Call.semPost.inj heq).2, hcur⟩

/-- No two are inside. -/
def Exclusive (x : Os T S × (T → Bool)) : Prop := ∀ u v, x.2 u = true → x.2 v = true → u = v

/-- A post of the semaphore finds no two in line. -/
def Uncrowded (s : S) (x : Os T S × (T → Bool)) (e : Call T S) : Prop :=
  e.posts s = true → (x.1.pends.pendList s).nbrEntries ≤ 1

instance decidableUncrowded (s : S) (x : Os T S × (T → Bool)) (e : Call T S) :
    Decidable (Uncrowded s x e) :=
  inferInstanceAs (Decidable (_ → _))

/-- The semaphore is free and nobody is inside, or somebody is. -/
structure Held (prio : T → Fin osCfgPrioMax) (idle : T) (s : S) (x : Os T S × (T → Bool)) : Prop where
  sim : ∃ a, Sim prio idle x.1 a
  held : x.1.semCtr s = 1 ∧ (∀ t, x.2 t = false) ∨ x.1.semCtr s = 0 ∧ ∃ u, ∀ t, x.2 t = decide (t = u)

omit [DecidableEq S] in
theorem Held.exclusive {x : Os T S × (T → Bool)} (h : Held prio idle s x) : Exclusive x := by
  intro u v hu hv
  rcases h.held with ⟨-, hnone⟩ | ⟨-, w, hw⟩
  · rw [hnone] at hu
    cases hu
  · rw [hw] at hu hv
    exact (of_decide_eq_true hu).trans (of_decide_eq_true hv).symm

/-- A call that is none of the semaphore. -/
theorem gets_other (hpend : ∀ timeout, e ≠ .semPend s timeout) (hpost : ∀ opt, e ≠ .semPost s opt) :
    os.gets s e t = false := by
  cases e with
  | semPend obj timeout => exact decide_eq_false fun hall => hpend timeout (by rw [hall.1])
  | semPost obj opt => exact decide_eq_false fun hall => hpost opt (by rw [hall.1])
  | _ => rfl

theorem ctr_other (hpend : ∀ timeout, e ≠ .semPend s timeout) (hpost : ∀ opt, e ≠ .semPost s opt)
    (cur : T) : (a.step (fun t => prio t) idle cur e).ctr s = a.ctr s := by
  cases e with
  | semPend obj timeout =>
      have hobj : s ≠ obj := fun heq => hpend timeout (by rw [heq])
      rw [Sys.step, Sys.pend]
      split
      · exact Function.update_of_ne hobj ..
      · rfl
  | semPost obj opt =>
      have hnot : ¬(obj = s ∧ a.queue s = [] ∧ a.ctr s ≠ 0xFFFFFFFF) :=
        fun hall => hpost opt (by rw [hall.1])
      rw [Sys.step, post_ctr, if_neg hnot]
  | timeDly dly => rw [Sys.step]; split <;> rfl
  | taskCreate t => rw [Sys.step]; split <;> rfl
  | taskDel x => rw [Sys.step]; split <;> rfl
  | tick => rfl

/-- The semaphore is asked for. -/
theorem Held.pend {os : Os T S} {inside : T → Bool} {timeout : UInt32}
    (h : Held prio idle s (os, inside)) (hrule : LockRule s (os, inside) (.semPend s timeout)) :
    Held prio idle s (locked s (os, inside) (.semPend s timeout)) := by
  obtain ⟨a, ha⟩ := h.sim
  have hsim := ha.step hrule.1
  refine ⟨⟨_, hsim⟩, ?_⟩
  show (os.step _).semCtr s = 1 ∧ (∀ t, (os.gets s _ t || inside t && _) = false) ∨
    (os.step _).semCtr s = 0 ∧ ∃ u, ∀ t, (os.gets s _ t || inside t && _) = decide (t = u)
  rw [hsim.rel.ctr, Sys.step, Sys.pend, ← ha.rel.ctr]
  simp only [Os.gets, Call.posts]
  rcases h.held with ⟨hctr, hnone⟩ | ⟨hctr, u, hu⟩
  · have hctr : os.semCtr s = 1 := hctr
    have hnone : ∀ t, inside t = false := hnone
    have hpos : (0 : UInt32) < 1 := by decide
    rw [hctr, if_pos hpos]
    refine Or.inr ⟨Function.update_self .., os.tcbCur, fun t => ?_⟩
    simp [hnone, hpos]
  · have hctr : os.semCtr s = 0 := hctr
    have hu : ∀ t, inside t = decide (t = u) := hu
    rw [hctr, if_neg (UInt32.lt_irrefl 0)]
    refine Or.inr ⟨?_, u, fun t => ?_⟩
    · show a.ctr s = 0
      rw [← ha.rel.ctr, hctr]
    · simp [hu]

theorem Held.post {os : Os T S} {inside : T → Bool} {opt : PostOpt}
    (h : Held prio idle s (os, inside)) (hrule : LockRule s (os, inside) (.semPost s opt))
    (hfew : Uncrowded s (os, inside) (.semPost s opt)) :
    Held prio idle s (locked s (os, inside) (.semPost s opt)) := by
  obtain ⟨a, ha⟩ := h.sim
  have hsim := ha.step hrule.1
  obtain ⟨rfl, hcur⟩ := hrule.leaves
  have hgets : ∀ t, os.gets s (.semPost s .postAll) t = decide (t ∈ a.queue s) := by
    intro t
    rw [Bool.eq_iff_iff, ha.gets_iff hrule.1, decide_eq_true_iff, Sys.getters, if_pos rfl,
      Sys.grants, List.take_length]
  have hlength : (a.queue s).length ≤ 1 := by
    have hnbr := hfew (decide_eq_true rfl)
    rw [ha.rel.pends.ends] at hnbr
    exact hnbr
  obtain ⟨hctr, hinside⟩ : a.ctr s = 0 ∧ ∀ t, inside t = decide (t = os.tcbCur) := by
    rw [← ha.rel.ctr]
    rcases h.held with ⟨-, hnone⟩ | ⟨hctr, u, hu⟩
    · rw [hnone] at hcur
      cases hcur
    · rw [hu] at hcur
      have hcur : os.tcbCur = u := of_decide_eq_true hcur
      exact ⟨hctr, hcur ▸ hu⟩
  refine ⟨⟨_, hsim⟩, ?_⟩
  show (os.step _).semCtr s = 1 ∧ (∀ t, (os.gets s _ t || inside t && _) = false) ∨
    (os.step _).semCtr s = 0 ∧ ∃ u, ∀ t, (os.gets s _ t || inside t && _) = decide (t = u)
  rw [hsim.rel.ctr, Sys.step, post_ctr]
  simp only [hgets, Call.posts, hinside, hctr]
  cases hq : a.queue s with
  | nil =>
      left
      simp
  | cons w ws =>
      right
      obtain rfl : ws = [] := List.eq_nil_of_length_eq_zero (by rw [hq] at hlength; simpa using hlength)
      exact ⟨if_neg fun hall => List.cons_ne_nil _ _ hall.2.1, w, fun t => by simp⟩

/-- **A call** leaves one inside at most, unless it is a post that finds two in line. -/
theorem Held.step {x : Os T S × (T → Bool)} (h : Held prio idle s x) (hrule : LockRule s x e)
    (hfew : Uncrowded s x e) : Held prio idle s (locked s x e) := by
  by_cases hpend : ∃ timeout, e = .semPend s timeout
  · obtain ⟨timeout, rfl⟩ := hpend
    exact Held.pend h hrule
  · by_cases hpost : ∃ opt, e = .semPost s opt
    · obtain ⟨opt, rfl⟩ := hpost
      exact Held.post h hrule hfew
    · have hpend := not_exists.mp hpend
      have hpost := not_exists.mp hpost
      obtain ⟨a, ha⟩ := h.sim
      have hsim := ha.step hrule.1
      have hposts : e.posts s = false := by
        cases e with
        | semPost obj opt => exact decide_eq_false fun heq => hpost opt (by rw [heq])
        | _ => rfl
      have hsame : (locked s x e).2 = x.2 := by
        funext t
        show (x.1.gets s e t || x.2 t && !(e.posts s && _)) = x.2 t
        rw [gets_other hpend hpost, hposts]
        simp
      refine ⟨⟨_, hsim⟩, ?_⟩
      rw [hsame]
      show (x.1.step e).semCtr s = 1 ∧ _ ∨ (x.1.step e).semCtr s = 0 ∧ _
      rw [hsim.rel.ctr, ctr_other hpend hpost, ← ha.rel.ctr]
      exact h.held

/-- A post that finds two in line lets both in. -/
theorem Held.crowd {x : Os T S × (T → Bool)} (h : Held prio idle s x) (hrule : LockRule s x e)
    (hmany : ¬Uncrowded s x e) : ¬Exclusive (locked s x e) := by
  obtain ⟨a, ha⟩ := h.sim
  rw [Uncrowded, Classical.not_imp, Nat.not_le] at hmany
  obtain ⟨hposts, hnbr⟩ := hmany
  cases e with
  | semPost obj opt =>
      obtain rfl : obj = s := of_decide_eq_true hposts
      obtain ⟨rfl, -⟩ := hrule.leaves
      have hgets : ∀ t ∈ a.queue obj, (locked obj x (.semPost obj .postAll)).2 t = true := by
        intro t ht
        refine Bool.or_eq_true_iff.mpr (Or.inl ((ha.gets_iff hrule.1).mpr ?_))
        rwa [Sys.getters, if_pos rfl, Sys.grants, List.take_length]
      rw [ha.rel.pends.ends] at hnbr
      intro hex
      have hnodup := ha.ok.nodup obj
      cases hq : a.queue obj with
      | nil =>
          rw [hq] at hnbr
          cases hnbr
      | cons u us =>
          cases us with
          | nil =>
              rw [hq] at hnbr
              exact absurd hnbr (Nat.lt_irrefl 1)
          | cons v us =>
              rw [hq] at hnodup hgets
              have huv : u = v := hex u v (hgets u (by simp)) (hgets v (by simp))
              exact (List.nodup_cons.mp hnodup).1 (huv ▸ List.mem_cons_self ..)
  | _ => cases hposts

/-- **The lock of `bsp_os.c`** keeps the tasks apart in just those runs in which no post finds two in
line: `BSP_OS_Sem_Post` wakes all who wait. -/
theorem lock_exclusive_iff (prio : T → Fin osCfgPrioMax) (idle : T) (cnt : S → UInt32) (s : S)
    (hone : cnt s = 1) {es : List (Call T S)}
    (h : AllSteps (locked s) (LockRule s) (Os.start prio idle cnt, fun _ => false) es) :
    AllStates (locked s) Exclusive (Os.start prio idle cnt, fun _ => false) es ↔
      AllSteps (locked s) (Uncrowded s) (Os.start prio idle cnt, fun _ => false) es := by
  refine allStates_iff_of_rule (fun x (hx : Held prio idle s x) => hx.exclusive)
    (fun x e hx hr hp => hx.step hr hp) (fun x e hx hr hnot => hx.crowd hr hnot) ?_ h
  refine ⟨⟨_, Sim.start prio idle cnt⟩, Or.inl ⟨?_, fun _ => rfl⟩⟩
  rw [(Sim.start prio idle cnt).rel.ctr]
  exact hone

/-- Three tasks of which two wait when the third leaves: both go on. -/
theorem lock_exclusive_iff_three :
    ¬AllStates (locked ()) Exclusive
      (Os.start (fun t : Fin 5 => if t = 0 then 62 else 5) 0 (fun _ : Unit => 1), fun _ => false)
      [.taskCreate 1, .bspOsSemPend () 0, .timeDly 1, .taskCreate 2, .bspOsSemPend () 1000,
        .taskCreate 3, .bspOsSemPend () 1000, .tick, .bspOsSemPost ()] :=
  (lock_exclusive_iff (fun t : Fin 5 => if t = 0 then 62 else 5) 0 (fun _ : Unit => 1) () rfl
    (by decide)).not.mpr (by decide)

end SwiftAcu.Kernel
