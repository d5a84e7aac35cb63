/-
Who waits in line keeps the place.

A queue of a semaphore is in the order of the priorities, and those of one priority are in the
order they came in.  Nothing changes the order of two that stay, and a post takes from the front:
nobody is given the semaphore in front of a task that is to have it first.
-/
import SwiftAcu.Proofs.Kernel.Waits

namespace SwiftAcu.Kernel

open Runs List

variable {T S : Type}

/-! ### Lists -/

/-- What is in front of a list's first elements is one of them. -/
theorem mem_take_of_front {xs : List T} (hnodup : xs.Nodup) {u v : T} (h : [u, v] <+ xs) {n : Nat}
    (hv : v ∈ xs.take n) : u ∈ xs.take n := by
  induction xs generalizing n with
  | nil => cases h
  | cons x xs ih =>
      obtain ⟨hx, hxs⟩ := List.nodup_cons.mp hnodup
      cases n with
      | zero => cases hv
      | succ n =>
          rw [List.take_succ_cons] at hv ⊢
          cases h with
          | cons _ h =>
              have hmem : v ∈ xs := h.subset (by simp)
              rcases List.mem_cons.mp hv with rfl | hv
              · exact absurd hmem hx
              · exact List.mem_cons_of_mem _ (ih hxs h hv)
          | cons_cons _ h => exact List.mem_cons_self ..

section
variable {prio : T → Nat} {u v : T} {xs : List T}

/-- Who comes later, and has no higher priority, is behind. -/
theorem enqueue_behind (hxs : xs.Pairwise fun a b => prio a ≤ prio b) (hu : u ∈ xs)
    (hprio : prio u ≤ prio v) : [u, v] <+ enqueue prio v xs := by
  induction xs with
  | nil => cases hu
  | cons x xs ih =>
      obtain ⟨hx, hxs⟩ := List.pairwise_cons.mp hxs
      have hle : prio x ≤ prio v := by
        rcases List.mem_cons.mp hu with rfl | hu
        · exact hprio
        · exact (hx u hu).trans hprio
      rw [enqueue, List.orderedInsert_cons, if_neg (Nat.not_lt.mpr hle)]
      rcases List.mem_cons.mp hu with rfl | hu
      · exact (List.singleton_sublist.mpr ((List.mem_orderedInsert _).mpr (Or.inl rfl))).cons_cons u
      · exact (ih hxs hu).cons x

/-- Who comes later, and has a higher priority, is in front. -/
theorem enqueue_front (hv : v ∈ xs) (hprio : prio u < prio v) : [u, v] <+ enqueue prio u xs := by
  induction xs with
  | nil => cases hv
  | cons x xs ih =>
      rw [enqueue, List.orderedInsert_cons]
      by_cases hlt : prio u < prio x
      · rw [if_pos hlt]
        exact (List.singleton_sublist.mpr hv).cons_cons u
      · rw [if_neg hlt]
        rcases List.mem_cons.mp hv with rfl | hv
        · exact absurd hprio hlt
        · exact (ih hv).cons x

end

/-! ### A queue -/

variable [DecidableEq T] [DecidableEq S]

namespace Sys

variable {prio : T → Nat} {idle cur : T} {a : Sys T S} {s : S} {u v : T}

/-- **Those that stay** in a queue stay in their order. -/
theorem step_line (h : a.Ok prio) (e : Call T S) :
    ((a.queue s).filter fun t => (a.step prio idle cur e).mode t = .waiting s) <+
      (a.step prio idle cur e).queue s := by
  have herase : ∀ (t : T) (mode : T → Mode S), mode t ≠ .waiting s →
      ((a.queue s).filter fun t => mode t = .waiting s) <+ (a.queue s).erase t := by
    intro t mode hmode
    rw [(h.nodup s).erase_eq_filter]
    refine List.monotone_filter_right _ fun w hw => ?_
    have hw := of_decide_eq_true hw
    rw [bne_iff_ne]
    rintro rfl
    exact hmode hw
  cases e with
  | semPend s' timeout =>
      rw [Sys.step, Sys.pend]
      split
      · exact List.filter_sublist
      · refine List.filter_sublist.trans ?_
        show a.queue s <+ Function.update a.queue s' (enqueue prio cur (a.queue s')) s
        by_cases hs : s = s'
        · subst hs
          rw [Function.update_self]
          exact List.sublist_orderedInsert ..
        · rw [Function.update_of_ne hs]
  | semPost s' opt =>
      rw [Sys.step, Sys.post]
      split
      · split <;> exact List.filter_sublist
      · rw [wakes_eq]
        show List.filter _ _ <+ (a.queue s).diff _
        rw [(h.nodup s).sdiff_eq_filter]
        refine List.monotone_filter_right _ fun w hw => decide_eq_true fun hmem => ?_
        have hw : (if w ∈ (a.queue s').take (grants opt (a.queue s').length) then .ready
            else a.mode w) = .waiting s := of_decide_eq_true hw
        rw [if_pos hmem] at hw
        cases hw
  | timeDly dly =>
      rw [Sys.step]
      split <;> exact List.filter_sublist
  | taskCreate t =>
      rw [Sys.step]
      split
      · exact List.filter_sublist
      · refine herase t _ ?_
        show Function.update a.mode t .ready t ≠ _
        rw [Function.update_self]
        intro heq
        cases heq
  | taskDel x =>
      rw [Sys.step]
      split
      · exact List.filter_sublist
      · refine herase (x.getD cur) _ ?_
        show Function.update a.mode _ .dormant _ ≠ _
        rw [Function.update_self]
        intro heq
        cases heq
  | tick =>
      refine List.monotone_filter_right _ fun w hw => decide_eq_true fun hdue => ?_
      have hw : (if a.due w = some (a.now + 1) then .ready else a.mode w) = .waiting s :=
        of_decide_eq_true hw
      rw [if_pos hdue] at hw
      cases hw

/-- Two that stay. -/
theorem step_behind (h : a.Ok prio) {e : Call T S} (hline : [u, v] <+ a.queue s)
    (hu : (a.step prio idle cur e).mode u = .waiting s)
    (hv : (a.step prio idle cur e).mode v = .waiting s) :
    [u, v] <+ (a.step prio idle cur e).queue s := by
  refine List.Sublist.trans ?_ (step_line h e)
  have hboth := hline.filter fun t => decide ((a.step prio idle cur e).mode t = .waiting s)
  rwa [List.filter_eq_self.mpr (by simp [hu, hv])] at hboth

/-- **A post** goes to those in front. -/
theorem post_front (h : a.Ok prio) {opt : PostOpt} (hline : [u, v] <+ a.queue s)
    (hv : (a.post s opt).mode v = .ready) : (a.post s opt).mode u = .ready := by
  have hmem : v ∈ a.queue s := hline.subset (by simp)
  have hwait := (h.queue s v).mp hmem
  have hne : a.queue s ≠ [] := List.ne_nil_of_mem hmem
  rw [Sys.post, if_neg hne, wakes_eq] at hv ⊢
  refine if_pos (mem_take_of_front (h.nodup s) hline ?_)
  by_contra hnot
  have hv := (if_neg hnot).symm.trans hv
  rw [hwait] at hv
  cases hv

end Sys

/-! ### From the start -/

variable {prio : T → Fin osCfgPrioMax} {idle : T} {os : Os T S} {a : Sys T S} {s : S} {u v : T}

theorem Sim.line {fs : List (Call T S)} (h : Sim prio idle os a) (hline : [u, v] <+ a.queue s)
    (hadm : AllSteps Os.step Os.Admits os fs)
    (hwait : AllSteps Os.step (fun os e => (os.step e).pends.pendObj u = some s ∧
      (os.step e).pends.pendObj v = some s) os fs) :
    ∃ a', Sim prio idle (run Os.step os fs) a' ∧ [u, v] <+ a'.queue s := by
  induction fs generalizing os a with
  | nil => exact ⟨a, h, hline⟩
  | cons e fs ih =>
      have hsim := h.step hadm.1
      refine ih hsim (Sys.step_behind h.ok hline ?_ ?_) hadm.2 hwait.2
      · exact (hsim.rel.waits hsim.ok s u).mp hwait.1.1
      · exact (hsim.rel.waits hsim.ok s v).mp hwait.1.2

/-- **Nobody is overtaken**: when a task gets in line for a semaphore, of it and of one that is
there already the one of the higher priority is first, or the one that was there, and as long as
both wait the semaphore goes to the other only if it goes to the first as well. -/
theorem no_overtaking (prio : T → Fin osCfgPrioMax) (idle : T) (cnt : S → UInt32)
    (es fs : List (Call T S)) {s : S} (timeout : UInt32) {u v : T}
    (hline : (after prio idle cnt es).tcbCur = v ∧
        (after prio idle cnt es).pends.pendObj u = some s ∧ prio u ≤ prio v ∨
      (after prio idle cnt es).tcbCur = u ∧
        (after prio idle cnt es).pends.pendObj v = some s ∧ prio u < prio v)
    (h : Calls prio idle cnt (es ++ .semPend s timeout :: fs))
    (hwait : AllSteps Os.step (fun os e => (os.step e).pends.pendObj u = some s ∧
        (os.step e).pends.pendObj v = some s)
      (after prio idle cnt (es ++ [.semPend s timeout])) fs) (opt : PostOpt) :
    let os := (after prio idle cnt (es ++ .semPend s timeout :: fs)).step (.semPost s opt)
    os.taskState v = .RDY → os.taskState u = .RDY := by
  obtain ⟨hes, hpend, hfs⟩ := calls_middle h
  obtain ⟨a, ha⟩ := reach hes
  have hsim := ha.step hpend
  have hstart : [u, v] <+ (a.step (fun t => prio t) idle (after prio idle cnt es).tcbCur
      (.semPend s timeout)).queue s := by
    have hzero : ∀ t, (after prio idle cnt es).pends.pendObj t = some s → ¬0 < a.ctr s := by
      intro t ht
      rw [ha.ok.free s (List.ne_nil_of_mem ((ha.rel.pends.obj s t).mpr ht))]
      exact UInt32.lt_irrefl 0
    rcases hline with ⟨hcur, hobj, hprio⟩ | ⟨hcur, hobj, hprio⟩
    · rw [Sys.step, Sys.pend, if_neg (hzero u hobj), hcur]
      show _ <+ Function.update a.queue s _ s
      rw [Function.update_self]
      exact enqueue_behind (ha.ok.order s) ((ha.rel.pends.obj s u).mpr hobj) hprio
    · rw [Sys.step, Sys.pend, if_neg (hzero v hobj), hcur]
      show _ <+ Function.update a.queue s _ s
      rw [Function.update_self]
      exact enqueue_front ((ha.rel.pends.obj s v).mpr hobj) hprio
  rw [after_middle]
  rw [after_concat] at hfs hwait ⊢
  obtain ⟨a', hsim', hline'⟩ := hsim.line hstart hfs hwait
  have hpost := hsim'.step (e := .semPost s opt) trivial
  intro os hv
  exact (hpost.rel.isReady u).mpr
    (Sys.post_front hsim'.ok hline' ((hpost.rel.isReady v).mp hv))

/-- Two tasks of one priority: a post to all serves both, and one that goes to a third in front of
them, of a higher priority, does not serve the second either. -/
theorem no_overtaking_two :
    (after (fun t : Fin 5 => if t = 0 then 62 else 5) 0 (fun _ : Unit => 0)
        [.taskCreate 1, .semPend () 0, .taskCreate 2, .semPend () 0, .tick, .semPost () .postAll]
      ).taskState 1 = .RDY ∧
    (after (fun t : Fin 5 => if t = 0 then 62 else if t = 3 then 4 else 5) 0 (fun _ : Unit => 0)
        [.taskCreate 1, .semPend () 0, .taskCreate 2, .semPend () 0, .taskCreate 3, .semPend () 0,
          .semPost () .post1]).taskState 2 ≠ .RDY := by
  have hall := no_overtaking (fun t : Fin 5 => if t = 0 then 62 else 5) 0 (fun _ : Unit => 0)
    [.taskCreate 1, .semPend () 0, .taskCreate 2] [.tick] (s := ()) 0 (u := 1) (v := 2) (by decide)
    (by decide) (by decide) .postAll (by decide)
  have hone := no_overtaking (fun t : Fin 5 => if t = 0 then 62 else if t = 3 then 4 else 5) 0
    (fun _ : Unit => 0) [.taskCreate 1, .semPend () 0, .taskCreate 2] [.taskCreate 3, .semPend () 0]
    (s := ()) 0 (u := 1) (v := 2) (by decide) (by decide) (by decide) .post1
  exact ⟨hall, fun hv => absurd (hone hv) (by decide)⟩

end SwiftAcu.Kernel
