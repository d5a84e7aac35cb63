/-
How long a task waits.

A task that waits for a time is due at a tick that does not change while it waits, and the tick
wheel wakes it then and not before, wherever the counter wraps.  The only other ways out are those
the program asks for: the semaphore goes to it, or it is deleted.
-/
import SwiftAcu.Proofs.Kernel.Run

namespace SwiftAcu.Kernel

open Runs

variable {T S : Type}

/-- The ticks among some calls. -/
def ticks (es : List (Call T S)) : Nat := (es.map Call.ticks).sum

@[simp] theorem ticks_nil : ticks ([] : List (Call T S)) = 0 := rfl

@[simp] theorem ticks_cons (e : Call T S) (es : List (Call T S)) :
    ticks (e :: es) = e.ticks + ticks es := rfl

@[simp] theorem ticks_concat (es : List (Call T S)) (e : Call T S) :
    ticks (es ++ [e]) = ticks es + e.ticks := by
  simp [ticks]

section
variable [DecidableEq T] [DecidableEq S] {prio : T → Fin osCfgPrioMax} {idle : T} {os : Os T S}
  {a : Sys T S} {t : T} {d : Nat} {e : Call T S}

/-- A task that is due and does not move is due then. -/
theorem Sim.stays {fs : List (Call T S)} (h : Sim prio idle os a) (hd : a.due t = some d)
    (hadm : AllSteps Os.step Os.Admits os fs)
    (hstop : AllSteps Os.step
      (fun os e => (os.step e).taskState t ≠ .RDY ∧ (os.step e).taskState t ≠ .DEL) os fs) :
    ∃ a', Sim prio idle (run Os.step os fs) a' ∧ a'.mode t = a.mode t ∧ a'.due t = some d ∧
      a'.now = a.now + ticks fs := by
  induction fs generalizing os a with
  | nil => exact ⟨a, h, rfl, hd, rfl⟩
  | cons e fs ih =>
      have hsim := h.step hadm.1
      have hmoved := Sys.step_stopped (fun t => prio t) h.running.ready
        (h.rel.admits hadm.1) (h.ok.stopped t d hd)
      rcases hmoved with ⟨hmode, hdue⟩ | ⟨-, -, hmode, -⟩ | ⟨-, -, -, -, hmode, -⟩ | ⟨-, hmode⟩
      · obtain ⟨a', hsim', hmode', hdue', hnow⟩ := ih hsim (hdue.trans hd) hadm.2 hstop.2
        refine ⟨a', hsim', hmode'.trans hmode, hdue', ?_⟩
        rw [hnow, Sys.step_now, ticks_cons, Nat.add_assoc]
      · exact absurd ((hsim.rel.isReady t).mpr hmode) hstop.1.1
      · exact absurd ((hsim.rel.isReady t).mpr hmode) hstop.1.1
      · exact absurd ((hsim.rel.dormant t).mpr hmode) hstop.1.2

/-- How a task that is due goes on. -/
theorem Sim.ends (h : Sim prio idle os a) (hd : a.due t = some d) (hadm : os.Admits e) :
    ((os.step e).taskState t = os.taskState t ∧ a.now + e.ticks < d) ∨
      (e = .tick ∧ a.now + 1 = d ∧ (os.step e).taskState t = .RDY ∧
        (os.step e).pendStatus t = (a.mode t).dueTold (a.told t)) ∨
      (∃ s opt, e = .semPost s opt ∧ a.mode t = .waiting s ∧ (os.step e).taskState t = .RDY ∧
        (os.step e).pendStatus t = .OK) ∨
      (e = .taskDel (some t) ∧ (os.step e).taskState t = .DEL) := by
  have hsim := h.step hadm
  have hmoved := Sys.step_stopped (fun t => prio t) h.running.ready
    (h.rel.admits hadm) (h.ok.stopped t d hd)
  rcases hmoved with ⟨hmode, hdue⟩ | ⟨htick, hdue, hmode, htold⟩ | ⟨s, opt, hpost, hmem, hmode, htold⟩ |
    ⟨hdel, hmode⟩
  · have hlater := hsim.later t d (hdue.trans hd)
    rw [Sys.step_now] at hlater
    refine Or.inl ⟨?_, hlater⟩
    rw [hsim.rel.state, hmode, hdue, h.rel.state]
  · refine Or.inr (Or.inl ⟨htick, ?_, (hsim.rel.isReady t).mpr hmode, ?_⟩)
    · rw [hd] at hdue
      exact (Option.some.inj hdue).symm
    · rw [hsim.rel.told, htold]
  · have hwait := (h.ok.queue s t).mp (List.mem_of_mem_take hmem)
    refine Or.inr (Or.inr (Or.inl ⟨s, opt, hpost, hwait, (hsim.rel.isReady t).mpr hmode, ?_⟩))
    rw [hsim.rel.told, htold]
  · exact Or.inr (Or.inr (Or.inr ⟨hdel, (hsim.rel.dormant t).mpr hmode⟩))

/-- **A task that stops for `n` ticks** goes on with the last of them, or because the semaphore it
waits for goes to it before, or because it is deleted. -/
theorem Sim.until_due {fs : List (Call T S)} {n : Nat} (h : Sim prio idle os a)
    (hd : a.due t = some (a.now + n)) (hadm : AllSteps Os.step Os.Admits os fs)
    (hstop : AllSteps Os.step
      (fun os e => (os.step e).taskState t ≠ .RDY ∧ (os.step e).taskState t ≠ .DEL) os fs) :
    ticks fs < n ∧ ∀ e, (run Os.step os fs).Admits e →
      let os' := (run Os.step os fs).step e
      (os'.taskState t = os.taskState t ∧ ticks (fs ++ [e]) < n) ∨
        (e = .tick ∧ ticks (fs ++ [e]) = n ∧ os'.taskState t = .RDY ∧
          ∀ s, a.mode t = .waiting s → os'.pendStatus t = .TIMEOUT) ∨
        (∃ s opt, e = .semPost s opt ∧ a.mode t = .waiting s ∧ os'.taskState t = .RDY ∧
          os'.pendStatus t = .OK) ∨
        (e = .taskDel (some t) ∧ os'.taskState t = .DEL) := by
  obtain ⟨a', hsim, hmode, hdue, hnow⟩ := h.stays hd hadm hstop
  have hstate : (run Os.step os fs).taskState t = os.taskState t := by
    rw [hsim.rel.state, hmode, hdue, h.rel.state, hd]
  have hlater := hsim.later t _ hdue
  refine ⟨by omega, fun e he => ?_⟩
  rw [ticks_concat, ← hmode]
  rcases hsim.ends hdue he with ⟨hsame, hlt⟩ | ⟨rfl, heq, hrdy, htold⟩ | hpost | hdel
  · exact Or.inl ⟨hsame.trans hstate, by omega⟩
  · refine Or.inr (Or.inl ⟨rfl, ?_, hrdy, fun s hs => ?_⟩)
    · show ticks fs + 1 = n
      omega
    · rw [htold, hs]
      rfl
  · exact Or.inr (Or.inr (Or.inl hpost))
  · exact Or.inr (Or.inr (Or.inr hdel))

/-! ### From the start -/

variable {cnt : S → UInt32} {es fs : List (Call T S)} {s : S}

theorem reach (h : Calls prio idle cnt es) : ∃ a, Sim prio idle (after prio idle cnt es) a :=
  ⟨_, Sim.runs (x := (Os.start prio idle cnt, Sys.start idle cnt)) (Sim.start prio idle cnt) h⟩

theorem after_concat (prio : T → Fin osCfgPrioMax) (idle : T) (cnt : S → UInt32)
    (es : List (Call T S)) (e : Call T S) :
    after prio idle cnt (es ++ [e]) = (after prio idle cnt es).step e :=
  run_concat ..

/-- A call between others. -/
theorem calls_middle (h : Calls prio idle cnt (es ++ e :: fs)) :
    Calls prio idle cnt es ∧ (after prio idle cnt es).Admits e ∧
      AllSteps Os.step Os.Admits (after prio idle cnt (es ++ [e])) fs := by
  obtain ⟨hes, he, hfs⟩ := (allSteps_append _ es (e :: fs)).mp h
  rw [after_concat]
  exact ⟨hes, he, hfs⟩

theorem after_middle (prio : T → Fin osCfgPrioMax) (idle : T) (cnt : S → UInt32)
    (es fs : List (Call T S)) (e : Call T S) :
    after prio idle cnt (es ++ e :: fs) = run Os.step (after prio idle cnt (es ++ [e])) fs := by
  rw [after_concat, after, run_append, run_cons]

/-- **A wait for a semaphore ends** by the tick it was to last to, or because the semaphore goes to
the task before, or because the task is deleted. -/
theorem wait_exact (prio : T → Fin osCfgPrioMax) (idle : T) (cnt : S → UInt32)
    (es fs : List (Call T S)) {s : S} (timeout : UInt32) {t : T} (htime : 0 < timeout)
    (hctr : (after prio idle cnt es).semCtr s = 0) (ht : (after prio idle cnt es).tcbCur = t)
    (h : Calls prio idle cnt (es ++ .semPend s timeout :: fs))
    (hwait : AllSteps Os.step (fun os e => (os.step e).taskState t = .PEND_TIMEOUT)
      (after prio idle cnt (es ++ [.semPend s timeout])) fs) :
    ticks fs < timeout.toNat ∧
      ∀ e, (after prio idle cnt (es ++ .semPend s timeout :: fs)).Admits e →
        let os := (after prio idle cnt (es ++ .semPend s timeout :: fs)).step e
        os.taskState t = .PEND_TIMEOUT ∧ ticks (fs ++ [e]) < timeout.toNat ∨
          e = .tick ∧ ticks (fs ++ [e]) = timeout.toNat ∧ os.taskState t = .RDY ∧
            os.pendStatus t = .TIMEOUT ∨
          (∃ opt, e = .semPost s opt ∧ os.taskState t = .RDY ∧ os.pendStatus t = .OK) ∨
          e = .taskDel (some t) ∧ os.taskState t = .DEL := by
  subst ht
  obtain ⟨hes, hpend, hfs⟩ := calls_middle h
  obtain ⟨a, ha⟩ := reach hes
  have hsim := ha.step hpend
  have hzero : ¬0 < a.ctr s := by
    rw [← ha.rel.ctr, hctr]
    exact UInt32.lt_irrefl 0
  generalize hcur : (after prio idle cnt es).tcbCur = t at *
  rw [Sys.step, Sys.pend, if_neg hzero] at hsim
  have hmode : Function.update a.mode t (.waiting s) t = .waiting s := Function.update_self ..
  have hdue : Function.update a.due t (if 0 < timeout then some (a.now + timeout.toNat) else none) t =
      some (a.now + timeout.toNat) := by
    rw [Function.update_self, if_pos htime]
  have hstate : ((after prio idle cnt es).step (.semPend s timeout)).taskState t = .PEND_TIMEOUT := by
    rw [hsim.rel.state]
    show (Function.update a.mode t (.waiting s) t).taskState (Function.update a.due t _ t) = _
    rw [hmode, hdue]
    rfl
  rw [after_middle]
  rw [after_concat] at hfs hwait ⊢
  obtain ⟨hlt, hends⟩ := hsim.until_due hdue hfs (hwait.imp fun os e he => by rw [he]; decide)
  refine ⟨hlt, fun e he => ?_⟩
  rcases hends e he with hsame | ⟨htick, hn, hrdy, htold⟩ | ⟨s', opt, hpost, hs, hrdy, htold⟩ | hdel
  · exact Or.inl (hstate ▸ hsame)
  · exact Or.inr (Or.inl ⟨htick, hn, hrdy, htold s hmode⟩)
  · have hs : s = s' := Mode.waiting.inj (hmode.symm.trans hs)
    exact Or.inr (Or.inr (Or.inl ⟨opt, hs ▸ hpost, hrdy, htold⟩))
  · exact Or.inr (Or.inr (Or.inr hdel))

/-- A wait of three ticks. -/
theorem wait_exact_three :
    ticks ([.tick, .tick] : List (Call (Fin 2) Unit)) < 3 ∧
      (after (fun t : Fin 2 => if t = 0 then 62 else 5) 0 (fun _ : Unit => 0)
        [.taskCreate 1, .semPend () 3, .tick, .tick, .tick]).pendStatus 1 = .TIMEOUT :=
  ⟨(wait_exact (fun t : Fin 2 => if t = 0 then 62 else 5) 0 (fun _ : Unit => 0)
    [.taskCreate 1] [.tick, .tick] (s := ()) 3 (t := 1) (by decide)
    (by decide) (by decide) (by decide) (by decide)).1, by decide⟩

/-- **A delay ends** by the tick it was to last to, or because the task is deleted. -/
theorem delay_exact (prio : T → Fin osCfgPrioMax) (idle : T) (cnt : S → UInt32)
    (es fs : List (Call T S)) (dly : UInt32) {t : T} (hdly : 0 < dly)
    (ht : (after prio idle cnt es).tcbCur = t)
    (h : Calls prio idle cnt (es ++ .timeDly dly :: fs))
    (hwait : AllSteps Os.step (fun os e => (os.step e).taskState t = .DLY)
      (after prio idle cnt (es ++ [.timeDly dly])) fs) :
    ticks fs < dly.toNat ∧
      ∀ e, (after prio idle cnt (es ++ .timeDly dly :: fs)).Admits e →
        let os := (after prio idle cnt (es ++ .timeDly dly :: fs)).step e
        os.taskState t = .DLY ∧ ticks (fs ++ [e]) < dly.toNat ∨
          e = .tick ∧ ticks (fs ++ [e]) = dly.toNat ∧ os.taskState t = .RDY ∨
          e = .taskDel (some t) ∧ os.taskState t = .DEL := by
  subst ht
  obtain ⟨hes, hpend, hfs⟩ := calls_middle h
  obtain ⟨a, ha⟩ := reach hes
  have hsim := ha.step hpend
  have hne : dly ≠ 0 := UInt32.pos_iff_ne_zero.mp hdly
  generalize hcur : (after prio idle cnt es).tcbCur = t at *
  rw [Sys.step, if_neg hne] at hsim
  have hmode : (a.block t .delayed dly).mode t = .delayed := Function.update_self ..
  have hdue : (a.block t .delayed dly).due t = some (a.now + dly.toNat) := by
    show Function.update a.due t _ t = _
    rw [Function.update_self, if_pos hdly]
  have hstate : ((after prio idle cnt es).step (.timeDly dly)).taskState t = .DLY := by
    rw [hsim.rel.state, hmode, hdue]
    rfl
  rw [after_middle]
  rw [after_concat] at hfs hwait ⊢
  obtain ⟨hlt, hends⟩ := hsim.until_due hdue hfs (hwait.imp fun os e he => by rw [he]; decide)
  refine ⟨hlt, fun e he => ?_⟩
  rcases hends e he with hsame | ⟨htick, hn, hrdy, -⟩ | ⟨s', opt, -, hs, -⟩ | hdel
  · exact Or.inl (hstate ▸ hsame)
  · exact Or.inr (Or.inl ⟨htick, hn, hrdy⟩)
  · rw [hmode] at hs
    cases hs
  · exact Or.inr (Or.inr hdel)

/-- A delay of three ticks. -/
theorem delay_exact_three :
    ticks ([.tick, .tick] : List (Call (Fin 2) Unit)) < 3 ∧
      (after (fun t : Fin 2 => if t = 0 then 62 else 5) 0 (fun _ : Unit => 0)
        [.taskCreate 1, .timeDly 3, .tick, .tick, .tick]).taskState 1 = .RDY :=
  ⟨(delay_exact (fun t : Fin 2 => if t = 0 then 62 else 5) 0 (fun _ : Unit => 0)
    [.taskCreate 1] [.tick, .tick] 3 (t := 1) (by decide) (by decide)
    (by decide) (by decide)).1, by decide⟩

end

end SwiftAcu.Kernel
