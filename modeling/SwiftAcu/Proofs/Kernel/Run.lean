/-
What holds of the kernel behind any calls.

A call of the program is a step of the kernel and, made by the task that runs, a step of the tasks
and semaphores it stands for.
-/
import SwiftAcu.Lib.Runs
import SwiftAcu.Proofs.Kernel.Simulates

namespace SwiftAcu.Kernel

open DList Runs

variable {T S : Type}

/-- What holds behind every call. -/
structure Sim (prio : T → Fin osCfgPrioMax) (idle : T) (os : Os T S) (a : Sys T S) : Prop where
  rel : Rel prio idle os a
  ok : a.Ok fun t => prio t
  later : a.Later
  running : Running os a
  idleReady : a.mode idle = .ready

/-- The idle task never waits, a task is made that is not there, and one that is deleted was made. -/
def Os.Admits (os : Os T S) : Call T S → Prop
  | .semPend _ _ | .timeDly _ | .taskDel none => os.tcbCur ≠ os.idle
  | .taskCreate t => os.taskState t = .DEL
  | .taskDel (some t) => os.created t = true
  | _ => True

/-- Whether a call is admitted is seen from the state. -/
instance decidableAdmits [DecidableEq T] (os : Os T S) : ∀ e, Decidable (os.Admits e)
  | .semPend _ _ => inferInstanceAs (Decidable (os.tcbCur ≠ os.idle))
  | .timeDly _ => inferInstanceAs (Decidable (os.tcbCur ≠ os.idle))
  | .taskDel none => inferInstanceAs (Decidable (os.tcbCur ≠ os.idle))
  | .taskDel (some t) => inferInstanceAs (Decidable (os.created t = true))
  | .taskCreate t => inferInstanceAs (Decidable (os.taskState t = .DEL))
  | .semPost _ _ => inferInstanceAs (Decidable True)
  | .tick => inferInstanceAs (Decidable True)

section
variable {prio : T → Fin osCfgPrioMax} {idle : T} {os : Os T S} {a : Sys T S}

/-- A task that is not there is said to be none. -/
theorem Rel.dormant (h : Rel prio idle os a) (t : T) : os.taskState t = .DEL ↔ a.mode t = .dormant := by
  rw [h.state]
  cases a.mode t <;> cases a.due t <;> simp [Mode.taskState]

theorem Rel.isReady (h : Rel prio idle os a) (t : T) : os.taskState t = .RDY ↔ a.mode t = .ready := by
  rw [h.state]
  cases a.mode t <;> cases a.due t <;> simp [Mode.taskState]

theorem Rel.waits (h : Rel prio idle os a) (ok : a.Ok fun t => prio t) (s : S) (t : T) :
    os.pends.pendObj t = some s ↔ a.mode t = .waiting s := by
  rw [← h.pends.obj, ok.queue]

theorem Rel.admits {e : Call T S} (h : Rel prio idle os a) (hadm : os.Admits e) :
    a.Admits idle os.tcbCur e := by
  rw [← h.idleEq]
  cases e with
  | taskCreate t => exact (h.dormant t).mp hadm
  | taskDel t =>
      cases t with
      | none => exact hadm
      | some t => trivial
  | _ => exact hadm

/-- The kernel stands for the tasks, and one of the highest priority runs. -/
abbrev Stands (prio : T → Fin osCfgPrioMax) (idle : T) (os : Os T S) (a : Sys T S) : Prop :=
  Rel prio idle os a ∧ Running os a

theorem Sim.stands (h : Sim prio idle os a) : Stands prio idle os a := ⟨h.rel, h.running⟩

/-- A count is not seen by the scheduler. -/
theorem Sim.count (h : Sim prio idle os a) (ctr : S → UInt32) :
    Stands prio idle { os with semCtr := ctr } { a with ctr } :=
  ⟨⟨h.rel.prioEq, h.rel.idleEq, h.rel.ready, h.rel.pends, h.rel.wheel, rfl, h.rel.state, h.rel.pendOn,
    h.rel.told⟩, h.running.ready, h.running.prioCur, h.running.highest⟩

/-! ### The start -/

/-- The kernel in front of its first task. -/
def Os.empty (prio : T → Fin osCfgPrioMax) (idle : T) (cnt : S → UInt32) : Os T S where
  prio
  idle
  ready := ⟨fun _ => 0, fun _ => .empty, ⟨fun _ => none, fun _ => none⟩⟩
  pends := ⟨fun _ => .empty, ⟨fun _ => none, fun _ => none⟩, fun _ => none⟩
  wheel := ⟨0, fun _ => ⟨none, 0, 0⟩, ⟨fun _ => none, fun _ => none⟩, fun _ => none, fun _ => 0,
    fun _ => 0⟩
  semCtr := cnt
  created _ := false
  taskState _ := .DEL
  pendOn _ := .NOTHING
  pendStatus _ := .OK
  tcbCur := idle
  prioCur := 0

/-- What it stands for: no task is there. -/
def Sys.empty (cnt : S → UInt32) : Sys T S where
  now := 0
  mode _ := .dormant
  due _ := none
  queue _ := []
  ctr := cnt
  told _ := .OK

theorem Rel.empty (prio : T → Fin osCfgPrioMax) (idle : T) (cnt : S → UInt32) :
    Rel prio idle (Os.empty prio idle cnt) (Sys.empty cnt) := by
  have hready : (Os.empty prio idle cnt).ready.Holds fun _ => [] :=
    ⟨kept_nil _, fun _ => rfl, fun p => by simp [Os.empty, PrioTable.has_zero]⟩
  have hpends : (Os.empty prio idle cnt).pends.Holds fun _ => [] :=
    ⟨kept_nil _, fun _ => rfl, fun _ _ => by simp [Os.empty]⟩
  have hwheel : (Os.empty prio idle cnt).wheel.Holds (fun _ => none) 0 fun _ => [] :=
    ⟨kept_nil _, fun _ => rfl, fun _ => rfl, fun _ _ => by simp [Os.empty], fun _ => rfl, rfl, nofun,
      nofun, fun _ => List.Pairwise.nil⟩
  exact ⟨rfl, rfl, ⟨_, hready, by simp [Sys.empty]⟩, hpends, ⟨_, hwheel⟩, rfl, fun _ => rfl,
    fun _ => not_waits nofun, rfl⟩

theorem Sys.Ok.empty (prio : T → Nat) (cnt : S → UInt32) : (Sys.empty cnt : Sys T S).Ok prio :=
  ⟨by simp [Sys.empty], fun _ => List.nodup_nil, nofun, nofun, fun _ => List.Pairwise.nil,
    fun s hne => absurd rfl hne⟩

theorem Sys.Later.empty (cnt : S → UInt32) : (Sys.empty cnt : Sys T S).Later := nofun

variable [DecidableEq T]

/-- **The start**: the idle task is there and runs. -/
theorem Sim.start (prio : T → Fin osCfgPrioMax) (idle : T) (cnt : S → UInt32) :
    Sim prio idle (Os.start prio idle cnt) (Sys.start idle cnt) := by
  have hok := Sys.Ok.empty (T := T) (fun t => prio t) cnt
  have hidle : (Sys.start idle cnt : Sys T S).mode idle = .ready := Function.update_self ..
  have hmake := (Rel.empty prio idle cnt).taskMake hok (t := idle) rfl
  obtain ⟨hrel, hrunning⟩ := hmake.ctxSw hidle
  exact ⟨hrel, hok.put idle (Or.inl rfl), (Sys.Later.empty cnt).wake idle .OK, hrunning, hidle⟩

/-! ### A call -/

theorem taskBlock_cur (os : Os T S) (t : T) (timeout : UInt32) :
    (os.taskBlock t timeout).tcbCur = os.tcbCur ∧ (os.taskBlock t timeout).prioCur = os.prioCur := by
  unfold Os.taskBlock
  split
  · split <;> exact ⟨rfl, rfl⟩
  · exact ⟨rfl, rfl⟩

/-- What a call leaves in front of the scheduler. -/
theorem Sim.sched {os' : Os T S} {a' : Sys T S} (h : Sim prio idle os a)
    (hrel : Rel prio idle os' a') (hidle : a'.mode idle = .ready)
    (hcur : os'.tcbCur = os.tcbCur ∧ os'.prioCur = os.prioCur) :
    Stands prio idle os'.sched a' := by
  refine hrel.sched hidle ?_
  rw [hcur.1, hcur.2, hrel.prioEq, ← h.rel.prioEq]
  exact h.running.prioCur

theorem Sim.timeDly (h : Sim prio idle os a) {dly : UInt32}
    (hidle : (if dly = 0 then a else a.block os.tcbCur .delayed dly).mode idle = .ready) :
    Stands prio idle (os.timeDly dly) (if dly = 0 then a else a.block os.tcbCur .delayed dly) := by
  unfold Os.timeDly
  by_cases hzero : dly = 0
  · rw [if_pos hzero, if_pos hzero]
    exact h.stands
  · obtain ⟨wheel, hinsert, hrel⟩ :=
      h.rel.delay h.ok h.running.ready (UInt32.pos_iff_ne_zero.mpr hzero)
    rw [if_neg hzero] at hidle
    simp only [if_neg hzero, hinsert]
    exact h.sched hrel hidle ⟨rfl, rfl⟩

theorem Sim.taskCreate (h : Sim prio idle os a) {t : T} (ht : os.taskState t = .DEL)
    (hidle : (if (prio t).val = osCfgPrioMax - 1 ∧ t ≠ idle then a else a.put t .ready).mode idle =
      .ready) :
    Stands prio idle (os.taskCreate t)
      (if (prio t).val = osCfgPrioMax - 1 ∧ t ≠ idle then a else a.put t .ready) := by
  rw [Os.taskCreate, h.rel.prioEq, h.rel.idleEq]
  split at hidle
  case isTrue hlow =>
    rw [if_pos hlow, if_pos hlow]
    exact h.stands
  case isFalse hlow =>
    rw [if_neg hlow, if_neg hlow]
    exact h.sched (h.rel.taskMake h.ok ((h.rel.dormant t).mp ht)) hidle ⟨rfl, rfl⟩

variable [DecidableEq S]

theorem post_cur (os : Os T S) (t : T) :
    (os.post t).tcbCur = os.tcbCur ∧ (os.post t).prioCur = os.prioCur := by
  unfold Os.post
  split <;> exact ⟨rfl, rfl⟩

theorem postLoop_cur (os : Os T S) (n : Nat) (p : Option T) :
    (os.postLoop n p).tcbCur = os.tcbCur ∧ (os.postLoop n p).prioCur = os.prioCur := by
  induction n generalizing os p with
  | zero => exact ⟨rfl, rfl⟩
  | succ n ih =>
      cases p with
      | none => exact ⟨rfl, rfl⟩
      | some t =>
          have hpost := post_cur os t
          have hrest := ih (os.post t) (os.pends.links.next t)
          exact ⟨hrest.1.trans hpost.1, hrest.2.trans hpost.2⟩

theorem Sim.semPend (h : Sim prio idle os a) {s : S} {timeout : UInt32}
    (hidle : (a.pend (fun t => prio t) os.tcbCur s timeout).mode idle = .ready) :
    Stands prio idle (os.semPend s timeout) (a.pend (fun t => prio t) os.tcbCur s timeout) := by
  rw [Sys.pend] at hidle ⊢
  rw [Os.semPend, h.rel.ctr]
  split at hidle
  case isTrue hctr =>
    rw [if_pos hctr, if_pos hctr]
    exact h.count _
  case isFalse hctr =>
    rw [if_neg hctr, if_neg hctr]
    exact h.sched (h.rel.pend h.ok h.running.ready s .SEM (by decide) timeout) hidle (taskBlock_cur ..)

theorem Sim.semPost (h : Sim prio idle os a) {s : S} {opt : PostOpt}
    (hidle : (a.post s opt).mode idle = .ready) :
    Stands prio idle (os.semPost s opt).1 (a.post s opt) := by
  rw [Sys.post] at hidle ⊢
  unfold Os.semPost
  simp only [h.rel.pends.ends, OsList.of, List.length_eq_zero_iff, h.rel.ctr]
  by_cases hnil : a.queue s = []
  · simp only [if_pos hnil]
    by_cases hovf : a.ctr s = 0xFFFFFFFF
    · simp only [if_pos hovf]
      exact h.stands
    · simp only [if_neg hovf]
      exact h.count _
  · simp only [if_neg hnil] at hidle ⊢
    have hloop := h.rel.postLoop (n := Sys.grants opt (a.queue s).length) (s := s) h.ok rfl
    exact h.sched (by cases opt <;> exact hloop) hidle (postLoop_cur ..)

theorem Sim.taskDel (h : Sim prio idle os a) {t : Option T}
    (hidle : (if t = some idle ∨ a.mode (t.getD os.tcbCur) = .dormant then a
      else a.put (t.getD os.tcbCur) .dormant).mode idle = .ready) :
    Stands prio idle (os.taskDel t)
      (if t = some idle ∨ a.mode (t.getD os.tcbCur) = .dormant then a
        else a.put (t.getD os.tcbCur) .dormant) := by
  by_cases ht : t = some idle
  · rw [if_pos (Or.inl ht), Os.taskDel, h.rel.idleEq, if_pos ht]
    exact h.stands
  · by_cases hmode : a.mode (t.getD os.tcbCur) = .dormant
    · have hdel := (h.rel.dormant _).mpr hmode
      rw [if_pos (Or.inr hmode), Os.taskDel, h.rel.idleEq, if_neg ht]
      simp only [hdel]
      exact h.stands
    · rw [if_neg (not_or.mpr ⟨ht, hmode⟩)] at hidle ⊢
      obtain ⟨os', hrel, hsched, hcur⟩ := h.rel.taskDel h.ok ht hmode
      rw [hsched]
      exact h.sched hrel hidle hcur

theorem Sim.tickTask (h : Sim prio idle os a) (hidle : a.tick.mode idle = .ready) :
    Stands prio idle os.tickTask a.tick := by
  have hrel := (h.rel.congr os.tcbCur osCfgTickTaskPrio).tickListUpdate h.ok h.later
  exact hrel.ctxSw hidle

/-- **A call of the kernel** does to the tasks and semaphores what is said of it, and afterwards
a task of the highest priority there is runs. -/
theorem Sim.step (h : Sim prio idle os a) {e : Call T S} (hadm : os.Admits e) :
    Sim prio idle (os.step e) (a.step (fun t => prio t) idle os.tcbCur e) := by
  have hidle := Sys.step_idle (fun t => prio t) h.idleReady (h.rel.admits hadm)
  have hstands : Stands prio idle (os.step e) (a.step (fun t => prio t) idle os.tcbCur e) := by
    cases e with
    | semPend s timeout => exact h.semPend hidle
    | semPost s opt => exact h.semPost hidle
    | timeDly dly => exact h.timeDly hidle
    | taskCreate t => exact h.taskCreate hadm hidle
    | taskDel t => exact h.taskDel hidle
    | tick => exact h.tickTask hidle
  exact ⟨hstands.1, h.ok.step h.running.ready e, h.later.step e, hstands.2, hidle⟩

/-! ### Runs -/

/-- The kernel, and what it stands for. -/
def both (prio : T → Fin osCfgPrioMax) (idle : T) (x : Os T S × Sys T S) (e : Call T S) :
    Os T S × Sys T S :=
  (x.1.step e, x.2.step (fun t => prio t) idle x.1.tcbCur e)

theorem Sim.runs {x : Os T S × Sys T S} (h : Sim prio idle x.1 x.2) {es : List (Call T S)}
    (hadm : AllSteps Os.step Os.Admits x.1 es) :
    Sim prio idle (run Os.step x.1 es) (run (both prio idle) x es).2 := by
  induction es generalizing x with
  | nil => exact h
  | cons e es ih => exact ih (x := both prio idle x e) (h.step hadm.1) hadm.2

/-- The state of the kernel behind the calls. -/
abbrev after (prio : T → Fin osCfgPrioMax) (idle : T) (cnt : S → UInt32) (es : List (Call T S)) :
    Os T S :=
  run Os.step (Os.start prio idle cnt) es

/-- The idle task never waits and is not made again, no task is made while it is there, and none is
deleted that was never made. -/
abbrev Calls (prio : T → Fin osCfgPrioMax) (idle : T) (cnt : S → UInt32) (es : List (Call T S)) :
    Prop :=
  AllSteps Os.step Os.Admits (Os.start prio idle cnt) es

/-- **The kernel does what it is for**: behind any calls its lists, its wheel and its words stand
for the tasks and semaphores as the same calls leave them, and the task that runs is one of the
highest priority there is. -/
theorem kernel_refines (prio : T → Fin osCfgPrioMax) (idle : T) (cnt : S → UInt32)
    (es : List (Call T S)) (h : Calls prio idle cnt es) :
    Rel prio idle (after prio idle cnt es)
        (run (both prio idle) (Os.start prio idle cnt, Sys.start idle cnt) es).2 ∧
      (after prio idle cnt es).taskState (after prio idle cnt es).tcbCur = .RDY ∧
      ∀ t, (after prio idle cnt es).taskState t = .RDY →
        prio (after prio idle cnt es).tcbCur ≤ prio t := by
  have hsim := Sim.runs (x := (Os.start prio idle cnt, Sys.start idle cnt)) (Sim.start prio idle cnt) h
  refine ⟨hsim.rel, (hsim.rel.isReady _).mpr hsim.running.ready, fun t ht => ?_⟩
  have hle := hsim.running.highest t ((hsim.rel.isReady t).mp ht)
  rwa [hsim.rel.prioEq] at hle

/-- Two tasks of one priority, of which the first waits. -/
theorem kernel_refines_two :
    (after (fun t : Fin 5 => if t = 0 then 62 else 5) 0 (fun _ : Unit => 0)
        [.taskCreate 1, .taskCreate 2, .semPend () 3]).taskState
      (after (fun t : Fin 5 => if t = 0 then 62 else 5) 0 (fun _ : Unit => 0)
        [.taskCreate 1, .taskCreate 2, .semPend () 3]).tcbCur = .RDY :=
  (kernel_refines (fun t : Fin 5 => if t = 0 then 62 else 5) 0 (fun _ : Unit => 0)
    [.taskCreate 1, .taskCreate 2, .semPend () 3] (by decide)).2.1

end

end SwiftAcu.Kernel
