/-
The kernel does what it is for.

The lists, the wheel and the words are related to the tasks and the semaphores they stand for,
and each function of the kernel is shown to do to the one what is said of the other.
-/
import SwiftAcu.Lib.Runs
import SwiftAcu.Proofs.Kernel.Sys
import SwiftAcu.Proofs.Kernel.Wheel

namespace SwiftAcu.Kernel

open DList

variable {T S : Type}

/-- The state of a task that does this, and is due or not. -/
def Mode.taskState (m : Mode S) (due : Option Nat) : TaskState :=
  match m, due with
  | .dormant, _ => .DEL
  | .ready, _ => .RDY
  | .delayed, _ => .DLY
  | .waiting _, none => .PEND
  | .waiting _, some _ => .PEND_TIMEOUT

/-- The task is in the queue of something. -/
def Mode.Waits (m : Mode S) : Prop := ∃ s, m = .waiting s

theorem not_waits {m : Mode S} (h : ∀ s, m ≠ .waiting s) : PendOn.NOTHING = .NOTHING ↔ ¬m.Waits :=
  iff_of_true rfl fun ⟨s, hs⟩ => h s hs

/-- The tasks that are ready are in the ready lists. -/
def Lists (prio : T → Nat) (mode : T → Mode S) (r : ReadyLists T) : Prop :=
  ∃ rdy, r.Holds rdy ∧ ∀ p t, t ∈ rdy p ↔ mode t = .ready ∧ prio t = p

/-- The kernel stands for the tasks and the semaphores. -/
structure Rel (prio : T → Fin osCfgPrioMax) (idle : T) (os : Os T S) (a : Sys T S) : Prop where
  prioEq : os.prio = prio
  idleEq : os.idle = idle
  ready : Lists (fun t => prio t) a.mode os.ready
  pends : os.pends.Holds a.queue
  wheel : ∃ spk, os.wheel.Holds a.due a.now spk
  ctr : os.semCtr = a.ctr
  state : ∀ t, os.taskState t = (a.mode t).taskState (a.due t)
  pendOn : ∀ t, os.pendOn t = .NOTHING ↔ ¬(a.mode t).Waits
  told : os.pendStatus = a.told

/-- The task that runs is ready, and nobody who is ready has a higher priority. -/
structure Running (os : Os T S) (a : Sys T S) : Prop where
  ready : a.mode os.tcbCur = .ready
  prioCur : os.prioCur = os.prio os.tcbCur
  highest : ∀ t, a.mode t = .ready → os.prio os.tcbCur ≤ os.prio t

section
variable {prio : T → Fin osCfgPrioMax} {idle : T} {os : Os T S} {a : Sys T S} {t : T}

/-! ### The scheduler -/

/-- What the scheduler changes is not told of the tasks. -/
theorem Rel.congr (h : Rel prio idle os a) (cur : T) (prioCur : Nat) :
    Rel prio idle { os with tcbCur := cur, prioCur } a :=
  ⟨h.prioEq, h.idleEq, h.ready, h.pends, h.wheel, h.ctr, h.state, h.pendOn, h.told⟩

theorem Rel.remain (h : Rel prio idle os a) (remain : T → UInt32) :
    Rel prio idle { os with wheel := { os.wheel with remain } } a := by
  obtain ⟨spk, hspk⟩ := h.wheel
  exact ⟨h.prioEq, h.idleEq, h.ready, h.pends, ⟨spk, hspk.congr remain⟩, h.ctr, h.state, h.pendOn,
    h.told⟩

/-- The head of the first list, and what is known of it. -/
theorem Rel.head (h : Rel prio idle os a) (ht : a.mode t = .ready) :
    ∃ u, os.ready.prioGetHighest = some (os.prio u).val ∧
      (os.ready.rdyList (os.prio u).val).headPtr = some u ∧ a.mode u = .ready ∧
      ∀ v, a.mode v = .ready → os.prio u ≤ os.prio v := by
  rw [h.prioEq]
  obtain ⟨rdy, hrdy, hmem⟩ := h.ready
  have htr : t ∈ rdy (prio t) := (hmem _ t).mpr ⟨ht, rfl⟩
  obtain ⟨q, u, hq, hu, hur, hleast⟩ := hrdy.highest (prio t).isLt htr
  obtain ⟨hready, rfl⟩ := (hmem q u).mp hur
  exact ⟨u, hq, hu, hready, fun v hv => hleast _ v ((hmem _ v).mpr ⟨hv, rfl⟩)⟩

/-- **Whoever goes on** is ready, and nobody who is ready has a higher priority. -/
theorem Rel.ctxSw (h : Rel prio idle os a) (ht : a.mode t = .ready) :
    Rel prio idle os.ctxSw a ∧ Running os.ctxSw a := by
  obtain ⟨u, hq, hu, hready, hleast⟩ := h.head ht
  have hsw : os.ctxSw = { os with tcbCur := u, prioCur := (os.prio u).val } := by
    simp only [Os.ctxSw, hq, hu]
  rw [hsw]
  exact ⟨h.congr u _, hready, rfl, hleast⟩

variable [DecidableEq T]

theorem Rel.sched (h : Rel prio idle os a) (ht : a.mode t = .ready)
    (hcur : os.prioCur = os.prio os.tcbCur) : Rel prio idle os.sched a ∧ Running os.sched a := by
  obtain ⟨u, hq, hu, hready, hleast⟩ := h.head ht
  have hsched : os.sched = if some u = some os.tcbCur then os else os.ctxSw := by
    simp only [Os.sched, hq, hu]
  by_cases hsame : u = os.tcbCur
  · subst hsame
    rw [hsched, if_pos rfl]
    exact ⟨h, hready, hcur, hleast⟩
  · rw [hsched, if_neg fun heq => hsame (Option.some.inj heq)]
    exact h.ctxSw ht

/-! ### One task -/

/-- A task that was not ready is put into the ready lists. -/
theorem Lists.insert {prio : T → Nat} {mode : T → Mode S} {r : ReadyLists T}
    (h : Lists prio mode r) (ht : mode t ≠ .ready) (prioCur : Nat) :
    Lists prio (Function.update mode t .ready) (r.insert prioCur (prio t) t) := by
  obtain ⟨rdy, hrdy, hmem⟩ := h
  obtain ⟨rdy', hrdy', hmem'⟩ :=
    hrdy.insert (p := prio t) (fun q hq => ht ((hmem q t).mp hq).1) prioCur
  refine ⟨rdy', hrdy', fun p u => ?_⟩
  rw [hmem', hmem]
  by_cases hu : u = t
  · subst hu
    rw [Function.update_self]
    exact ⟨fun hor => hor.elim (fun hand => absurd hand.1 ht) fun hand => ⟨rfl, hand.1.symm⟩,
      fun hand => Or.inr ⟨hand.2.symm, rfl⟩⟩
  · rw [Function.update_of_ne hu]
    exact ⟨fun hor => hor.resolve_right fun hand => hu hand.2, Or.inl⟩

/-- A task that was ready is taken out of the ready lists. -/
theorem Lists.remove {prio : T → Nat} {mode : T → Mode S} {r : ReadyLists T}
    (h : Lists prio mode r) (ht : mode t = .ready) {m : Mode S} (hm : m ≠ .ready) :
    Lists prio (Function.update mode t m) (r.remove (prio t) t) := by
  obtain ⟨rdy, hrdy, hmem⟩ := h
  obtain ⟨rdy', hrdy', hmem'⟩ := hrdy.remove ((hmem _ t).mpr ⟨ht, rfl⟩)
  refine ⟨rdy', hrdy', fun p u => ?_⟩
  rw [hmem', hmem]
  by_cases hu : u = t
  · subst hu
    rw [Function.update_self]
    exact ⟨fun hand => absurd rfl hand.2, fun hand => absurd hand.1 hm⟩
  · rw [Function.update_of_ne hu]
    exact and_iff_left hu

/-- A task that changes to something that is not ready, and was not, is in none. -/
theorem Lists.same {prio : T → Nat} {mode : T → Mode S} {r : ReadyLists T}
    (h : Lists prio mode r) (ht : mode t ≠ .ready) {m : Mode S} (hm : m ≠ .ready) :
    Lists prio (Function.update mode t m) r := by
  obtain ⟨rdy, hrdy, hmem⟩ := h
  refine ⟨rdy, hrdy, fun p u => ?_⟩
  rw [hmem]
  by_cases hu : u = t
  · subst hu
    rw [Function.update_self]
    exact ⟨fun hand => absurd hand.1 ht, fun hand => absurd hand.1 hm⟩
  · rw [Function.update_of_ne hu]

/-- What is said of a task that changes. -/
theorem Rel.state_update (h : Rel prio idle os a) (t : T) (m : Mode S) (d : Option Nat) (u : T) :
    Function.update os.taskState t (m.taskState d) u =
      (Function.update a.mode t m u).taskState (Function.update a.due t d u) := by
  by_cases hu : u = t
  · subst hu
    simp only [Function.update_self]
  · rw [Function.update_of_ne hu, Function.update_of_ne hu, Function.update_of_ne hu, h.state]

theorem Rel.pendOn_update (h : Rel prio idle os a) (t : T) {m : Mode S} {p : PendOn}
    (hp : p = .NOTHING ↔ ¬m.Waits) (u : T) :
    Function.update os.pendOn t p u = .NOTHING ↔ ¬(Function.update a.mode t m u).Waits := by
  by_cases hu : u = t
  · subst hu
    rw [Function.update_self, Function.update_self]
    exact hp
  · rw [Function.update_of_ne hu, Function.update_of_ne hu, h.pendOn]

/-! ### A task that stops -/

/-- When a task is due that stops now. -/
abbrev dueIn (now : Nat) (timeout : UInt32) : Option Nat :=
  if 0 < timeout then some (now + timeout.toNat) else none

/-- `OS_TaskBlock` puts the task onto the wheel if it waits for a time. -/
theorem taskBlock_eq (os : Os T S) {due : T → Option Nat} {now : Nat} {spk : Nat → List T} (s : S)
    (h : os.wheel.Holds due now spk) (hdue : due t = none) (timeout : UInt32) :
    ∃ wheel spk', os.taskBlock t timeout = { os with
        wheel
        taskState := Function.update os.taskState t
          ((Mode.waiting s).taskState (dueIn now timeout))
        ready := os.ready.remove (os.prio t) t } ∧
      wheel.Holds (Function.update due t (dueIn now timeout)) now spk' := by
  by_cases htime : 0 < timeout
  · obtain ⟨hnone, spk', hspk'⟩ := h.insert hdue htime
    have hinsert : os.wheel.insert t timeout = ((os.wheel.insert t timeout).1, .NONE) :=
      Prod.ext rfl hnone
    refine ⟨_, spk', ?_, by rw [dueIn, if_pos htime]; exact hspk'⟩
    rw [Os.taskBlock, if_pos htime, hinsert, dueIn, if_pos htime]
    rfl
  · refine ⟨os.wheel, spk, ?_, ?_⟩
    · rw [Os.taskBlock, if_neg htime, dueIn, if_neg htime]
      rfl
    · rw [dueIn, if_neg htime, ← hdue, Function.update_eq_self]
      exact h

/-- **A task that is delayed** is on the wheel, and not ready. -/
theorem Rel.delay (h : Rel prio idle os a) (ok : a.Ok fun t => prio t) (ht : a.mode t = .ready)
    {dly : UInt32} (hdly : 0 < dly) :
    ∃ wheel, os.wheel.insert t dly = (wheel, .NONE) ∧
      Rel prio idle { os with
        wheel
        taskState := Function.update os.taskState t .DLY
        ready := os.ready.remove (os.prio t) t } (a.block t .delayed dly) := by
  obtain ⟨spk, hspk⟩ := h.wheel
  obtain ⟨hnone, spk', hspk'⟩ := hspk.insert (Sys.due_of_ready ok ht) hdly
  refine ⟨_, Prod.ext rfl hnone, ?_⟩
  constructor
  · exact h.prioEq
  · exact h.idleEq
  · show Lists _ _ (os.ready.remove (os.prio t) t)
    rw [h.prioEq]
    exact h.ready.remove ht nofun
  · exact h.pends
  · refine ⟨spk', ?_⟩
    show (os.wheel.insert t dly).1.Holds (Function.update a.due t (dueIn a.now dly)) a.now spk'
    rw [dueIn, if_pos hdly]
    exact hspk'
  · exact h.ctr
  · exact h.state_update t .delayed (dueIn a.now dly)
  · have hsame : Function.update os.pendOn t .NOTHING = os.pendOn := by
      rw [Function.update_eq_self_iff, eq_comm, h.pendOn, ht]
      exact nofun
    exact hsame ▸ h.pendOn_update t (not_waits nofun)
  · exact h.told

/-! ### A task that is in no list -/

theorem Lists.cleared {mode : T → Mode S} {r : ReadyLists T} {prio : T → Nat}
    (h : Lists prio mode r) (ht : mode t ≠ .ready) :
    Lists prio mode
      { r with links := (r.links.setNext (some t) none).setPrev (some t) none } := by
  obtain ⟨rdy, hrdy, hmem⟩ := h
  have hnotin : ∀ p, t ∉ rdy p := fun p hp => ht ((hmem p t).mp hp).1
  exact ⟨rdy, ⟨kept_cleared hrdy.kept hnotin, hrdy.ends, hrdy.table⟩, hmem⟩

theorem wheel_cleared {w : TickWheel T} {due : T → Option Nat} {now : Nat} {spk : Nat → List T}
    (h : w.Holds due now spk) (hd : due t = none) :
    TickWheel.Holds { w with
      links := (w.links.setNext (some t) none).setPrev (some t) none
      spokePtr := Function.update w.spokePtr t none
      ctrMatch := Function.update w.ctrMatch t 0
      remain := Function.update w.remain t 0 } due now spk := by
  have hptr : Function.update w.spokePtr t none = w.spokePtr := by
    rw [Function.update_eq_self_iff, h.spot, hd]
    rfl
  refine ⟨kept_cleared h.kept (h.notMem hd), h.first, h.count, ?_, ?_, h.ctr, ?_, h.window, h.sorted⟩
  · rw [hptr]
    exact h.ptr
  · rw [hptr]
    exact h.spot
  · intro u e he
    have hu : u ≠ t := by
      rintro rfl
      rw [hd] at he
      cases he
    show Function.update w.ctrMatch t 0 u = _
    rw [Function.update_of_ne hu, h.ctrMatch u e he]

theorem pends_cleared {q : PendLists T S} {wait : S → List T} (h : q.Holds wait)
    (ht : ∀ s, t ∉ wait s) :
    PendLists.Holds { q with pendObj := Function.update q.pendObj t none } wait := by
  have hobj : Function.update q.pendObj t none = q.pendObj := by
    rw [Function.update_eq_self_iff]
    cases hobj : q.pendObj t with
    | none => rfl
    | some s => exact absurd ((h.obj s t).mpr hobj) (ht s)
  rw [hobj]
  exact h

/-- Of a task that does not wait, nothing is to be taken out of a queue. -/
theorem erase_queue (ok : a.Ok fun t => prio t) (ht : ∀ s, a.mode t ≠ .waiting s) :
    (fun s => (a.queue s).erase t) = a.queue :=
  funext fun s => List.erase_of_not_mem fun hmem => ht s ((ok.queue s t).mp hmem)

theorem update_due (hd : a.due t = none) : Function.update a.due t none = a.due := by
  rw [← hd, Function.update_eq_self]

/-! ### A task that is made or deleted -/

/-- What `OSTaskDel` leaves, in front of the scheduler. -/
abbrev Os.dropped (os : Os T S) (t : T) : Os T S :=
  { os.taskInitTCB t with taskState := Function.update (os.taskInitTCB t).taskState t .DEL }

/-- **A task that is no longer there**: it is in no list, and `OS_TaskInitTCB` clears the rest. -/
theorem Rel.gone (h : Rel prio idle os a) {r : ReadyLists T} {q : PendLists T S} {w : TickWheel T}
    (ok : a.Ok fun t => prio t)
    (hr : Lists (fun t => prio t) (Function.update a.mode t .dormant) r)
    (hq : q.Holds fun s => (a.queue s).erase t)
    (hw : ∃ spk, w.Holds (Function.update a.due t none) a.now spk) :
    Rel prio idle (({ os with ready := r, pends := q, wheel := w } : Os T S).dropped t)
      (a.put t .dormant) := by
  have hnot : ∀ s, t ∉ (a.queue s).erase t := fun s hmem => (ok.mem_erase.mp hmem).1 rfl
  obtain ⟨spk, hspk⟩ := hw
  constructor
  · exact h.prioEq
  · exact h.idleEq
  · exact hr.cleared (by rw [Function.update_self]; exact nofun)
  · exact pends_cleared hq hnot
  · exact ⟨spk, wheel_cleared hspk (Function.update_self ..)⟩
  · exact h.ctr
  · intro u
    show Function.update (Function.update os.taskState t .RDY) t .DEL u = _
    rw [Function.update_idem]
    exact h.state_update t .dormant none u
  · exact h.pendOn_update t (not_waits nofun)
  · show Function.update os.pendStatus t .OK = Function.update a.told t .OK
    rw [h.told]

/-- **A task that is made** is ready, behind the others of its priority. -/
theorem Rel.taskMake (h : Rel prio idle os a) (ok : a.Ok fun t => prio t)
    (ht : a.mode t = .dormant) : Rel prio idle (os.taskMake t) (a.put t .ready) := by
  have hnotReady : a.mode t ≠ .ready := by rw [ht]; exact nofun
  have hwait : ∀ s, a.mode t ≠ .waiting s := fun s => by rw [ht]; exact nofun
  have hdue : a.due t = none := Sys.due_none ok (by rw [ht]; exact nofun) hwait
  obtain ⟨spk, hspk⟩ := h.wheel
  obtain ⟨rdy, hrdy, hmem⟩ := h.ready.cleared hnotReady
  have hnotin : ∀ p, t ∉ rdy p := fun p hp => hnotReady ((hmem p t).mp hp).1
  constructor
  · exact h.prioEq
  · exact h.idleEq
  · show Lists _ (Function.update a.mode t .ready)
      ((ReadyLists.prioInsert (os.prio t) _).insertTail (os.prio t) t)
    rw [h.prioEq]
    refine ⟨_, hrdy.insertTail hnotin, fun p u => ?_⟩
    by_cases hp : p = prio t
    · subst hp
      rw [Function.update_self, List.mem_append, hmem, List.mem_singleton]
      by_cases hu : u = t
      · subst hu
        simp
      · simp [hu]
    · rw [Function.update_of_ne hp, hmem]
      by_cases hu : u = t
      · subst hu
        simp [ht, Ne.symm hp]
      · rw [Function.update_of_ne hu]
  · show PendLists.Holds _ fun s => (a.queue s).erase t
    rw [erase_queue ok hwait]
    exact pends_cleared h.pends fun s hs => hwait s ((ok.queue s t).mp hs)
  · refine ⟨spk, ?_⟩
    show TickWheel.Holds _ (Function.update a.due t none) _ _
    rw [update_due hdue]
    exact wheel_cleared hspk hdue
  · exact h.ctr
  · exact h.state_update t .ready none
  · exact h.pendOn_update t (not_waits nofun)
  · show Function.update os.pendStatus t .OK = Function.update a.told t .OK
    rw [h.told]

variable [DecidableEq S]

/-- **A task that waits** is in the queue of the semaphore. -/
theorem Rel.pend (h : Rel prio idle os a) (ok : a.Ok fun t => prio t)
    (hready : a.mode os.tcbCur = .ready) (s : S) (pending_on : PendOn) (hon : pending_on ≠ .NOTHING)
    (timeout : UInt32) : Rel prio idle (os.pend s pending_on timeout)
      { a.block os.tcbCur (.waiting s) timeout with
        queue := Function.update a.queue s
          (enqueue (fun t => prio t) os.tcbCur (a.queue s))
        told := Function.update a.told os.tcbCur .OK } := by
  obtain ⟨spk, hspk⟩ := h.wheel
  obtain ⟨wheel, spk', hblock, hwheel⟩ := taskBlock_eq { os with
    pendOn := Function.update os.pendOn os.tcbCur pending_on
    pendStatus := Function.update os.pendStatus os.tcbCur .OK } s hspk
    (Sys.due_of_ready ok hready) timeout
  have hready' := h.ready.remove hready (m := .waiting s) nofun
  have hpends := h.pends.insertPrio (fun t => prio t) (Sys.notMem_of_ready ok hready) s
  rw [Os.pend, hblock]
  generalize os.tcbCur = t at *
  constructor
  · exact h.prioEq
  · exact h.idleEq
  · show Lists _ _ (os.ready.remove (os.prio t) t)
    rw [h.prioEq]
    exact hready'
  · show (os.pends.insertPrio (fun u => os.prio u) s t).Holds _
    rw [h.prioEq]
    exact hpends
  · exact ⟨spk', hwheel⟩
  · exact h.ctr
  · exact h.state_update t (.waiting s) (dueIn a.now timeout)
  · exact h.pendOn_update t (iff_of_false hon fun hnot => hnot ⟨s, rfl⟩)
  · show Function.update os.pendStatus t .OK = Function.update a.told t .OK
    rw [h.told]

/-! ### A task that goes on -/

/-- The queues without a task, wherever it waits. -/
theorem pends_remove {prio : T → Nat} {q : PendLists T S} (h : q.Holds a.queue) (ok : a.Ok prio)
    (t : T) : (q.remove t).Holds fun s => (a.queue s).erase t := by
  by_cases hw : ∃ s, t ∈ a.queue s
  · obtain ⟨s, hs⟩ := hw
    have hupdate : (fun s => (a.queue s).erase t) =
        Function.update a.queue s ((a.queue s).erase t) := by
      funext s'
      by_cases hss : s' = s
      · subst hss
        rw [Function.update_self]
      · rw [Function.update_of_ne hss, List.erase_of_not_mem fun hmem => hss ?_]
        have hmode := (ok.queue s' t).mp hmem
        rw [(ok.queue s t).mp hs] at hmode
        cases hmode
        rfl
    rw [hupdate]
    exact h.remove hs
  · have hw : ∀ s, t ∉ a.queue s := not_exists.mp hw
    have hnone : q.pendObj t = none := by
      cases hobj : q.pendObj t with
      | none => rfl
      | some s => exact absurd ((h.obj s t).mpr hobj) (hw s)
    rw [pends_remove_of_none hnone, show (fun s => (a.queue s).erase t) = a.queue from
      funext fun s => List.erase_of_not_mem (hw s)]
    exact h

/-- **A task that goes on**: what `OS_Post` and `OS_TickListUpdate` do to it. -/
theorem Rel.wake (h : Rel prio idle os a) (ok : a.Ok fun t => prio t) (ht : a.mode t ≠ .ready)
    (told : PendStatus) :
    Rel prio idle { os with
      pends := os.pends.remove t
      wheel := os.wheel.remove t
      ready := os.ready.insert os.prioCur (os.prio t) t
      taskState := Function.update os.taskState t .RDY
      pendStatus := Function.update os.pendStatus t told
      pendOn := Function.update os.pendOn t .NOTHING } (a.wake t told) := by
  obtain ⟨spk, hspk⟩ := h.wheel
  constructor
  · exact h.prioEq
  · exact h.idleEq
  · show Lists _ _ (os.ready.insert os.prioCur (os.prio t) t)
    rw [h.prioEq]
    exact h.ready.insert ht os.prioCur
  · exact pends_remove h.pends ok t
  · exact ⟨_, hspk.remove t⟩
  · exact h.ctr
  · exact h.state_update t .ready none
  · exact h.pendOn_update t (not_waits nofun)
  · show Function.update os.pendStatus t told = Function.update a.told t told
    rw [h.told]

theorem Rel.post (h : Rel prio idle os a) (ok : a.Ok fun t => prio t) {s : S}
    (ht : a.mode t = .waiting s) : Rel prio idle (os.post t) (a.wake t .OK) := by
  have hwake := h.wake ok (by rw [ht]; exact nofun) .OK
  have hstate := h.state t
  rw [ht] at hstate
  rw [Os.post, hstate]
  cases a.due t with
  | none => exact hwake
  | some d => exact hwake

/-- **The loop of `OS_SemPost`** wakes the first of the queue. -/
theorem Rel.postLoop {n : Nat} {s : S} {xs : List T} (h : Rel prio idle os a)
    (ok : a.Ok fun t => prio t) (hxs : a.queue s = xs) :
    Rel prio idle (os.postLoop n xs.head?) ((xs.take n).foldl (fun a t => a.wake t .OK) a) := by
  induction n generalizing os a xs with
  | zero => exact h
  | succ n ih =>
      cases xs with
      | nil => exact h
      | cons t ts =>
          have hlist : IsList os.pends.links ([] ++ t :: ts) := by
            rw [List.nil_append, ← hxs]
            exact h.pends.kept.isList s
          have hmode : a.mode t = .waiting s := (ok.queue s t).mp (hxs ▸ List.mem_cons_self ..)
          have hrest : (a.wake t .OK).queue s = ts := by
            show (a.queue s).erase t = ts
            rw [hxs, List.erase_cons_head]
          rw [List.head?_cons, List.take_succ_cons, List.foldl_cons, Os.postLoop, hlist.next_eq]
          exact ih (h.post ok hmode) (ok.wake t .OK) hrest

/-- **A task that is deleted**, whatever it does. -/
theorem Rel.taskDel (h : Rel prio idle os a) (ok : a.Ok fun t => prio t) {x : Option T}
    (hx : x ≠ some idle) (ht : a.mode (x.getD os.tcbCur) ≠ .dormant) :
    ∃ os', Rel prio idle os' (a.put (x.getD os.tcbCur) .dormant) ∧
      os.taskDel x = os'.sched ∧ os'.tcbCur = os.tcbCur ∧ os'.prioCur = os.prioCur := by
  obtain rfl := h.prioEq
  obtain rfl := h.idleEq
  obtain ⟨spk, hspk⟩ := h.wheel
  have hstate := h.state (x.getD os.tcbCur)
  have hpendOn := h.pendOn (x.getD os.tcbCur)
  unfold Os.taskDel
  rw [if_neg hx]
  generalize x.getD os.tcbCur = t at *
  cases hmode : a.mode t with
  | dormant => exact absurd hmode ht
  | ready =>
      rw [hmode] at hstate
      simp only [hstate, Mode.taskState]
      refine ⟨_, h.gone ok (h.ready.remove hmode (m := .dormant) nofun) ?_ ⟨spk, ?_⟩, rfl, rfl, rfl⟩
      · rw [erase_queue ok fun s => by rw [hmode]; exact nofun]
        exact h.pends
      · rw [update_due (Sys.due_of_ready ok hmode)]
        exact hspk
  | delayed =>
      have hnotReady : a.mode t ≠ .ready := by rw [hmode]; exact nofun
      rw [hmode] at hstate
      simp only [hstate, Mode.taskState]
      refine ⟨_, h.gone ok (h.ready.same hnotReady (m := .dormant) nofun) ?_ ⟨_, hspk.remove t⟩,
        rfl, rfl, rfl⟩
      rw [erase_queue ok fun s => by rw [hmode]; exact nofun]
      exact h.pends
  | waiting s =>
      have hnotReady : a.mode t ≠ .ready := by rw [hmode]; exact nofun
      have hgone := h.gone ok (h.ready.same hnotReady (m := .dormant) nofun)
        (pends_remove h.pends ok t) ⟨_, hspk.remove t⟩
      rw [hmode] at hstate
      have hnot : os.pendOn t ≠ .NOTHING := fun heq => hpendOn.mp heq ⟨s, hmode⟩
      cases hdue : a.due t with
      | none =>
          rw [hdue] at hstate
          simp only [hstate, Mode.taskState]
          cases hon : os.pendOn t with
          | NOTHING => exact absurd hon hnot
          | SEM => exact ⟨_, hgone, rfl, rfl, rfl⟩
          | Q => exact ⟨_, hgone, rfl, rfl, rfl⟩
      | some d =>
          rw [hdue] at hstate
          simp only [hstate, Mode.taskState]
          cases hon : os.pendOn t with
          | NOTHING => exact absurd hon hnot
          | SEM => exact ⟨_, hgone, rfl, rfl, rfl⟩
          | Q => exact ⟨_, hgone, rfl, rfl, rfl⟩

/-! ### The tick -/

/-- A task that is not due yet ends the loop. -/
theorem tickLoop_stop {n d : Nat} (h : Rel prio idle os a) (ok : a.Ok fun t => prio t)
    (hdue : a.due t = some d) (hmatch : os.wheel.ctr ≠ os.wheel.ctrMatch t) :
    os.tickLoop (n + 1) (some t) = { os with wheel := { os.wheel with
      remain := Function.update os.wheel.remain t (os.wheel.ctrMatch t - os.wheel.ctr) } } := by
  have hstate := h.state t
  rw [hdue] at hstate
  rcases ok.stopped t d hdue with hmode | ⟨s, hmode⟩
  · rw [hmode] at hstate
    rw [Os.tickLoop, hstate]
    exact if_neg hmatch
  · rw [hmode] at hstate
    rw [Os.tickLoop, hstate]
    exact if_neg hmatch

/-- **A task that is due** goes on, and what it waited for is not what it is told. -/
theorem Rel.tick_due {n d : Nat} (h : Rel prio idle os a) (ok : a.Ok fun t => prio t)
    {spk : Nat → List T} (hspk : os.wheel.Holds a.due a.now spk) (hdue : a.due t = some d)
    (hmatch : os.wheel.ctr = os.wheel.ctrMatch t) :
    ∃ os', Rel prio idle os' (a.wake t ((a.mode t).dueTold (a.told t))) ∧
      os'.wheel.Holds (Function.update a.due t none) a.now (fun i => (spk i).erase t) ∧
      os.tickLoop (n + 1) (some t) = os'.tickLoop n (os.wheel.links.next t) := by
  have hstate := h.state t
  have hremain := h.remain (Function.update os.wheel.remain t
    (os.wheel.ctrMatch t - os.wheel.ctr))
  have hspk' := hspk.congr (Function.update os.wheel.remain t
    (os.wheel.ctrMatch t - os.wheel.ctr))
  rw [hdue] at hstate
  rcases ok.stopped t d hdue with hmode | ⟨s, hmode⟩
  · have hwake := hremain.wake ok (t := t) (by rw [hmode]; exact nofun) (a.told t)
    have hpends : os.pends.remove t = os.pends := by
      refine pends_remove_of_none ?_
      cases hobj : os.pends.pendObj t with
      | none => rfl
      | some s =>
          have hwaits := (ok.queue s t).mp ((h.pends.obj s t).mpr hobj)
          rw [hmode] at hwaits
          cases hwaits
    have htold : Function.update os.pendStatus t (a.told t) = os.pendStatus := by
      rw [Function.update_eq_self_iff, h.told]
    have hon : Function.update os.pendOn t .NOTHING = os.pendOn := by
      rw [Function.update_eq_self_iff, eq_comm, h.pendOn, hmode]
      exact nofun
    simp only [hpends, htold, hon] at hwake
    rw [hmode] at hstate ⊢
    refine ⟨_, hwake, hspk'.remove t, ?_⟩
    rw [Os.tickLoop, hstate]
    exact if_pos hmatch
  · have hwake := hremain.wake ok (t := t) (by rw [hmode]; exact nofun) .TIMEOUT
    rw [hmode] at hstate ⊢
    refine ⟨_, hwake, hspk'.remove t, ?_⟩
    rw [Os.tickLoop, hstate]
    exact if_pos hmatch

/-- **The loop of `OS_TickListUpdate`** wakes all that are due, and looks at no more than the
first that is not. -/
theorem Rel.tickLoop {n : Nat} {spk : Nat → List T} {xs : List T} (h : Rel prio idle os a)
    (ok : a.Ok fun t => prio t) (hspk : os.wheel.Holds a.due a.now spk)
    (hxs : spk (spokeOf a.now) = xs) (hn : xs.length ≤ n) :
    Rel prio idle (os.tickLoop n xs.head?) a.wakeDue := by
  induction n generalizing os a spk xs with
  | zero =>
      obtain rfl := List.eq_nil_of_length_eq_zero (Nat.le_zero.mp hn)
      rw [Sys.wakeDue_none (hspk.none_due (by rw [hxs]; exact nofun))]
      exact h
  | succ n ih =>
      cases xs with
      | nil =>
          rw [Sys.wakeDue_none (hspk.none_due (by rw [hxs]; exact nofun))]
          exact h
      | cons t ts =>
          obtain ⟨d, hdue, -⟩ := hspk.due_of_mem (hxs ▸ List.mem_cons_self ..)
          rw [List.head?_cons]
          by_cases hmatch : os.wheel.ctr = os.wheel.ctrMatch t
          · have hnow : d = a.now := (hspk.due_iff hdue).mp hmatch
            subst hnow
            have hlist : IsList os.wheel.links ([] ++ t :: ts) := by
              rw [List.nil_append, ← hxs]
              exact hspk.kept.isList _
            obtain ⟨os', hrel, hspk', hloop⟩ := h.tick_due (n := n) ok hspk hdue hmatch
            rw [hloop, hlist.next_eq, ← Sys.wakeDue_wake ok hdue]
            refine ih hrel (ok.wake t _) hspk' ?_ (Nat.le_of_succ_le_succ hn)
            show (spk (spokeOf a.now)).erase t = ts
            rw [hxs, List.erase_cons_head]
          · have hfirst : ∀ u ∈ (spk (spokeOf a.now)).head?, a.due u ≠ some a.now := by
              rintro u hu hnow
              rw [hxs, List.head?_cons, Option.mem_some_iff] at hu
              subst hu
              exact hmatch ((hspk.due_iff hnow).mpr rfl)
            rw [tickLoop_stop h ok hdue hmatch, Sys.wakeDue_none (hspk.none_due hfirst)]
            exact h.remain _

/-- **A tick** wakes all that are due now, whether or not the counter wraps. -/
theorem Rel.tickListUpdate (h : Rel prio idle os a) (ok : a.Ok fun t => prio t) (later : a.Later) :
    Rel prio idle os.tickListUpdate a.tick := by
  obtain ⟨spk, hspk⟩ := h.wheel
  have hctr : os.wheel.ctr + 1 = UInt32.ofNat (a.now + 1) := by
    rw [hspk.ctr, UInt32.ofNat_add]
    rfl
  have hspk' : TickWheel.Holds { os.wheel with ctr := os.wheel.ctr + 1 } a.due (a.now + 1) spk := by
    refine ⟨hspk.kept, hspk.first, hspk.count, hspk.ptr, hspk.spot, hctr, hspk.ctrMatch,
      fun t d hd => ?_, hspk.sorted⟩
    have hwindow := hspk.window t d hd
    have hlater := later t d hd
    omega
  have hrel : Rel prio idle { os with wheel := { os.wheel with ctr := os.wheel.ctr + 1 } }
      { a with now := a.now + 1 } :=
    ⟨h.prioEq, h.idleEq, h.ready, h.pends, ⟨spk, hspk'⟩, h.ctr, h.state, h.pendOn, h.told⟩
  have hspoke : (os.wheel.ctr + 1).toNat % osCfgTickWheelSize = spokeOf (a.now + 1) := by
    rw [hctr]
    rfl
  rw [Os.tickListUpdate]
  simp only [hspoke, hspk.first, hspk.count]
  exact hrel.tickLoop ⟨ok.queue, ok.nodup, ok.stopped, ok.delayed, ok.order, ok.free⟩ hspk' rfl le_rfl

end

end SwiftAcu.Kernel
