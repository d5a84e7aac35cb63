/-
The kernel: `OS_Pend`, `OS_Post`, `OS_TaskBlock`, `OS_TaskRdy` and the scheduler of `os_core.c`,
`OS_TickListUpdate` of `os_tick.c`, and the calls of it the program makes: `OSSemPend` and
`OSSemPost` of `os_sem.c`, `OSTimeDly` of `os_time.c`, `OSTaskCreate` and `OSTaskDel` of
`os_task.c`, and the functions of `bsp_os.c` that wrap those of the semaphores.

Each call runs with the interrupts off, and so does each round of `OS_TickTask`: they are the
steps.  A task that is suspended does not occur, because nothing suspends one, and neither does
a wait for something that is no semaphore.
-/
import SwiftAcu.Acu.Kernel.Lists
import SwiftAcu.Acu.Kernel.Tick

namespace SwiftAcu.Kernel

open DList

variable {T S : Type}

/-- `OS_CFG_TICK_TASK_PRIO`. -/
abbrev osCfgTickTaskPrio : Nat := 1

/-- `TaskState`. -/
inductive TaskState where
  | RDY
  | DLY
  | PEND
  | PEND_TIMEOUT
  | DEL
  deriving DecidableEq, Repr

/-- `PendOn`.  Nothing sets `Q` here, but `OSTaskDel` asks for it. -/
inductive PendOn where
  | NOTHING
  | SEM
  | Q
  deriving DecidableEq, Repr

/-- `PendStatus`. -/
inductive PendStatus where
  | OK
  | TIMEOUT
  deriving DecidableEq, Repr

/-- `opt` of `OSSemPost`. -/
inductive PostOpt where
  /-- `OS_OPT_POST_1`. -/
  | post1
  /-- `OS_OPT_POST_ALL`. -/
  | postAll
  deriving DecidableEq, Repr

/-- What happens in the kernel. -/
inductive Call (T S : Type) where
  | semPend (obj : S) (timeout : UInt32)
  | semPost (obj : S) (opt : PostOpt)
  | timeDly (dly : UInt32)
  | taskCreate (tcb : T)
  | taskDel (tcb : Option T)
  | tick
  deriving DecidableEq

/-- What `BSP_OS_Sem_Pend` calls; it hands over milliseconds as ticks. -/
def Call.bspOsSemPend (obj : S) (timeoutMs : UInt32) : Call T S := .semPend obj timeoutMs

/-- What `BSP_OS_Sem_Post` calls. -/
def Call.bspOsSemPost (obj : S) : Call T S := .semPost obj .postAll

/-- The state of the kernel.  What a task is created with, its priority, stays what it is. -/
structure Os (T S : Type) where
  prio : T → Fin osCfgPrioMax
  /-- `OSIdleTaskTCB`. -/
  idle : T
  ready : ReadyLists T
  pends : PendLists T S
  wheel : TickWheel T
  /-- `Ctr` of the semaphores. -/
  semCtr : S → UInt32
  /-- Whether `OSTaskCreate` has been called with the control block; no call reads it. -/
  created : T → Bool
  /-- A control block that was never in a call holds zeros, which read `RDY`; it is `DEL` here, and
  a call that would read it is left out of the runs. -/
  taskState : T → TaskState
  pendOn : T → PendOn
  pendStatus : T → PendStatus
  /-- `OSTCBCurPtr`. -/
  tcbCur : T
  /-- `OSPrioCur`. -/
  prioCur : Nat

namespace Os

variable [DecidableEq T] [DecidableEq S]

/-- `OS_TaskBlock`. -/
def taskBlock (tcb : T) (timeout : UInt32) (os : Os T S) : Os T S :=
  let os :=
    if 0 < timeout then
      match os.wheel.insert tcb timeout with
      | (wheel, .NONE) =>
        { os with wheel, taskState := Function.update os.taskState tcb .PEND_TIMEOUT }
      | (wheel, _) => { os with wheel, taskState := Function.update os.taskState tcb .PEND }
    else { os with taskState := Function.update os.taskState tcb .PEND }
  { os with ready := os.ready.remove (os.prio tcb) tcb }

/-- `OS_TaskRdy`. -/
def taskRdy (tcb : T) (os : Os T S) : Os T S :=
  { os with
    wheel := os.wheel.remove tcb
    ready := os.ready.insert os.prioCur (os.prio tcb) tcb }

/-- `OS_Pend`. -/
def pend (obj : S) (pending_on : PendOn) (timeout : UInt32) (os : Os T S) : Os T S :=
  let cur := os.tcbCur
  let os := { os with
    pendOn := Function.update os.pendOn cur pending_on
    pendStatus := Function.update os.pendStatus cur .OK }
  let os := os.taskBlock cur timeout
  { os with pends := os.pends.insertPrio (fun t => os.prio t) obj cur }

/-- `OS_Post`. -/
def post (tcb : T) (os : Os T S) : Os T S :=
  match os.taskState tcb with
  | .PEND | .PEND_TIMEOUT =>
    let os := { os with pends := os.pends.remove tcb }
    let os := os.taskRdy tcb
    { os with
      taskState := Function.update os.taskState tcb .RDY
      pendStatus := Function.update os.pendStatus tcb .OK
      pendOn := Function.update os.pendOn tcb .NOTHING }
  | .RDY | .DLY | .DEL => os

/-- The task at the head of the ready list of the highest priority goes on. -/
def ctxSw (os : Os T S) : Os T S :=
  match os.ready.prioGetHighest with
  | none => os
  | some prioHighRdy =>
    match (os.ready.rdyList prioHighRdy).headPtr with
    | none => os
    | some tcbHighRdy => { os with tcbCur := tcbHighRdy, prioCur := prioHighRdy }

/-- `OSSched`, and `OSIntExit` of the last interrupt. -/
def sched (os : Os T S) : Os T S :=
  match os.ready.prioGetHighest with
  | none => os
  | some prioHighRdy =>
    if (os.ready.rdyList prioHighRdy).headPtr = some os.tcbCur then os else os.ctxSw

/-! ### The tick -/

/-- The loop of `OS_TickListUpdate`, over as many entries as the spoke has at most. -/
def tickLoop : Nat → Option T → Os T S → Os T S
  | 0, _, os => os
  | _, none, os => os
  | n + 1, some tcb, os =>
    let next := os.wheel.links.next tcb
    match os.taskState tcb with
    | .RDY | .PEND | .DEL => tickLoop n next os
    | .DLY =>
      let os := { os with wheel := { os.wheel with
        remain := Function.update os.wheel.remain tcb (os.wheel.ctrMatch tcb - os.wheel.ctr) } }
      if os.wheel.ctr = os.wheel.ctrMatch tcb then
        let os := { os with taskState := Function.update os.taskState tcb .RDY }
        tickLoop n next (os.taskRdy tcb)
      else os
    | .PEND_TIMEOUT =>
      let os := { os with wheel := { os.wheel with
        remain := Function.update os.wheel.remain tcb (os.wheel.ctrMatch tcb - os.wheel.ctr) } }
      if os.wheel.ctr = os.wheel.ctrMatch tcb then
        let os := { os with pends := os.pends.remove tcb }
        let os := os.taskRdy tcb
        tickLoop n next { os with
          taskState := Function.update os.taskState tcb .RDY
          pendStatus := Function.update os.pendStatus tcb .TIMEOUT
          pendOn := Function.update os.pendOn tcb .NOTHING }
      else os

/-- `OS_TickListUpdate`. -/
def tickListUpdate (os : Os T S) : Os T S :=
  let os := { os with wheel := { os.wheel with ctr := os.wheel.ctr + 1 } }
  let spoke := os.wheel.spoke (os.wheel.ctr.toNat % osCfgTickWheelSize)
  os.tickLoop spoke.nbrEntries spoke.firstPtr

/-- A round of `OS_TickTask`: it runs at its own priority, and when it waits again the task of
the highest priority goes on. -/
def tickTask (os : Os T S) : Os T S :=
  ({ os with prioCur := osCfgTickTaskPrio } : Os T S).tickListUpdate.ctxSw

/-! ### The calls -/

/-- `OSSemPend`, with `OS_OPT_PEND_BLOCKING`; what a task that waits is told is its `PendStatus`
when it goes on. -/
def semPend (obj : S) (timeout : UInt32) (os : Os T S) : Os T S :=
  if 0 < os.semCtr obj then
    { os with semCtr := Function.update os.semCtr obj (os.semCtr obj - 1) }
  else (os.pend obj .SEM timeout).sched

/-- The loop of `OS_SemPost`. -/
def postLoop : Nat → Option T → Os T S → Os T S
  | 0, _, os => os
  | _, none, os => os
  | cnt + 1, some tcb, os =>
    let next := os.pends.links.next tcb
    postLoop cnt next (os.post tcb)

/-- `OS_SemPost`. -/
def semPost (obj : S) (opt : PostOpt) (os : Os T S) : Os T S × OsErr :=
  let l := os.pends.pendList obj
  if l.nbrEntries = 0 then
    if os.semCtr obj = 0xFFFFFFFF then (os, .SEM_OVF)
    else ({ os with semCtr := Function.update os.semCtr obj (os.semCtr obj + 1) }, .NONE)
  else
    let cnt := match opt with
      | .postAll => l.nbrEntries
      | .post1 => 1
    ((os.postLoop cnt l.headPtr).sched, .NONE)

/-- `OSTimeDly`. -/
def timeDly (dly : UInt32) (os : Os T S) : Os T S :=
  if dly = 0 then os
  else
    let cur := os.tcbCur
    let os := { os with taskState := Function.update os.taskState cur .DLY }
    match os.wheel.insert cur dly with
    | (wheel, .NONE) =>
      { os with wheel, ready := os.ready.remove (os.prio cur) cur }.sched
    | (wheel, _) => { os with wheel }

/-- `OS_TaskInitTCB`. -/
def taskInitTCB (tcb : T) (os : Os T S) : Os T S :=
  { os with
    ready := { os.ready with
      links := (os.ready.links.setNext (some tcb) none).setPrev (some tcb) none }
    wheel := { os.wheel with
      links := (os.wheel.links.setNext (some tcb) none).setPrev (some tcb) none
      spokePtr := Function.update os.wheel.spokePtr tcb none
      ctrMatch := Function.update os.wheel.ctrMatch tcb 0
      remain := Function.update os.wheel.remain tcb 0 }
    pends := { os.pends with pendObj := Function.update os.pends.pendObj tcb none }
    pendOn := Function.update os.pendOn tcb .NOTHING
    pendStatus := Function.update os.pendStatus tcb .OK
    taskState := Function.update os.taskState tcb .RDY }

/-- The part of `OSTaskCreate` in front of the scheduler. -/
def taskMake (tcb : T) (os : Os T S) : Os T S :=
  let os := os.taskInitTCB tcb
  { os with
    created := Function.update os.created tcb true
    ready := (os.ready.prioInsert (os.prio tcb)).insertTail (os.prio tcb) tcb }

/-- `OSTaskCreate`. -/
def taskCreate (tcb : T) (os : Os T S) : Os T S :=
  if (os.prio tcb).val = osCfgPrioMax - 1 ∧ tcb ≠ os.idle then os else (os.taskMake tcb).sched

/-- `OSTaskDel`. -/
def taskDel (tcb : Option T) (os : Os T S) : Os T S :=
  if tcb = some os.idle then os
  else
    let tcb := tcb.getD os.tcbCur
    let deleted (os : Os T S) :=
      let os := os.taskInitTCB tcb
      { os with taskState := Function.update os.taskState tcb .DEL }.sched
    match os.taskState tcb with
    | .RDY => deleted { os with ready := os.ready.remove (os.prio tcb) tcb }
    | .DLY => deleted { os with wheel := os.wheel.remove tcb }
    | .PEND | .PEND_TIMEOUT =>
      let os := { os with wheel := os.wheel.remove tcb }
      match os.pendOn tcb with
      | .NOTHING => deleted os
      | .SEM | .Q => deleted { os with pends := os.pends.remove tcb }
    | .DEL => os

def step (os : Os T S) : Call T S → Os T S
  | .semPend obj timeout => os.semPend obj timeout
  | .semPost obj opt => (os.semPost obj opt).1
  | .timeDly dly => os.timeDly dly
  | .taskCreate tcb => os.taskCreate tcb
  | .taskDel tcb => os.taskDel tcb
  | .tick => os.tickTask

/-- The kernel behind `OSInit`, `OSSemCreate` and `OSStart`: the idle task runs. -/
def start (prio : T → Fin osCfgPrioMax) (idle : T) (cnt : S → UInt32) : Os T S :=
  let os : Os T S := {
    prio
    idle
    ready := ⟨fun _ => 0, fun _ => .empty, ⟨fun _ => none, fun _ => none⟩⟩
    pends := ⟨fun _ => .empty, ⟨fun _ => none, fun _ => none⟩, fun _ => none⟩
    wheel := ⟨0, fun _ => ⟨none, 0, 0⟩, ⟨fun _ => none, fun _ => none⟩, fun _ => none, fun _ => 0,
      fun _ => 0⟩
    semCtr := cnt
    created := fun _ => false
    taskState := fun _ => .DEL
    pendOn := fun _ => .NOTHING
    pendStatus := fun _ => .OK
    tcbCur := idle
    prioCur := 0 }
  (os.taskMake idle).ctxSw

end Os

end SwiftAcu.Kernel
