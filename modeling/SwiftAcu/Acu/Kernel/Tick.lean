/-
The tick wheel: `OS_TickListInsert` and `OS_TickListRemove` of `os_tick.c`.

A task that is delayed, or waits for a time, is on the spoke of the tick it is due at.  Of the
three ways to say when that is only the one the program uses is here, so many ticks from now:
`OS_OPT_TIME_TIMEOUT` and `OS_OPT_TIME_DLY`, which the source does not tell apart.
-/
import SwiftAcu.Lib.DList

namespace SwiftAcu.Kernel

open DList

variable {T : Type}

/-- `OS_CFG_TICK_WHEEL_SIZE`. -/
abbrev osCfgTickWheelSize : Nat := 16

/-- What the calls say. -/
inductive OsErr where
  | NONE
  | TIME_ZERO_DLY
  | SEM_OVF
  | TASK_DEL_IDLE
  | PRIO_INVALID
  | STATE_INVALID
  deriving DecidableEq, Repr

/-- `OS_TICK_SPOKE`. -/
structure Spoke (T : Type) where
  firstPtr : Option T
  nbrEntries : Nat
  nbrEntriesMax : Nat

/-- `OSTickCtr`, `OSCfg_TickWheel`, and of each task `TickNextPtr` and `TickPrevPtr`,
`TickSpokePtr`, `TickCtrMatch` and `TickRemain`. -/
structure TickWheel (T : Type) where
  ctr : UInt32
  spoke : Nat → Spoke T
  links : Links T
  spokePtr : T → Option Nat
  ctrMatch : T → UInt32
  remain : T → UInt32

namespace TickWheel

variable [DecidableEq T]

/-- The loop of `OS_TickListInsert`, from the entry `tcb1` on, over as many entries as there are
at most. -/
def insertLoop (tcb : T) (ix : Nat) : Nat → Option T → TickWheel T → TickWheel T
  | 0, _, w => w
  | _, none, w => w
  | n + 1, some tcb1, w =>
    let w := { w with remain := Function.update w.remain tcb1 (w.ctrMatch tcb1 - w.ctr) }
    if w.remain tcb1 < w.remain tcb then
      match w.links.next tcb1 with
      | some next => insertLoop tcb ix n (some next) w
      | none =>
        { w with
          links := ((w.links.setNext (some tcb) none).setPrev (some tcb) (some tcb1)).setNext
            (some tcb1) (some tcb) }
    else
      match w.links.prev tcb1 with
      | none =>
        { w with
          links := ((w.links.setPrev (some tcb) none).setNext (some tcb) (some tcb1)).setPrev
            (some tcb1) (some tcb)
          spoke := Function.update w.spoke ix { w.spoke ix with firstPtr := some tcb } }
      | some tcb0 =>
        { w with
          links := (((w.links.setPrev (some tcb) (some tcb0)).setNext (some tcb)
            (some tcb1)).setNext (some tcb0) (some tcb)).setPrev (some tcb1) (some tcb) }

/-- `OS_TickListInsert`, where `time` counts from now. -/
def insert (tcb : T) (time : UInt32) (w : TickWheel T) : TickWheel T × OsErr :=
  if 0 < time then
    let w := { w with
      ctrMatch := Function.update w.ctrMatch tcb (w.ctr + time)
      remain := Function.update w.remain tcb time }
    let ix := (w.ctrMatch tcb).toNat % osCfgTickWheelSize
    let w :=
      if (w.spoke ix).nbrEntries = 0 then
        { w with
          links := (w.links.setNext (some tcb) none).setPrev (some tcb) none
          spoke := Function.update w.spoke ix
            { w.spoke ix with firstPtr := some tcb, nbrEntries := 1 } }
      else
        let w := insertLoop tcb ix (w.spoke ix).nbrEntries (w.spoke ix).firstPtr w
        { w with
          spoke := Function.update w.spoke ix
            { w.spoke ix with nbrEntries := (w.spoke ix).nbrEntries + 1 } }
    let s := w.spoke ix
    ({ w with
      spoke := Function.update w.spoke ix
        { s with nbrEntriesMax := max s.nbrEntriesMax s.nbrEntries }
      spokePtr := Function.update w.spokePtr tcb (some ix) }, .NONE)
  else
    ({ w with
      ctrMatch := Function.update w.ctrMatch tcb 0
      remain := Function.update w.remain tcb 0
      spokePtr := Function.update w.spokePtr tcb none }, .TIME_ZERO_DLY)

/-- `OS_TickListRemove`. -/
def remove (tcb : T) (w : TickWheel T) : TickWheel T :=
  match w.spokePtr tcb with
  | none => w
  | some ix =>
    let s := w.spoke ix
    let unlinked (links : Links T) := (links.setNext (some tcb) none).setPrev (some tcb) none
    let next := w.links.next tcb
    let w :=
      if s.firstPtr = some tcb then
        { w with
          spoke := Function.update w.spoke ix
            { s with firstPtr := next, nbrEntries := s.nbrEntries - 1 }
          links := unlinked (w.links.setPrev next none) }
      else
        let prev := w.links.prev tcb
        { w with
          spoke := Function.update w.spoke ix { s with nbrEntries := s.nbrEntries - 1 }
          links := unlinked ((w.links.setNext prev next).setPrev next prev) }
    { w with
      remain := Function.update w.remain tcb 0
      ctrMatch := Function.update w.ctrMatch tcb 0
      spokePtr := Function.update w.spokePtr tcb none }

end TickWheel

end SwiftAcu.Kernel
