/-
The lists of the kernel: the table of priorities of `os_prio.c`, and the ready lists and the
wait lists of `os_core.c`.

A pointer of the source is an `Option` here, and what the source would write through a null
pointer is not written.  The control block of a task and the `OS_PEND_DATA` it waits with are
both named by the task.
-/
import SwiftAcu.Lib.DList
import SwiftAcu.Lib.PrioTable

namespace SwiftAcu.Kernel

open DList

variable {T : Type}

/-- `OS_CFG_PRIO_MAX`. -/
abbrev osCfgPrioMax : Nat := 63

/-- `DEF_INT_CPU_NBR_BITS`. -/
abbrev defIntCpuNbrBits : Nat := 32

/-- `OS_PRIO_TBL_SIZE`. -/
abbrev osPrioTblSize : Nat := (osCfgPrioMax - 1) / defIntCpuNbrBits + 1

/-- `OS_RDY_LIST`, or the list in `OS_PEND_LIST`.  A task is in a list once, so that the 16 bits of
`NbrEntries` hold the length of any list of fewer than 2^16 tasks; they are a `Nat` here. -/
structure OsList (T : Type) where
  headPtr : Option T
  tailPtr : Option T
  nbrEntries : Nat
  deriving DecidableEq

namespace OsList

def empty : OsList T := ⟨none, none, 0⟩

end OsList

/-! ### The ready lists -/

/-- `OSPrioTbl`, `OSRdyList`, and `NextPtr` and `PrevPtr` of the tasks. -/
structure ReadyLists (T : Type) where
  prioTbl : Nat → BitVec defIntCpuNbrBits
  rdyList : Nat → OsList T
  links : Links T

namespace ReadyLists

/-- `OS_PrioGetHighest`; behind the last word the source would read on. -/
def prioGetHighest (r : ReadyLists T) : Option Nat :=
  PrioTable.first ((List.range osPrioTblSize).map r.prioTbl)

/-- `OS_PrioInsert`. -/
def prioInsert (prio : Nat) (r : ReadyLists T) : ReadyLists T :=
  let ix := prio / defIntCpuNbrBits
  let bitNbr := prio &&& (defIntCpuNbrBits - 1)
  let bit : BitVec defIntCpuNbrBits := 1 <<< ((defIntCpuNbrBits - 1) - bitNbr)
  { r with prioTbl := Function.update r.prioTbl ix (r.prioTbl ix ||| bit) }

/-- `OS_PrioRemove`. -/
def prioRemove (prio : Nat) (r : ReadyLists T) : ReadyLists T :=
  let ix := prio / defIntCpuNbrBits
  let bitNbr := prio &&& (defIntCpuNbrBits - 1)
  let bit : BitVec defIntCpuNbrBits := 1 <<< ((defIntCpuNbrBits - 1) - bitNbr)
  { r with prioTbl := Function.update r.prioTbl ix (r.prioTbl ix &&& ~~~bit) }

variable [DecidableEq T]

/-- `OS_RdyListInsertHead`, for a task of priority `prio`. -/
def insertHead (prio : Nat) (tcb : T) (r : ReadyLists T) : ReadyLists T :=
  let l := r.rdyList prio
  if l.nbrEntries = 0 then
    { r with
      links := (r.links.setNext (some tcb) none).setPrev (some tcb) none
      rdyList := Function.update r.rdyList prio ⟨some tcb, some tcb, 1⟩ }
  else
    { r with
      links := ((r.links.setNext (some tcb) l.headPtr).setPrev (some tcb) none).setPrev
        l.headPtr (some tcb)
      rdyList := Function.update r.rdyList prio ⟨some tcb, l.tailPtr, l.nbrEntries + 1⟩ }

/-- `OS_RdyListInsertTail`. -/
def insertTail (prio : Nat) (tcb : T) (r : ReadyLists T) : ReadyLists T :=
  let l := r.rdyList prio
  if l.nbrEntries = 0 then
    { r with
      links := (r.links.setNext (some tcb) none).setPrev (some tcb) none
      rdyList := Function.update r.rdyList prio ⟨some tcb, some tcb, 1⟩ }
  else
    { r with
      links := ((r.links.setNext (some tcb) none).setPrev (some tcb) l.tailPtr).setNext
        l.tailPtr (some tcb)
      rdyList := Function.update r.rdyList prio ⟨l.headPtr, some tcb, l.nbrEntries + 1⟩ }

/-- `OS_RdyListInsert`, where `prioCur` is `OSPrioCur`. -/
def insert (prioCur prio : Nat) (tcb : T) (r : ReadyLists T) : ReadyLists T :=
  if prio = prioCur then (r.prioInsert prio).insertTail prio tcb
  else (r.prioInsert prio).insertHead prio tcb

/-- `OS_RdyListRemove`. -/
def remove (prio : Nat) (tcb : T) (r : ReadyLists T) : ReadyLists T :=
  let l := r.rdyList prio
  let tcb1 := r.links.prev tcb
  let tcb2 := r.links.next tcb
  let unlinked (links : Links T) := (links.setPrev (some tcb) none).setNext (some tcb) none
  match tcb1, tcb2 with
  | none, none =>
    { r.prioRemove prio with
      links := unlinked r.links
      rdyList := Function.update r.rdyList prio .empty }
  | none, some _ =>
    { r with
      links := unlinked (r.links.setPrev tcb2 none)
      rdyList := Function.update r.rdyList prio ⟨tcb2, l.tailPtr, l.nbrEntries - 1⟩ }
  | some _, none =>
    { r with
      links := unlinked (r.links.setNext tcb1 tcb2)
      rdyList := Function.update r.rdyList prio ⟨l.headPtr, tcb1, l.nbrEntries - 1⟩ }
  | some _, some _ =>
    { r with
      links := unlinked ((r.links.setNext tcb1 tcb2).setPrev tcb2 tcb1)
      rdyList := Function.update r.rdyList prio { l with nbrEntries := l.nbrEntries - 1 } }

end ReadyLists

/-! ### The wait lists -/

variable {S : Type}

/-- The `PendList` of the semaphores, and what the tasks wait with: `PrevPtr`, `NextPtr` and
`PendObjPtr` of the `OS_PEND_DATA` of each task, and `PendDataTblEntries`, of which a task that
waits for a semaphore has one. -/
structure PendLists (T S : Type) where
  pendList : S → OsList T
  links : Links T
  pendObj : T → Option S

namespace PendLists

variable [DecidableEq T] [DecidableEq S]

/-- The loop of `OS_PendListInsertPrio`, over as many entries as there are at most. -/
def findPrio (prio : T → Nat) (tcb : T) (links : Links T) : Nat → Option T → Option T
  | 0, _ => none
  | _, none => none
  | n + 1, some next =>
    if prio tcb < prio next then some next else findPrio prio tcb links n (links.next next)

/-- `OS_PendListInsertPrio`, behind `OS_PendDataInit`. -/
def insertPrio (prio : T → Nat) (obj : S) (tcb : T) (q : PendLists T S) : PendLists T S :=
  let l := q.pendList obj
  let q := { q with
    pendObj := Function.update q.pendObj tcb (some obj)
    links := (q.links.setNext (some tcb) none).setPrev (some tcb) none }
  if l.nbrEntries = 0 then
    { q with pendList := Function.update q.pendList obj ⟨some tcb, some tcb, 1⟩ }
  else
    match findPrio prio tcb q.links l.nbrEntries l.headPtr with
    | none =>
      { q with
        links := ((q.links.setNext (some tcb) none).setPrev (some tcb) l.tailPtr).setNext
          l.tailPtr (some tcb)
        pendList := Function.update q.pendList obj ⟨l.headPtr, some tcb, l.nbrEntries + 1⟩ }
    | some next =>
      match q.links.prev next with
      | none =>
        { q with
          links := ((q.links.setPrev (some next) (some tcb)).setPrev (some tcb) none).setNext
            (some tcb) (some next)
          pendList := Function.update q.pendList obj ⟨some tcb, l.tailPtr, l.nbrEntries + 1⟩ }
      | some prev =>
        { q with
          links := (((q.links.setPrev (some tcb) (some prev)).setNext (some tcb)
            (some next)).setNext (some prev) (some tcb)).setPrev (some next) (some tcb)
          pendList := Function.update q.pendList obj { l with nbrEntries := l.nbrEntries + 1 } }

/-- `OS_PendListRemove1`. -/
def remove1 (obj : S) (tcb : T) (q : PendLists T S) : PendLists T S :=
  let l := q.pendList obj
  let prev := q.links.prev tcb
  let next := q.links.next tcb
  let unlinked (links : Links T) := (links.setNext (some tcb) none).setPrev (some tcb) none
  if l.nbrEntries = 1 then
    { q with
      links := unlinked q.links
      pendList := Function.update q.pendList obj .empty }
  else if prev = none then
    { q with
      links := unlinked (q.links.setPrev next none)
      pendList := Function.update q.pendList obj ⟨next, l.tailPtr, l.nbrEntries - 1⟩ }
  else if next = none then
    { q with
      links := unlinked (q.links.setNext prev none)
      pendList := Function.update q.pendList obj ⟨l.headPtr, prev, l.nbrEntries - 1⟩ }
  else
    { q with
      links := unlinked ((q.links.setNext prev next).setPrev next prev)
      pendList := Function.update q.pendList obj { l with nbrEntries := l.nbrEntries - 1 } }

/-- `OS_PendListRemove`. -/
def remove (tcb : T) (q : PendLists T S) : PendLists T S :=
  match q.pendObj tcb with
  | none => q
  | some obj => { q.remove1 obj tcb with pendObj := Function.update q.pendObj tcb none }

end PendLists

end SwiftAcu.Kernel
