/-
Receiving a frame, with the arrays it passes through: `…_RxBuffCheck` and
`…_RxBuffRecv` of `app_pccomm.c` and `app_oledcomm.c`.

`PcComm.rxBuffCheck` is the check with no array around the bytes.  Here every index is
looked up in the array it belongs to, and `none` is an access outside.  The two
protocols share their text but not the type of `*len`: where the PC computes
`*len - 2` in an `int`, the front panel computes it in an `INT32U`.
-/
import SwiftAcu.Acu.PcComm

namespace SwiftAcu.RxFrame

/-! ### Arrays -/

/-- `buff[i]`. -/
def index (buff : List UInt8) (i : Int) : Option UInt8 := if 0 ≤ i then buff[i.toNat]? else none

/-- `TOOL_CheckSum8BitGet(buff,len)`, whose `len` is an `INT32U`. -/
def checkSumIn (buff : List UInt8) (len : Int) : Option UInt8 :=
  let len := (len % 2 ^ 32).toNat
  if len ≤ buff.length then some (checkSum8BitGet (buff.take len)) else none

/-- `INT8U buff[259]={0}` with a datagram copied to its front. -/
def padded (p : List UInt8) : List UInt8 := p ++ List.replicate (259 - p.length) 0

/-- `PCCOMMRx` or `OLEDCOMMRx`, with the 50 bytes `databuff` points to. -/
structure Rx where
  datalen : UInt8
  databuff : Vector UInt8 50

/-- `memcpy(databuff,&buff[i],n)`. -/
def memcpy (databuff : Vector UInt8 50) (buff : List UInt8) (i n : Nat) :
    Option (Vector UInt8 50) :=
  if n ≤ 50 ∧ i + n ≤ buff.length then
    some (Vector.ofFn fun j => if j < n then buff.getD (i + j) 0 else databuff[j])
  else none

/-! ### The check -/

/-- The common text of the two checks; `sub` is the subtraction from `*len`. -/
def rxBuffCheck (sub : Nat → Nat → Int) (buff : List UInt8) (len : Nat) : Option Ret := do
  let head ← index buff 0
  if head ≠ 0xBC then return .FAIL
  else
    let datalen ← index buff 1
    let len := if datalen.toNat + 4 < len then datalen.toNat + 4 else len
    let last ← index buff (sub len 1)
    if last ≠ 0xCB then return .FAIL
    else
      let checksum ← checkSumIn buff (sub len 2)
      let sum ← index buff (sub len 2)
      if checksum ≠ sum then return .FAIL else return .SUCC

/-- `APP_PCCOMM_RxBuffCheck`: `*len` is an `INT16U`, so the subtraction is one of `int`s. -/
def pcRxBuffCheck : List UInt8 → Nat → Option Ret := rxBuffCheck fun len n => (len : Int) - n

/-- `APP_OLEDCOMM_RxBuffCheck`: `*len` is an `INT32U`. -/
def oledRxBuffCheck : List UInt8 → Nat → Option Ret :=
  rxBuffCheck fun len n => ((len : Int) - n) % 2 ^ 32

/-! ### Receiving -/

/-- The common end of the two receptions. -/
def receive (check : List UInt8 → Nat → Option Ret) (p : List UInt8) (rx : Rx) :
    Option (Ret × Rx) := do
  match ← check (padded p) p.length with
  | .FAIL => return (.FAIL, rx)
  | .SUCC =>
    let datalen ← index (padded p) 1
    let databuff ← memcpy rx.databuff (padded p) 2 datalen.toNat
    return (.SUCC, ⟨datalen, databuff⟩)

/-- `APP_PCCOMM_RxBuffRecv`. -/
def pcRxBuffRecv (p : List UInt8) (rx : Rx) : Option (Ret × Rx) :=
  if p.length ≤ 255 then receive pcRxBuffCheck p rx else some (.FAIL, rx)

/-- `SWIFT_UART3_Buff`; the interrupt handler keeps `write_p` inside the array. -/
structure Uart3Buff where
  pbuff : Vector UInt8 64
  writeP : Fin 64

/-- What `SWIFT_UART3_RecvBuff` copies out. -/
def Uart3Buff.received (u : Uart3Buff) : List UInt8 := u.pbuff.toList.take u.writeP

/-- `APP_OLEDCOMM_RxBuffRecv`. -/
def oledRxBuffRecv (u : Uart3Buff) (rx : Rx) : Option (Ret × Rx) :=
  receive oledRxBuffCheck u.received rx

end SwiftAcu.RxFrame
