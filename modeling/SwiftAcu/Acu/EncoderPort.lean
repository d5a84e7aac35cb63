/-
The port of an encoder: `SWIFT_UART5_IntHandler`, `SWIFT_UART5_SendBuff` and
`SWIFT_UART5_RecvBuff` of `hw_eleccoder.c`, and the functions of `app_eleccoder.c` that ask an
encoder something.  The other two encoders have copies of all of them, on UART2 and UART1.

A byte is taken in by the interrupt, between any two actions of the task that asks.  Once as
many bytes are in as the task expects, each of them posts the semaphore it waits on.  The
semaphore `APP_PositionElecCoder_Sem` lets one task ask at a time, as long as no two wait for it
at once; what another one waits for is that `pc` is idle, and where it does not become so in time
the call returns `FAIL` and has touched nothing.
-/
import SwiftAcu.Acu.Degree
import SwiftAcu.Acu.ParamRead

namespace SwiftAcu.EncoderPort

/-- `SWIFTUART5BuffSize`. -/
abbrev swiftUart5BuffSize : Nat := 32

/-- `ELEC_ENCODER_UNLINK_NUM`. -/
abbrev elecEncoderUnlinkNum : UInt8 := 3

/-- `WORKSTA_NORMAL`. -/
abbrev workstaNormal : UInt32 := 0

/-- `EleccoderInfo` of one encoder, and its entry of `Elec_coder_UlinkCnt`. -/
structure Info where
  addr : UInt8
  bitNum : UInt8
  countMode : UInt8
  linkStat : UInt8
  devStat : UInt32
  data : UInt32
  degree : FP32
  ulinkCnt : UInt8

/-- The functions that ask an encoder. -/
inductive Cmd where
  /-- `APP_ElecEncoder_Position_CurrData_Get`. -/
  | currDataGet
  /-- `APP_ElecEncoder_Position_DataAddDir_Set`. -/
  | dataAddDirSet (dir : UInt8)
  /-- `APP_ElecEncoder_Position_DataAddDir_Que`. -/
  | dataAddDirQue
  /-- `APP_ElecEncoder_Position_Addr_Set`. -/
  | addrSet (addr : UInt8)
  /-- `APP_ElecEncoder_Position_Addr_Que`. -/
  | addrQue
  deriving DecidableEq, Repr

/-- `Revbuff`, 8 bytes that start at 0, behind `memcpy(buff, pbuff, len)`. -/
def copied (pbuff : Nat → UInt8) (len : Nat) : Nat → UInt8 :=
  fun i => if i < len then pbuff i else 0

namespace Cmd

/-- `sendbuff[0]`. -/
def sendbuff (i : Info) : Cmd → UInt8
  | currDataGet => 0xA0 + i.addr
  | dataAddDirSet dir => if dir = 0xE1 then 0xE1 else 0xE2
  | dataAddDirQue => 0xC9
  | addrSet addr => 0xB0 + addr
  | addrQue => 0xC7

/-- What `SWIFT_UART5_Predict_RevBytes` is set to. -/
def predict (i : Info) : Cmd → UInt8
  | currDataGet => if 16 < i.bitNum then 6 else 5
  | _ => 1

/-- `checknum`, the sum of the first `n` bytes. -/
def checknum (n : Nat) (revbuff : Nat → UInt8) : UInt8 :=
  ((List.range n).map revbuff).sum &&& 0x7F

/-- What is looked for in an answer that is not too long. -/
def Accepts (i : Info) (revbuff : Nat → UInt8) : Cmd → Prop
  | currDataGet =>
    revbuff 0 = 0x5A ∧
      if 16 < i.bitNum then checknum 5 revbuff = revbuff 5 else checknum 4 revbuff = revbuff 4
  | dataAddDirSet dir => revbuff 0 = sendbuff i (dataAddDirSet dir)
  | dataAddDirQue => revbuff 0 &&& 0xF0 = 0xE0
  | addrSet addr => revbuff 0 = sendbuff i (addrSet addr)
  | addrQue => revbuff 0 &&& 0xF0 = 0xC0

instance (i : Info) (revbuff : Nat → UInt8) (c : Cmd) : Decidable (c.Accepts i revbuff) :=
  match c with
  | currDataGet =>
    inferInstanceAs (Decidable (_ ∧ if 16 < i.bitNum then _ = _ else _ = _))
  | dataAddDirSet _ => inferInstanceAs (Decidable (_ = _))
  | dataAddDirQue => inferInstanceAs (Decidable (_ = _))
  | addrSet _ => inferInstanceAs (Decidable (_ = _))
  | addrQue => inferInstanceAs (Decidable (_ = _))

/-- `*data`. -/
def dataOf (i : Info) (revbuff : Nat → UInt8) : UInt32 :=
  if 16 < i.bitNum then
    ((revbuff 2).toUInt32 <<< 16) + ((revbuff 3).toUInt32 <<< 8) + (revbuff 4).toUInt32
  else (((revbuff 2) &&& 0x0F).toUInt32 <<< 8) + (revbuff 3).toUInt32

/-- What an answer that is accepted changes. -/
def succeed (i : Info) (revbuff : Nat → UInt8) : Cmd → Info
  | currDataGet =>
    let data := dataOf i revbuff
    { i with
      data
      degree := data2DegreeFloat i.bitNum data
      linkStat := commLink
      devStat := workstaNormal
      ulinkCnt := 0 }
  | dataAddDirSet dir =>
    { i with
      countMode := sendbuff i (dataAddDirSet dir)
      linkStat := commLink
      devStat := workstaNormal }
  | dataAddDirQue =>
    { i with countMode := revbuff 0, linkStat := commLink, devStat := workstaNormal }
  | addrSet addr => { i with addr, linkStat := commLink, devStat := workstaNormal }
  | addrQue =>
    { i with addr := revbuff 0 - 0xC0, linkStat := commLink, devStat := workstaNormal }

/-- What a failure changes: only those of `APP_ElecEncoder_Position_CurrData_Get` are counted. -/
def fail (i : Info) : Cmd → Info
  | currDataGet =>
    let ulinkCnt := i.ulinkCnt + 1
    { i with
      ulinkCnt
      linkStat := if elecEncoderUnlinkNum < ulinkCnt then commUnlink else i.linkStat }
  | _ => i

end Cmd

/-- Where the task that asks has come to. -/
inductive Pc where
  /-- Nobody asks. -/
  | idle
  /-- `SWIFT_UART5_Predict_RevBytes` is set. -/
  | armed (c : Cmd)
  /-- The buffer is cleared and the command is out. -/
  | sent (c : Cmd)
  /-- The semaphore was not got in time. -/
  | expired (c : Cmd)
  /-- The semaphore was got. -/
  | got (c : Cmd)
  /-- `SWIFT_UART5_RecvBuff` has copied the buffer. -/
  | copied (c : Cmd) (revbuff : Nat → UInt8) (len : Nat)
  /-- It has returned, with `write_p` at 0. -/
  | received (c : Cmd) (revbuff : Nat → UInt8) (len : Nat)
  /-- It has written behind the 8 bytes of `Revbuff`. -/
  | overrun

/-- `SWIFT_UART5_Buff` with the semaphore, the task, and what it has returned last. -/
structure Port where
  pbuff : Nat → UInt8
  writeP : Nat
  /-- `SWIFT_UART5_Predict_RevBytes`. -/
  predict : UInt8
  /-- How often `SWIFT_UART5_Rev_Sem` can be got. -/
  rev : Nat
  info : Info
  pc : Pc
  ret : Ret

/-- What happens at a port; an action of the task that is not its next one does nothing. -/
inductive Event where
  | byte (b : UInt8)
  | call (c : Cmd)
  /-- A call gives up on `APP_PositionElecCoder_Sem`. -/
  | giveUp (c : Cmd)
  | send
  | wake
  | expire
  | recv
  | clear
  | finish
  deriving DecidableEq, Repr

namespace Port

/-- `SWIFT_UART5_IntHandler`. -/
def intHandler (b : UInt8) (p : Port) : Port :=
  let writeP := if swiftUart5BuffSize ≤ p.writeP + 1 then 0 else p.writeP + 1
  { p with
    pbuff := Function.update p.pbuff p.writeP b
    writeP
    rev := if p.predict.toNat ≤ writeP ∧ 0 < p.predict then p.rev + 1 else p.rev }

/-- The task goes on behind a failure. -/
def failed (c : Cmd) (p : Port) : Port :=
  { p with predict := 0, info := c.fail p.info, pc := .idle, ret := .FAIL }

def step (p : Port) : Event → Port
  | .byte b => p.intHandler b
  | .call c =>
    match p.pc with
    | .idle => { p with predict := c.predict p.info, pc := .armed c }
    | _ => p
  | .giveUp _ => p
  | .send =>
    match p.pc with
    | .armed c => { p with pbuff := fun _ => 0, writeP := 0, pc := .sent c }
    | _ => p
  | .wake =>
    match p.pc with
    | .sent c => if p.rev = 0 then p else { p with rev := p.rev - 1, pc := .got c }
    | _ => p
  | .expire =>
    match p.pc with
    | .sent c => if p.rev = 0 then { p with pc := .expired c } else p
    | _ => p
  | .recv =>
    match p.pc with
    | .got c =>
      if 8 < p.writeP then { p with pc := .overrun }
      else { p with pc := .copied c (EncoderPort.copied p.pbuff p.writeP) p.writeP }
    | _ => p
  | .clear =>
    match p.pc with
    | .copied c revbuff len => { p with writeP := 0, pc := .received c revbuff len }
    | _ => p
  | .finish =>
    match p.pc with
    | .expired c => p.failed c
    | .received c revbuff len =>
      if p.predict.toNat < len ∨ ¬c.Accepts p.info revbuff then p.failed c
      else { p with info := c.succeed p.info revbuff, pc := .idle, ret := .SUCC }
    | _ => p

end Port

end SwiftAcu.EncoderPort
