/-
The channel to the power unit: `app_pducomm.c`, and the commands to it of `app_motor.c`.

A frame goes out over UART4 and the power unit answers in time, or does not.  One task at a
time may use the channel: `APP_PDU_Send_Sem` is created at 1, taken in front of an exchange
and released behind it.  Whoever finds it taken waits without a timeout.

An answer is copied to the front of the caller's `revbuff`; behind it the buffer holds what
the stack held.  An answer longer than the buffer is written outside: what becomes of such a
call is left open, `none`.
-/
import SwiftAcu.Acu.Motor
import SwiftAcu.Lib.Runs
import SwiftAcu.Lib.Semaphore

namespace SwiftAcu.PduComm

/-- What the four functions read and write of the device. -/
structure Dev (ρ : Type) where
  acu : Acu ρ
  antenna : Degrees
  softLimit : SoftLimit
  /-- `AntennaDirMapMotor`. -/
  dirMap : AntennaPart → MotorDir
  motorMove : AntennaPart → UInt8
  /-- `Version[1]`. -/
  version : DevVersion

/-- A frame, and how many milliseconds its answer may take. -/
structure Query where
  frame : List UInt8
  timeoutMs : Nat
  deriving DecidableEq, Repr

/-- An answer, and what the buffer of the caller held before. -/
structure Answer where
  bytes : List UInt8
  stack : Nat → UInt8

/-- The answer, if one came in time. -/
abbrev Reply := Option Answer

/-- `revbuff` behind `SWIFT_UART4_RecvBuff`. -/
def Answer.revbuff (a : Answer) : Nat → UInt8 := fun i => a.bytes.getD i (a.stack i)

/-- `SWIFT_UART4_RecvBuff` into a buffer of `size` bytes. -/
def recvBuff (size : Nat) (a : Answer) : Option (Nat → UInt8) :=
  if a.bytes.length ≤ size then some a.revbuff else none

/-- A function that uses the channel. -/
abbrev Use (β : Type) := SemProg Query Reply β

/-- A command to the power unit: the bytes between the length and the checksum. -/
def frameOf (data : List UInt8) : List UInt8 :=
  let front := [0xBC, UInt8.ofNat data.length] ++ data
  front ++ [checkSum8BitGet front, 0xCB]

/-- The 16 bytes `revbuff[i]` … -/
def bytes16 (revbuff : Nat → UInt8) (i : Nat) : Vector UInt8 16 :=
  Vector.ofFn fun j => revbuff (i + j)

/-- `motor_dir[direction-1]`. -/
def MotorDir.get (m : MotorDir) (direction : UInt8) : UInt8 :=
  if direction = dirLeftDownAnticlock then m.dir0 else m.dir1

section
variable {ρ : Type}

/-- `link_stat` of the power unit alone. -/
def setLinkStat (stat : UInt8) (d : Dev ρ) : Dev ρ :=
  { d with acu := { d.acu with rest := { d.acu.rest with pduLinkStat := stat } } }

/-! ### Queries -/

/-- What `APP_PDUCOMM_VersionQue` takes for an answer to its query. -/
def IsVersion (revbuff : Nat → UInt8) : Prop :=
  ¬(revbuff 2 ≠ 0x8C ∨ revbuff 3 ≠ 0x0A ∨ revbuff 4 ≠ 32)

instance (revbuff : Nat → UInt8) : Decidable (IsVersion revbuff) :=
  inferInstanceAs (Decidable (¬(_ ∨ _)))

/-- `APP_PDUCOMM_VersionQue`: behind an answer of another kind the semaphore stays taken. -/
def versionQue (d : Dev ρ) : Use (Option (Ret × Dev ρ)) := do
  SemProg.take
  match ← SemProg.request ⟨frameOf [0x0C, 0x0A, 0x00], 100⟩ with
  | none =>
    SemProg.release
    return some (.FAIL, d)
  | some answer =>
    match recvBuff 50 answer with
    | none => return none
    | some revbuff =>
      if revbuff 2 ≠ 0x8C ∨ revbuff 3 ≠ 0x0A ∨ revbuff 4 ≠ 32 then return some (.FAIL, d)
      else
        let d :=
          { d with version := { softver := bytes16 revbuff 5, hardver := bytes16 revbuff 21 } }
        SemProg.release
        return some (.SUCC, d)

/-- `APP_PDUCOMM_PDUDevStaQue`. -/
def pduDevStaQue (d : Dev ρ) : Use (Option (Ret × Dev ρ)) := do
  SemProg.take
  match ← SemProg.request ⟨frameOf [0x0C, 0x02, 0x00], 100⟩ with
  | none =>
    let d := { d with acu := Admin.setPduLink 1 d.acu }
    SemProg.release
    return some (.FAIL, d)
  | some answer =>
    let d := { d with acu := Admin.setPduLink 0 d.acu }
    match recvBuff 50 answer with
    | none => return none
    | some revbuff =>
      if revbuff 2 ≠ 0x8C ∨ revbuff 3 ≠ 0x02 then
        SemProg.release
        return some (.FAIL, d)
      else
        let a := Admin.pduAdminSwitch (revbuff 5) d.acu
        let d := { d with acu :=
          { a with
            devAdmin := { a.devAdmin with stopFlag := revbuff 6 }
            rest :=
              { a.rest with
                antennaPositionSta := revbuff 7
                antennaCabrageSta := revbuff 8
                antennaPolarSta := revbuff 9 } } }
        SemProg.release
        return some (.SUCC, d)

/-! ### Motors -/

/-- What is common to `Motor_DriveStart` and `Motor_DriveEnd`: `cmd` tells them apart. -/
def motorDrive (cmd : UInt8) (data : List UInt8) (d : Dev ρ) : Use (Option (Ret × Dev ρ)) := do
  match ← SemProg.request ⟨frameOf ([0x04, cmd, UInt8.ofNat data.length] ++ data), 200⟩ with
  | none => return some (.FAIL, setLinkStat 1 d)
  | some answer =>
    let d := setLinkStat 0 d
    match recvBuff 32 answer with
    | none => return none
    | some revbuff =>
      if revbuff 2 = 0x84 ∧ revbuff 3 = cmd then return some (.SUCC, d)
      else return some (.FAIL, d)

/-- `Motor_DriveStart`. -/
def motorDriveStart (motor_num direction : UInt8) (d : Dev ρ) : Use (Option (Ret × Dev ρ)) :=
  motorDrive 0x01 [motor_num, direction] d

/-- `Motor_DriveEnd`. -/
def motorDriveEnd (motor_num : UInt8) (d : Dev ρ) : Use (Option (Ret × Dev ρ)) :=
  motorDrive 0x02 [motor_num] d

/-- `if(sta ==SUCC) motor_move[antenna_part-1] = …`, and the semaphore is released. -/
def moved (part : AntennaPart) (direction : UInt8) :
    Option (Ret × Dev ρ) → Use (Option (Ret × Dev ρ))
  | none => return none
  | some (sta, d) => do
    let d :=
      if sta = .SUCC then { d with motorMove := Function.update d.motorMove part direction } else d
    SemProg.release
    return some (sta, d)

/-- `Antenna_DriveStart` goes on to the power unit: the axis and the direction exist, and the axis
is not at its limit of that side. -/
def Dev.starts (d : Dev ρ) (antenna_part direction : UInt8) : Option AntennaPart :=
  match AntennaPart.ofId antenna_part with
  | none => none
  | some part =>
    if direction ≠ dirLeftDownAnticlock ∧ direction ≠ dirRightUpClock then none
    else if limitDir (d.antenna.part part) (d.softLimit.start.part part)
        (d.softLimit.stop.part part) = direction then none
    else some part

/-- `Antenna_DriveStart`: it returns before it takes the semaphore, or uses the channel. -/
def antennaDriveStart (antenna_part direction : UInt8) (d : Dev ρ) :
    Use (Option (Ret × Dev ρ)) :=
  match d.starts antenna_part direction with
  | none => return some (.FAIL, d)
  | some part => do
    let motor_dir := MotorDir.get (d.dirMap part) direction
    SemProg.take
    let r ← motorDriveStart antenna_part motor_dir d
    moved part direction r

/-- `Antenna_DriveEnd`: it takes the semaphore first. -/
def antennaDriveEnd (antenna_part : UInt8) (d : Dev ρ) : Use (Option (Ret × Dev ρ)) := do
  SemProg.take
  match AntennaPart.ofId antenna_part with
  | none =>
    SemProg.release
    return some (.FAIL, d)
  | some part =>
    let r ← motorDriveEnd antenna_part d
    moved part 0x00 r

/-! ### Runs -/

/-- A call of one of the four. -/
inductive Call where
  | versionQue
  | pduDevStaQue
  | antennaDriveStart (antenna_part direction : UInt8)
  | antennaDriveEnd (antenna_part direction : UInt8)
  deriving DecidableEq, Repr

/-- What a call does. -/
def Call.use (c : Call) (d : Dev ρ) : Use (Option (Ret × Dev ρ)) :=
  match c with
  | .versionQue => PduComm.versionQue d
  | .pduDevStaQue => PduComm.pduDevStaQue d
  | .antennaDriveStart antenna_part direction => PduComm.antennaDriveStart antenna_part direction d
  | .antennaDriveEnd antenna_part _ => PduComm.antennaDriveEnd antenna_part d

/-- A call, and what the power unit answers to it. -/
structure Event where
  call : Call
  reply : Reply

/-- What the call does, and how its exchange comes out. -/
def Event.exec (e : Event) (d : Dev ρ) (sem : Nat) :
    SemProg.Outcome (Option (Ret × Dev ρ)) :=
  (e.call.use d).exec (fun _ => e.reply) sem

/-- The device, the count of `APP_PDU_Send_Sem`, the calls that wait for it for good, and whether
an answer has been written over the stack. -/
structure Sys (ρ : Type) where
  dev : Dev ρ
  sem : Nat
  waiting : Nat
  overrun : Bool

/-- One call after the other; one that waits does so beside the calls that follow.  Behind an
overrun nothing is known. -/
def step (s : Sys ρ) (e : Event) : Sys ρ :=
  if s.overrun then s
  else
    match e.exec s.dev s.sem with
    | .waits => { s with waiting := s.waiting + 1 }
    | .ends _ none => { s with overrun := true }
    | .ends sem (some (_, dev)) => { s with dev, sem }

end

end SwiftAcu.PduComm
