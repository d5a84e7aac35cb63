/-
The three motors, `app_motor.c`.

A command to a motor is an exchange with the power unit, which may fail.  `motor_move`
is what the last exchanges that did not fail have left: the direction of a start, or 0.
What the power unit answers to the n-th command for an axis is an input, and what was
sent to it is kept, the latest last.
-/
import Mathlib.Logic.Function.Basic
import SwiftAcu.Acu.DevInfo

namespace SwiftAcu

/-- `ANTENNA_DIR_LEFT_DOWN_ANTICLOCK`, and the limit of that direction. -/
abbrev dirLeftDownAnticlock : UInt8 := 0x01

/-- `ANTENNA_DIR_RIGHT_UP_CLOCK`, and the limit of that direction. -/
abbrev dirRightUpClock : UInt8 := 0x02

/-- The axis of `antenna_part`. -/
def AntennaPart.ofId (antenna_part : UInt8) : Option AntennaPart :=
  if antenna_part = 1 then some .position
  else if antenna_part = 2 then some .cabrage
  else if antenna_part = 3 then some .polar
  else none

/-- The angle of an axis. -/
def Degrees.part (d : Degrees) : AntennaPart → FP32
  | .position => d.position
  | .cabrage => d.cabrage
  | .polar => d.polar

/-- A command that was sent: 0 is the direction of a stop. -/
structure DriveCmd where
  part : AntennaPart
  direction : UInt8
  ret : Ret
  deriving DecidableEq, Repr

/-- What the power unit answers to the n-th command for an axis. -/
abbrev Pdu := AntennaPart → Nat → Ret

/-- The motors, and what was sent to them. -/
structure Motors where
  motorMove : AntennaPart → UInt8
  sent : List DriveCmd

/-- How many commands were sent for an axis. -/
def Motors.count (m : Motors) (part : AntennaPart) : Nat := m.sent.countP (·.part = part)

/-- One exchange; `motor_move` follows if it succeeds. -/
def exchange (pdu : Pdu) (part : AntennaPart) (direction : UInt8) (m : Motors) : Ret × Motors :=
  let sta := pdu part (m.count part)
  (sta,
    { motorMove :=
        if sta = .SUCC then Function.update m.motorMove part direction else m.motorMove
      sent := m.sent ++ [⟨part, direction, sta⟩] })

/-- The side an angle lies on, if it is at a limit or beyond. -/
def limitDir (degree start stop : FP32) : UInt8 :=
  if degree ≤ start then dirLeftDownAnticlock
  else if stop ≤ degree then dirRightUpClock
  else 0x00

/-- `Antenna_DriveStart`, at the angles and limits it reads. -/
def antennaDriveStart (pdu : Pdu) (curr : Degrees) (limit : SoftLimit)
    (antenna_part direction : UInt8) (m : Motors) : Ret × Motors :=
  match AntennaPart.ofId antenna_part with
  | none => (.FAIL, m)
  | some part =>
    if direction ≠ dirLeftDownAnticlock ∧ direction ≠ dirRightUpClock then (.FAIL, m)
    else if limitDir (curr.part part) (limit.start.part part) (limit.stop.part part) = direction then
      (.FAIL, m)
    else exchange pdu part direction m

/-- `Antenna_DriveEnd`. -/
def antennaDriveEnd (pdu : Pdu) (antenna_part : UInt8) (m : Motors) : Ret × Motors :=
  match AntennaPart.ofId antenna_part with
  | none => (.FAIL, m)
  | some part => exchange pdu part 0x00 m

/-- A stop, and another one if it fails. -/
def driveEndTwice (pdu : Pdu) (part : AntennaPart) (m : Motors) : Ret × Motors :=
  match antennaDriveEnd pdu part.id m with
  | (.SUCC, m) => (.SUCC, m)
  | (.FAIL, m) => antennaDriveEnd pdu part.id m

/-- `Antenna_AllDriveEnd`: all three are tried. -/
def antennaAllDriveEnd (pdu : Pdu) (m : Motors) : Ret × Motors :=
  let position := driveEndTwice pdu .position m
  let cabrage := driveEndTwice pdu .cabrage position.2
  let polar := driveEndTwice pdu .polar cabrage.2
  (if position.1 = .SUCC ∧ cabrage.1 = .SUCC ∧ polar.1 = .SUCC then .SUCC else .FAIL, polar.2)

end SwiftAcu
