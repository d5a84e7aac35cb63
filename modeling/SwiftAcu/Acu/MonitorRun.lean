/-
Runs of the alarm monitor.

Between its calls the angles are measured anew, and other tasks start and stop the motors.
How long an axis has been at a limit is kept next to the state; the controller does not
know it.
-/
import SwiftAcu.Acu.Monitor
import SwiftAcu.Lib.Runs

namespace SwiftAcu.Monitor

/-- What happens to the motors and the alarms. -/
inductive Action where
  /-- `APP_MONITOR_LocallAntennaRealDegreeDataGet`. -/
  | measure (antenna : Degrees)
  /-- `APP_MONITOR_DevHWSta`. -/
  | tick (e : Input)
  /-- An `Antenna_DriveStart` of some task, and what the power unit would answer. -/
  | start (antenna_part direction : UInt8) (limit : SoftLimit) (ret : Ret)
  /-- An `Antenna_DriveEnd` of some task. -/
  | stop (antenna_part : UInt8) (ret : Ret)
  /-- What the commands change that the monitor reads. -/
  | others (taskRunFlag : Fin 3 → UInt8) (seekSatMode devWorkSta : UInt8) (devAdmin : DevAdmin)

/-- One action. -/
def step (s : Sta) : Action → Sta
  | .measure antenna => { s with curr := { s.curr with antenna } }
  | .tick e => (devHWSta e s).toSta
  | .start part direction limit ret =>
    { s with motorMove :=
        (antennaDriveStart (fun _ _ => ret) s.curr.antenna limit part direction
          ⟨s.motorMove, []⟩).2.motorMove }
  | .stop part ret =>
    { s with motorMove := (antennaDriveEnd (fun _ _ => ret) part ⟨s.motorMove, []⟩).2.motorMove }
  | .others taskRunFlag seekSatMode devWorkSta devAdmin =>
    { s with taskRunFlag, seekSatMode, devWorkSta, devAdmin }

/-- How many ticks on end an axis has been at a limit. -/
structure Streak where
  dir : UInt8
  len : Nat
  deriving DecidableEq

/-- One tick more, at a limit or not. -/
def Streak.next (k : Streak) (dir : UInt8) : Streak :=
  if dir = 0x00 then ⟨0x00, 0⟩ else if dir = k.dir then ⟨dir, k.len + 1⟩ else ⟨dir, 1⟩

/-- The state, and how long each axis has been at a limit. -/
structure Watch where
  sta : Sta
  streak : AntennaPart → Streak

/-- One action, watched. -/
def Watch.step (w : Watch) (a : Action) : Watch :=
  { sta := Monitor.step w.sta a
    streak := match a with
      | .tick e => fun part => (w.streak part).next (e.limitDir w.sta.curr.antenna part)
      | _ => w.streak }

/-- The device as it starts: no alarm, no motor on. -/
def Watch.boot (curr : CurrSta) (seekSatMode devWorkSta : UInt8) (devAdmin : DevAdmin) : Watch :=
  { sta :=
      { gpsTimeoutCnt := 0
        devAlarmBuff := fun _ => 0
        limitAlarmCnt := fun _ => 0
        curr := { curr with devAlarmFlag := 0, devAlarmBuff := fun _ => 0 }
        motorLimitSta := fun _ => 0
        motorMove := fun _ => 0
        taskRunFlag := fun _ => 0
        seekSatMode, devWorkSta, devAdmin
        warnLog := []
        optLog := [] }
    streak := fun _ => ⟨0x00, 0⟩ }

end SwiftAcu.Monitor
