/-
The alarm monitor, `APP_MONITOR_DevHWSta` of `app_monitor.c`.

It is called once in every period.  The alarms are kept in a static buffer whose bits are
set and cleared one by one, and copied to `ACUCurrSta` at the end.  The three axes share one
text: an angle at a limit is counted, from either side alike, and every third count raises
the limit's alarm, unless it is up already.

The buzzer is left out.
-/
import SwiftAcu.Acu.Admin
import SwiftAcu.Acu.Motor

namespace SwiftAcu.Monitor

/-! ### Warnings -/

abbrev logWarnCoderAz : Nat := 0x010101
abbrev logWarnCoderEl : Nat := 0x010102
abbrev logWarnCoderPl : Nat := 0x010103
abbrev logWarnBeaconErr : Nat := 0x010201
abbrev logWarnAcuEepromErr : Nat := 0x010301
abbrev logWarnPduErr : Nat := 0x010401
abbrev logWarnPduMotorAzRightLimit : Nat := 0x010412
abbrev logWarnPduMotorAzLeftLimit : Nat := 0x010413
abbrev logWarnPduMotorElUpLimit : Nat := 0x010422
abbrev logWarnPduMotorElDownLimit : Nat := 0x010423
abbrev logWarnPduMotorPlUpLimit : Nat := 0x010432
abbrev logWarnPduMotorPlDownLimit : Nat := 0x010433
abbrev logWarnPduGpsPositioningFail : Nat := 0x010492
abbrev logOptStandbyModeByAcu : Nat := 0x020501

/-! ### The state -/

/-- What a call reads of the device. -/
structure Input where
  /-- `EleccoderStat.link_stat` is `COMM_LINK`. -/
  encoderLinked : AntennaPart → Bool
  elecCoderNum : UInt8
  beaconLinked : Bool
  eepromLinked : Bool
  flashLinked : Bool
  pduLinked : Bool
  softLimit : SoftLimit
  /-- `LocalPositionParam.data_src_flag`. -/
  dataSrcFlag : UInt8
  gpsValid : UInt8
  periodMs : UInt32
  pdu : Pdu

/-- The static variables of `APP_MONITOR_DevHWSta`, and what it changes of the device. -/
structure Sta where
  gpsTimeoutCnt : UInt32
  /-- The static `dev_alarm_buff`. -/
  devAlarmBuff : Fin 6 → UInt8
  limitAlarmCnt : AntennaPart → UInt8
  curr : CurrSta
  motorLimitSta : AntennaPart → UInt8
  motorMove : AntennaPart → UInt8
  taskRunFlag : Fin 3 → UInt8
  seekSatMode : UInt8
  devWorkSta : UInt8
  devAdmin : DevAdmin
  /-- The codes given to `APP_WarnLOG_SaveCode`, newest first. -/
  warnLog : List Nat
  /-- The codes given to `APP_OptLOG_SaveCode`, newest first. -/
  optLog : List Nat

/-- The state during a call. -/
structure Call extends Sta where
  sent : List DriveCmd
  /-- The local `alarm_high_flag`. -/
  alarmHighFlag : Bool

/-- The motors of a call. -/
def Call.motors (c : Call) : Motors := ⟨c.motorMove, c.sent⟩

/-- The motors of a call after some commands to them. -/
def Call.withMotors (c : Call) (m : Motors) : Call :=
  { c with motorMove := m.motorMove, sent := m.sent }

/-! ### Alarm bits -/

/-- A bit of an alarm byte set. -/
def setBit (buff : Fin 6 → UInt8) (i : Fin 6) (bit : UInt8) : Fin 6 → UInt8 :=
  Function.update buff i (buff i ||| bit)

/-- Bits of an alarm byte cleared. -/
def clearBits (buff : Fin 6 → UInt8) (i : Fin 6) (bits : UInt8) : Fin 6 → UInt8 :=
  Function.update buff i (buff i &&& ~~~bits)

/-- `APP_WarnLOG_SaveCode`, unless `ACUCurrSta` has the alarm. -/
def warnNew (i : Fin 6) (bit : UInt8) (code : Nat) (s : Sta) : List Nat :=
  if s.curr.devAlarmBuff i &&& bit ≠ s.devAlarmBuff i &&& bit then code :: s.warnLog else s.warnLog

/-- An alarm that is on or off at once, with its warning and whether it is a high one. -/
def alarm (i : Fin 6) (bit : UInt8) (code : Option Nat) (high on : Bool) (c : Call) : Call :=
  if on then
    let c := { c with devAlarmBuff := setBit c.devAlarmBuff i bit }
    { c with
      warnLog := match code with
        | some code => warnNew i bit code c.toSta
        | none => c.warnLog
      alarmHighFlag := c.alarmHighFlag || high }
  else { c with devAlarmBuff := clearBits c.devAlarmBuff i bit }

/-- The encoders, the beacon receiver, the EEPROM and the flash memory. -/
def linkAlarms (e : Input) (c : Call) : Call :=
  let c := alarm 0 0x01 (some logWarnCoderAz) true (!e.encoderLinked .position) c
  let c := alarm 0 0x02 (some logWarnCoderEl) true (!e.encoderLinked .cabrage) c
  let c := alarm 0 0x04 (some logWarnCoderPl) true
    (e.elecCoderNum = 3 && !e.encoderLinked .polar) c
  let c := alarm 1 0x01 (some logWarnBeaconErr) true (!e.beaconLinked) c
  let c := alarm 2 0x01 (some logWarnAcuEepromErr) false (!e.eepromLinked) c
  alarm 2 0x02 none false (!e.flashLinked) c

/-! ### Limits -/

/-- The bit of a limit in `dev_alarm_buff[5]`. -/
def limitBit : AntennaPart → UInt8 → UInt8
  | .position, dir => if dir = dirLeftDownAnticlock then 0x04 else 0x08
  | .cabrage, dir => if dir = dirLeftDownAnticlock then 0x02 else 0x01
  | .polar, dir => if dir = dirLeftDownAnticlock then 0x20 else 0x10

/-- Both bits of an axis. -/
def limitBits : AntennaPart → UInt8
  | .position => 0x0C
  | .cabrage => 0x03
  | .polar => 0x30

/-- The warning of a limit. -/
def limitWarn : AntennaPart → UInt8 → Nat
  | .position, dir => if dir = dirLeftDownAnticlock then logWarnPduMotorAzLeftLimit
    else logWarnPduMotorAzRightLimit
  | .cabrage, dir => if dir = dirLeftDownAnticlock then logWarnPduMotorElDownLimit
    else logWarnPduMotorElUpLimit
  | .polar, dir => if dir = dirLeftDownAnticlock then logWarnPduMotorPlDownLimit
    else logWarnPduMotorPlUpLimit

/-- The encoder of the axis is looked at. -/
def Input.measures (e : Input) (part : AntennaPart) : Bool :=
  e.encoderLinked part && (part ≠ .polar || e.elecCoderNum = 3)

/-- The limit an axis is at, or 0. -/
def Input.limitDir (e : Input) (curr : Degrees) (part : AntennaPart) : UInt8 :=
  if e.measures part then
    SwiftAcu.limitDir (curr.part part) (e.softLimit.start.part part) (e.softLimit.stop.part part)
  else 0x00

/-- A limit's alarm is raised: a motor that moves toward the limit is stopped. -/
def raiseLimit (e : Input) (part : AntennaPart) (dir : UInt8) (c : Call) : Call :=
  let c := { c with
    devAlarmBuff := setBit c.devAlarmBuff 5 (limitBit part dir)
    motorLimitSta := Function.update c.motorLimitSta part dir }
  let c := if c.motorMove part = dir
    then c.withMotors (antennaDriveEnd e.pdu part.id c.motors).2 else c
  { c with warnLog := limitWarn part dir :: c.warnLog, alarmHighFlag := true }

/-- The soft limits of one axis. -/
def axisLimit (e : Input) (part : AntennaPart) (c : Call) : Call :=
  let dir := e.limitDir c.curr.antenna part
  if dir = 0x00 then
    { c with
      devAlarmBuff := clearBits c.devAlarmBuff 5 (limitBits part)
      motorLimitSta := Function.update c.motorLimitSta part 0x00
      limitAlarmCnt := Function.update c.limitAlarmCnt part 0 }
  else
    let cnt := c.limitAlarmCnt part + 1
    if 3 ≤ cnt then
      let c := if c.motorLimitSta part ≠ dir then raiseLimit e part dir c else c
      { c with limitAlarmCnt := Function.update c.limitAlarmCnt part 0 }
    else { c with limitAlarmCnt := Function.update c.limitAlarmCnt part cnt }

/-- The power unit: while it is not linked the limits are not looked at. -/
def pduAlarms (e : Input) (c : Call) : Call :=
  if e.pduLinked then
    let c := alarm 3 0x01 none false false c
    axisLimit e .polar (axisLimit e .cabrage (axisLimit e .position c))
  else
    let c := alarm 3 0x01 (some logWarnPduErr) true true c
    if c.devAdmin.devAdminSta = 0x02 ∨ c.devAdmin.adminSta = 0x02 then
      { c with devAdmin := { c.devAdmin with devAdminSta := 0x00, adminSta := 0x00, modeSta := 0x00 } }
    else c

/-! ### The receiver -/

/-- The GPS: it may be without a position for 20 seconds. -/
def gpsAlarm (e : Input) (c : Call) : Call :=
  if e.dataSrcFlag = 0x00 then
    if e.gpsValid = 0x41 then
      { c with gpsTimeoutCnt := 0, devAlarmBuff := clearBits c.devAlarmBuff 4 0x02 }
    else
      let c := { c with gpsTimeoutCnt := c.gpsTimeoutCnt + 1 }
      if 20 < c.gpsTimeoutCnt * e.periodMs / 1000 then
        alarm 4 0x02 (some logWarnPduGpsPositioningFail) false true c
      else c
  else { c with devAlarmBuff := clearBits c.devAlarmBuff 4 0x02 }

/-! ### The report -/

/-- `dev_alarm_flag`: an alarm is on. -/
def devAlarmFlag (buff : Fin 6 → UInt8) : UInt8 := if ∃ i, buff i ≠ 0 then 1 else 0

/-- What `ACUCurrSta` tells of the alarms: the front ends are told of a change. -/
def reportSta (buff : Fin 6 → UInt8) (curr : CurrSta) : CurrSta :=
  let flag := devAlarmFlag buff
  let reflash := if curr.devAlarmFlag ≠ flag ∨ (0 < flag ∧ buff ≠ curr.devAlarmBuff)
    then fun _ => 1 else curr.devAlarmReflashFlag
  { curr with
    devAlarmFlag := flag
    devAlarmReflashFlag := reflash
    devAlarmBuff := if 0 < flag then buff else fun _ => 0 }

/-- The alarms are reported. -/
def report (c : Call) : Call := { c with curr := reportSta c.devAlarmBuff c.curr }

/-- A task that runs is ended, behind a stop of all motors that is tried twice. -/
def endTask (e : Input) (c : Call) (i : Fin 3) : Call :=
  if 0 < c.taskRunFlag i then
    let r := antennaAllDriveEnd e.pdu c.motors
    let m := if r.1 = .FAIL then (antennaAllDriveEnd e.pdu r.2).2 else r.2
    { c.withMotors m with taskRunFlag := Function.update c.taskRunFlag i 0 }
  else c

/-- A high alarm ends the tasks and puts the device in standby. -/
def standby (e : Input) (c : Call) : Call :=
  if 0 < c.curr.devAlarmFlag ∧ c.alarmHighFlag = true then
    let c := endTask e (endTask e (endTask e c 0) 1) 2
    if 0x01 ≤ c.seekSatMode then
      { c with seekSatMode := 0x00, devWorkSta := 0x00, optLog := logOptStandbyModeByAcu :: c.optLog }
    else c
  else c

/-- In standby nothing is worked at. -/
def idle (c : Call) : Call :=
  if 0 < c.devWorkSta ∧ c.seekSatMode = 0x00 then { c with devWorkSta := 0 } else c

/-- The alarms of a call. -/
def alarms (e : Input) (s : Sta) : Call :=
  gpsAlarm e (pduAlarms e (linkAlarms e { s with sent := [], alarmHighFlag := false }))

/-- `APP_MONITOR_DevHWSta`. -/
def devHWSta (e : Input) (s : Sta) : Call := idle (standby e (report (alarms e s)))

end SwiftAcu.Monitor
