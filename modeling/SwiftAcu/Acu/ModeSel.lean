/-
The commands that change the mode, `AimAtSatModeSel` and `AntennaRecordGoto`, each of them
once in `app_pccomm.c` and once in `app_oledcomm.c`.

A command ends the tasks that run, stops the motors, creates the task of the new mode and
writes to the operation log.  What it does is kept in order, next to the state it leaves.
`Task_Run_Flag` is all a command knows of the tasks.
-/
import SwiftAcu.Acu.AntennaRecord
import SwiftAcu.Acu.Faults
import SwiftAcu.Acu.Motor
import SwiftAcu.Acu.PcComm

namespace SwiftAcu.Mode

variable [SoftFloat]

abbrev logOptAutoAimStarBeginByPc : Nat := 0x020111
abbrev logOptAutoAimStarEndByPc : Nat := 0x020112
abbrev logOptAutoAimStarBeginByOled : Nat := 0x020121
abbrev logOptAutoAimStarEndByOled : Nat := 0x020122
abbrev logOptHandAimStarBeginByPc : Nat := 0x020211
abbrev logOptHandAimStarEndByPc : Nat := 0x020212
abbrev logOptHandAimStarBeginByOled : Nat := 0x020221
abbrev logOptHandAimStarEndByOled : Nat := 0x020222
abbrev logOptAntennaPoseAppByPc : Nat := 0x020304
abbrev logOptAntennaPoseStopByPc : Nat := 0x020305
abbrev logOptAntennaPoseAppByOled : Nat := 0x020314
abbrev logOptAntennaPoseStopByOled : Nat := 0x020315
abbrev logOptFollowStarBeginByPc : Nat := 0x020411
abbrev logOptFollowStarEndByPc : Nat := 0x020412
abbrev logOptFollowStarBeginByOled : Nat := 0x020421
abbrev logOptFollowStarEndByOled : Nat := 0x020422

/-- The tasks of `Task_Run_Flag`, in its order. -/
inductive TaskId where
  | satelliteTrack
  | satGradientTrack
  | antennaRecordGoto
  deriving DecidableEq, Repr

/-- What a command does. -/
inductive Act where
  /-- `TaskSatelliteTrackDel` … -/
  | taskDel (t : TaskId)
  /-- `TaskSatelliteTrackCreate` … -/
  | taskCreate (t : TaskId)
  | allDriveEnd (ret : Ret)
  | setFreq (beacon_freq : UInt32) (ret : Ret)
  /-- `APP_OptLOG_Save`. -/
  | optLog (code : Nat)
  /-- `APP_OptLOG_Save_AntennaPoseOpt`. -/
  | optLogPose (code : Nat) (sat : SatParam) (antenna : AntennaParam) (aim : Degrees)
  deriving DecidableEq

/-- What the commands read and write. -/
structure Sta where
  device : Device
  taskRunFlag : TaskId → UInt8
  seekSatMode : UInt8
  devWorkSta : UInt8
  motors : Motors
  /-- `aim_position` … of `AntennaParam`. -/
  aim : Degrees
  historyMaxMv : FP32
  agcMaxMv : FP32
  devParamReflashFlag : Bool → UInt8

/-- A command under way. -/
structure Cmd extends Sta where
  acts : List Act

/-- A command that begins. -/
def Sta.begin (s : Sta) : Cmd := { s with acts := [] }

namespace Cmd

/-- `…Del`. -/
def taskDel (t : TaskId) (c : Cmd) : Cmd :=
  { c with taskRunFlag := Function.update c.taskRunFlag t 0, acts := c.acts ++ [.taskDel t] }

/-- `if( Task_Run_Flag[…] > 0 )`, and `…Del`. -/
def taskDelIfRun (t : TaskId) (c : Cmd) : Cmd :=
  if 0 < c.taskRunFlag t then c.taskDel t else c

/-- `…Create`.  Only the one for the moves to a place sets the flag. -/
def taskCreate (t : TaskId) (c : Cmd) : Cmd :=
  { c with
    taskRunFlag := if t = .antennaRecordGoto then Function.update c.taskRunFlag t 1
      else c.taskRunFlag
    acts := c.acts ++ [.taskCreate t] }

/-- `Antenna_AllDriveEnd`. -/
def allDriveEnd (pdu : Pdu) (c : Cmd) : Ret × Cmd :=
  let r := antennaAllDriveEnd pdu c.motors
  (r.1, { c with motors := r.2, acts := c.acts ++ [.allDriveEnd r.1] })

/-- The motors are stopped, and once more if that fails. -/
def safeEnd (pdu : Pdu) (c : Cmd) : Cmd :=
  let r := c.allDriveEnd pdu
  if r.1 = .FAIL then (r.2.allDriveEnd pdu).2 else r.2

/-- `APP_OptLOG_Save`. -/
def optLog (code : Nat) (c : Cmd) : Cmd := { c with acts := c.acts ++ [.optLog code] }

/-- `SeekSat_Mode` is set. -/
def setMode (mode : UInt8) (c : Cmd) : Cmd := { c with seekSatMode := mode }

/-- `dev_work_sta` is set. -/
def setWorkSta (sta : UInt8) (c : Cmd) : Cmd := { c with devWorkSta := sta }

/-- All tasks that run are ended. -/
def tasksDel (c : Cmd) : Cmd :=
  ((c.taskDelIfRun .satelliteTrack).taskDelIfRun .satGradientTrack).taskDelIfRun .antennaRecordGoto

/-- If the mode is `mode`, its task is ended, and that it has ended is logged. -/
def endMode (mode : UInt8) (t : TaskId) (code : Nat) (c : Cmd) : Cmd :=
  if c.seekSatMode = mode then (c.taskDelIfRun t).optLog code else c

/-- `APP_BEACON_SetFreq`. -/
def setFreq (beacon : UInt32 → Ret) (beacon_freq : UInt32) (c : Cmd) : Ret × Cmd :=
  (beacon beacon_freq, { c with acts := c.acts ++ [.setFreq beacon_freq (beacon beacon_freq)] })

end Cmd

/-! ### AimAtSatModeSel -/

/-- `cmd_id` and `cmdlen`. -/
def isAimAtSatModeSel (rxbuff : Nat → UInt8) : Bool :=
  cmdIdOf rxbuff = CmdId.aimAtSatModeSel.id && rxbuff 2 = 1

/-- `APP_PCCOMM_AimAtSatModeSel`. -/
def pcAimAtSatModeSel (pdu : Pdu) (rxbuff : Nat → UInt8) (s : Sta) : Ret × Cmd :=
  let c := s.begin
  if isAimAtSatModeSel rxbuff = false then (.FAIL, c)
  else
    let mode := rxbuff 3
    let c :=
      if mode = 0x01 then
        ((c.tasksDel.safeEnd pdu).optLog logOptHandAimStarBeginByPc).setWorkSta 0x11
      else if mode = 0x02 then
        (((c.tasksDel.safeEnd pdu).setWorkSta 0x20).taskCreate .satelliteTrack).optLog
          logOptAutoAimStarBeginByPc
      else if mode = 0x03 then
        (((c.tasksDel.safeEnd pdu).setWorkSta 0x30).taskCreate .satGradientTrack).optLog
          logOptFollowStarBeginByPc
      else if mode = 0x00 then
        let c := c.endMode 0x01 .antennaRecordGoto logOptHandAimStarEndByPc
        let c := c.endMode 0x02 .satelliteTrack logOptAutoAimStarEndByPc
        let c := c.endMode 0x04 .antennaRecordGoto logOptAntennaPoseStopByPc
        let c := c.endMode 0x03 .satGradientTrack logOptFollowStarEndByPc
        (c.safeEnd pdu).setWorkSta 0x00
      else c
    (.SUCC, c.setMode mode)

/-- `APP_OLEDCOMM_AimAtSatModeSel`. -/
def oledAimAtSatModeSel (pdu : Pdu) (rxbuff : Nat → UInt8) (s : Sta) : Ret × Cmd :=
  let c := s.begin
  if isAimAtSatModeSel rxbuff = false then (.FAIL, c)
  else
    let mode := rxbuff 3
    let c :=
      if mode = 0x01 then
        ((c.tasksDel.safeEnd pdu).optLog logOptHandAimStarBeginByOled).setWorkSta 0x11
      else if mode = 0x02 then
        (((c.tasksDel.safeEnd pdu).setWorkSta 0x20).taskCreate .satelliteTrack).optLog
          logOptAutoAimStarBeginByOled
      else if mode = 0x03 then
        (((c.tasksDel.safeEnd pdu).setWorkSta 0x30).taskCreate .satGradientTrack).optLog
          logOptFollowStarBeginByOled
      else if mode = 0x00 then
        let c := c.endMode 0x01 .antennaRecordGoto logOptHandAimStarEndByOled
        let c := c.endMode 0x02 .satelliteTrack logOptAutoAimStarEndByOled
        let c := c.endMode 0x04 .antennaRecordGoto logOptAntennaPoseStopByOled
        let c := c.endMode 0x03 .satGradientTrack logOptFollowStarEndByOled
        (c.safeEnd pdu).setWorkSta 0x00
      else c
    (.SUCC, c.setMode mode)

/-! ### AntennaRecordGoto -/

/-- Of the tasks that run, one is ended. -/
def Cmd.oneTaskDel (c : Cmd) : Cmd :=
  if 0 < c.taskRunFlag .antennaRecordGoto then c.taskDel .antennaRecordGoto
  else if 0 < c.taskRunFlag .satGradientTrack then c.taskDel .satGradientTrack
  else if 0 < c.taskRunFlag .satelliteTrack then c.taskDel .satelliteTrack
  else c

/-- Any mode but the idle one is left first, and the motors are stopped. -/
def Cmd.leaveMode (pdu : Pdu) (c : Cmd) : Cmd :=
  if c.seekSatMode ≠ 0x00 then (c.oneTaskDel.setMode 0x00).safeEnd pdu else c

/-- `beacon_freq`. -/
def beaconFreq (freq lo_freq : UInt32) : UInt32 :=
  if lo_freq < freq then freq - lo_freq else lo_freq - freq

namespace Cmd

/-- The record of an id that is in the list; `none` where the command returns `FAIL`. -/
def recordOf (faults : Faults) (id : UInt8) (c : Cmd) : Option (List UInt8) :=
  if 10 < id ∨ id = 0 then none
  else if Slots.first antennaRecordMax c.device.recordList.recordId id = none then none
  else
    match faults.antennaRecordRead id c.device.eeprom with
    | none => none
    | some buff => if id ≠ buff.getD 0 0 then none else some buff

/-- The antenna is not the one of the record. -/
def otherAntenna (r : Recalled) (c : Cmd) : Prop :=
  r.antenna.type ≠ c.device.antennaParam.type ∨
    r.antenna.offsetAngle ≠ c.device.antennaParam.offsetAngle ∨
    r.antenna.caliber ≠ c.device.antennaParam.caliber

instance (r : Recalled) (c : Cmd) : Decidable (c.otherAntenna r) :=
  inferInstanceAs (Decidable (_ ∨ _))

/-- `ACUParam.CurrSatParam` is set from a record. -/
def setCurrSatParam (r : Recalled) (c : Cmd) : Cmd :=
  { c with device := { c.device with
    currSatParam := ⟨0x00, r.name, r.lonFlag, r.lon, r.freq, r.polarType⟩ } }

/-- The move to the place of a record begins; `history_max_mv` is the address of that field. -/
def startGoto (code : Nat) (faults : Faults) (history_max_mv : UInt32) (r : Recalled) (c : Cmd) :
    Cmd :=
  let agc_mv : FP32 := r.agcMv.toNat
  let aim : Degrees := ⟨r.position, r.cabrage, r.polar⟩
  let sat := c.device.currSatParam
  let eeprom := (faults.historyMaxMvSave history_max_mv c.device.eeprom).2
  let c : Cmd := { c with
    historyMaxMv := agc_mv
    agcMaxMv := agc_mv
    aim
    seekSatMode := 0x04
    acts := c.acts ++ [.optLogPose code sat c.device.antennaParam aim]
    device := { c.device with eeprom := (faults.currSatParamSave sat eeprom).2 }
    devParamReflashFlag := fun _ => 0x01
    devWorkSta := 0x40 }
  c.taskCreate .antennaRecordGoto

/-- What both commands do with a record: the receiver is set, and if it follows, the move
begins. -/
def recallRecord (code : Nat) (faults : Faults) (beacon : UInt32 → Ret) (history_max_mv : UInt32)
    (r : Recalled) (c : Cmd) : Ret × Cmd :=
  let c := c.setCurrSatParam r
  match c.setFreq beacon (beaconFreq r.freq c.device.antennaParam.loFreq) with
  | (.FAIL, c) => (.FAIL, c)
  | (.SUCC, c) => (.SUCC, c.startGoto code faults history_max_mv r)

end Cmd

/-- `APP_PCCOMM_AntennaRecordGoto`. -/
def pcAntennaRecordGoto (pdu : Pdu) (faults : Faults) (beacon : UInt32 → Ret)
    (history_max_mv : UInt32) (rxbuff : Nat → UInt8) (s : Sta) : Ret × Cmd :=
  let c := s.begin.leaveMode pdu
  if cmdIdOf rxbuff ≠ CmdId.antennaRecordGoto.id then (.FAIL, c)
  else
    match c.recordOf faults (rxbuff 3) with
    | none => (.FAIL, c)
    | some buff =>
      let r := pcGotoRecord buff
      if c.otherAntenna r then (.FAIL, c)
      else c.recallRecord logOptAntennaPoseAppByPc faults beacon history_max_mv r

/-- `APP_OLEDCOMM_AntennaRecordGoto`. -/
def oledAntennaRecordGoto (pdu : Pdu) (faults : Faults) (beacon : UInt32 → Ret)
    (history_max_mv : UInt32) (rxbuff : Nat → UInt8) (s : Sta) : Ret × Cmd :=
  let c := s.begin.leaveMode pdu
  if cmdIdOf rxbuff ≠ CmdId.antennaRecordGoto.id then (.FAIL, c)
  else
    match c.recordOf faults (rxbuff 3) with
    | none => (.FAIL, c)
    | some buff =>
      let r := oledGotoRecord buff
      if c.otherAntenna r then (.FAIL, c)
      else c.recallRecord logOptAntennaPoseAppByOled faults beacon history_max_mv r

/-- `AntennaRecordGoto` finds the record of the command, and it is for this antenna. -/
def Sta.gotoFinds (s : Sta) (faults : Faults) (rxbuff : Nat → UInt8) (r : Recalled) : Prop :=
  cmdIdOf rxbuff = CmdId.antennaRecordGoto.id ∧
    (∃ buff, s.begin.recordOf faults (rxbuff 3) = some buff ∧ pcGotoRecord buff = r) ∧
    ¬ s.begin.otherAntenna r

end SwiftAcu.Mode
