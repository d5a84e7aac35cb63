/-
Commands that set parameters: `APP_PCCOMM_SatParamSet`, `…_AntennaParamSet`, `…_SelSat`,
`…_AntennaTurnDirAdjustBegin`, `…_AntennaTurnDirAdjustFinish` and
`…_AntennaHargWareLimitAdjust` of `app_pccomm.c`, `APP_OLEDCOMM_SelSat` of `app_oledcomm.c`,
and `APP_ElecEncoder_DataAddDir_Adjust` of `app_monitor.c`.

Each of them changes RAM and EEPROM in turn, and the EEPROM, the receiver, the encoders
and the motors may fail on the way.  Three arrays are indexed with `id - 1` for an `id` out of
the command; such an index is kept next to the state, whether it is inside its array or not.
What lies around an array is part of it here.
-/
import SwiftAcu.Acu.Degree
import SwiftAcu.Acu.ModeSel
import SwiftAcu.Acu.Satellite

namespace SwiftAcu.SetCmd

variable [SoftFloat]

/-! ### Arrays -/

/-- The arrays. -/
inductive Table where
  | satId
  | antennaDirMapMotor
  | eleccoderInfo
  deriving DecidableEq, Repr

/-- How many entries an array has. -/
def Table.size : Table → Int
  | .satId => satMax
  | .antennaDirMapMotor => 3
  | .eleccoderInfo => 3

/-- An entry is read or written. -/
structure Access where
  table : Table
  index : Int
  deriving DecidableEq, Repr

/-- It is one of the array. -/
def Access.InRange (a : Access) : Prop := 0 ≤ a.index ∧ a.index < a.table.size

instance (a : Access) : Decidable a.InRange := inferInstanceAs (Decidable (_ ∧ _))

/-- `id - 1`. -/
def indexOf (id : UInt8) : Int := id.toNat - 1

/-! ### The state -/

/-- `strAntennaDirMapMotor`. -/
structure AntennaDirMapMotor where
  antennaPart : UInt8
  motorDir : MotorDir
  deriving DecidableEq

/-- What the commands read and write. -/
structure Sta where
  device : Device
  seekSatMode : UInt8
  /-- `ScanRange_param`. -/
  scanRangeParam : Vector UInt8 3
  /-- `aim_position` … of `AntennaParam`. -/
  aim : Degrees
  softLimit : SoftLimit
  antennaDirMapMotor : Int → AntennaDirMapMotor
  /-- `EleccoderInfo[…].EleccoderConf.count_mode`. -/
  countMode : Int → UInt8
  /-- `SatList_Refresh_flag`. -/
  satListRefreshFlag : UInt8
  /-- The static `AntennaDir` of `app_pccomm.c`. -/
  antennaDir : UInt16

/-- A command under way. -/
structure Cmd extends Sta where
  accesses : List Access

/-- A command that begins. -/
def Sta.begin (s : Sta) : Cmd := { s with accesses := [] }

namespace Cmd

/-- An entry is read or written. -/
def access (table : Table) (id : UInt8) (c : Cmd) : Cmd :=
  { c with accesses := c.accesses ++ [⟨table, indexOf id⟩] }

def setEeprom (m : Eeprom) (c : Cmd) : Cmd := { c with device := { c.device with eeprom := m } }

def setMode (mode : UInt8) (c : Cmd) : Cmd := { c with seekSatMode := mode }

end Cmd

/-- The `n` bytes behind the length of a command. -/
def pbuff (rxbuff : Nat → UInt8) (n : Nat) : List UInt8 := Memory.read rxbuff 3 n

/-! ### Satellites -/

/-- `Sat_ID[id-1] = id`. -/
def Cmd.putSat (id : UInt8) (c : Cmd) : Cmd :=
  { c.access .satId id with
    device := { c.device with satList := c.device.satList.put id }
    satListRefreshFlag := 0x01 }

/-- `APP_PCCOMM_SatParamSet`. -/
def satParamSet (faults : Faults) (rxbuff : Nat → UInt8) (s : Sta) : Ret × Cmd :=
  let c := s.begin
  if cmdIdOf rxbuff ≠ CmdId.satParamSet.id ∨ rxbuff 2 ≠ 0x1B then (.FAIL, c)
  else if rxbuff 3 = 0x00 ∧ 100 ≤ s.device.satList.total then (.FAIL, c)
  else
    let sat_reflash_flag := rxbuff 3 = 0x00 ∧ s.device.satList.freeId ≠ 0
    let p := addSatParam (if sat_reflash_flag then s.device.satList.freeId else rxbuff 3)
      (pbuff rxbuff 0x1B)
    match faults.satParamSave p s.device.eeprom with
    | (.FAIL, m) => (.FAIL, c.setEeprom m)
    | (.SUCC, m) =>
      if sat_reflash_flag then
        let total := s.device.satList.total + 1
        let c := c.setEeprom (faults.satTotalNumSave total m).2
        let l := { c.device.satList with total }
        let c : Cmd := { c with device := { c.device with satList := l } }
        (.SUCC, c.putSat p.id)
      else (.SUCC, (c.setEeprom m).putSat p.id)

/--
The common text of the two selections.  `stack` is what `SelSatParam` holds where the
satellite cannot be read, and `aimDegree` what `APP_MONITOR_AimDegree_Get` computes where the
station stands.
-/
def selSat (faults : Faults) (stack : SatParam) (beacon : UInt32 → Ret)
    (aimDegree : AntennaParam → SatParam → Degrees) (rxbuff : Nat → UInt8) (s : Sta) : Ret × Cmd :=
  let c := s.begin
  if cmdIdOf rxbuff ≠ CmdId.satSel.id ∨ rxbuff 2 ≠ 1 then (.FAIL, c)
  else
    let sel_sat_id := rxbuff 3
    let c := c.access .satId sel_sat_id
    if sel_sat_id ≠ s.device.satList.idAt sel_sat_id then (.FAIL, c)
    else
      let c := c.setEeprom (faults.satCurrIdSave sel_sat_id s.device.eeprom).2
      let p := (faults.satParamRead sel_sat_id c.device.eeprom).getD { stack with id := sel_sat_id }
      match beacon (Mode.beaconFreq p.freq s.device.antennaParam.loFreq) with
      | .FAIL => (.FAIL, c)
      | .SUCC =>
        let m := (faults.historyMaxMvSave 0 c.device.eeprom).2
        let c := c.setEeprom (faults.currSatParamSave p m).2
        (.SUCC, { c with
          device := { c.device with currSatParam := p }
          aim := aimDegree s.device.antennaParam p })

/-- `APP_PCCOMM_SelSat`. -/
def pcSelSat : Faults → SatParam → (UInt32 → Ret) → (AntennaParam → SatParam → Degrees) →
    (Nat → UInt8) → Sta → Ret × Cmd := selSat

/-- `APP_OLEDCOMM_SelSat`. -/
def oledSelSat : Faults → SatParam → (UInt32 → Ret) → (AntennaParam → SatParam → Degrees) →
    (Nat → UInt8) → Sta → Ret × Cmd := selSat

/-! ### The antenna -/

/-- The records are forgotten; what the saves return is not looked at. -/
def Cmd.clearRecords (faults : Faults) (c : Cmd) : Cmd :=
  let m := (faults.antennaRecordTotalNumSave 0 c.device.eeprom).2
  { c with device := { c.device with
      recordList := c.device.recordList.clear
      eeprom := faults.antennaRecordAllClear m } }

/-- `ScanRange_param` of a band. -/
def scanRangeOf (lo_freq : UInt32) : Vector UInt8 3 :=
  if 8000000 ≤ lo_freq then #v[2, 5, 10] else #v[5, 8, 12]

/-- `APP_PCCOMM_AntennaParamSet`; `agc` is what `APP_BEACON_SetAGCOutputRange` returns. -/
def antennaParamSet (faults : Faults) (agc : UInt8 → Ret)
    (aimDegree : AntennaParam → SatParam → Degrees) (rxbuff : Nat → UInt8) (s : Sta) : Ret × Cmd :=
  let c := s.begin
  if cmdIdOf rxbuff ≠ CmdId.antennaParamSet.id then (.FAIL, c)
  else
    let new := newAntennaParam (pbuff rxbuff 12)
    if new.gainRangeFlag ≠ s.device.agcOutputRange ∧ agc new.gainRangeFlag = .FAIL then (.FAIL, c)
    else
      let c : Cmd := { c with device := { c.device with agcOutputRange := new.gainRangeFlag } }
      let c := if bandChanges s.device.antennaParam.loFreq new.loFreq then c.clearRecords faults
        else c
      let c : Cmd := { c with
        device := { c.device with antennaParam := new }
        aim := aimDegree new s.device.currSatParam
        scanRangeParam := scanRangeOf new.loFreq }
      let r := faults.antennaParamSave new c.device.eeprom
      (r.1, c.setEeprom r.2)

/-! ### The way the antenna turns -/

/-- `APP_PCCOMM_AntennaTurnDirAdjustBegin`; `start` is what `Motor_DriveStart` returns. -/
def antennaTurnDirAdjustBegin (start : Ret) (rxbuff : Nat → UInt8) (s : Sta) : Ret × Cmd :=
  let c := s.begin
  if cmdIdOf rxbuff ≠ CmdId.antennaTurnDirAdjustBeginSet.id then (.FAIL, c)
  else
    let antenna_part := rxbuff 3
    if antenna_part ≠ 1 ∧ antenna_part ≠ 2 ∧ antenna_part ≠ 3 then (.FAIL, c)
    else if rxbuff 4 ≠ 0x01 ∧ rxbuff 4 ≠ 0x02 then (.FAIL, c)
    else if start = .FAIL then (.FAIL, c)
    else (.SUCC, { c with antennaDir := (antenna_part.toUInt16 <<< 8) + 0x02, seekSatMode := 0x01 })

/-- What the encoder and the motor say while the adjustment is finished. -/
structure Turning where
  /-- `databuff`. -/
  data : Fin 4 → UInt32
  /-- What `count_mode` holds behind `APP_ElecEncoder_DataAddDir_Get`. -/
  countMode : UInt8
  /-- What the two `APP_ElecEncoder_DataAddDir_Set` return … -/
  set : Ret
  setAgain : Ret
  /-- … and the two `Motor_DriveEnd`. -/
  driveEnd : Ret
  driveEndAgain : Ret

/-- The encoder stands still. -/
def Turning.still (t : Turning) : Prop :=
  (t.data 0 = t.data 1 ∧ t.data 0 = t.data 2) ∨ (t.data 1 = t.data 2 ∧ t.data 1 = t.data 3)

instance (t : Turning) : Decidable t.still := inferInstanceAs (Decidable (_ ∨ _))

/-- `add_flag`. -/
def addFlag (a b : UInt32) : UInt8 := if a < b then 1 else 0

/-- `add_flag_now`: where the first two steps differ, it is a reading cut to a byte. -/
def Turning.addFlagNow (t : Turning) : UInt8 :=
  if addFlag (t.data 0) (t.data 1) = addFlag (t.data 1) (t.data 2) then
    addFlag (t.data 0) (t.data 1)
  else if addFlag (t.data 0) (t.data 1) = addFlag (t.data 2) (t.data 3) then (t.data 0).toUInt8
  else (t.data 1).toUInt8

/-- The encoder is to count the other way. -/
def Turning.otherWay (t : Turning) (antenna_dir : UInt8) : Prop :=
  (if antenna_dir = dirRightUpClock then 1 else 0) ≠ t.addFlagNow

instance (t : Turning) (antenna_dir : UInt8) : Decidable (t.otherWay antenna_dir) :=
  inferInstanceAs (Decidable (_ ≠ _))

/-- `APP_ElecEncoder_DataAddDir_Adjust` comes to an end without a failure. -/
def Turning.adjusts (t : Turning) (antenna_dir : UInt8) : Prop :=
  ¬ t.still ∧ ¬ (t.otherWay antenna_dir ∧ t.set = .FAIL ∧ t.setAgain = .FAIL)

instance (t : Turning) (antenna_dir : UInt8) : Decidable (t.adjusts antenna_dir) :=
  inferInstanceAs (Decidable (_ ∧ _))

/-- The counting mode that is stored. -/
def Turning.newCountMode (t : Turning) (antenna_dir : UInt8) : UInt8 :=
  if t.otherWay antenna_dir then if t.countMode = 0xE1 then 0xE2 else 0xE1 else t.countMode

/-- `APP_ElecEncoder_DataAddDir_Adjust`. -/
def Cmd.dataAddDirAdjust (faults : Faults) (t : Turning) (antenna_part antenna_dir : UInt8)
    (c : Cmd) : Ret × Cmd :=
  let c := c.access .eleccoderInfo antenna_part
  if t.adjusts antenna_dir then
    let count_mode := t.newCountMode antenna_dir
    let c := (c.setEeprom (faults.elecCodeCountModeSaveTwice antenna_part count_mode
      c.device.eeprom)).access .eleccoderInfo antenna_part
    (.SUCC, { c with
      countMode := Function.update c.countMode (indexOf antenna_part) count_mode })
  else (.FAIL, c)

/-- The direction of the command, the other way round; `none` where it is refused. -/
def turnDir (dir : UInt8) : Option UInt8 :=
  if dir = 0x01 then some dirRightUpClock
  else if dir = 0x02 then some dirLeftDownAnticlock
  else none

/-- The entry of an axis that the motor has turned in `antenna_dir`. -/
def dirMapOf (antennaDir : UInt16) (antenna_part antenna_dir : UInt8) : AntennaDirMapMotor :=
  { antennaPart := antenna_part
    motorDir :=
      if antenna_dir.toUInt16 = antennaDir &&& 0x00FF then ⟨0x01, 0x02⟩ else ⟨0x02, 0x01⟩ }

/-- `AntennaDirMapMotor[antenna_part-1]` is set. -/
def Cmd.putDirMap (antenna_part : UInt8) (e : AntennaDirMapMotor) (c : Cmd) : Cmd :=
  { c.access .antennaDirMapMotor antenna_part with
    antennaDirMapMotor := Function.update c.antennaDirMapMotor (indexOf antenna_part) e }

/-- The motor is stopped, and the command is over. -/
def Cmd.turnEnd (t : Turning) (antenna_part : UInt8) (sta : Ret) (c : Cmd) : Ret × Cmd :=
  if t.driveEnd = .FAIL ∧ t.driveEndAgain = .FAIL then (.FAIL, c.setMode 0x00)
  else
    let c := if t.driveEnd = .FAIL then c.setMode 0x00 else c
    if antenna_part ≠ 1 ∧ antenna_part ≠ 2 ∧ antenna_part ≠ 3 then (.FAIL, c)
    else (sta, c.setMode 0x00)

/-- `APP_PCCOMM_AntennaTurnDirAdjustFinish`. -/
def antennaTurnDirAdjustFinish (faults : Faults) (t : Turning) (rxbuff : Nat → UInt8) (s : Sta) :
    Ret × Cmd :=
  let c := s.begin
  if cmdIdOf rxbuff ≠ CmdId.antennaTurnDirAdjustFinishSet.id then (.FAIL, c.setMode 0x00)
  else
    let antenna_part := rxbuff 3
    match turnDir (rxbuff 4) with
    | none => (.FAIL, c.setMode 0x00)
    | some antenna_dir =>
      if (s.antennaDir &&& 0xFF00) >>> 8 ≠ antenna_part.toUInt16 then (.FAIL, c.setMode 0x00)
      else
        let e := dirMapOf s.antennaDir antenna_part antenna_dir
        let c := c.putDirMap antenna_part e
        match faults.motorDirSave antenna_part e.motorDir c.device.eeprom with
        | (.FAIL, m) => (.FAIL, (c.setEeprom m).setMode 0x00)
        | (.SUCC, m) =>
          let r := (c.setEeprom m).dataAddDirAdjust faults t antenna_part antenna_dir
          r.2.turnEnd t antenna_part r.1

/-! ### Hard limits -/

/-- `APP_PCCOMM_AntennaHargWareLimitAdjust`; `data` is what the encoders read. -/
def antennaHargWareLimitAdjust (faults : Faults) (g : Gauge) (data : Int → UInt32)
    (rxbuff : Nat → UInt8) (s : Sta) : Ret × Cmd :=
  let c := s.begin
  let limit := rxbuff 3
  if cmdIdOf rxbuff ≠ CmdId.antennaHardWareLimitSet.id then (.FAIL, c)
  else if limit ∉ [0x10, 0x11, 0x20, 0x21, 0x30, 0x31] then (.FAIL, c)
  else
    let antenna_part := (limit &&& 0xF0) >>> 4
    let c := c.access .eleccoderInfo antenna_part
    let limit_data := data (indexOf antenna_part)
    match faults.hardWareLimitSave antenna_part limit limit_data s.device.eeprom with
    | (.FAIL, m) => (.FAIL, c.setEeprom m)
    | (.SUCC, m) =>
      let l := (SwiftAcu.antennaHargWareLimitAdjust g limit limit_data ⟨s.softLimit, m⟩).2.softLimit
      (.SUCC, { c.setEeprom m with softLimit := l })

end SwiftAcu.SetCmd
