/-
The handlers of the PC protocol on the device they set.

`PcHandlers` has a handler as what it does with the bytes it has read.  Here are the handlers of
the satellites, the antenna, its limits, the position and the network as `Acu/Satellite.lean`,
`Acu/AntennaRecord.lean`, `Acu/SetCmd.lean`, `Acu/Position.lean` and `Acu/NetWork.lean` have them,
from the buffers themselves.  Both are tied by putting the bytes back to where they were read.
-/
import SwiftAcu.Acu.NetWork
import SwiftAcu.Acu.SetCmd

namespace SwiftAcu.PcComm

variable [SoftFloat]

/-- What the handlers write besides the position and what is stored. -/
structure PcDevice extends Station where
  /-- `ScanRange_param`. -/
  scanRangeParam : Vector UInt8 3
  antennaDirMapMotor : Int → SetCmd.AntennaDirMapMotor
  /-- `EleccoderInfo[…].EleccoderConf.count_mode`. -/
  countMode : Int → UInt8
  /-- `SatList_Refresh_flag`. -/
  satListRefreshFlag : UInt8
  /-- What `LWIP_NetworkConfigChange` gave to `xnetif` last. -/
  netif : NetWork
  /-- The addresses given to `APP_OptLOG_Save`, newest first. -/
  netLog : List (Nat × List UInt8)

/-- What the EEPROM, the receiver, the encoders and the motors answer, and what is computed. -/
structure Env where
  faults : Faults
  /-- What `SelSatParam` holds where the satellite cannot be read. -/
  stack : SatParam
  beacon : UInt32 → Ret
  agc : UInt8 → Ret
  aimDegree : AntennaParam → SatParam → Degrees
  /-- What `Motor_DriveStart` returns. -/
  start : Ret
  turning : SetCmd.Turning
  gauge : Gauge
  data : Int → UInt32

/-- The count of satellites in `AcuRest` is that of the list. -/
def Synced (s : AcuRest PcDevice) : Prop := s.satTotalNum = s.others.device.satList.total

/-! ### What a handler works on -/

/-- The device as the commands that set parameters have it. -/
def staOf (s : AcuRest PcDevice) (antennaDir : UInt16) : SetCmd.Sta where
  device := s.others.device
  seekSatMode := s.seekSatMode
  scanRangeParam := s.others.scanRangeParam
  aim := s.others.aim
  softLimit := s.others.softLimit
  antennaDirMapMotor := s.others.antennaDirMapMotor
  countMode := s.others.countMode
  satListRefreshFlag := s.others.satListRefreshFlag
  antennaDir

def putDevice (s : AcuRest PcDevice) (device : Device) : AcuRest PcDevice :=
  { s with satTotalNum := device.satList.total, others := { s.others with device } }

def putSta (s : AcuRest PcDevice) (t : SetCmd.Sta) : AcuRest PcDevice :=
  { s with
    seekSatMode := t.seekSatMode
    satTotalNum := t.device.satList.total
    others := { s.others with
      device := t.device
      scanRangeParam := t.scanRangeParam
      aim := t.aim
      softLimit := t.softLimit
      antennaDirMapMotor := t.antennaDirMapMotor
      countMode := t.countMode
      satListRefreshFlag := t.satListRefreshFlag } }

def putStation (s : AcuRest PcDevice) (t : Station) : AcuRest PcDevice :=
  { s with
    satTotalNum := t.device.satList.total
    others := { s.others with toStation := t } }

/-- The device as the network settings reach it. -/
def netOf (s : AcuRest PcDevice) : NetDevice where
  netWork := s.others.netWork
  eeprom := s.others.device.eeprom
  netif := s.others.netif
  optLog := s.others.netLog

def putNet (s : AcuRest PcDevice) (t : NetDevice) : AcuRest PcDevice :=
  { s with others := { s.others with
      netWork := t.netWork
      device := { s.others.device with eeprom := t.eeprom }
      netif := t.netif
      netLog := t.optLog } }

/-! ### The handlers -/

/-- `PCCOMMRxBuff` among the cells. -/
def rxOf (m : Cell → UInt8) : Nat → UInt8 := fun i => m (.rx i)

/-- `AntennaDir` among the cells. -/
def dirOf (m : Cell → UInt8) : UInt16 :=
  ((m (.antennaDir true)).toUInt16 <<< 8) ||| (m (.antennaDir false)).toUInt16

/-- What a handler comes to: what it returns, the device, and what it has put in `AntennaDir`. -/
structure Handled where
  status : Ret
  rest : AcuRest PcDevice
  antennaDir : Option UInt16

/-- A command of `Acu/SetCmd.lean`. -/
def handledSta (s : AcuRest PcDevice) (r : Ret × SetCmd.Cmd) : Handled :=
  ⟨r.1, putSta s r.2.toSta, none⟩

/-- A handler on the buffers; `none` where it is not one of those followed here. -/
def handled (env : Env) (c : CmdId) (m : Cell → UInt8) (s : AcuRest PcDevice) : Option Handled :=
  let rx := rxOf m
  -- the end of the adjustment alone looks at `AntennaDir`
  let sta := staOf s 0
  match c with
  | .satParamSet => some (handledSta s (SetCmd.satParamSet env.faults rx sta))
  | .satSel =>
    some (handledSta s (SetCmd.pcSelSat env.faults env.stack env.beacon env.aimDegree rx sta))
  | .satDel =>
    let r := delSatSet (SetCmd.pbuff rx (rx 2).toNat) s.others.device
    some ⟨r.1, putDevice s r.2, none⟩
  | .antennaRecordDel =>
    let r := pcDelAntennaRecord (SetCmd.pbuff rx (rx 2).toNat) s.others.device
    some ⟨r.1, putDevice s r.2, none⟩
  | .antennaParamSet =>
    some (handledSta s (SetCmd.antennaParamSet env.faults env.agc env.aimDegree rx sta))
  | .antennaTurnDirAdjustBeginSet =>
    let r := SetCmd.antennaTurnDirAdjustBegin env.start rx sta
    some { handledSta s r with antennaDir := if r.1 = .SUCC then some r.2.antennaDir else none }
  | .antennaTurnDirAdjustFinishSet =>
    some (handledSta s
      (SetCmd.antennaTurnDirAdjustFinish env.faults env.turning rx (staOf s (dirOf m))))
  | .antennaHardWareLimitSet =>
    some (handledSta s (SetCmd.antennaHargWareLimitAdjust env.faults env.gauge env.data rx sta))
  | .localParamSet =>
    let r := pcLocalParamSet (rx 2) (SetCmd.pbuff rx 14) s.others.toStation
    some ⟨r.1, putStation s r.2, none⟩
  | .localParamSrcSelSet =>
    let r := pcLocalParamSrcSelSet (rx 2) (SetCmd.pbuff rx 1) s.others.toStation
    some ⟨r.1, putStation s r.2, none⟩
  | .netWorkSet =>
    let r := pcNetWorkSet (cmdIdOf rx) (rx 2) (SetCmd.pbuff rx 12) (netOf s)
    some ⟨r.1, putNet s r.2, none⟩
  | _ => none

/-! ### The handlers on what they have read -/

/-- The buffers with a command id and nothing behind it. -/
def idCells (c : CmdId) : Cell → UInt8
  | .rx 0 => UInt8.ofNat (c.id / 256)
  | .rx 1 => UInt8.ofNat c.id
  | _ => 0

/-- The buffers as far as a handler has read them. -/
def readCells (c : CmdId) (args : List UInt8) (s : AcuRest PcDevice) : Cell → UInt8 :=
  (handler s c).replay (idCells c) args

/-- The handlers followed here, and `h` for the others. -/
def deviceHandlers (env : Env) (h : PcHandlers PcDevice) : PcHandlers PcDevice where
  deal := fun c args a =>
    match handled env c (readCells c args a.rest) a.rest with
    | some r => ⟨r.status, r.rest, [], [], none, r.antennaDir⟩
    | none => h.deal c args a
  fills := by
    intro c args a hquery
    have hnone : handled env c (readCells c args a.rest) a.rest = none := by
      revert hquery
      cases c <;> first | exact fun _ => rfl | exact fun hquery => absurd hquery (by decide)
    rw [hnone]
    exact h.fills c args a hquery

end SwiftAcu.PcComm
