/-
What the queries of both protocols read of `ACUDevInfo`, and the alarm codes of
`app_monitor.c`.

The satellites, the records and the antenna are those of `Device`, the logs those of
`AppLog.Board`.  The control of the device, the seek mode and the working state are in
the `Acu` around it.
-/
import SwiftAcu.Acu.Admin
import SwiftAcu.Acu.Device
import SwiftAcu.Acu.LogQuery

namespace SwiftAcu

/-- `strLocalPositionParam`. -/
structure LocalPositionParam where
  lonFlag : UInt8
  lon : FP32
  latFlag : UInt8
  lat : FP32
  height : UInt32
  validFlag : UInt8
  dataSrcFlag : UInt8
  deriving DecidableEq

/-- Three angles of the antenna. -/
structure Degrees where
  position : FP32
  cabrage : FP32
  polar : FP32
  deriving DecidableEq

/-- `motor_position_start` … `motor_polar_end` of `strAntennaParam`. -/
structure SoftLimit where
  start : Degrees
  stop : Degrees
  deriving DecidableEq

/-- The fields of `strACUCurrSta` that are sent. -/
structure CurrSta where
  antenna : Degrees
  beaconRxpowerMv : FP32
  beaconRxpowerDb : FP32
  agcMaxMv : FP32
  devMoveSta : UInt8
  devAlarmFlag : UInt8
  /-- `dev_alarm_reflash_flag[0]` is for the PC, `[1]` for the front panel. -/
  devAlarmReflashFlag : Fin 2 → UInt8
  devAlarmBuff : Fin 6 → UInt8
  devParamReflashFlag : Fin 2 → UInt8

/-- `strVersion`. -/
structure DevVersion where
  hardver : Vector UInt8 16
  softver : Vector UInt8 16

/-- The parts of `ACUDevInfo` that are sent, and what answers meanwhile. -/
structure DevInfo where
  device : Device
  board : AppLog.Board
  localPosition : LocalPositionParam
  sysDateTime : SysDateTime
  /-- `SysDateTime.src_flag`. -/
  srcFlag : UInt32
  /-- `aim_position`, `aim_cabrage` and `aim_polar`. -/
  aim : Degrees
  softLimit : SoftLimit
  netWork : NetWork
  currSta : CurrSta
  /-- `AimAtSat_Limit_mv`. -/
  aimAtSatLimitMv : UInt32
  /-- `Version[0]`. -/
  acuVersion : DevVersion
  /-- `Version[1]`. -/
  pduVersion : DevVersion
  /-- The EEPROM answers a read at this address. -/
  answers : Int → Bool
  /-- What the PDU answers to `APP_PDUCOMM_VersionQue`, if it does. -/
  pduAnswer : Option DevVersion

/-! ### Alarm codes -/

/-- The tests of `APP_MONITOR_AlarmStaCodeDeal`: the byte, the bit, and the code. -/
def alarmStaCodeTbl : List (Fin 6 × UInt8 × List UInt8) :=
  [(0, 0x01, [0x01, 0x01, 0x01]), (0, 0x02, [0x01, 0x01, 0x02]), (0, 0x04, [0x01, 0x01, 0x03]),
    (1, 0x01, [0x01, 0x02, 0x01]), (1, 0x02, [0x01, 0x02, 0x02]), (1, 0x04, [0x01, 0x02, 0x03]),
    (2, 0x01, [0x01, 0x03, 0x01]), (2, 0x02, [0x01, 0x03, 0x02]),
    (3, 0x01, [0x01, 0x04, 0x01]), (4, 0x02, [0x01, 0x04, 0x02]),
    (5, 0x01, [0x01, 0x04, 0x03]), (5, 0x02, [0x01, 0x04, 0x04]), (5, 0x04, [0x01, 0x04, 0x05]),
    (5, 0x08, [0x01, 0x04, 0x06]), (5, 0x10, [0x01, 0x04, 0x07]), (5, 0x20, [0x01, 0x04, 0x08])]

/-- `APP_MONITOR_AlarmStaCodeDeal`: the codes of the alarms that are on. -/
def alarmStaCodeDeal (dev_alarm_buff : Fin 6 → UInt8) : List UInt8 :=
  alarmStaCodeTbl.flatMap fun e => if dev_alarm_buff e.1 &&& e.2.1 ≠ 0 then e.2.2 else []

/-- `APP_PDUCOMM_VersionQue`, behind the two `memset`s of the version queries. -/
def pduVersionQue (d : DevInfo) : DevInfo :=
  let spaces := Vector.replicate 16 (0x20 : UInt8)
  { d with pduVersion := d.pduAnswer.getD ⟨spaces, spaces⟩ }

end SwiftAcu
