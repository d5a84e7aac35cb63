/-
The antenna records, one command at a time.

A command is a recording or a deletion from the PC or the front panel, or one of the two
PC commands that forget all records.  A run starts with what `APP_PARAM_Init` makes of
some EEPROM.
-/
import SwiftAcu.Acu.AntennaRecord

namespace SwiftAcu.Record

variable [SoftFloat]

/-- The commands that change the records. -/
inductive Op where
  /-- `APP_PCCOMM_AntennaRecord`. -/
  | pcRecord (cmdlen : UInt8) (now : Now)
  /-- `APP_OLEDCOMM_AntennaRecord`. -/
  | oledRecord (cmdlen : UInt8) (now : Now)
  /-- `APP_PCCOMM_DelAntennaRecord`. -/
  | pcDelete (pbuff : List UInt8)
  /-- `APP_OLEDCOMM_DelAntennaRecord`. -/
  | oledDelete (pbuff : List UInt8)
  /-- `APP_PCCOMM_AntennaParamSet`. -/
  | antennaParamSet (agc : Ret) (pbuff : List UInt8)
  /-- `APP_PCCOMM_AntennaParamAdjustSet`. -/
  | antennaParamAdjustSet (e : Encoders)

/-- One command. -/
def step (d : Device) : Op → Device
  | .pcRecord cmdlen now => (pcAntennaRecord cmdlen now d).2
  | .oledRecord cmdlen now => (oledAntennaRecord cmdlen now d).2
  | .pcDelete pbuff => (pcDelAntennaRecord pbuff d).2
  | .oledDelete pbuff => (oledDelAntennaRecord pbuff d).2
  | .antennaParamSet agc pbuff => (SwiftAcu.antennaParamSet agc pbuff d).2
  | .antennaParamAdjustSet e => (SwiftAcu.antennaParamAdjustSet e d).2

/-- The ids a command deletes. -/
def Op.deleted : Op → List UInt8
  | .pcDelete pbuff => pbuff
  | .oledDelete pbuff => pbuff
  | _ => []

end SwiftAcu.Record
