/-
The satellites, one command at a time.

A run starts with what `APP_PARAM_Init` makes of some EEPROM, and goes on with
satellites set and deleted by the PC.
-/
import SwiftAcu.Acu.Satellite

namespace SwiftAcu.Sat

variable [SoftFloat]

/-- The commands that change the satellites. -/
inductive Op where
  /-- `APP_PCCOMM_SatParamSet`. -/
  | satParamSet (pbuff : List UInt8)
  /-- `APP_PCCOMM_DelSatSet`. -/
  | delSatSet (pbuff : List UInt8)

/-- One command. -/
def step (d : Device) : Op → Device
  | .satParamSet pbuff => (SwiftAcu.satParamSet pbuff d).2
  | .delSatSet pbuff => (SwiftAcu.delSatSet pbuff d).2

end SwiftAcu.Sat
