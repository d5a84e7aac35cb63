/-
`APP_PCCOMM_AntennaParamAdjustSet` of `app_pccomm.c`, with the EEPROM as it may fail.

The map is a local that nothing is assigned to in advance.  The command fills in the axes whose
encoders it asks, and with two encoders it asks two; all of the local is then saved, and copied
to RAM.  A map that is not saved ends the command.  What the saves that clear the records return
is not looked at.
-/
import SwiftAcu.Acu.AntennaRecord
import SwiftAcu.Acu.Faults
import SwiftAcu.Acu.PcComm

namespace SwiftAcu

variable [SoftFloat]

/-- The local map, once the encoders have been asked. -/
def Encoders.adjustedMap (e : Encoders) (d : Device) : AllElecCoderMapAntenna :=
  let polar := polarDegree d.currSatParam.polarType e.aimPolar
  { position := ⟨e.aimPosition, e.position.degree, e.position.countMode⟩
    cabrage := ⟨e.aimCabrage, e.cabrage.degree, e.cabrage.countMode⟩
    polar := if 3 ≤ d.antennaParam.elecCoderNum
      then ⟨polar.1, e.polar.degree, e.polar.countMode⟩ else e.stack.polar
    satPolarType := if 3 ≤ d.antennaParam.elecCoderNum then polar.2 else e.stack.satPolarType }

namespace Faults

variable (faults : Faults)

/-- `memset(&ACUDevInfo.AntennaRecordList,…)` and the two saves behind it. -/
def clearRecords (d : Device) : Device :=
  { d with
    recordList := d.recordList.clear
    eeprom := faults.antennaRecordAllClear (faults.antennaRecordTotalNumSave 0 d.eeprom).2 }

/-- `APP_PCCOMM_AntennaParamAdjustSet`. -/
def antennaParamAdjustSet (e : Encoders) (rxbuff : Nat → UInt8) (d : Device) : Ret × Device :=
  if cmdIdOf rxbuff ≠ CmdId.antennaParamAdjust.id then (.FAIL, d)
  else if e.position.linked = false then (.FAIL, d)
  else if e.cabrage.linked = false then (.FAIL, d)
  else if 3 ≤ d.antennaParam.elecCoderNum ∧ e.polar.linked = false then (.FAIL, d)
  else
    match faults.elecCodeMapSave (e.adjustedMap d) d.eeprom with
    | (.FAIL, m) => (.FAIL, { d with eeprom := m })
    | (.SUCC, m) =>
      (.SUCC, faults.clearRecords { d with eeprom := m, allElecCoderMap := e.adjustedMap d })

end Faults

end SwiftAcu
