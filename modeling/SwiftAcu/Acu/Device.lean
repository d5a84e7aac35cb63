/-
What the device knows of its satellites and antenna records, and how it comes up,
`APP_PARAM_Init` of `app_param_save_read.c`.

A list of ids is kept in RAM next to a count, and a slot for each id in the EEPROM.
The lists are not stored: at start-up the slots are searched, in their order, until the
stored number of satellites has been found, while records are searched throughout.

Both id arrays are written at `id - 1` for ids that were not checked.  `satId` is the
memory from `Sat_ID` on, so that an entry of 100 or more lies behind the array; in front
of `record_ID` lies the high byte of `record_Total_num`.
-/
import Mathlib.Logic.Function.Basic
import SwiftAcu.Acu.Param

namespace SwiftAcu

variable [SoftFloat]

/-- `strSATList`. -/
structure SatList where
  /-- `Sat_Total_num`. -/
  total : UInt16
  /-- `Sat_ID`, and what lies behind. -/
  satId : Nat → UInt8

/-- `strAntennaRecordList`. -/
structure AntennaRecordList where
  /-- `record_Total_num`. -/
  total : UInt32
  recordId : Nat → UInt8

/-- The parts of `ACUDevInfo` that are kept in the EEPROM and changed here. -/
structure Device where
  eeprom : Eeprom
  satList : SatList
  recordList : AntennaRecordList
  currSatParam : SatParam
  antennaParam : AntennaParam
  allElecCoderMap : AllElecCoderMapAntenna
  /-- `BeaconConf.agc_output_range`. -/
  agcOutputRange : UInt8

/-! ### Satellites at start-up -/

/-- The search for satellites. -/
structure SatScan where
  /-- `sat_num`: how many are still to be found. -/
  satNum : UInt16
  curr : SatParam
  satId : Nat → UInt8
  eeprom : Eeprom

/-- One round of the search; it is over when `sat_num` is 0. -/
def satScanStep (total : UInt16) (s : SatScan) (i : Nat) : SatScan :=
  if s.satNum = 0 then s
  else
    match satParamRead (UInt8.ofNat (i + 1)) s.eeprom with
    | none => s
    | some p =>
      let curr := if (p.id = s.curr.id ∧ 0 < s.curr.id) ∨ total = 1 then p else s.curr
      let satId := Function.update s.satId i p.id
      if curr.id = 0 then
        { satNum := s.satNum - 1
          curr := { curr with id := p.id }
          satId
          eeprom := satCurrIdSave p.id s.eeprom }
      else { satNum := s.satNum - 1, curr, satId, eeprom := s.eeprom }

/-- The satellites of `APP_PARAM_Init`: the list, the current satellite, the EEPROM. -/
def satInit (m : Eeprom) : SatList × SatParam × Eeprom :=
  let stored := satTotalNumRead m
  let total := if 100 < stored then 0 else stored
  let s := (List.range satMax).foldl (satScanStep total) ⟨total, currSatParamRead m, fun _ => 0, m⟩
  if 0 < s.satNum then
    (⟨total - s.satNum, s.satId⟩, s.curr, satTotalNumSave (total - s.satNum) s.eeprom)
  else (⟨total, s.satId⟩, s.curr, s.eeprom)

/-! ### Records at start-up -/

/-- `readbuff[0] == i+1`. -/
def recordFound (m : Eeprom) (i : Nat) : Bool :=
  (antennaRecordRead (UInt8.ofNat (i + 1)) m).getD 0 0 = UInt8.ofNat (i + 1)

/-- `record_ID` after the search. -/
def recordScan (m : Eeprom) (i : Nat) : UInt8 :=
  if i < antennaRecordMax ∧ recordFound m i = true then UInt8.ofNat (i + 1) else 0

/-- The records of `APP_PARAM_Init`: their number is counted, and stored if it was another. -/
def recordInit (m : Eeprom) : AntennaRecordList × Eeprom :=
  let sat_num := UInt32.ofNat ((List.range antennaRecordMax).countP fun i => recordFound m i)
  (⟨sat_num, recordScan m⟩,
    if sat_num ≠ antennaRecordTotalNumRead m then antennaRecordTotalNumSave sat_num m else m)

/-- The polarisation mode of the encoder map is 0, 1 or 2. -/
def AllElecCoderMapAntenna.checked (p : AllElecCoderMapAntenna) : AllElecCoderMapAntenna :=
  if p.satPolarType ≠ 0x00 ∧ p.satPolarType ≠ 0x01 ∧ p.satPolarType ≠ 0x02 then
    { p with satPolarType := 0x00 }
  else p

/-- `APP_PARAM_Init`, with all RAM zero. -/
def paramInit (m : Eeprom) : Device :=
  let sats := satInit m
  let records := recordInit sats.2.2
  { eeprom := records.2
    satList := sats.1
    recordList := records.1
    currSatParam := sats.2.1
    antennaParam := antennaParamRead sats.2.2
    allElecCoderMap := (elecCodeMapRead m).checked
    agcOutputRange := 0 }

end SwiftAcu
