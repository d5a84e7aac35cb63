/-
Antenna records: `APP_PCCOMM_AntennaRecord`, `…_AntennaRecordGoto`, `…_DelAntennaRecord`,
`…_AntennaParamSet` and `…_AntennaParamAdjustSet` of `app_pccomm.c`, the first three again
in `app_oledcomm.c`, and `APP_PARAM_AntennaRecord_Read2Struct`.

A record is 66 bytes that are put together byte by byte and taken apart in three places.
What the encoders, the receiver and the clock say at the time of a command is an input.
-/
import SwiftAcu.Acu.Device
import SwiftAcu.Lib.Slots

namespace SwiftAcu

variable [SoftFloat]

/-! ### The list -/

/-- `record_ID[id-1] = id`.  At `id = 0` this clears the high byte of `record_Total_num`. -/
def AntennaRecordList.put (l : AntennaRecordList) (id : UInt8) : AntennaRecordList :=
  if id = 0 then { l with total := l.total &&& 0x00FFFFFF }
  else { l with recordId := Function.update l.recordId (id.toNat - 1) id }

/-- `memset(&ACUDevInfo.AntennaRecordList,0x00,…)`. -/
def AntennaRecordList.clear (l : AntennaRecordList) : AntennaRecordList :=
  { total := 0, recordId := fun i => if i < antennaRecordMax then 0 else l.recordId i }

/-! ### The record -/

/-- What the device measures. -/
structure Now where
  /-- `ACUDevInfo.SysDateTime`. -/
  sysDateTime : SysDateTime
  /-- What `DATETIME_ReadFromRtcIC` reads. -/
  rtc : SysDateTime
  /-- `beacon_rxpower_mv`, which is only ever assigned the `INT32U` `data_mv`. -/
  beaconRxpowerMv : UInt32
  beaconRxpowerDb : FP32
  antennaPosition : FP32
  antennaCabrage : FP32
  antennaPolar : FP32

/-- `AntennaRecordBuff`. -/
def antennaRecordBuff (id : UInt8) (time : SysDateTime) (sat : SatParam) (p : AntennaParam)
    (now : Now) : List UInt8 :=
  [id] ++ dateTime2Bytebuff time ++
    sat.name.toList ++ [sat.lonFlag] ++ be32 (int32u (thousandths sat.lon)) ++ be32 sat.freq.toNat ++
    [sat.polarType] ++
    [p.type] ++ be32 p.offsetAngle.toNat ++ [p.caliber] ++ be32 p.loFreq.toNat ++
    [p.gainRangeFlag, p.elecCoderNum] ++
    be32 now.beaconRxpowerMv.toNat ++ be32 (int32u (thousandths now.beaconRxpowerDb)) ++
    be32 (int32u (thousandths now.antennaPosition)) ++
    be32 (int32u (thousandths now.antennaCabrage)) ++
    (if 3 ≤ p.elecCoderNum then be32s (int32s (thousandths now.antennaPolar)) else [0, 0, 0, 0])

/-- The first free id, or 0 if there is none. -/
def AntennaRecordList.freeId (l : AntennaRecordList) : UInt8 :=
  match Slots.first antennaRecordMax l.recordId 0 with
  | some i => UInt8.ofNat (i + 1)
  | none => 0

/-- The common text of the two record commands. -/
def antennaRecord (cmdlen : UInt8) (time : SysDateTime) (now : Now) (d : Device) : Ret × Device :=
  if cmdlen ≠ 0 then (.FAIL, d)
  else if 10 ≤ d.recordList.total then (.FAIL, d)
  else
    let id := d.recordList.freeId
    let eeprom := antennaRecordSave id
      (antennaRecordBuff id time d.currSatParam d.antennaParam now) d.eeprom
    let l := d.recordList.put id
    let num := if 10 < d.recordList.total + 1 then 10 else d.recordList.total + 1
    if num ≠ l.total then
      (.SUCC, { d with
        eeprom := antennaRecordTotalNumSave num eeprom, recordList := { l with total := num } })
    else (.SUCC, { d with eeprom, recordList := l })

/-- `APP_PCCOMM_AntennaRecord`. -/
def pcAntennaRecord (cmdlen : UInt8) (now : Now) : Device → Ret × Device :=
  antennaRecord cmdlen now.sysDateTime now

/-- `APP_OLEDCOMM_AntennaRecord`: the clock is read first. -/
def oledAntennaRecord (cmdlen : UInt8) (now : Now) : Device → Ret × Device :=
  antennaRecord cmdlen now.rtc now

/-! ### Deleting and clearing -/

/-- One round of the deletion: the entry that holds the byte is freed, its slot overwritten. -/
def delAntennaRecordId (d : Device) (del_id : UInt8) : Device :=
  match Slots.first antennaRecordMax d.recordList.recordId del_id with
  | none => d
  | some i =>
    { d with
      eeprom := antennaRecordSave del_id (List.replicate 64 0) d.eeprom
      recordList :=
        { total := if 0 < d.recordList.total then d.recordList.total - 1 else d.recordList.total
          recordId := Function.update d.recordList.recordId i 0 } }

/-- `APP_PCCOMM_DelAntennaRecord`, for the `cmdlen` bytes of `pbuff`. -/
def pcDelAntennaRecord (pbuff : List UInt8) (d : Device) : Ret × Device :=
  (.SUCC, pbuff.foldl delAntennaRecordId d)

/-- `APP_OLEDCOMM_DelAntennaRecord`. -/
def oledDelAntennaRecord (pbuff : List UInt8) (d : Device) : Ret × Device :=
  (.SUCC, pbuff.foldl delAntennaRecordId d)

/-- The records are forgotten: the list, the stored number, and the slots. -/
def clearRecords (d : Device) : Device :=
  { d with
    recordList := d.recordList.clear
    eeprom := antennaRecordAllClear (antennaRecordTotalNumSave 0 d.eeprom) }

/-- `NewAntennaParam`. -/
def newAntennaParam (pbuff : List UInt8) : AntennaParam :=
  { type := pbuff.getD 0 0
    offsetAngle := if pbuff.getD 0 0 = 0x00 then 0x00 else UInt32.ofNat (ofBe32At pbuff 1)
    caliber := pbuff.getD 5 0
    loFreq := UInt32.ofNat (ofBe32At pbuff 6)
    gainRangeFlag := pbuff.getD 10 0
    elecCoderNum := pbuff.getD 11 0 }

/-- The two bands meet at 8 GHz. -/
def bandChanges (lo_freq lo_freq' : UInt32) : Prop :=
  (8000000 ≤ lo_freq ∧ lo_freq' < 8000000) ∨ (lo_freq < 8000000 ∧ 8000000 ≤ lo_freq')

instance (lo_freq lo_freq' : UInt32) : Decidable (bandChanges lo_freq lo_freq') :=
  inferInstanceAs (Decidable (_ ∨ _))

/-- `APP_PCCOMM_AntennaParamSet`; `agc` is what `APP_BEACON_SetAGCOutputRange` returns. -/
def antennaParamSet (agc : Ret) (pbuff : List UInt8) (d : Device) : Ret × Device :=
  let new := newAntennaParam pbuff
  if new.gainRangeFlag ≠ d.agcOutputRange ∧ agc = .FAIL then (.FAIL, d)
  else
    let d' := if bandChanges d.antennaParam.loFreq new.loFreq then clearRecords d else d
    (.SUCC, { d' with
      agcOutputRange := new.gainRangeFlag
      antennaParam := new
      eeprom := antennaParamSave new d'.eeprom })

/-- One encoder: whether it answers, its angle and its counting mode. -/
structure Encoder where
  linked : Bool
  degree : FP32
  countMode : UInt8

/-- The encoders and the angles aimed at; `stack` is what the local map holds before. -/
structure Encoders where
  position : Encoder
  cabrage : Encoder
  polar : Encoder
  aimPosition : FP32
  aimCabrage : FP32
  aimPolar : FP32
  stack : AllElecCoderMapAntenna

/-- The angle a polar encoder is mapped to, and its mode; `'Y'` is vertical. -/
def polarDegree (polar_type : UInt8) (aim_polar : FP32) : FP32 × UInt8 :=
  if polar_type = 0x59 then if aim_polar < 0 then (aim_polar + 90, 2) else (aim_polar - 90, 1)
  else (aim_polar, 0)

/-- `APP_PCCOMM_AntennaParamAdjustSet`. -/
def antennaParamAdjustSet (e : Encoders) (d : Device) : Ret × Device :=
  if e.position.linked = false then (.FAIL, d)
  else if e.cabrage.linked = false then (.FAIL, d)
  else if 3 ≤ d.antennaParam.elecCoderNum ∧ e.polar.linked = false then (.FAIL, d)
  else
    let polar := polarDegree d.currSatParam.polarType e.aimPolar
    let map : AllElecCoderMapAntenna :=
      { position := ⟨e.aimPosition, e.position.degree, e.position.countMode⟩
        cabrage := ⟨e.aimCabrage, e.cabrage.degree, e.cabrage.countMode⟩
        polar := if 3 ≤ d.antennaParam.elecCoderNum
          then ⟨polar.1, e.polar.degree, e.polar.countMode⟩ else e.stack.polar
        satPolarType := if 3 ≤ d.antennaParam.elecCoderNum then polar.2 else e.stack.satPolarType }
    (.SUCC, clearRecords { d with eeprom := elecCodeMapSave map d.eeprom, allElecCoderMap := map })

/-! ### Recalling a record -/

/-- What a record is taken apart into. -/
structure Recalled where
  name : SatName
  lonFlag : UInt8
  lon : FP32
  freq : UInt32
  polarType : UInt8
  antenna : AntennaParam
  agcMv : UInt32
  position : FP32
  cabrage : FP32
  polar : FP32
  deriving DecidableEq

/-- `(FP32)((buff[i]<<24)+…)/(FP32)1000`: the sum is an `int`. -/
def degreeAt (buff : List UInt8) (i : Nat) : FP32 := degreeOf (ofBe32sAt buff i)

/-- The antenna parameters at `buff[i]` … -/
def antennaParamAt (buff : List UInt8) (i : Nat) : AntennaParam :=
  { type := buff.getD i 0
    offsetAngle := UInt32.ofNat (ofBe32At buff (i + 1))
    caliber := buff.getD (i + 5) 0
    loFreq := UInt32.ofNat (ofBe32At buff (i + 6))
    gainRangeFlag := buff.getD (i + 10) 0
    elecCoderNum := buff.getD (i + 11) 0 }

/-- How `APP_PCCOMM_AntennaRecordGoto` takes a record apart. -/
def pcGotoRecord (buff : List UInt8) : Recalled :=
  { name := nameAt buff 8
    lonFlag := buff.getD 24 0
    lon := degreeAt buff 25
    freq := UInt32.ofNat (ofBe32At buff 29)
    polarType := buff.getD 33 0
    antenna := antennaParamAt buff 34
    agcMv := UInt32.ofNat (ofBe32At buff 46)
    position := degreeAt buff 54
    cabrage := degreeAt buff 58
    polar := degreeAt buff 62 }

/-- An angle of no more than 0.1 is taken from the record a second time. -/
def degreeAgain (buff : List UInt8) (i : Nat) : FP32 :=
  if degreeAt buff i ≤ 1 / 10 then degreeAt buff i else degreeAt buff i

/-- How `APP_OLEDCOMM_AntennaRecordGoto` takes a record apart. -/
def oledGotoRecord (buff : List UInt8) : Recalled :=
  { name := nameAt buff 8
    lonFlag := buff.getD 24 0
    lon := degreeAt buff 25
    freq := UInt32.ofNat (ofBe32At buff 29)
    polarType := buff.getD 33 0
    antenna := antennaParamAt buff 34
    agcMv := UInt32.ofNat (ofBe32At buff 46)
    position := degreeAgain buff 54
    cabrage := degreeAgain buff 58
    polar := degreeAgain buff 62 }

/-- What `APP_PARAM_AntennaRecord_Read2Struct` stores; the receiver's voltage it skips. -/
structure RecordStruct where
  name : SatName
  lonFlag : UInt8
  lon : FP32
  freq : UInt32
  polarType : UInt8
  antenna : AntennaParam
  degreeAZ : FP32
  degreeEL : FP32
  degreePL : FP32
  deriving DecidableEq

/-- `APP_PARAM_AntennaRecord_Read2Struct`: azimuth and elevation are unsigned. -/
def antennaRecordRead2Struct (id : UInt8) (m : Eeprom) : RecordStruct :=
  let readbuff := paramRead m (antennaRecordAddr id) 80
  let p := antennaParamAt readbuff 34
  { name := nameAt readbuff 8
    lonFlag := readbuff.getD 24 0
    lon := degreeOf (ofBe32At readbuff 25)
    freq := UInt32.ofNat (ofBe32At readbuff 29)
    polarType := readbuff.getD 33 0
    antenna := { p with elecCoderNum := elecCoderNumOf p.elecCoderNum }
    degreeAZ := degreeOf (ofBe32At readbuff 54)
    degreeEL := degreeOf (ofBe32At readbuff 58)
    degreePL := degreeOf (ofBe32sAt readbuff 62) }

/--
The common text of the two recall commands, behind the stop of the motors: what the
antenna is sent to, and the device.  `beacon` is what `APP_BEACON_SetFreq` returns, and
`history_max_mv` the address of that field.
-/
def antennaRecordGoto (gotoRecord : List UInt8 → Recalled) (beacon : Ret) (history_max_mv : UInt32)
    (id : UInt8) (d : Device) : Option Recalled × Device :=
  if 10 < id ∨ id = 0 then (none, d)
  else if Slots.first antennaRecordMax d.recordList.recordId id = none then (none, d)
  else
    let buff := antennaRecordRead id d.eeprom
    if id ≠ buff.getD 0 0 then (none, d)
    else
      let r := gotoRecord buff
      if r.antenna.type ≠ d.antennaParam.type ∨ r.antenna.offsetAngle ≠ d.antennaParam.offsetAngle ∨
          r.antenna.caliber ≠ d.antennaParam.caliber then (none, d)
      else
        let curr : SatParam := ⟨0x00, r.name, r.lonFlag, r.lon, r.freq, r.polarType⟩
        match beacon with
        | .FAIL => (none, { d with currSatParam := curr })
        | .SUCC => (some r, { d with
            currSatParam := curr
            eeprom := currSatParamSave curr (historyMaxMvSave history_max_mv d.eeprom) })

/-- `APP_PCCOMM_AntennaRecordGoto`. -/
def pcAntennaRecordGoto : Ret → UInt32 → UInt8 → Device → Option Recalled × Device :=
  antennaRecordGoto pcGotoRecord

/-- `APP_OLEDCOMM_AntennaRecordGoto`. -/
def oledAntennaRecordGoto : Ret → UInt32 → UInt8 → Device → Option Recalled × Device :=
  antennaRecordGoto oledGotoRecord

end SwiftAcu
