/-
Satellites: `APP_PCCOMM_SatParamSet`, `…_DelSatSet`, `…_SelSat` and
`…_SaveAllSatParamQue` of `app_pccomm.c`, and `APP_OLEDCOMM_SelSat` of `app_oledcomm.c`.

A satellite is set with its id, or with id 0 under the first free one; all stored ones
are sent to the PC in datagrams of up to 40 frames.
-/
import SwiftAcu.Acu.Device
import SwiftAcu.Acu.PcComm
import SwiftAcu.Lib.Slots

namespace SwiftAcu

variable [SoftFloat]

/-! ### Setting and deleting -/

/-- `AddSatParam`; the longitude of the command is an `int`. -/
def addSatParam (id : UInt8) (pbuff : List UInt8) : SatParam :=
  { id
    name := nameAt pbuff 1
    lonFlag := pbuff.getD 17 0
    lon := degreeOf (ofBe32sAt pbuff 18)
    freq := UInt32.ofNat (ofBe32At pbuff 22)
    polarType := pbuff.getD 26 0 }

/-- The first free id, or 0 if there is none. -/
def SatList.freeId (l : SatList) : UInt8 :=
  match Slots.first satMax l.satId 0 with
  | some i => UInt8.ofNat (i + 1)
  | none => 0

/-- `Sat_ID[id-1] = id`, for an id that is not 0. -/
def SatList.put (l : SatList) (id : UInt8) : SatList :=
  { l with satId := Function.update l.satId (id.toNat - 1) id }

/-- `APP_PCCOMM_SatParamSet`, for the `cmdlen` bytes of `pbuff`. -/
def satParamSet (pbuff : List UInt8) (d : Device) : Ret × Device :=
  if pbuff.length ≠ 0x1B then (.FAIL, d)
  else if pbuff.getD 0 0 = 0x00 ∧ 100 ≤ d.satList.total then (.FAIL, d)
  else
    let sat_reflash_flag := pbuff.getD 0 0 = 0x00 ∧ d.satList.freeId ≠ 0
    let p := addSatParam (if sat_reflash_flag then d.satList.freeId else pbuff.getD 0 0) pbuff
    match satParamSave p d.eeprom with
    | none => (.FAIL, d)
    | some eeprom =>
      if sat_reflash_flag then
        let l := { d.satList with total := d.satList.total + 1 }
        (.SUCC, { d with eeprom := satTotalNumSave l.total eeprom, satList := l.put p.id })
      else (.SUCC, { d with eeprom, satList := d.satList.put p.id })

/-- One round of the deletion: the entry that holds the byte is freed, its slot marked. -/
def delSatId (d : Device) (del_sat_id : UInt8) : Device :=
  match Slots.first satMax d.satList.satId del_sat_id with
  | none => d
  | some i =>
    { d with
      eeprom := satDel del_sat_id d.eeprom
      satList :=
        { total := if 0 < d.satList.total then d.satList.total - 1 else d.satList.total
          satId := Function.update d.satList.satId i 0 } }

/-- `APP_PCCOMM_DelSatSet`, for the `cmdlen` bytes of `pbuff`. -/
def delSatSet (pbuff : List UInt8) (d : Device) : Ret × Device :=
  let d' := pbuff.foldl delSatId d
  (.SUCC, { d' with eeprom := satTotalNumSave d'.satList.total d'.eeprom })

/-! ### Selecting -/

/-- `Sat_ID[id-1]`; in front of the array lies the high byte of `Sat_Total_num`. -/
def SatList.idAt (l : SatList) (id : UInt8) : UInt8 :=
  if id = 0 then (l.total >>> 8).toUInt8 else l.satId (id.toNat - 1)

/--
The common text of the two selections.  `beacon` is what `APP_BEACON_SetFreq` returns, and
`stack` what `SelSatParam` holds where the satellite could not be read.
-/
def selSat (stack : SatParam) (beacon : Ret) (pbuff : List UInt8) (d : Device) : Ret × Device :=
  if pbuff.length ≠ 1 then (.FAIL, d)
  else
    let sel_sat_id := pbuff.getD 0 0
    if sel_sat_id ≠ d.satList.idAt sel_sat_id then (.FAIL, d)
    else
      let eeprom := satCurrIdSave sel_sat_id d.eeprom
      let p := (satParamRead sel_sat_id eeprom).getD { stack with id := sel_sat_id }
      match beacon with
      | .FAIL => (.FAIL, { d with eeprom })
      | .SUCC => (.SUCC, { d with
          currSatParam := p
          eeprom := currSatParamSave p (historyMaxMvSave 0 eeprom) })

/-- `APP_PCCOMM_SelSat`. -/
def pcSelSat : SatParam → Ret → List UInt8 → Device → Ret × Device := selSat

/-- `APP_OLEDCOMM_SelSat`. -/
def oledSelSat : SatParam → Ret → List UInt8 → Device → Ret × Device := selSat

/-! ### Sending all -/

/-- The frame of one satellite, up to its checksum. -/
def satFrameHead (cmd_id : Nat) (p : SatParam) : List UInt8 :=
  [0xBC, 30] ++ PcComm.answerId cmd_id ++ [27] ++ [p.id] ++ satParamBytes p

/-- The frame of one satellite. -/
def satFrame (cmd_id : Nat) (p : SatParam) : List UInt8 :=
  satFrameHead cmd_id p ++ [checkSum8BitGet (satFrameHead cmd_id p), 0xCB]

/-- The loop of `APP_PCCOMM_SaveAllSatParamQue`. -/
structure SatQue where
  /-- `PCCOMMTxBuff` up to `index`. -/
  buff : List UInt8
  /-- `sat_num`: the frames in the buffer. -/
  satNum : UInt8
  /-- `Sat_Total_num`: the frames so far. -/
  satTotalNum : UInt8
  /-- The datagrams sent. -/
  sent : List (List UInt8)
  /-- The loop was left by `break`. -/
  stopped : Bool

/-- The 40 frames of a full buffer are sent. -/
def SatQue.flush (q : SatQue) : SatQue :=
  if 40 ≤ q.satNum then { q with satNum := 0, sent := q.sent ++ [q.buff], buff := [] } else q

/-- One round of the loop. -/
def satQueStep (cmd_id : Nat) (d : Device) (q : SatQue) (i : Nat) : SatQue :=
  if q.stopped = true ∨ d.satList.satId i = 0 then q
  else
    match satParamRead (d.satList.satId i) d.eeprom with
    | none => q
    | some p =>
      let q' := { q with
        buff := q.buff ++ satFrame cmd_id p
        satNum := q.satNum + 1
        satTotalNum := q.satTotalNum + 1 }.flush
      { q' with stopped := d.satList.total.toNat ≤ q'.satTotalNum.toNat }

/-- The last frame: 27 bytes of `0xFF`. -/
def satQueEnd (cmd_id : Nat) : List UInt8 :=
  PcComm.answerId cmd_id ++ [27] ++ List.replicate 27 0xFF

/-- `APP_PCCOMM_SaveAllSatParamQue`: the datagrams sent, and `txbuff`. -/
def saveAllSatParamQue (cmd_id : Nat) (d : Device) : List (List UInt8) × List UInt8 :=
  let q := (List.range satMax).foldl (satQueStep cmd_id d) ⟨[], 0, 0, [], false⟩
  let sent := if q.satNum < 40 ∧ 0 < q.satNum then q.sent ++ [q.buff] else q.sent
  (sent, satQueEnd cmd_id)

end SwiftAcu
