/-
A recorded pose is recalled, in exact arithmetic.

The 66 bytes of a record are written as a row of fields.  The two commands that send the
antenna back to a record take the same fields out again; `Read2Struct`, which only serves
the log, leaves out the voltage of the receiver and knows two or three encoders only.
-/
import SwiftAcu.Proofs.Param.Codec
import SwiftAcu.Proofs.Record.Delete

namespace SwiftAcu.Record

open Fields

theorem degreeAgain_eq [SoftFloat] (buff : List UInt8) (i : Nat) :
    degreeAgain buff i = degreeAt buff i := by
  rw [degreeAgain, ite_self]

/-- **Front panel and PC take a record apart alike.** -/
theorem oledGotoRecord_eq [SoftFloat] (buff : List UInt8) :
    oledGotoRecord buff = pcGotoRecord buff := by
  simp only [oledGotoRecord, pcGotoRecord, degreeAgain_eq]

section
attribute [local instance] SoftFloat.exact

/-- The angles of a pose are whole thousandths, and there is an encoder for each axis. -/
structure Pose (d : Device) (now : Now) : Prop where
  lon : ∃ n : Nat, n < 2 ^ 31 ∧ Thousandths d.currSatParam.lon n
  position : ∃ n : Nat, n < 360000 ∧ Thousandths now.antennaPosition n
  cabrage : ∃ n : Nat, n < 360000 ∧ Thousandths now.antennaCabrage n
  polar : ∃ z : Int, -360000 < z ∧ z < 360000 ∧ Thousandths now.antennaPolar z
  coders : 3 ≤ d.antennaParam.elecCoderNum

/-- What is recorded. -/
def recorded (d : Device) (now : Now) : Recalled where
  name := d.currSatParam.name
  lonFlag := d.currSatParam.lonFlag
  lon := d.currSatParam.lon
  freq := d.currSatParam.freq
  polarType := d.currSatParam.polarType
  antenna := d.antennaParam
  agcMv := now.beaconRxpowerMv
  position := now.antennaPosition
  cabrage := now.antennaCabrage
  polar := now.antennaPolar

/-- What `Read2Struct` makes of it: the voltage is left out, and more than three encoders
are two. -/
def recordedStruct (d : Device) (now : Now) : RecordStruct where
  name := d.currSatParam.name
  lonFlag := d.currSatParam.lonFlag
  lon := d.currSatParam.lon
  freq := d.currSatParam.freq
  polarType := d.currSatParam.polarType
  antenna :=
    { d.antennaParam with
      elecCoderNum := if d.antennaParam.elecCoderNum = 3 then 3 else 2 }
  degreeAZ := now.antennaPosition
  degreeEL := now.antennaCabrage
  degreePL := now.antennaPolar

/-! ### The fields of a record -/

/-- The fields of a record, each at its index. -/
structure Layout (buff : List UInt8) (id : UInt8) (sat : SatParam) (p : AntennaParam)
    (now : Now) : Prop where
  id : buff.getD 0 0 = id
  name : nameAt buff 8 = sat.name
  lonFlag : buff.getD 24 0 = sat.lonFlag
  lon : At buff 25 (be32 (int32u (thousandths sat.lon)))
  freq : UInt32.ofNat (ofBe32At buff 29) = sat.freq
  polarType : buff.getD 33 0 = sat.polarType
  antenna : antennaParamAt buff 34 = p
  agcMv : UInt32.ofNat (ofBe32At buff 46) = now.beaconRxpowerMv
  position : At buff 54 (be32 (int32u (thousandths now.antennaPosition)))
  cabrage : At buff 58 (be32 (int32u (thousandths now.antennaCabrage)))
  polar : 3 ≤ p.elecCoderNum → At buff 62 (be32s (int32s (thousandths now.antennaPolar)))

/-- **A record is a row of fields.** -/
theorem layout_of_at {buff : List UInt8} {id : UInt8} {time : SysDateTime} {sat : SatParam}
    {p : AntennaParam} {now : Now} (h : At buff 0 (antennaRecordBuff id time sat p now)) :
    Layout buff id sat p now := by
  simp only [antennaRecordBuff, List.append_assoc] at h
  have hid := h.left
  have hrest := (h.right (j := 1) rfl).right (j := 8) rfl
  have hname := hrest.left
  have hrest := hrest.right (j := 24) (by simp)
  have hlonFlag := hrest.left
  have hrest := hrest.right (j := 25) rfl
  have hlon := hrest.left
  have hrest := hrest.right (j := 29) rfl
  have hfreq := hrest.left
  have hrest := hrest.right (j := 33) rfl
  have hpolarType := hrest.left
  have hrest := hrest.right (j := 34) rfl
  have htype := hrest.left
  have hrest := hrest.right (j := 35) rfl
  have hoffset := hrest.left
  have hrest := hrest.right (j := 39) rfl
  have hcaliber := hrest.left
  have hrest := hrest.right (j := 40) rfl
  have hloFreq := hrest.left
  have hrest := hrest.right (j := 44) rfl
  have hgain := hrest.left
  have hrest := hrest.right (j := 46) rfl
  have hagc := hrest.left
  have hrest := (hrest.right (j := 50) rfl).right (j := 54) rfl
  have hposition := hrest.left
  have hrest := hrest.right (j := 58) rfl
  have hcabrage := hrest.left
  have hpolar := hrest.right (j := 62) rfl
  refine ⟨hid.head, nameAt_of_at hname, hlonFlag.head, hlon, uint32_of_at hfreq, hpolarType.head,
    ?_, uint32_of_at hagc, hposition, hcabrage, fun hcoders => ?_⟩
  · show (⟨buff.getD 34 0, UInt32.ofNat (ofBe32At buff 35), buff.getD 39 0,
      UInt32.ofNat (ofBe32At buff 40), buff.getD 44 0, buff.getD 45 0⟩ : AntennaParam) = p
    rw [htype.head, uint32_of_at hoffset, hcaliber.head, uint32_of_at hloFreq, hgain.head,
      hgain.tail.head]
  · rwa [if_pos hcoders] at hpolar

section
variable {buff : List UInt8} {id : UInt8} {d : Device} {now : Now}

theorem pcGotoRecord_of_layout (h : Layout buff id d.currSatParam d.antennaParam now)
    (hpose : Pose d now) : pcGotoRecord buff = recorded d now := by
  obtain ⟨lon, hlon, hlon'⟩ := hpose.lon
  obtain ⟨az, haz, haz'⟩ := hpose.position
  obtain ⟨el, hel, hel'⟩ := hpose.cabrage
  obtain ⟨pl, hlo, hhi, hpl⟩ := hpose.polar
  have hpolar := h.polar hpose.coders
  simp only [pcGotoRecord, recorded, degreeAt, h.name, h.lonFlag, h.freq, h.polarType, h.antenna,
    h.agcMv, signed_of_at_unsigned hlon' hlon h.lon,
    signed_of_at_unsigned haz' (by omega) h.position,
    signed_of_at_unsigned hel' (by omega) h.cabrage,
    signed_of_at hpl (by omega) (by omega) hpolar]

theorem elecCoderNumOf_eq {n : UInt8} (h : 3 ≤ n) : elecCoderNumOf n = if n = 3 then 3 else 2 := by
  unfold elecCoderNumOf
  by_cases h3 : n = 3
  · subst h3
    rfl
  · have hgt : 3 < n := UInt8.lt_of_le_of_ne h (Ne.symm h3)
    rw [if_pos (Or.inr hgt), if_neg h3]

theorem read2Struct_of_layout {m : Eeprom}
    (h : Layout (antennaRecordRead id m) id d.currSatParam d.antennaParam now)
    (hpose : Pose d now) : antennaRecordRead2Struct id m = recordedStruct d now := by
  obtain ⟨lon, hlon, hlon'⟩ := hpose.lon
  obtain ⟨az, haz, haz'⟩ := hpose.position
  obtain ⟨el, hel, hel'⟩ := hpose.cabrage
  obtain ⟨pl, hlo, hhi, hpl⟩ := hpose.polar
  have hpolar := h.polar hpose.coders
  show RecordStruct.mk _ _ _ _ _ _ _ _ _ = _
  simp only [antennaRecordRead] at h hpolar
  simp only [recordedStruct, h.name, h.lonFlag, h.freq, h.polarType, h.antenna,
    unsigned_of_at hlon' (by omega) h.lon, unsigned_of_at haz' (by omega) h.position,
    unsigned_of_at hel' (by omega) h.cabrage, signed_of_at hpl (by omega) (by omega) hpolar,
    elecCoderNumOf_eq hpose.coders]

end

/-! ### Recording and recalling -/

/--
The record `id` of `d'` is recalled as the pose of `d` and `now` by both commands that
send the antenna back to it, and read for the log.
-/
structure Recalls (d : Device) (now : Now) (id : UInt8) (d' : Device) : Prop where
  pcGoto : ∀ history_max_mv,
    (pcAntennaRecordGoto .SUCC history_max_mv id d').1 = some (recorded d now)
  oledGoto : ∀ history_max_mv,
    (oledAntennaRecordGoto .SUCC history_max_mv id d').1 = some (recorded d now)
  read2Struct : antennaRecordRead2Struct id d'.eeprom = recordedStruct d now

/-- A listed record of the antenna that is mounted is what the antenna is sent to. -/
theorem antennaRecordGoto_eq {gotoRecord : List UInt8 → Recalled} {d' : Device} {id : UInt8}
    {r : Recalled} (hid : 0 < id ∧ id ≤ 10)
    (hlisted : ∃ i < antennaRecordMax, d'.recordList.recordId i = id)
    (hfirst : (antennaRecordRead id d'.eeprom).getD 0 0 = id)
    (hr : gotoRecord (antennaRecordRead id d'.eeprom) = r) (hantenna : r.antenna = d'.antennaParam)
    (history_max_mv : UInt32) :
    (antennaRecordGoto gotoRecord .SUCC history_max_mv id d').1 = some r := by
  have hne : id ≠ 0 := fun h => by
    rw [h] at hid
    exact absurd hid.1 (by decide)
  have hfound : Slots.first antennaRecordMax d'.recordList.recordId id ≠ none := by
    intro hnone
    obtain ⟨i, hi, heq⟩ := hlisted
    exact Slots.first_eq_none.mp hnone i hi heq
  rw [antennaRecordGoto, if_neg (by simp [UInt8.not_lt.mpr hid.2, hne]), if_neg hfound]
  simp only [hfirst, ne_eq, not_true_eq_false, if_false, hr, hantenna, or_self]

/-- **What a successful record leaves is recalled.** -/
theorem recalls_antennaRecord {d : Device} {now : Now} (hlist : ListOk d.recordList)
    (hpose : Pose d now) (time : SysDateTime) (hlt : d.recordList.total < 10) :
    Recalls d now d.recordList.freeId (antennaRecord 0 time now d).2 := by
  obtain ⟨i, hi, -, hid, heq⟩ := antennaRecord_eq ((listOk_iff_inStep _).mp hlist) hlt time now
  rw [heq, hid]
  have hi10 : i < 10 := hi
  have hnat : (slotLabel i).toNat = i + 1 := toNat_slotLabel (by omega)
  -- the number of records lies in front of the slots
  have hframe (num : UInt32) (m : Eeprom) :
      antennaRecordRead (slotLabel i) (antennaRecordTotalNumSave num m) =
        antennaRecordRead (slotLabel i) m :=
    Param.frame (x := .antennaRecordTotalNum) (Param.readsIn_read (.antennaRecord (recordSlot hi)))
      (by simp) num m
  have hlayout : Layout (antennaRecordRead (slotLabel i)
      (antennaRecordTotalNumSave (d.recordList.total + 1)
        (antennaRecordSave (slotLabel i)
          (antennaRecordBuff (slotLabel i) time d.currSatParam d.antennaParam now) d.eeprom)))
      (slotLabel i) d.currSatParam d.antennaParam now := by
    rw [hframe]
    refine layout_of_at (at_paramRead _ _ ?_)
    simp only [antennaRecordBuff, List.length_append]
    split <;> simp
  have hbounds : 0 < slotLabel i ∧ slotLabel i ≤ 10 := by
    rw [UInt8.lt_iff_toNat_lt, UInt8.le_iff_toNat_le, hnat]
    exact ⟨Nat.succ_pos i, hi⟩
  have hlisted : ∃ j < antennaRecordMax,
      Function.update d.recordList.recordId i (slotLabel i) j = slotLabel i :=
    ⟨i, hi, Function.update_self _ _ _⟩
  constructor
  · exact antennaRecordGoto_eq hbounds hlisted hlayout.id (pcGotoRecord_of_layout hlayout hpose) rfl
  · refine antennaRecordGoto_eq hbounds hlisted hlayout.id ?_ rfl
    rw [oledGotoRecord_eq]
    exact pcGotoRecord_of_layout hlayout hpose
  · exact read2Struct_of_layout hlayout hpose

/-- A record is made on an empty command only, and while there is room. -/
theorem of_antennaRecord_succ {cmdlen : UInt8} {time : SysDateTime} {d : Device} {now : Now}
    (h : (antennaRecord cmdlen time now d).1 = .SUCC) : cmdlen = 0 ∧ d.recordList.total < 10 := by
  unfold antennaRecord at h
  split at h
  · exact absurd h (by simp)
  · next hlen =>
      split at h
      · exact absurd h (by simp)
      · next hroom => exact ⟨not_not.mp hlen, UInt32.not_le.mp hroom⟩

/--
**A recorded pose is recalled unchanged**, whichever side records it, by both commands
that send the antenna back to it.  `Read2Struct` reads the same without the voltage, and
takes more than three encoders for two.
-/
theorem recalls_of_recorded {d : Device} {now : Now} (hlist : ListOk d.recordList)
    (hpose : Pose d now) (cmdlen : UInt8) :
    ((pcAntennaRecord cmdlen now d).1 = .SUCC →
      Recalls d now d.recordList.freeId (pcAntennaRecord cmdlen now d).2) ∧
    ((oledAntennaRecord cmdlen now d).1 = .SUCC →
      Recalls d now d.recordList.freeId (oledAntennaRecord cmdlen now d).2) := by
  constructor
  · intro hsucc
    obtain ⟨rfl, hlt⟩ := of_antennaRecord_succ hsucc
    exact recalls_antennaRecord hlist hpose now.sysDateTime hlt
  · intro hsucc
    obtain ⟨rfl, hlt⟩ := of_antennaRecord_succ hsucc
    exact recalls_antennaRecord hlist hpose now.rtc hlt

/-- A device with an empty record list. -/
def bench (lon : FP32) (elec_coder_num : UInt8) : Device where
  eeprom := fun _ => 0xFF
  satList := ⟨0, fun _ => 0⟩
  recordList := ⟨0, fun _ => 0⟩
  currSatParam := ⟨1, Vector.replicate 16 0x41, 0, lon, 12500000, 0x48⟩
  antennaParam := ⟨1, 22300, 12, 11300000, 0, elec_coder_num⟩
  allElecCoderMap := ⟨⟨0, 0, 0⟩, ⟨0, 0, 0⟩, ⟨0, 0, 0⟩, 0⟩
  agcOutputRange := 0

theorem listOk_bench (lon : FP32) (elec_coder_num : UInt8) :
    ListOk (bench lon elec_coder_num).recordList where
  ids := fun _ _ => Or.inl rfl
  count := rfl
  free := fun _ => (by decide : 1 ≤ (AntennaRecordList.mk 0 fun _ => 0).freeId.toNat ∧
    (AntennaRecordList.mk 0 fun _ => 0).freeId.toNat ≤ antennaRecordMax)

/-- Noon, with some voltage of the receiver. -/
def noonAt (beacon_rxpower_mv : UInt32) : Now := { noon with beaconRxpowerMv := beacon_rxpower_mv }

theorem pose_bench (beacon_rxpower_mv : UInt32) :
    Pose (bench (1052 / 10) 3) (noonAt beacon_rxpower_mv) where
  lon := ⟨105200, by decide, (by decide +kernel : Thousandths (1052 / 10) (105200 : Nat))⟩
  position := ⟨0, by decide, (by decide +kernel : Thousandths 0 (0 : Nat))⟩
  cabrage := ⟨0, by decide, (by decide +kernel : Thousandths 0 (0 : Nat))⟩
  polar := ⟨0, by decide, by decide, (by decide +kernel : Thousandths 0 0)⟩
  coders := by decide

/-- The antenna in the south-west, its polarization turned to the left, with a signal. -/
def tracking : Now :=
  { noon with
    beaconRxpowerMv := 6250
    beaconRxpowerDb := 17.5
    antennaPosition := 197.35
    antennaCabrage := 44.123
    antennaPolar := -37.501 }

/-- This pose, on a satellite at 105.2 degrees, recorded by the PC. -/
theorem recalls_bench :
    Recalls (bench (1052 / 10) 3) tracking 1
      (pcAntennaRecord 0 tracking (bench (1052 / 10) 3)).2 := by
  have hpose : Pose (bench (1052 / 10) 3) tracking :=
    { lon := (pose_bench 0).lon
      position := ⟨197350, by decide, by decide +kernel⟩
      cabrage := ⟨44123, by decide, by decide +kernel⟩
      polar := ⟨-37501, by decide, by decide, by decide +kernel⟩
      coders := by decide }
  exact (recalls_of_recorded (listOk_bench _ _) hpose 0).1 (by decide +kernel)

/--
What is not recalled: the voltage by `Read2Struct`; its count of four encoders; a
longitude below zero, by anyone; and a record that was made without a free id.
-/
theorem not_recalled :
    (¬ ∃ agcMv : RecordStruct → UInt32, ∀ now, Pose (bench (1052 / 10) 3) now →
      agcMv (antennaRecordRead2Struct 1
        (pcAntennaRecord 0 now (bench (1052 / 10) 3)).2.eeprom) = now.beaconRxpowerMv) ∧
    (antennaRecordRead2Struct 1
      (pcAntennaRecord 0 noon (bench (1052 / 10) 4)).2.eeprom).antenna.elecCoderNum = 2 ∧
    (pcGotoRecord (antennaRecordRead 1
      (pcAntennaRecord 0 noon (bench (-1) 3)).2.eeprom)).lon ≠ -1 ∧
    (AntennaRecordList.mk 0 slotLabel).freeId = 0 ∧
    (pcAntennaRecord 0 noon { bench 0 3 with recordList := ⟨0, slotLabel⟩ }).1 = .SUCC ∧
    (pcAntennaRecordGoto .SUCC 0 0
      (pcAntennaRecord 0 noon { bench 0 3 with recordList := ⟨0, slotLabel⟩ }).2).1 = none := by
  refine ⟨?_, by decide +kernel, by decide +kernel, by decide, by decide +kernel, rfl⟩
  rintro ⟨agcMv, hall⟩
  have hid : (bench (1052 / 10) 3).recordList.freeId = 1 := by decide
  have hread (mv : UInt32) : antennaRecordRead2Struct 1
      (pcAntennaRecord 0 (noonAt mv) (bench (1052 / 10) 3)).2.eeprom =
        recordedStruct (bench (1052 / 10) 3) noon := by
    rw [← hid]
    exact (recalls_antennaRecord (listOk_bench _ _) (pose_bench mv)
      (noonAt mv).sysDateTime (by decide)).read2Struct
  have h0 := hall _ (pose_bench 0)
  have h1 := hall _ (pose_bench 1)
  rw [hread] at h0 h1
  exact absurd (h0.symm.trans h1) (by decide)

end

end SwiftAcu.Record
