/-
What a save stores a read returns, for the four records with angles.

The antenna, the encoder map, the position entered by hand and a satellite are each
stored by one hand-written function and read by another.  In exact arithmetic, and for
every record whose angles are whole thousandths and fit 31 bits, the second undoes the
first; and the length it asks `APP_PARAM_Read` for is that of the buffer the first has
handed to `APP_PARAM_Save`, at the same address.
-/
import SwiftAcu.Proofs.Param.Codec

namespace SwiftAcu

open Fields

/-! ### An axis of the encoder map -/

/-- An axis comes back with what its two angles are read as. -/
theorem elecCoderAt_of_at {degree : FP32 → List UInt8} {degreeAt : List UInt8 → Nat → FP32}
    {buff : List UInt8} {p : ElecCoderMapAntenna} {i : Nat} {antenna coder : FP32}
    (hlen : ∀ x, (degree x).length = 4)
    (hantenna : ∀ j, At buff j (degree p.antennaDegree) → degreeAt buff j = antenna)
    (hcoder : ∀ j, At buff j (degree p.elecCoderDegree) → degreeAt buff j = coder)
    (h : At buff i (elecCoderBytes degree p)) :
    elecCoderAt degreeAt buff i = ⟨antenna, coder, p.elecCoderCountMode⟩ := by
  simp only [elecCoderBytes, List.append_assoc] at h
  have hsecond := h.right (j := i + 4) (by rw [hlen])
  have hmode := hsecond.right (j := i + 8) (by rw [hlen])
  simp only [elecCoderAt, hantenna i h.left, hcoder (i + 4) hsecond.left, hmode.head]

/-- The parts of a stored encoder map. -/
theorem at_elecCodeMapSave [SoftFloat] (p : AllElecCoderMapAntenna) (m : Eeprom) :
    At (paramRead (elecCodeMapSave p m) 0x0010 28) 0
        (elecCoderBytes (fun x => be32 (int32u (thousandths x))) p.position) ∧
      At (paramRead (elecCodeMapSave p m) 0x0010 28) 9
        (elecCoderBytes (fun x => be32 (int32u (thousandths x))) p.cabrage) ∧
      At (paramRead (elecCodeMapSave p m) 0x0010 28) 18
        (elecCoderBytes (fun x => be32s (int32s (thousandths x))) p.polar) ∧
      At (paramRead (elecCodeMapSave p m) 0x0010 28) 27 [p.satPolarType] := by
  have hat : At (paramRead (elecCodeMapSave p m) 0x0010 28) 0
      (elecCoderBytes (fun x => be32 (int32u (thousandths x))) p.position ++
        elecCoderBytes (fun x => be32 (int32u (thousandths x))) p.cabrage ++
        elecCoderBytes (fun x => be32s (int32s (thousandths x))) p.polar ++ [p.satPolarType]) :=
    at_paramRead m 0x0010 (Nat.le_refl 28)
  simp only [List.append_assoc] at hat
  have hcabrage := hat.right (j := 9) rfl
  have hpolar := hcabrage.right (j := 18) rfl
  have htype := hpolar.right (j := 27) rfl
  exact ⟨hat.left, hcabrage.left, hpolar.left, htype⟩

/-! ### The records come back -/

section
attribute [local instance] SoftFloat.exact

/-- The antenna comes back as it was. -/
theorem antennaParamRead_antennaParamSave {p : AntennaParam}
    (h : p.elecCoderNum = 2 ∨ p.elecCoderNum = 3) (m : Eeprom) :
    antennaParamRead (antennaParamSave p m) = p := by
  have hat : At (paramRead (antennaParamSave p m) 0x0000 12) 0 ([p.type] ++
      be32 p.offsetAngle.toNat ++ [p.caliber] ++ be32 p.loFreq.toNat ++
      [p.gainRangeFlag, p.elecCoderNum]) := at_paramRead m 0x0000 (Nat.le_refl 12)
  simp only [List.append_assoc] at hat
  have hoffset := hat.right (j := 1) rfl
  have hcaliber := hoffset.right (j := 5) rfl
  have hloFreq := hcaliber.right (j := 6) rfl
  have hgain := hloFreq.right (j := 10) rfl
  have hnum : elecCoderNumOf p.elecCoderNum = p.elecCoderNum := by
    rcases h with h | h
    · rw [h]
      rfl
    · rw [h]
      rfl
  simp only [antennaParamRead, antennaParamReadCall, ReadCall.run, hat.head,
    uint32_of_at hoffset.left, hcaliber.head, uint32_of_at hloFreq.left, hgain.head,
    hgain.tail.head, hnum]

/-- An angle of whole thousandths that fits 31 bits … -/
def Fits31 (x : FP32) : Prop := ∃ n : Nat, n < 2 ^ 31 ∧ Thousandths x n

/-- … and one of either sign. -/
def Fits31Signed (x : FP32) : Prop := ∃ z : Int, -2 ^ 31 ≤ z ∧ z < 2 ^ 31 ∧ Thousandths x z

/-- Two angles of the azimuth or the elevation. -/
theorem unsignedAxis_of_at {buff : List UInt8} {p : ElecCoderMapAntenna} {i : Nat}
    (hantenna : Fits31 p.antennaDegree) (hcoder : Fits31 p.elecCoderDegree)
    (h : At buff i (elecCoderBytes (fun x => be32 (int32u (thousandths x))) p)) :
    elecCoderAt (fun buff i => degreeOf (ofBe32At buff i)) buff i = p := by
  obtain ⟨n, hn, hx⟩ := hantenna
  obtain ⟨k, hk, hy⟩ := hcoder
  exact elecCoderAt_of_at (fun _ => rfl) (fun _ => unsigned_of_at hx (by omega))
    (fun _ => unsigned_of_at hy (by omega)) h

/-- Two angles of the polarization. -/
theorem signedAxis_of_at {buff : List UInt8} {p : ElecCoderMapAntenna} {i : Nat}
    (hantenna : Fits31Signed p.antennaDegree) (hcoder : Fits31Signed p.elecCoderDegree)
    (h : At buff i (elecCoderBytes (fun x => be32s (int32s (thousandths x))) p)) :
    elecCoderAt (fun buff i => degreeOf (ofBe32sAt buff i)) buff i = p := by
  obtain ⟨n, hlo, hhi, hx⟩ := hantenna
  obtain ⟨k, hlo', hhi', hy⟩ := hcoder
  exact elecCoderAt_of_at (fun _ => rfl) (fun _ => signed_of_at hx hlo hhi)
    (fun _ => signed_of_at hy hlo' hhi') h

/-- The angles of an encoder map fit their fields. -/
structure AllElecCoderMapAntenna.Fits (p : AllElecCoderMapAntenna) : Prop where
  position : Fits31 p.position.antennaDegree ∧ Fits31 p.position.elecCoderDegree
  cabrage : Fits31 p.cabrage.antennaDegree ∧ Fits31 p.cabrage.elecCoderDegree
  polar : Fits31Signed p.polar.antennaDegree ∧ Fits31Signed p.polar.elecCoderDegree

/-- The encoder map comes back as it was. -/
theorem elecCodeMapRead_elecCodeMapSave {p : AllElecCoderMapAntenna} (h : p.Fits) (m : Eeprom) :
    elecCodeMapRead (elecCodeMapSave p m) = p := by
  obtain ⟨hposition, hcabrage, hpolar, htype⟩ := at_elecCodeMapSave p m
  simp only [elecCodeMapRead, elecCodeMapReadCall, ReadCall.run,
    unsignedAxis_of_at h.position.1 h.position.2 hposition,
    unsignedAxis_of_at h.cabrage.1 h.cabrage.2 hcabrage,
    signedAxis_of_at h.polar.1 h.polar.2 hpolar, htype.head]

/-- A satellite comes back as it was. -/
theorem satParamRead_satParamSave {p : SatParam} (hid : 1 ≤ p.id) (hlon : Fits31 p.lon)
    (m : Eeprom) : satParamRead p.id ((satParamSaveCall p).run m) = some p := by
  obtain ⟨n, hn, hx⟩ := hlon
  have hpos : ¬p.id ≤ 0 := by
    rw [UInt8.le_iff_toNat_le] at hid ⊢
    exact Nat.not_le_of_lt hid
  have hlen : ([p.id] ++ satParamBytes p).length ≤ 27 := by simp
  have hat : At (paramRead ((satParamSaveCall p).run m) (satParamAddr p.id) 27) 0
      ([p.id] ++ satParamBytes p) := at_paramRead m (satParamAddr p.id) hlen
  have hsame : ¬p.id ≠ (paramRead ((satParamSaveCall p).run m) (satParamAddr p.id) 27).getD 0 0 := by
    rw [hat.head]
    exact fun hc => hc rfl
  rw [satParamRead, if_neg hpos, ReadCall.run, satParamReadCall]
  dsimp only
  rw [if_neg hsame, satParamOf_of_at hat, hx.restored_eq (by omega)]

/-! ### The records -/

/-- A record with the pair of functions that stores and reads it. -/
inductive ParamRecord where
  | antenna (p : AntennaParam)
  | elecCodeMap (p : AllElecCoderMapAntenna)
  | locallHand (p : HandLocalPositionParam)
  | sat (p : SatParam)

namespace ParamRecord

/-- `APP_PARAM_X_Save`. -/
def save : ParamRecord → Eeprom → Option Eeprom
  | antenna p, m => some (antennaParamSave p m)
  | elecCodeMap p, m => some (elecCodeMapSave p m)
  | locallHand p, m => some (locallHandParamSave p m)
  | sat p, m => satParamSave p m

/-- `APP_PARAM_X_Read`; of a satellite, the one with the id of the record. -/
def read : ParamRecord → Eeprom → Option ParamRecord
  | antenna _, m => some (antenna (antennaParamRead m))
  | elecCodeMap _, m => some (elecCodeMap (elecCodeMapRead m))
  | locallHand _, m => some (locallHand (locallHandParamRead m))
  | sat p, m => (satParamRead p.id m).map sat

/-- What the save hands to `APP_PARAM_Save` … -/
def saveCall : ParamRecord → SaveCall
  | antenna p => antennaParamSaveCall p
  | elecCodeMap p => elecCodeMapSaveCall p
  | locallHand p => locallHandParamSaveCall p
  | sat p => satParamSaveCall p

/-- … and what the read asks `APP_PARAM_Read` for. -/
def readCall : ParamRecord → ReadCall (Option ParamRecord)
  | antenna _ => antennaParamReadCall.map fun p => some (antenna p)
  | elecCodeMap _ => elecCodeMapReadCall.map fun p => some (elecCodeMap p)
  | locallHand _ => locallHandParamReadCall.map fun p => some (locallHand p)
  | sat p => (satParamReadCall p.id).map (Option.map sat)

/-- The angles fit, and the number of encoders or the id is one there is. -/
def Fits : ParamRecord → Prop
  | antenna p => p.elecCoderNum = 2 ∨ p.elecCoderNum = 3
  | elecCodeMap p => p.Fits
  | locallHand p => Fits31 p.lon ∧ Fits31 p.lat
  | sat p => 1 ≤ p.id ∧ p.id.toNat ≤ satMax ∧ Fits31 p.lon

theorem not_id_le_zero {p : SatParam} (h : 1 ≤ p.id) : ¬p.id ≤ 0 := by
  rw [UInt8.le_iff_toNat_le] at h ⊢
  exact Nat.not_le_of_lt h

/-- The save succeeds with that call … -/
theorem save_eq {r : ParamRecord} (h : r.Fits) (m : Eeprom) :
    r.save m = some (r.saveCall.run m) := by
  cases r with
  | antenna p => rfl
  | elecCodeMap p => rfl
  | locallHand p => rfl
  | sat p => exact if_neg (not_id_le_zero h.1)

/-- … and the read is this one. -/
theorem read_eq {r : ParamRecord} (h : r.Fits) (m : Eeprom) : r.read m = r.readCall.run m := by
  cases r with
  | antenna p => rfl
  | elecCodeMap p => rfl
  | locallHand p => rfl
  | sat p => exact congrArg (Option.map sat) (if_neg (not_id_le_zero h.1))

/-- The read returns what was saved. -/
theorem read_save {r : ParamRecord} (h : r.Fits) (m : Eeprom) :
    r.read (r.saveCall.run m) = some r := by
  cases r with
  | antenna p => exact congrArg (some ∘ antenna) (antennaParamRead_antennaParamSave h m)
  | elecCodeMap p => exact congrArg (some ∘ elecCodeMap) (elecCodeMapRead_elecCodeMapSave h m)
  | locallHand p =>
      obtain ⟨⟨lon, hlon, hx⟩, lat, hlat, hy⟩ := h
      have hback := locallHandParamRead_locallHandParamSave p m
      rw [hx.restored_eq (by omega), hy.restored_eq (by omega)] at hback
      exact congrArg (some ∘ locallHand) hback
  | sat p => exact congrArg (Option.map sat) (satParamRead_satParamSave h.1 h.2.2 m)

/-- **As many bytes are read as were written**, and from where they were written. -/
theorem sameBytes (r : ParamRecord) :
    r.readCall.addr = r.saveCall.addr ∧ r.readCall.len = r.saveCall.savebuff.length := by
  cases r with
  | antenna p => exact ⟨rfl, rfl⟩
  | elecCodeMap p => exact ⟨rfl, rfl⟩
  | locallHand p => exact ⟨rfl, rfl⟩
  | sat p =>
      have hlen : ([p.id] ++ satParamBytes p).length = 27 := by simp
      exact ⟨rfl, hlen.symm⟩

/--
**The codecs.**  A save of a record that fits succeeds, and the read of it then returns the
record in every field; each is one call, and the length the read asks for is that of the
buffer the save has handed over.
-/
theorem read_save_sameBytes (r : ParamRecord) (h : r.Fits) (m : Eeprom) :
    (r.save m = some (r.saveCall.run m) ∧ r.read (r.saveCall.run m) = some r) ∧
      (∀ m', r.read m' = r.readCall.run m') ∧
      r.readCall.addr = r.saveCall.addr ∧ r.readCall.len = r.saveCall.savebuff.length :=
  ⟨⟨save_eq h m, read_save h m⟩, read_eq h, sameBytes r⟩

/-- An encoder map as a calibration leaves it, the polarization turned to the left. -/
def calibrated : ParamRecord := elecCodeMap
  { position := ⟨180.5, 359.999, 0xE1⟩
    cabrage := ⟨45.25, 12.345, 0xE2⟩
    polar := ⟨-33.5, -90.001, 0xE2⟩
    satPolarType := 1 }

/-- It comes back. -/
theorem read_save_calibrated :
    calibrated.read (calibrated.saveCall.run fun _ => 0xFF) = some calibrated ∧
      calibrated.readCall.len = 28 ∧ calibrated.saveCall.savebuff.length = 28 := by
  have hfits : calibrated.Fits :=
    { position := ⟨⟨180500, by decide, by decide +kernel⟩, ⟨359999, by decide, by decide +kernel⟩⟩
      cabrage := ⟨⟨45250, by decide, by decide +kernel⟩, ⟨12345, by decide, by decide +kernel⟩⟩
      polar := ⟨⟨-33500, by decide, by decide, by decide +kernel⟩,
        ⟨-90001, by decide, by decide, by decide +kernel⟩⟩ }
  obtain ⟨⟨-, hread⟩, -, -, hlen⟩ := read_save_sameBytes calibrated hfits fun _ => 0xFF
  exact ⟨hread, rfl, hlen.symm⟩

end ParamRecord

end

end SwiftAcu
