/-
What the calibration of two axes leaves of the third.

With two encoders nothing is assigned to the polar axis of the local map, and it is stored and
copied as it lies on the stack.  So the polarisation is mapped as before if the stack holds, by
chance, what RAM and EEPROM held, and in no other case.  In the EEPROM an angle is a number of
thousandths of 32 bits, and what was on the stack is cut to one.  Clearing the records does not
touch the map, whatever goes wrong with it.
-/
import SwiftAcu.Acu.Calibrate
import SwiftAcu.Proofs.Param.Layout
import SwiftAcu.Proofs.Param.RoundTrip

namespace SwiftAcu

open Fields

section
variable [SoftFloat]

/-! ### A polar axis that is stored -/

/-- An angle as it is stored: whole thousandths, of which 32 bits are kept. -/
def storedDegree (x : FP32) : FP32 := degreeOf (signed32 (int32s (thousandths x) % 2 ^ 32).toNat)

/-- An axis as it is stored. -/
def ElecCoderMapAntenna.stored (p : ElecCoderMapAntenna) : ElecCoderMapAntenna :=
  ⟨storedDegree p.antennaDegree, storedDegree p.elecCoderDegree, p.elecCoderCountMode⟩

/-- The polar axis and the polarisation mode of two maps are the same. -/
def AllElecCoderMapAntenna.SamePolar (p q : AllElecCoderMapAntenna) : Prop :=
  p.polar = q.polar ∧ p.satPolarType = q.satPolarType

instance (p q : AllElecCoderMapAntenna) : Decidable (p.SamePolar q) :=
  inferInstanceAs (Decidable (_ ∧ _))

section
variable {buff : List UInt8} {i : Nat}

theorem storedDegree_of_at {x : FP32} (h : At buff i (be32s (int32s (thousandths x)))) :
    degreeOf (ofBe32sAt buff i) = storedDegree x := by
  rw [ofBe32sAt, ofBe32At_of_at h (by omega), storedDegree]

theorem stored_of_at {p : ElecCoderMapAntenna}
    (h : At buff i (elecCoderBytes (fun x => be32s (int32s (thousandths x))) p)) :
    elecCoderAt (fun buff i => degreeOf (ofBe32sAt buff i)) buff i = p.stored :=
  elecCoderAt_of_at (fun _ => rfl) (fun _ => storedDegree_of_at) (fun _ => storedDegree_of_at) h

end

/-- **A stored polar axis** comes back cut to thousandths, and its mode as it was. -/
theorem elecCodeMapRead_polar (p : AllElecCoderMapAntenna) (m : Eeprom) :
    (elecCodeMapRead (elecCodeMapSave p m)).polar = p.polar.stored ∧
      (elecCodeMapRead (elecCodeMapSave p m)).satPolarType = p.satPolarType := by
  obtain ⟨-, -, hpolar, htype⟩ := at_elecCodeMapSave p m
  exact ⟨stored_of_at hpolar, htype.head (d := 0)⟩

end

/-! ### Saves that may fail -/

namespace Faults

section
variable [SoftFloat]

variable {faults : Faults} {e : Encoders} {rxbuff : Nat → UInt8} {d : Device}

omit [SoftFloat] in
/-- A save that succeeds stores what it was given. -/
theorem store_succ {fault : Option (Nat → UInt8)} {addr : Int} {savebuff : List UInt8}
    {m m' : Eeprom} (h : store fault addr savebuff m = (.SUCC, m')) :
    m' = SwiftAcu.paramSave addr savebuff m := by
  cases fault with
  | none => exact (congrArg Prod.snd h).symm
  | some left => exact absurd (congrArg Prod.fst h) (by simp [store])

omit [SoftFloat] in
/-- One that fails changes nothing but the bytes it should have stored. -/
theorem writesIn_paramSave (addr : Int) (savebuff : List UInt8) :
    Memory.WritesIn (fun m => (faults.paramSave addr savebuff m).2) (addr16 addr)
      savebuff.length := by
  intro m x hx
  unfold paramSave store
  cases faults.save addr with
  | none => exact Memory.write_outside (by omega)
  | some left => exact Memory.write_outside (by simpa using (by omega : _ ∨ _))

/-- **Clearing the records leaves the map of the encoders**, also where it fails. -/
theorem elecCodeMapRead_clearRecords (d : Device) :
    elecCodeMapRead (faults.clearRecords d).eeprom = elecCodeMapRead d.eeprom := by
  have hmap : Memory.ReadsIn elecCodeMapRead 0x0010 28 := Param.readsIn_read .elecCodeMap
  have htotal : Memory.WritesIn (fun m => (faults.antennaRecordTotalNumSave 0 m).2) 0x0100 4 :=
    writesIn_paramSave 0x0100 _
  unfold clearRecords antennaRecordAllClear
  rw [hmap.frame_foldl (fun i _ => writesIn_paramSave (0x0110 + i * 0x0050) _) fun i hi => ?_]
  · exact hmap.frame htotal (Or.inr (by decide)) d.eeprom
  obtain ⟨k, hk, rfl⟩ : ∃ k < antennaRecordMax, i = (k : Int) := by simpa using hi
  have hlt : k < 10 := hk
  have hslot : ((0x0110 : Int) + k * 0x0050) % 2 ^ 16 = 0x0110 + k * 0x0050 :=
    Int.emod_eq_of_lt (by omega) (by omega)
  refine Or.inr ?_
  unfold addr16
  omega

/-! ### The command -/

/-- A calibration that succeeds has stored the local map and copied it. -/
theorem antennaParamAdjustSet_succ (h : (faults.antennaParamAdjustSet e rxbuff d).1 = .SUCC) :
    (faults.antennaParamAdjustSet e rxbuff d).2 = faults.clearRecords { d with
      eeprom := SwiftAcu.elecCodeMapSave (e.adjustedMap d) d.eeprom
      allElecCoderMap := e.adjustedMap d } := by
  unfold antennaParamAdjustSet at h ⊢
  by_cases hcmd : cmdIdOf rxbuff ≠ CmdId.antennaParamAdjust.id
  · rw [if_pos hcmd] at h
    exact absurd h (by simp)
  by_cases hposition : e.position.linked = false
  · rw [if_neg hcmd, if_pos hposition] at h
    exact absurd h (by simp)
  by_cases hcabrage : e.cabrage.linked = false
  · rw [if_neg hcmd, if_neg hposition, if_pos hcabrage] at h
    exact absurd h (by simp)
  by_cases hpolar : 3 ≤ d.antennaParam.elecCoderNum ∧ e.polar.linked = false
  · rw [if_neg hcmd, if_neg hposition, if_neg hcabrage, if_pos hpolar] at h
    exact absurd h (by simp)
  rw [if_neg hcmd, if_neg hposition, if_neg hcabrage, if_neg hpolar] at h ⊢
  cases hsave : faults.elecCodeMapSave (e.adjustedMap d) d.eeprom with
  | mk r m =>
      cases r with
      | FAIL =>
          rw [hsave] at h
          exact absurd h (by simp)
      | SUCC =>
          rw [store_succ hsave]
          rfl

/-- With two encoders the third axis is what the stack held, in RAM and in the EEPROM. -/
theorem antennaParamAdjustSet_polar (hnum : d.antennaParam.elecCoderNum < 3)
    (hsucc : (faults.antennaParamAdjustSet e rxbuff d).1 = .SUCC) :
    (faults.antennaParamAdjustSet e rxbuff d).2.allElecCoderMap.SamePolar e.stack ∧
      (elecCodeMapRead (faults.antennaParamAdjustSet e rxbuff d).2.eeprom).SamePolar
        { e.stack with polar := e.stack.polar.stored } := by
  have htwo : ¬ 3 ≤ d.antennaParam.elecCoderNum := UInt8.not_le.mpr hnum
  have hpolar : (e.adjustedMap d).polar = e.stack.polar := if_neg htwo
  have htype : (e.adjustedMap d).satPolarType = e.stack.satPolarType := if_neg htwo
  obtain ⟨hread, hreadType⟩ := elecCodeMapRead_polar (e.adjustedMap d) d.eeprom
  rw [antennaParamAdjustSet_succ hsucc, elecCodeMapRead_clearRecords]
  refine ⟨⟨hpolar, htype⟩, ?_, ?_⟩
  · rw [hread, hpolar]
  · rw [hreadType, htype]

/-- The polar axis is mapped as before, in RAM and as read from the EEPROM. -/
def PolarUntouched (faults : Faults) (e : Encoders) (rxbuff : Nat → UInt8) (d : Device) : Prop :=
  (faults.antennaParamAdjustSet e rxbuff d).2.allElecCoderMap.SamePolar d.allElecCoderMap ∧
    (elecCodeMapRead (faults.antennaParamAdjustSet e rxbuff d).2.eeprom).SamePolar
      (elecCodeMapRead d.eeprom)

/--
**What a calibration of two axes does to the third.**  It is left alone if the stack happens to
hold what RAM holds, and what is stored of that what the EEPROM holds, and only then.
-/
theorem polarUntouched_iff (faults : Faults) (e : Encoders) (rxbuff : Nat → UInt8) (d : Device)
    (hnum : d.antennaParam.elecCoderNum < 3)
    (hsucc : (faults.antennaParamAdjustSet e rxbuff d).1 = .SUCC) :
    PolarUntouched faults e rxbuff d ↔
      e.stack.SamePolar d.allElecCoderMap ∧
        { e.stack with polar := e.stack.polar.stored }.SamePolar (elecCodeMapRead d.eeprom) := by
  obtain ⟨⟨hpolar, htype⟩, hread, hreadType⟩ := antennaParamAdjustSet_polar hnum hsucc
  unfold PolarUntouched AllElecCoderMapAntenna.SamePolar
  rw [hpolar, htype, hread, hreadType]

end

section
attribute [local instance] SoftFloat.single

/-- The third axis was mapped before: 10 degrees of the antenna are 20 of the encoder. -/
def polarMapped : AllElecCoderMapAntenna := ⟨⟨0, 0, 0⟩, ⟨0, 0, 0⟩, ⟨10, 20, 0xE1⟩, 1⟩

/-- A stack of zeros. -/
def zeroMap : AllElecCoderMapAntenna := ⟨⟨0, 0, 0⟩, ⟨0, 0, 0⟩, ⟨0, 0, 0⟩, 0⟩

/-- Two encoders. -/
def twoAxes : Device :=
  { eeprom := SwiftAcu.elecCodeMapSave polarMapped fun _ => 0
    satList := ⟨0, fun _ => 0⟩
    recordList := ⟨0, fun _ => 0⟩
    currSatParam := ⟨0, Vector.replicate 16 0, 0x45, 110, 12000000, 0x48⟩
    antennaParam := ⟨0, 0, 1, 10000000, 0, 2⟩
    allElecCoderMap := polarMapped
    agcOutputRange := 0 }

/-- Both answer. -/
def bothLinked (stack : AllElecCoderMapAntenna) : Encoders :=
  { position := ⟨true, 350, 0xE1⟩
    cabrage := ⟨true, 20, 0xE1⟩
    polar := ⟨false, 0, 0⟩
    aimPosition := 90
    aimCabrage := 35
    aimPolar := 0
    stack }

/-- `AntennaParamAdjustID`. -/
def adjustCommand (i : Nat) : UInt8 := [0x01, 0x03].getD i 0

theorem adjustCommand_succ (stack : AllElecCoderMapAntenna) :
    (none.antennaParamAdjustSet (bothLinked stack) adjustCommand twoAxes).1 = .SUCC := rfl

/-- A stack that holds the old map leaves it. -/
theorem polarUntouched_old :
    PolarUntouched none (bothLinked polarMapped) adjustCommand twoAxes := by
  refine (polarUntouched_iff none _ _ twoAxes (by decide)
    (adjustCommand_succ polarMapped)).mpr ⟨⟨rfl, rfl⟩, ?_⟩
  obtain ⟨hread, hreadType⟩ := elecCodeMapRead_polar polarMapped fun _ => 0
  exact ⟨hread.symm, hreadType.symm⟩

/-- A stack of zeros does not. -/
theorem polarTouched_zeroMap :
    ¬ ∀ (faults : Faults) (e : Encoders) (rxbuff : Nat → UInt8) (d : Device),
      d.antennaParam.elecCoderNum < 3 → e.position.linked = true → e.cabrage.linked = true →
        (faults.antennaParamAdjustSet e rxbuff d).1 = .SUCC → PolarUntouched faults e rxbuff d := by
  intro hall
  have hsucc := adjustCommand_succ zeroMap
  have hafter := (antennaParamAdjustSet_polar (by decide) hsucc).1.2
  have hbefore :=
    (hall none (bothLinked zeroMap) adjustCommand twoAxes (by decide) rfl rfl hsucc).1.2
  exact absurd (hafter.symm.trans hbefore) (by decide)

end

end Faults

end SwiftAcu
