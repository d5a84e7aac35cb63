/-
What start-up leaves in the EEPROM.

`APP_PARAM_Init` writes the number of satellites, the id of the current one and the
number of records, each only if it is another than was stored.  Everything else reads
as before the start.
-/
import SwiftAcu.Acu.Device
import SwiftAcu.Proofs.Param.Slot

namespace SwiftAcu

open Param

variable [SoftFloat]

/-- One round of the search for satellites writes the id of the current one, if anything. -/
theorem satScanStep_eeprom (total : UInt16) (s : SatScan) (i : Nat) :
    (satScanStep total s i).eeprom = s.eeprom ∨
      ∃ id, (satScanStep total s i).eeprom = satCurrIdSave id s.eeprom := by
  unfold satScanStep
  split
  · exact Or.inl rfl
  · split
    · exact Or.inl rfl
    · next p _ =>
        dsimp only
        split_ifs
        · exact Or.inr ⟨p.id, rfl⟩
        · exact Or.inl rfl
        · exact Or.inr ⟨p.id, rfl⟩
        · exact Or.inl rfl

section
variable {β : Type} {g : Eeprom → β} {x : Param}

theorem read_satScanStep (hg : Memory.ReadsIn g x.addr x.size) (hx : x ≠ satCurrId)
    (total : UInt16) (s : SatScan) (i : Nat) :
    g (satScanStep total s i).eeprom = g s.eeprom := by
  obtain hsame | ⟨id, hsave⟩ := satScanStep_eeprom total s i
  · rw [hsame]
  · rw [hsave]
    exact frame hg hx.symm id s.eeprom

theorem read_satScan (hg : Memory.ReadsIn g x.addr x.size) (hx : x ≠ satCurrId) (total : UInt16)
    (is : List Nat) (s : SatScan) : g (is.foldl (satScanStep total) s).eeprom = g s.eeprom := by
  induction is generalizing s with
  | nil => rfl
  | cons i is ih => exact (ih (satScanStep total s i)).trans (read_satScanStep hg hx total s i)

end

/-- The number of satellites that are searched for. -/
def satSought (m : Eeprom) : UInt16 := if 100 < satTotalNumRead m then 0 else satTotalNumRead m

/-- The search at its end. -/
def satScanned (m : Eeprom) : SatScan :=
  (List.range satMax).foldl (satScanStep (satSought m))
    ⟨satSought m, currSatParamRead m, fun _ => 0, m⟩

/-- The number of satellites is written if it found fewer than were sought. -/
theorem satInit_eq (m : Eeprom) : satInit m =
    if 0 < (satScanned m).satNum then
      (⟨satSought m - (satScanned m).satNum, (satScanned m).satId⟩, (satScanned m).curr,
        satTotalNumSave (satSought m - (satScanned m).satNum) (satScanned m).eeprom)
    else (⟨satSought m, (satScanned m).satId⟩, (satScanned m).curr, (satScanned m).eeprom) := rfl

theorem paramInit_satList (m : Eeprom) : (paramInit m).satList = (satInit m).1 := by
  unfold paramInit
  generalize satInit m = sats
  rfl

theorem paramInit_eeprom (m : Eeprom) :
    (paramInit m).eeprom = (recordInit (satInit m).2.2).2 := by
  unfold paramInit
  generalize satInit m = sats
  rfl

section
variable {β : Type} {g : Eeprom → β} {x : Param}

/-- **The search for satellites** leaves every other parameter. -/
theorem read_satInit (hg : Memory.ReadsIn g x.addr x.size) (hcurr : x ≠ satCurrId)
    (htotal : x ≠ satTotalNum) (m : Eeprom) : g (satInit m).2.2 = g m := by
  have hscan : g (satScanned m).eeprom = g m := read_satScan hg hcurr _ _ _
  have hsave (num : UInt16) (m' : Eeprom) : g (satTotalNumSave num m') = g m' :=
    frame hg htotal.symm num m'
  rw [satInit_eq]
  generalize satScanned m = s at hscan
  split
  · exact (hsave _ _).trans hscan
  · exact hscan

/-- **The search for records** leaves every other parameter. -/
theorem read_recordInit (hg : Memory.ReadsIn g x.addr x.size) (hx : x ≠ antennaRecordTotalNum)
    (m : Eeprom) : g (recordInit m).2 = g m := by
  unfold recordInit
  dsimp only
  split
  · exact frame hg hx.symm _ m
  · rfl

/-- **A start** leaves every parameter but the three. -/
theorem read_paramInit (hg : Memory.ReadsIn g x.addr x.size) (hcurr : x ≠ satCurrId)
    (htotal : x ≠ satTotalNum) (hrecords : x ≠ antennaRecordTotalNum) (m : Eeprom) :
    g (paramInit m).eeprom = g m := by
  rw [paramInit_eeprom, read_recordInit hg hrecords, read_satInit hg hcurr htotal]

end

/-- The id of the current satellite is as the search for satellites leaves it. -/
theorem satCurrIdRead_paramInit (m : Eeprom) :
    satCurrIdRead (paramInit m).eeprom = satCurrIdRead (satScanned m).eeprom := by
  have hrecords (m' : Eeprom) : satCurrIdRead (recordInit m').2 = satCurrIdRead m' :=
    read_recordInit (readsIn_read satCurrId) (by simp) m'
  have hsave (num : UInt16) (m' : Eeprom) :
      satCurrIdRead (satTotalNumSave num m') = satCurrIdRead m' :=
    frame (x := satTotalNum) (readsIn_read satCurrId) (by simp) num m'
  rw [paramInit_eeprom, hrecords, satInit_eq]
  generalize satScanned m = s
  split
  · exact hsave _ _
  · rfl

theorem paramInit_currSatParam (m : Eeprom) :
    (paramInit m).currSatParam = (satScanned m).curr := by
  have hcurr : (satInit m).2.1 = (satScanned m).curr := by
    rw [satInit_eq]
    generalize satScanned m = s
    split <;> rfl
  rw [← hcurr]
  unfold paramInit
  generalize satInit m = sats
  rfl

/-- The slot of the record at place `i`. -/
def recordSlot {i : Nat} (hi : i < antennaRecordMax) : SlotId antennaRecordMax :=
  .ofPlace (by decide) hi

/-- A record is found at start-up exactly if its slot begins with its id. -/
theorem recordFound_congr {m m' : Eeprom} {i : Nat} (hi : i < antennaRecordMax)
    (h : (Param.antennaRecord (recordSlot hi)).read m =
      (Param.antennaRecord (recordSlot hi)).read m') :
    recordFound m i = recordFound m' i := by
  have hread : antennaRecordRead (UInt8.ofNat (i + 1)) m =
      antennaRecordRead (UInt8.ofNat (i + 1)) m' := h
  rw [recordFound, recordFound, hread]

/-- **The records a start finds** are those whose slots begin with their ids. -/
theorem paramInit_recordId (m : Eeprom) {i : Nat} (hi : i < antennaRecordMax) :
    (paramInit m).recordList.recordId i =
      if recordFound m i = true then UInt8.ofNat (i + 1) else 0 := by
  show recordScan (satInit m).2.2 i = _
  have hsame : recordFound (satInit m).2.2 i = recordFound m i :=
    recordFound_congr hi
      (read_satInit (readsIn_read (Param.antennaRecord (recordSlot hi))) (by simp) (by simp) m)
  simp only [recordScan, hi, hsame, true_and]

end SwiftAcu
