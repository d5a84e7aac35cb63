/-
The satellites a start finds.

The search goes through the slots in their order and stops once it has found as many as
were counted.  What it lists are the first satellites of the EEPROM, as many as were
counted or as there are; the current satellite gets the id of the first of them, unless
its own was stored.
-/
import SwiftAcu.Proofs.Param.Boot

namespace SwiftAcu.Sat

open Param

variable [SoftFloat]

/-- The slot of place `i` holds a satellite. -/
def Found (m : Eeprom) (i : Nat) : Prop := (satParamRead (slotLabel i) m).isSome

instance (m : Eeprom) : DecidablePred (Found m) := fun _ => inferInstanceAs (Decidable (_ = true))

/-- How many satellites lie in front of place `i`. -/
def foundBefore (m : Eeprom) (i : Nat) : Nat := Nat.count (Found m) i

theorem foundBefore_succ (m : Eeprom) (i : Nat) :
    foundBefore m (i + 1) = foundBefore m i + if Found m i then 1 else 0 := Nat.count_succ _ _

/-- What is found depends on the slots only. -/
theorem found_congr {m m' : Eeprom} {i : Nat}
    (h : satParamRead (slotLabel i) m = satParamRead (slotLabel i) m') :
    Found m i ↔ Found m' i := by
  rw [Found, Found, h]

theorem foundBefore_congr {m m' : Eeprom} {k : Nat}
    (h : ∀ i < k, satParamRead (slotLabel i) m = satParamRead (slotLabel i) m') :
    foundBefore m k = foundBefore m' k := by
  induction k with
  | zero => rfl
  | succ k ih =>
      rw [foundBefore_succ, foundBefore_succ, ih fun i hi => h i (Nat.lt_succ_of_lt hi)]
      simp only [found_congr (h k (Nat.lt_succ_self k))]

/-- A satellite counts for every place behind it. -/
theorem foundBefore_pos {m : Eeprom} {i k : Nat} (hi : Found m i) (hik : i < k) :
    0 < foundBefore m k := by
  have hmono : foundBefore m (i + 1) ≤ foundBefore m k := Nat.count_monotone (Found m) hik
  rw [foundBefore_succ, if_pos hi] at hmono
  omega

/-- A satellite is read with the id of its slot. -/
theorem id_of_satParamRead {id : UInt8} {m : Eeprom} {p : SatParam}
    (h : satParamRead id m = some p) : p.id = id := by
  unfold satParamRead at h
  split at h
  · exact absurd h (by simp)
  · change (if id ≠ _ then none else some (satParamOf _)) = some p at h
    split at h
    · exact absurd h (by simp)
    · next hid =>
        rw [← Option.some.inj h]
        exact (not_not.mp hid).symm

/-! ### The search -/

/-- The state of the search when it has come to place `k`. -/
structure ScanAt (m : Eeprom) (total : UInt16) (k : Nat) (s : SatScan) : Prop where
  satNum : s.satNum.toNat = total.toNat - foundBefore m k
  satId : ∀ i, s.satId i =
    if i < k ∧ Found m i ∧ foundBefore m i < total.toNat then slotLabel i else 0
  slots : ∀ i < satMax, satParamRead (slotLabel i) s.eeprom = satParamRead (slotLabel i) m

/-- The id of the current satellite is all a round writes. -/
theorem satParamRead_satScanStep (total : UInt16) (s : SatScan) (j : Nat) {i : Nat}
    (hi : i < satMax) : satParamRead (slotLabel i) (satScanStep total s j).eeprom =
      satParamRead (slotLabel i) s.eeprom :=
  read_satScanStep (readsIn_read (satParam (.ofPlace (by decide) hi))) (by simp) total s j

/-- The count and the list after a round. -/
theorem satScanStep_found {total : UInt16} {s : SatScan} {k : Nat} {p : SatParam}
    (hnum : s.satNum ≠ 0) (hread : satParamRead (slotLabel k) s.eeprom = some p) :
    (satScanStep total s k).satNum = s.satNum - 1 ∧
      (satScanStep total s k).satId = Function.update s.satId k (slotLabel k) := by
  have hid := id_of_satParamRead hread
  rw [satScanStep, if_neg hnum,
    show satParamRead (UInt8.ofNat (k + 1)) s.eeprom = some p from hread]
  dsimp only
  rw [hid]
  split_ifs <;> exact ⟨rfl, rfl⟩

theorem satScanStep_none {total : UInt16} {s : SatScan} {k : Nat}
    (h : s.satNum = 0 ∨ satParamRead (slotLabel k) s.eeprom = none) :
    satScanStep total s k = s := by
  rw [satScanStep]
  split
  · rfl
  · next hnum =>
      rw [show satParamRead (UInt8.ofNat (k + 1)) s.eeprom = none from h.resolve_left hnum]

/-- A round takes the satellite it comes upon while more are sought, and skips the place
otherwise. -/
theorem ScanAt.takes_or_skips {m : Eeprom} {total : UInt16} {k : Nat} {s : SatScan}
    (h : ScanAt m total k s) (hk : k < satMax) :
    (∃ p, s.satNum ≠ 0 ∧ satParamRead (slotLabel k) s.eeprom = some p ∧
      satParamRead (slotLabel k) m = some p ∧ Found m k ∧ foundBefore m k < total.toNat) ∨
    (satScanStep total s k = s ∧ (¬ Found m k ∨ total.toNat ≤ foundBefore m k)) := by
  have hnum := h.satNum
  by_cases hzero : s.satNum = 0
  · have h0 : s.satNum.toNat = 0 := by rw [hzero]; rfl
    exact Or.inr ⟨satScanStep_none (Or.inl hzero), Or.inr (by omega)⟩
  · have hpos : s.satNum.toNat ≠ 0 := fun h0 => hzero (UInt16.toNat_inj.mp h0)
    obtain hnone | ⟨p, hp⟩ := Option.eq_none_or_eq_some (satParamRead (slotLabel k) m)
    · refine Or.inr ⟨satScanStep_none (Or.inr ((h.slots k hk).trans hnone)), Or.inl ?_⟩
      simp [Found, hnone]
    · exact Or.inl ⟨p, hzero, (h.slots k hk).trans hp, hp, by simp [Found, hp], by omega⟩

/-- **One round of the search.** -/
theorem ScanAt.step {m : Eeprom} {total : UInt16} {k : Nat} {s : SatScan}
    (h : ScanAt m total k s) (hk : k < satMax) :
    ScanAt m total (k + 1) (satScanStep total s k) := by
  have hslots : ∀ i < satMax, satParamRead (slotLabel i) (satScanStep total s k).eeprom =
      satParamRead (slotLabel i) m := fun i hi =>
    (satParamRead_satScanStep total s k hi).trans (h.slots i hi)
  have hlt_succ {i : Nat} (hik : i ≠ k) : i < k + 1 ↔ i < k := by omega
  obtain ⟨p, hnum, hread, -, hfound, hlt⟩ | ⟨hskip, hzero⟩ := h.takes_or_skips hk
  · obtain ⟨hnum', hid'⟩ := satScanStep_found hnum hread
    have hpos : 0 < s.satNum.toNat := Nat.pos_of_ne_zero fun h0 => hnum (UInt16.toNat_inj.mp h0)
    refine ⟨?_, fun i => ?_, hslots⟩
    · have hone : (1 : UInt16) ≤ s.satNum := UInt16.le_iff_toNat_le.mpr hpos
      rw [hnum', UInt16.toNat_sub_of_le _ _ hone, h.satNum, foundBefore_succ, if_pos hfound]
      show _ - 1 = _
      omega
    · rw [hid']
      by_cases hik : i = k
      · subst hik
        simp [hfound, hlt]
      · simp only [Function.update_of_ne hik, h.satId i, hlt_succ hik]
  · rw [hskip] at hslots ⊢
    refine ⟨?_, fun i => ?_, hslots⟩
    · rw [h.satNum, foundBefore_succ]
      rcases hzero with hnot | hle
      · rw [if_neg hnot]
        rfl
      · split <;> omega
    · rw [h.satId i]
      by_cases hik : i = k
      · subst hik
        rw [if_neg fun hc => absurd hc.1 (Nat.lt_irrefl i), if_neg]
        rintro ⟨-, hfound, hlt⟩
        rcases hzero with hnot | hle
        · exact hnot hfound
        · omega
      · simp only [hlt_succ hik]

/-- **The search up to place `k`.** -/
theorem scanAt_foldl (m : Eeprom) (total : UInt16) (curr : SatParam) {k : Nat} (hk : k ≤ satMax) :
    ScanAt m total k ((List.range k).foldl (satScanStep total) ⟨total, curr, fun _ => 0, m⟩) := by
  induction k with
  | zero => exact ⟨rfl, fun _ => rfl, fun _ _ => rfl⟩
  | succ k ih =>
      rw [List.range_succ, List.foldl_append]
      exact (ih (by omega)).step hk

theorem scanAt_satScanned (m : Eeprom) : ScanAt m (satSought m) satMax (satScanned m) :=
  scanAt_foldl m (satSought m) (currSatParamRead m) (Nat.le_refl satMax)

/-! ### The list -/

omit [SoftFloat] in
theorem satSought_le (m : Eeprom) : (satSought m).toNat ≤ satMax := by
  unfold satSought
  split
  · exact Nat.zero_le _
  · next h => exact UInt16.le_iff_toNat_le.mp (UInt16.not_lt.mp h)

/-- **The ids a start lists**: those of the first satellites, as many as were counted. -/
theorem satInit_satId (m : Eeprom) (i : Nat) : (satInit m).1.satId i =
    if i < satMax ∧ Found m i ∧ foundBefore m i < (satSought m).toNat then slotLabel i else 0 := by
  have hscan := (scanAt_satScanned m).satId i
  rw [satInit_eq]
  generalize satScanned m = s at hscan
  split <;> exact hscan

/-- **The number of satellites a start lists**: as many as were counted, or as there are. -/
theorem satInit_total (m : Eeprom) :
    (satInit m).1.total.toNat = min (satSought m).toNat (foundBefore m satMax) := by
  have hscan := (scanAt_satScanned m).satNum
  rw [satInit_eq]
  generalize satScanned m = s at hscan
  split
  · have hle : s.satNum ≤ satSought m := UInt16.le_iff_toNat_le.mpr (by omega)
    show (satSought m - s.satNum).toNat = _
    rw [UInt16.toNat_sub_of_le _ _ hle]
    omega
  · next h =>
      have hzero : s.satNum.toNat = 0 := Nat.eq_zero_of_not_pos fun hpos =>
        h (UInt16.lt_iff_toNat_lt.mpr hpos)
      show (satSought m).toNat = _
      omega

end SwiftAcu.Sat
