/-
The selected satellite after a restart.

A selection is stored twice: its id, and its parameters with the id 0.  The start reads
the parameters only; it finds an id of 0, takes the first satellite it comes upon for the
selected one, and stores the id of that one over the other.  So the selection survives
exactly if it is the first satellite, and its longitude survives being stored once more; a
satellite that is the only one is read from its slot again.
-/
import SwiftAcu.Proofs.Param.Codec
import SwiftAcu.Proofs.Sat.List

namespace SwiftAcu.Sat

open Param

section
variable [SoftFloat]

/-- `f` is the place of the first satellite. -/
def First (m : Eeprom) (f : Nat) : Prop := f < satMax ∧ Found m f ∧ foundBefore m f = 0

/-- The current satellite `c` of id 0, and the stored id, when the search has come to place `k`. -/
@[irreducible] def CurrAt (m : Eeprom) (total : UInt16) (c : SatParam) (k : Nat) (s : SatScan) : Prop :=
  if foundBefore m k = 0 ∨ total = 0 then
    s.curr = c ∧ satCurrIdRead s.eeprom = satCurrIdRead m
  else ∃ f, f < k ∧ First m f ∧
    if total = 1 then
      some s.curr = satParamRead (slotLabel f) m ∧ satCurrIdRead s.eeprom = satCurrIdRead m
    else s.curr = { c with id := slotLabel f } ∧ satCurrIdRead s.eeprom = slotLabel f

omit [SoftFloat] in
theorem satCurrIdRead_satCurrIdSave (id : UInt8) (m : Eeprom) :
    satCurrIdRead (satCurrIdSave id m) = id := by
  show (paramRead (paramSave 0x0A08 [id] m) 0x0A08 1).getD 0 0 = id
  exact Fields.At.head (at_paramRead m 0x0A08 (Nat.le_refl 1))

/-- A round that finds a satellite which is not the current one. -/
theorem curr_satScanStep {total : UInt16} {s : SatScan} {k : Nat} {p : SatParam}
    (hnum : s.satNum ≠ 0) (hread : satParamRead (slotLabel k) s.eeprom = some p)
    (hk : k < satMax) (hother : s.curr.id ≠ slotLabel k) :
    if total = 1 then
      (satScanStep total s k).curr = p ∧ (satScanStep total s k).eeprom = s.eeprom
    else if s.curr.id = 0 then
      (satScanStep total s k).curr = { s.curr with id := slotLabel k } ∧
        (satScanStep total s k).eeprom = satCurrIdSave (slotLabel k) s.eeprom
    else (satScanStep total s k).curr = s.curr ∧ (satScanStep total s k).eeprom = s.eeprom := by
  have hid := id_of_satParamRead hread
  have hne : slotLabel k ≠ 0 := (labels_slotLabel (by decide)).ne_zero k hk
  have hread' : satParamRead (UInt8.ofNat (k + 1)) s.eeprom = some p := hread
  rw [satScanStep, if_neg hnum, hread']
  by_cases htotal : total = 1
  · simp [htotal, hid, hne]
  · have hdiff : slotLabel k ≠ s.curr.id := Ne.symm hother
    by_cases hcurr : s.curr.id = 0
    · simp [htotal, hid, hcurr]
    · simp [htotal, hid, hcurr, hdiff]

/-- **One round of the search.** -/
theorem CurrAt.step {m : Eeprom} {total : UInt16} {c : SatParam} {k : Nat} {s : SatScan}
    (hc : c.id = 0) (hscan : ScanAt m total k s) (h : CurrAt m total c k s) (hk : k < satMax) :
    CurrAt m total c (k + 1) (satScanStep total s k) := by
  obtain ⟨p, hnum, hread, hp, hfound, hlt⟩ | ⟨hskip, hzero⟩ := hscan.takes_or_skips hk
  · have htotal : total ≠ 0 := fun h0 => by
      rw [h0] at hlt
      exact absurd hlt (Nat.not_lt_zero _)
    have hne : slotLabel k ≠ 0 := (labels_slotLabel (by decide)).ne_zero k hk
    unfold CurrAt at h ⊢
    rw [if_neg (by simp [foundBefore_succ, hfound, htotal])]
    by_cases hfirst : foundBefore m k = 0
    · -- the first satellite
      rw [if_pos (Or.inl hfirst)] at h
      have hcurr : s.curr.id = 0 := by rw [h.1, hc]
      have hstep := @curr_satScanStep _ total _ _ _ hnum hread hk (by rw [hcurr]; exact hne.symm)
      refine ⟨k, Nat.lt_succ_self k, ⟨hk, hfound, hfirst⟩, ?_⟩
      by_cases hone : total = 1
      · rw [if_pos hone] at hstep ⊢
        rw [hstep.1, hstep.2, hp]
        exact ⟨rfl, h.2⟩
      · rw [if_neg hone, if_pos hcurr] at hstep
        rw [if_neg hone, hstep.1, hstep.2, h.1]
        exact ⟨rfl, satCurrIdRead_satCurrIdSave _ _⟩
    · -- another one behind it
      rw [if_neg (by simp [hfirst, htotal])] at h
      obtain ⟨f, hfk, hf, hcase⟩ := h
      have hone : total ≠ 1 := fun h1 => by
        rw [h1] at hlt
        have : (1 : UInt16).toNat = 1 := rfl
        omega
      rw [if_neg hone] at hcase
      have hfne : slotLabel f ≠ 0 := (labels_slotLabel (by decide)).ne_zero f hf.1
      have hother : s.curr.id ≠ slotLabel k := by
        rw [hcase.1]
        intro heq
        have := (labels_slotLabel (n := satMax) (by decide)).inj f hf.1 k hk heq
        omega
      have hstep := @curr_satScanStep _ total _ _ _ hnum hread hk hother
      rw [if_neg hone, if_neg (by rw [hcase.1]; exact hfne)] at hstep
      refine ⟨f, by omega, hf, ?_⟩
      rw [if_neg hone, hstep.1, hstep.2]
      exact hcase
  · rw [hskip]
    unfold CurrAt at h ⊢
    by_cases hnone : foundBefore m k = 0 ∨ total = 0
    · rw [if_pos hnone] at h
      have hnone' : foundBefore m (k + 1) = 0 ∨ total = 0 := by
        rw [foundBefore_succ]
        rcases hzero with hnot | hle
        · rw [if_neg hnot]
          exact hnone
        · refine Or.inr (hnone.elim (fun h0 => ?_) id)
          exact UInt16.toNat_inj.mp (show total.toNat = 0 by omega)
      rw [if_pos hnone']
      exact h
    · rw [if_neg hnone] at h
      obtain ⟨f, hfk, hf, hcase⟩ := h
      have hsome : ¬ (foundBefore m (k + 1) = 0 ∨ total = 0) := by
        rw [foundBefore_succ]
        exact fun hor => hnone (hor.imp_left fun h0 => by omega)
      rw [if_neg hsome]
      exact ⟨f, by omega, hf, hcase⟩

theorem currAt_foldl (m : Eeprom) (total : UInt16) {c : SatParam} (hc : c.id = 0) {k : Nat}
    (hk : k ≤ satMax) : CurrAt m total c k
      ((List.range k).foldl (satScanStep total) ⟨total, c, fun _ => 0, m⟩) := by
  induction k with
  | zero =>
      unfold CurrAt
      exact (if_pos (Or.inl rfl)).mpr ⟨rfl, rfl⟩
  | succ k ih =>
      have hscan := scanAt_foldl m total c (k := k) (by omega)
      rw [List.range_succ, List.foldl_append]
      exact (ih (by omega)).step hc hscan hk

/-! ### Selecting and starting -/

theorem First.unique {m : Eeprom} {f g : Nat} (hf : First m f) (hg : First m g) : f = g := by
  rcases Nat.lt_trichotomy f g with hlt | heq | hlt
  · have := foundBefore_pos hf.2.1 hlt
    have := hg.2.2
    omega
  · exact heq
  · have := foundBefore_pos hg.2.1 hlt
    have := hf.2.2
    omega

theorem First.congr {m m' : Eeprom} {f : Nat} (hf : First m f)
    (h : ∀ i < satMax, satParamRead (slotLabel i) m = satParamRead (slotLabel i) m') :
    First m' f := by
  refine ⟨hf.1, (found_congr (h f hf.1)).mp hf.2.1, ?_⟩
  rw [← foundBefore_congr fun i hi => h i (hi.trans hf.1)]
  exact hf.2.2

/-- The EEPROM after `sel_sat_id` was selected, with the parameters `p`. -/
def selected (sel_sat_id : UInt8) (p : SatParam) (m : Eeprom) : Eeprom :=
  currSatParamSave p (historyMaxMvSave 0 (satCurrIdSave sel_sat_id m))

/-- A selection writes three parameters and leaves the others. -/
theorem read_selected {x : Param} (hid : x ≠ satCurrId) (hmax : x ≠ historyMaxMv)
    (hcurr : x ≠ currSatParam) (s : UInt8) (p : SatParam) (m : Eeprom) :
    x.read (selected s p m) = x.read m := by
  have hread := readsIn_read x
  have h1 := frame (x := satCurrId) hread hid.symm s m
  have h2 := frame (x := historyMaxMv) hread hmax.symm (0 : UInt32) (satCurrIdSave s m)
  have h3 := frame (x := currSatParam) hread hcurr.symm p (historyMaxMvSave 0 (satCurrIdSave s m))
  exact h3.trans (h2.trans h1)

theorem satParamRead_selected (s : UInt8) (p : SatParam) (m : Eeprom) {i : Nat} (hi : i < satMax) :
    satParamRead (slotLabel i) (selected s p m) = satParamRead (slotLabel i) m :=
  read_selected (x := satParam (.ofPlace (by decide) hi)) (by simp) (by simp) (by simp) s p m

theorem satSought_selected (s : UInt8) (p : SatParam) (m : Eeprom) :
    satSought (selected s p m) = satSought m := by
  have hread : satTotalNumRead (selected s p m) = satTotalNumRead m :=
    read_selected (x := satTotalNum) (by simp) (by simp) (by simp) s p m
  rw [satSought, satSought, hread]

theorem satCurrIdRead_selected (s : UInt8) (p : SatParam) (m : Eeprom) :
    satCurrIdRead (selected s p m) = s := by
  have hread := readsIn_read satCurrId
  have h2 : satCurrIdRead (historyMaxMvSave 0 (satCurrIdSave s m)) =
      satCurrIdRead (satCurrIdSave s m) :=
    frame (x := historyMaxMv) hread (by simp) (0 : UInt32) _
  have h3 : satCurrIdRead (selected s p m) =
      satCurrIdRead (historyMaxMvSave 0 (satCurrIdSave s m)) :=
    frame (x := currSatParam) hread (by simp) p _
  rw [h3, h2, satCurrIdRead_satCurrIdSave]

theorem id_currSatParamRead_selected (s : UInt8) (p : SatParam) (m : Eeprom) :
    (currSatParamRead (selected s p m)).id = 0 := by
  have hlen : ([0x00] ++ satParamBytes p).length ≤ 27 := by simp
  have hat := at_paramRead (historyMaxMvSave 0 (satCurrIdSave s m)) 0x0A20 hlen
  show (paramRead (selected s p m) 0x0A20 27).getD 0 0 = 0
  exact hat.head

/-- **A start after a selection**: the first satellite is selected, by its id. -/
theorem start_selected (s : UInt8) (p : SatParam) (m : Eeprom) :
    CurrAt (selected s p m) (satSought m) (currSatParamRead (selected s p m)) satMax
      (satScanned (selected s p m)) := by
  have hcurr := currAt_foldl (selected s p m) (satSought m)
    (id_currSatParamRead_selected s p m) (Nat.le_refl satMax)
  rwa [satScanned, satSought_selected]

/-- Satellite `s` of the EEPROM `m` is the current one when the device `d` has started again, and
its id is the stored one. -/
def Survives (m : Eeprom) (s : UInt8) (d : Device) : Prop :=
  ∃ p, satParamRead s m = some p ∧ (paramInit d.eeprom).currSatParam = p ∧
    satCurrIdRead (paramInit d.eeprom).eeprom = s

/-- The longitude of satellite `s` is the same `FP32` after it was stored. -/
def LonRestored (m : Eeprom) (s : UInt8) : Prop :=
  ∀ p, satParamRead s m = some p → restored p.lon = p.lon

/-- Satellites are sought, and `s` is the first there is; unless it is the only one sought, its
longitude is kept. -/
def SelectsFirst (m : Eeprom) (s : UInt8) : Prop :=
  (satSought m ≠ 0 ∧ ∃ f, First m f ∧ slotLabel f = s) ∧ (satSought m ≠ 1 → LonRestored m s)

/-- What a successful selection leaves in the EEPROM. -/
theorem eeprom_selSat {stack : SatParam} {beacon : Ret} {s : UInt8} {d : Device}
    (hsucc : (selSat stack beacon [s] d).1 = .SUCC) :
    ∃ p, (∀ q, satParamRead s (satCurrIdSave s d.eeprom) = some q → p = q) ∧
      (selSat stack beacon [s] d).2.eeprom = selected s p d.eeprom := by
  refine ⟨(satParamRead s (satCurrIdSave s d.eeprom)).getD { stack with id := s },
    fun q hq => by rw [hq]; rfl, ?_⟩
  unfold selSat at hsucc ⊢
  simp only [List.length_singleton, ne_eq, not_true_eq_false, if_false,
    List.getD_cons_zero] at hsucc ⊢
  split at hsucc
  · exact absurd hsucc (by simp)
  · next hid =>
      rw [if_neg hid]
      cases beacon with
      | FAIL => exact absurd hsucc (by simp)
      | SUCC => rfl

/-- What a selection reads of a satellite is what stands in its slot. -/
theorem satParamRead_satCurrIdSave {f : Nat} (hf : f < satMax) (s : UInt8) (m : Eeprom) :
    satParamRead (slotLabel f) (satCurrIdSave s m) = satParamRead (slotLabel f) m :=
  frame (x := satCurrId) (readsIn_read (satParam (.ofPlace (by decide) hf))) (by simp) s m

theorem currSatParamRead_selected (s : UInt8) (p : SatParam) (m : Eeprom) :
    currSatParamRead (selected s p m) = { p with id := 0x00, lon := restored p.lon } :=
  currSatParamRead_currSatParamSave p _

/-- Only the first satellite is the current one after a start. -/
theorem selectsFirst_of_survives {s : UInt8} {p : SatParam} {d : Device} {m : Eeprom}
    (hp : ∀ q, satParamRead s (satCurrIdSave s m) = some q → p = q)
    (heeprom : d.eeprom = selected s p m) (h : Survives m s d) : SelectsFirst m s := by
  obtain ⟨q, hq, hcurr, -⟩ := h
  have hid := id_of_satParamRead hq
  have hs : s ≠ 0 := fun h0 => by
    rw [h0] at hq
    exact absurd hq (by simp [satParamRead])
  rw [heeprom, paramInit_currSatParam] at hcurr
  have hstart := start_selected s p m
  unfold CurrAt at hstart
  split at hstart
  · -- nothing was found, and the id stays 0
    have h0 := id_currSatParamRead_selected s p m
    rw [← hstart.1, hcurr, hid] at h0
    exact absurd h0 hs
  · next hsome =>
      obtain ⟨f, -, hf, hcase⟩ := hstart
      have hfirst := hf.congr fun i hi => satParamRead_selected s p m hi
      have hsought : satSought m ≠ 0 := fun h0 => hsome (Or.inr h0)
      split at hcase
      · next hone =>
          have hlabel : slotLabel f = s := by
            rw [← id_of_satParamRead hcase.1.symm, hcurr, hid]
          exact ⟨⟨hsought, f, hfirst, hlabel⟩, fun hmore => absurd hone hmore⟩
      · rw [hcurr, currSatParamRead_selected] at hcase
        have hlabel : slotLabel f = s := by rw [← hid, hcase.1]
        refine ⟨⟨hsought, f, hfirst, hlabel⟩, fun _ q' hq' => ?_⟩
        have hread := hq
        rw [← hlabel, ← satParamRead_satCurrIdSave hf.1 s, hlabel] at hread
        obtain rfl := hp q hread
        obtain rfl := Option.some.inj (hq'.symm.trans hq)
        exact (congrArg SatParam.lon hcase.1).symm

/-- The first satellite is the current one after a start, if its longitude is kept. -/
theorem survives_of_selectsFirst {s : UInt8} {p : SatParam} {d : Device} {m : Eeprom}
    (hp : ∀ q, satParamRead s (satCurrIdSave s m) = some q → p = q)
    (heeprom : d.eeprom = selected s p m) (h : SelectsFirst m s) : Survives m s d := by
  obtain ⟨⟨hsought, f, hf, rfl⟩, hlon⟩ := h
  obtain ⟨q, hq⟩ := Option.isSome_iff_exists.mp hf.2.1
  obtain rfl := hp q ((satParamRead_satCurrIdSave hf.1 _ m).trans hq)
  have hid := id_of_satParamRead hq
  refine ⟨p, hq, ?_⟩
  rw [heeprom, paramInit_currSatParam, satCurrIdRead_paramInit]
  have hstart := start_selected (slotLabel f) p m
  have hf' := hf.congr fun i hi => (satParamRead_selected (slotLabel f) p m hi).symm
  unfold CurrAt at hstart
  rw [if_neg (not_or.mpr ⟨(foundBefore_pos hf'.2.1 hf'.1).ne', hsought⟩)] at hstart
  obtain ⟨g, -, hg, hcase⟩ := hstart
  obtain rfl := hf'.unique hg
  split at hcase
  · rw [satParamRead_selected _ _ _ hf.1, hq, satCurrIdRead_selected] at hcase
    exact ⟨Option.some.inj hcase.1, hcase.2⟩
  · next hmore =>
      rw [currSatParamRead_selected, hlon hmore p hq, ← hid] at hcase
      rw [← hid]
      exact hcase

theorem survives_iff {stack : SatParam} {beacon : Ret} {s : UInt8} {d : Device}
    (hsucc : (selSat stack beacon [s] d).1 = .SUCC) :
    Survives d.eeprom s (selSat stack beacon [s] d).2 ↔ SelectsFirst d.eeprom s := by
  obtain ⟨p, hp, heeprom⟩ := eeprom_selSat hsucc
  exact ⟨selectsFirst_of_survives hp heeprom, survives_of_selectsFirst hp heeprom⟩

/--
**The selected satellite survives a restart exactly if it is the first one stored and an
`FP32` keeps its longitude.**  For both selections: whatever the state of the device, after
satellite `s` was selected with success and the device has started again, `s` is the
current satellite with its parameters, and the stored one, exactly if `s` is the first
satellite of the EEPROM and the EEPROM counts any; and, where it counts more than one, the
longitude of `s` is the same `FP32` again after it was stored.
-/
theorem survives_selSat_iff {stack : SatParam} {beacon : Ret} {s : UInt8} {d : Device} :
    ((pcSelSat stack beacon [s] d).1 = .SUCC →
      (Survives d.eeprom s (pcSelSat stack beacon [s] d).2 ↔ SelectsFirst d.eeprom s)) ∧
    ((oledSelSat stack beacon [s] d).1 = .SUCC →
      (Survives d.eeprom s (oledSelSat stack beacon [s] d).2 ↔ SelectsFirst d.eeprom s)) :=
  ⟨survives_iff, survives_iff⟩

end

section
attribute [local instance] SoftFloat.single

/-- A device with two satellites. -/
def twoSats : Device :=
  Runs.run step (paramInit fun _ => 0xFF)
    [.satParamSet (0 :: satFive.drop 1), .satParamSet (0 :: satFive.drop 1)]

/-- The first of the two survives. -/
theorem survives_first :
    Survives twoSats.eeprom 1 (pcSelSat twoSats.currSatParam .SUCC [1] twoSats).2 :=
  (survives_selSat_iff.1 (by decide +kernel)).mpr
    ⟨⟨by decide +kernel, 0, ⟨by decide, by decide +kernel, rfl⟩, rfl⟩,
      fun _ p hp => by
        have hlon : (satParamRead 1 twoSats.eeprom).map (fun p => restored p.lon) =
            (satParamRead 1 twoSats.eeprom).map SatParam.lon := by decide +kernel
        rw [hp] at hlon
        exact Option.some.inj hlon⟩

/-- The second one is selected with success, and is not the current one after a start. -/
theorem second_not_survives :
    (twoSats.satList.total = 2 ∧ twoSats.satList.satId 0 = 1 ∧ twoSats.satList.satId 1 = 2) ∧
      (pcSelSat twoSats.currSatParam .SUCC [2] twoSats).1 = .SUCC ∧
      ¬ Survives twoSats.eeprom 2 (pcSelSat twoSats.currSatParam .SUCC [2] twoSats).2 := by
  refine ⟨by decide +kernel, by decide +kernel, ?_⟩
  rintro ⟨p, -, -, hid⟩
  exact absurd hid (by decide +kernel)

end

end SwiftAcu.Sat
