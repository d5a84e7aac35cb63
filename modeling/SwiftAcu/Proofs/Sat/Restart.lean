/-
No satellite is lost.

Next to the device runs the map of what it has been told.  As long as no command puts
the list out of step, the list and the slots hold the map, and the stored count is the
number of its satellites; so a start lists exactly the ids of the map, and the query
then sends each satellite once, as it was last set.
-/
import SwiftAcu.Proofs.Sat.Query

namespace SwiftAcu.Sat

open PcComm

section
variable [SoftFloat]

/-! ### Histories -/

/-- The device, and the map of what it has been told. -/
structure Hist where
  dev : Device
  sats : Sats

/-- The id a satellite is set under. -/
def assignedId (l : SatList) (pbuff : List UInt8) : UInt8 :=
  if pbuff.getD 0 0 = 0 then l.freeId else pbuff.getD 0 0

/-- One command, and what it tells. -/
def Hist.step (h : Hist) (op : Op) : Hist where
  dev := Sat.step h.dev op
  sats := match op with
    | .satParamSet pbuff =>
      if (satParamSet pbuff h.dev).1 = .SUCC
      then h.sats.set (assignedId h.dev.satList pbuff) (pbuff.drop 1) else h.sats
    | .delSatSet pbuff => h.sats.del pbuff

/-- The satellites a device lists, as they are in its slots. -/
def listed (d : Device) : Sats := fun id =>
  if id ≠ 0 ∧ ∃ i < satMax, d.satList.satId i = id
  then some ((paramRead d.eeprom (satParamAddr id) 27).drop 1) else none

/-- A device that has just come up. -/
def Hist.start (m : Eeprom) : Hist := ⟨paramInit m, listed (paramInit m)⟩

/-- What is set is new or listed, and its longitude is not negative and comes back. -/
def SetSound (l : SatList) (pbuff : List UInt8) : Prop :=
  pbuff.length = 0x1B →
    (pbuff.getD 0 0 = 0 ∨ ∃ i < satMax, l.satId i = pbuff.getD 0 0) ∧
      ofBe32At pbuff 18 < 2 ^ 31 ∧ ComesBack (ofBe32At pbuff 18)

/-- The longitudes of the satellites of the first start come back. -/
def StartSound (m : Eeprom) : Prop :=
  ∀ id bytes, listed (paramInit m) id = some bytes → LonComesBack bytes

/-- The command loses no satellite. -/
def Sound (h : Hist) : Op → Prop
  | .satParamSet pbuff => SetSound h.dev.satList pbuff
  | .delSatSet pbuff => DelHarmless h.dev.satList pbuff

/--
The device holds the map: the list has exactly its ids, each in its place, and the query
sends the frame of each of its satellites once, in datagrams of up to 40, and then its
last frame.
-/
structure Holds (sats : Sats) (d : Device) : Prop where
  list : ∀ id, (id ≠ 0 ∧ ∃ i < satMax, d.satList.satId i = id) ↔ (sats id).isSome
  places : ∀ i < satMax, d.satList.satId i = 0 ∨ d.satList.satId i = slotLabel i
  sent : Batches.Sent 40 (frames CmdId.allSaveSatParamQue.id sats)
    (saveAllSatParamQue CmdId.allSaveSatParamQue.id d).1
  last : (saveAllSatParamQue CmdId.allSaveSatParamQue.id d).2 =
    answerId CmdId.allSaveSatParamQue.id ++ [27] ++ List.replicate 27 0xFF

/-- After a start on the same EEPROM the device holds the map. -/
def Kept (h : Hist) : Prop := Holds h.sats (paramInit h.dev.eeprom)

/-! ### The invariant -/

/-- List, slots and stored count hold the map. -/
structure Inv (h : Hist) : Prop where
  stored : Stored h.sats h.dev.satList.satId h.dev.eeprom
  inStep : InStep h.dev.satList
  sought : satSought h.dev.eeprom = h.dev.satList.total

omit [SoftFloat] in
theorem InStep.total_le {l : SatList} (h : InStep l) : l.total.toNat ≤ satMax := by
  have htotal : l.total.toNat = Slots.used satMax l.satId := h.total_eq
  rw [htotal]
  exact Slots.used_le _ _

omit [SoftFloat] in
/-- The two bytes of a count. -/
theorem uint16_of_bytes (num : UInt16) :
    UInt16.ofNat ((((num &&& 0xFF00) >>> 8).toUInt8.toNat <<< 8) +
      (num &&& 0x00FF).toUInt8.toNat) = num := by
  have hlt := num.toNat_lt
  refine UInt16.toNat_inj.mp ?_
  rw [UInt16.toNat_ofNat', toNat_highByte, toNat_lowByte, Nat.shiftLeft_eq]
  omega

omit [SoftFloat] in
/-- The stored count is the one that was stored. -/
theorem satTotalNumRead_satTotalNumSave (num : UInt16) (m : Eeprom) :
    satTotalNumRead (satTotalNumSave num m) = num := by
  have hat : Fields.At (paramRead (satTotalNumSave num m) 0x0A00 2) 0
      [((num &&& 0xFF00) >>> 8).toUInt8, (num &&& 0x00FF).toUInt8] :=
    at_paramRead m 0x0A00 (Nat.le_refl 2)
  rw [satTotalNumRead, hat.head, hat.tail.head, uint16_of_bytes]

omit [SoftFloat] in
theorem satSought_satTotalNumSave {num : UInt16} (h : num.toNat ≤ satMax) (m : Eeprom) :
    satSought (satTotalNumSave num m) = num := by
  rw [satSought, satTotalNumRead_satTotalNumSave, if_neg]
  rw [UInt16.lt_iff_toNat_lt]
  exact Nat.not_lt.mpr h

/-- The stored count does not depend on the slots. -/
theorem satSought_slot {i : Nat} (hi : i < satMax) {bs : List UInt8} (hlen : bs.length ≤ 27)
    (m : Eeprom) : satSought (paramSave (satParamAddr (slotLabel i)) bs m) = satSought m := by
  have hread : satTotalNumRead (paramSave (satParamAddr (slotLabel i)) bs m) = satTotalNumRead m :=
    (Param.readsIn_read .satTotalNum).frame (Param.writesIn_paramSave (addr16_slot hi) hlen)
      (Param.disjoint (by simp)) m
  rw [satSought, satSought, hread]

/-! ### One command -/

/-- What setting a satellite writes to its slot. -/
theorem eeprom_withSat {pbuff : List UInt8} (hlen : pbuff.length = 27)
    (hlon : ofBe32At pbuff 18 < 2 ^ 31) (hback : ComesBack (ofBe32At pbuff 18)) (id : UInt8)
    (d : Device) : (withSat (addSatParam id pbuff) d).eeprom =
      paramSave (satParamAddr id) (id :: pbuff.drop 1) d.eeprom := by
  have hsave : (withSat (addSatParam id pbuff) d).eeprom =
      paramSave (satParamAddr (addSatParam id pbuff).id)
        ([(addSatParam id pbuff).id] ++ satParamBytes (addSatParam id pbuff)) d.eeprom := rfl
  have hid : (addSatParam id pbuff).id = id := rfl
  rw [hsave, satParamBytes_addSatParam hlen hlon hback, hid]
  rfl

/-- The longitude of a command among the bytes that are stored. -/
theorem lonComesBack_drop {pbuff : List UInt8} (h : ComesBack (ofBe32At pbuff 18)) :
    LonComesBack (pbuff.drop 1) := by
  have hget (i : Nat) : (pbuff.drop 1).getD i 0 = pbuff.getD (i + 1) 0 := by
    rw [List.getD_eq_getElem?_getD, List.getElem?_drop, Nat.add_comm, ← List.getD_eq_getElem?_getD]
  have hat : ofBe32At (pbuff.drop 1) 17 = ofBe32At pbuff 18 := by
    simp only [ofBe32At, hget]
  rwa [LonComesBack, hat]

theorem Inv.set {h : Hist} (hinv : Inv h) {pbuff : List UInt8}
    (hsound : SetSound h.dev.satList pbuff) : Inv (h.step (.satParamSet pbuff)) := by
  have hharmless : Harmless h.dev (.satParamSet pbuff) := by
    intro hlen
    obtain ⟨hnew | ⟨i, hi, hid⟩, -⟩ := hsound hlen
    · exact Or.inl hnew
    · by_cases hid0 : pbuff.getD 0 0 = 0
      · exact Or.inl hid0
      · have hi100 : i < 100 := hi
        have hlabel := (hinv.stored.labelled i hi).resolve_left (by rwa [hid])
        rw [hid] at hlabel
        have hplace : (pbuff.getD 0 0).toNat - 1 = i := by
          rw [hlabel, toNat_slotLabel (by omega), Nat.add_sub_cancel]
        rw [hplace]
        exact Or.inr (Or.inr hid)
  have hinStep : InStep (Sat.step h.dev (.satParamSet pbuff)).satList :=
    (step_inStep_iff h.dev _ hinv.inStep).mpr hharmless
  have hout := satParamSet_outcome pbuff h.dev
  refine ⟨?_, hinStep, ?_⟩
  · show Stored (if (satParamSet pbuff h.dev).1 = .SUCC then _ else _)
      (satParamSet pbuff h.dev).2.satList.satId (satParamSet pbuff h.dev).2.eeprom
    generalize satParamSet pbuff h.dev = r at hout
    cases hout with
    | refused _ => exact hinv.stored
    | added i hlen hid hroom hfirst =>
        obtain ⟨hi, -, hbefore⟩ := Slots.first_eq_some hfirst
        have hassigned : assignedId h.dev.satList pbuff = slotLabel i := by
          rw [assignedId, if_pos hid, SatList.freeId, hfirst]
          rfl
        have hbytes : (pbuff.drop 1).length = 26 := by rw [List.length_drop, hlen]
        obtain ⟨-, hlon, hback⟩ := hsound hlen
        have hset := hinv.stored.set hi (Or.inr hbefore) hbytes (lonComesBack_drop hback)
        rw [if_pos rfl, hassigned]
        rw [eeprom_withSat hlen hlon hback]
        exact hset.frame fun j hj => slot_save (x := .satTotalNum) hj (by simp) _ _
    | revised hlen hid =>
        obtain ⟨hnew | ⟨i, hi, hplace⟩, hlon, hback⟩ := hsound hlen
        · exact absurd hnew hid
        have hi100 : i < 100 := hi
        have hused : h.dev.satList.satId i ≠ 0 := by rwa [hplace]
        have hlabel : pbuff.getD 0 0 = slotLabel i :=
          hplace.symm.trans ((hinv.stored.labelled i hi).resolve_left hused)
        have hbytes : (pbuff.drop 1).length = 26 := by rw [List.length_drop, hlen]
        have hset := hinv.stored.set hi (Or.inl hused) hbytes (lonComesBack_drop hback)
        rw [if_pos rfl, assignedId, if_neg hid, hlabel]
        show Stored _ (h.dev.satList.put (slotLabel i)).satId
          (withSat (addSatParam (slotLabel i) pbuff) h.dev).eeprom
        rw [eeprom_withSat hlen hlon hback, SatList.put, toNat_slotLabel (by omega),
          Nat.add_sub_cancel]
        exact hset
  · show satSought (satParamSet pbuff h.dev).2.eeprom = (satParamSet pbuff h.dev).2.satList.total
    have htotal := hinStep.total_le
    change (satParamSet pbuff h.dev).2.satList.total.toNat ≤ satMax at htotal
    generalize satParamSet pbuff h.dev = r at hout htotal
    cases hout with
    | refused _ => exact hinv.sought
    | added i hlen hid hroom hfirst => exact satSought_satTotalNumSave htotal _
    | revised hlen hid =>
        obtain ⟨hnew | ⟨i, hi, hplace⟩, hlon⟩ := hsound hlen
        · exact absurd hnew hid
        have hlabel : pbuff.getD 0 0 = slotLabel i :=
          hplace.symm.trans ((hinv.stored.labelled i hi).resolve_left (by rwa [hplace]))
        rw [hlabel]
        exact (satSought_slot hi (by simp [addSatParam]) _).trans hinv.sought

/-- Deleting an id that is not listed changes nothing. -/
theorem Stored.del_eq_self {sats : Sats} {ids : Nat → UInt8} {m : Eeprom} (h : Stored sats ids m)
    {id : UInt8} (hid : id = 0 ∨ ∀ i < satMax, ids i ≠ id) : sats.del [id] = sats := by
  funext x
  by_cases hx : x = id
  · have hnone : sats x = none := by
      rw [← Option.not_isSome_iff_eq_none, h.domain, hx]
      rintro ⟨hne, i, hi, hid'⟩
      exact hid.elim hne fun hno => hno i hi hid'
    simp [Sats.del, hx, hx ▸ hnone]
  · simp [Sats.del, hx]

/-- One round of a deletion. -/
theorem Stored.delRound {sats : Sats} {d : Device} (h : Stored sats d.satList.satId d.eeprom)
    (id : UInt8) :
    Stored (sats.del [id]) (delSatId d id).satList.satId (delSatId d id).eeprom := by
  unfold delSatId
  split
  · next hnone =>
      rw [h.del_eq_self (Or.inr (Slots.first_eq_none.mp hnone))]
      exact h
  · next i hsome =>
      obtain ⟨hi, hid, -⟩ := Slots.first_eq_some hsome
      by_cases hid0 : id = 0
      · subst hid0
        have hsame : Function.update d.satList.satId i 0 = d.satList.satId := by
          rw [← hid, Function.update_eq_self]
        have hdel : satDel 0 d.eeprom = d.eeprom := if_pos (UInt8.le_refl 0)
        rw [h.del_eq_self (Or.inl rfl)]
        show Stored sats (Function.update d.satList.satId i 0) (satDel 0 d.eeprom)
        rw [hsame, hdel]
        exact h
      · have hused : d.satList.satId i ≠ 0 := by rwa [hid]
        have hlabel : id = slotLabel i :=
          hid.symm.trans ((h.labelled i hi).resolve_left hused)
        have hdel : satDel id d.eeprom = paramSave (satParamAddr id) [0] d.eeprom :=
          if_neg (UInt8.not_le.mpr (UInt8.pos_iff_ne_zero.mpr hid0))
        show Stored _ (Function.update d.satList.satId i 0) (satDel id d.eeprom)
        rw [hdel, hlabel]
        exact h.delete hi hused

theorem Stored.delAll {sats : Sats} {d : Device} (h : Stored sats d.satList.satId d.eeprom)
    (ids : List UInt8) : Stored (sats.del ids) (ids.foldl delSatId d).satList.satId
      (ids.foldl delSatId d).eeprom := by
  induction ids generalizing sats d with
  | nil =>
      have hnil : sats.del [] = sats := funext fun x => by simp [Sats.del]
      rw [hnil]
      exact h
  | cons id ids ih =>
      have hcons : sats.del (id :: ids) = (sats.del [id]).del ids := by
        funext x
        show (if x ∈ id :: ids then none else sats x) =
          if x ∈ ids then none else if x ∈ [id] then none else sats x
        by_cases hx : x ∈ ids <;> simp [hx]
      rw [hcons, List.foldl_cons]
      exact ih (h.delRound id)

theorem Inv.del {h : Hist} (hinv : Inv h) {pbuff : List UInt8}
    (hharmless : DelHarmless h.dev.satList pbuff) : Inv (h.step (.delSatSet pbuff)) := by
  have hinStep : InStep (Sat.step h.dev (.delSatSet pbuff)).satList :=
    (step_inStep_iff h.dev (.delSatSet pbuff) hinv.inStep).mpr hharmless
  refine ⟨?_, hinStep, satSought_satTotalNumSave hinStep.total_le _⟩
  exact (hinv.stored.delAll pbuff).frame fun i hi =>
    slot_save (x := .satTotalNum) hi (by simp) _ _

/-! ### Starting -/

theorem inStep_paramInit (m : Eeprom) : InStep (paramInit m).satList := by
  rw [paramInit_satList]
  exact inStep_satInit m

/-- **The stored count after a start** is the one in RAM. -/
theorem satSought_paramInit (m : Eeprom) :
    satSought (paramInit m).eeprom = (paramInit m).satList.total := by
  have hrecords (m' : Eeprom) : satTotalNumRead (recordInit m').2 = satTotalNumRead m' :=
    read_recordInit (Param.readsIn_read .satTotalNum) (by simp) m'
  have hscan : satTotalNumRead (satScanned m).eeprom = satTotalNumRead m :=
    read_satScan (Param.readsIn_read .satTotalNum) (by simp) _ _ _
  have hle := satSought_le m
  have hsame : satSought (paramInit m).eeprom = satSought (satInit m).2.2 := by
    rw [satSought, satSought, paramInit_eeprom, hrecords]
  have hnum := (scanAt_satScanned m).satNum
  rw [hsame, paramInit_satList, satInit_eq]
  generalize satScanned m = s at hscan hnum
  split
  · have hsub : s.satNum ≤ satSought m := UInt16.le_iff_toNat_le.mpr (by omega)
    have hsub' : (satSought m - s.satNum).toNat ≤ satMax := by
      rw [UInt16.toNat_sub_of_le _ _ hsub]
      omega
    exact satSought_satTotalNumSave hsub' _
  · show satSought s.eeprom = satSought m
    rw [satSought, satSought, hscan]

/-- A start lists the satellites it finds first. -/
theorem paramInit_satId (m : Eeprom) (i : Nat) : (paramInit m).satList.satId i =
    if i < satMax ∧ Found m i ∧ foundBefore m i < (satSought m).toNat then slotLabel i else 0 := by
  rw [paramInit_satList, satInit_satId]

/-- The bytes of a slot in which a satellite is found. -/
theorem slot_of_found {m : Eeprom} {i : Nat} (hi : i < satMax) (h : Found m i) :
    slot m i = slotLabel i :: (slot m i).drop 1 := by
  rw [found_iff hi] at h
  have hlen := length_slot m i
  generalize slot m i = bytes at h hlen
  cases bytes with
  | nil => exact absurd hlen (by decide)
  | cons b bytes => rw [← h]; rfl

/-- A device that has just come up holds what it lists. -/
theorem inv_start {m : Eeprom} (hstart : StartSound m) : Inv (.start m) := by
  have hids := paramInit_satId m
  have hin := inStep_paramInit m
  have hsought := satSought_paramInit m
  have hslot : ∀ i < satMax, slot (paramInit m).eeprom i = slot m i := fun i hi =>
    slot_paramInit hi m
  unfold StartSound at hstart
  unfold Hist.start
  generalize paramInit m = d at hstart hids hin hsought hslot
  have hused {i : Nat} (h : d.satList.satId i ≠ 0) :
      Found m i ∧ foundBefore m i < (satSought m).toNat := by
    rw [hids] at h
    by_contra hno
    exact h (if_neg fun hc => hno hc.2)
  refine ⟨⟨hin.labelled, fun id => ?_, fun i hi bytes hbytes => ?_,
    hstart, fun i hi j hj hi' hfound hfree => ?_⟩, hin, hsought⟩
  · show (listed d id).isSome ↔ _
    unfold listed
    split
    · next h => exact iff_of_true rfl h
    · next h => exact iff_of_false (by simp) h
  · change listed d (slotLabel i) = some bytes at hbytes
    unfold listed at hbytes
    split at hbytes
    · next h =>
        obtain ⟨hne, j, hj, hid⟩ := h
        have hjused : d.satList.satId j ≠ 0 := by rwa [hid]
        have hjlabel : d.satList.satId j = slotLabel j := (hin.labelled j hj).resolve_left hjused
        have hji : j = i := (labels_slotLabel (n := satMax) (by decide)).inj j hj i hi
          (hjlabel.symm.trans hid)
        subst hji
        have hfound := (hused hjused).1
        rw [found_of_slot hj (hslot j hj).symm] at hfound
        rw [← Option.some.inj hbytes]
        exact slot_of_found hj hfound
    · exact absurd hbytes (by simp)
  · obtain ⟨-, hlt⟩ := hused hi'
    rw [found_of_slot hj (hslot j hj)] at hfound
    have hge : (satSought m).toNat ≤ foundBefore m j := by
      by_contra hlt'
      rw [hids, if_pos ⟨hj, hfound, Nat.not_le.mp hlt'⟩] at hfree
      exact (labels_slotLabel (by decide)).ne_zero j hj hfree
    by_contra hji
    have hmono : foundBefore m j ≤ foundBefore m i :=
      Nat.count_monotone (Found m) (Nat.not_lt.mp hji)
    omega

/-- The list may be another one, as long as it has the same ids. -/
theorem Stored.congr {sats : Sats} {ids ids' : Nat → UInt8} {m : Eeprom} (h : Stored sats ids m)
    (hids : ∀ i < satMax, ids' i = ids i) : Stored sats ids' m where
  labelled i hi := by rw [hids i hi]; exact h.labelled i hi
  domain id := by
    rw [h.domain]
    refine and_congr_right fun _ => exists_congr fun i => and_congr_right fun hi => ?_
    rw [hids i hi]
  slot := h.slot
  back := h.back
  behind i hi j hj := by
    rw [hids i hi, hids j hj]
    exact h.behind i hi j hj

/-- **A start finds the map.** -/
theorem Inv.restart {h : Hist} (hinv : Inv h) : Inv ⟨paramInit h.dev.eeprom, h.sats⟩ := by
  have hst := hinv.stored
  have htotal : h.dev.satList.total.toNat = Slots.used satMax h.dev.satList.satId :=
    hinv.inStep.total_eq
  have hids : ∀ i < satMax,
      (paramInit h.dev.eeprom).satList.satId i = h.dev.satList.satId i := by
    intro i hi
    have hfirst := Slots.first_iff (p := Found h.dev.eeprom)
      (q := fun i => h.dev.satList.satId i ≠ 0) (fun j hj hused => hst.found hj hused)
      (fun j hj k hk hused hfound hfree => hst.behind j hj k hk hused hfound (not_not.mp hfree)) hi
    rw [paramInit_satId, hinv.sought, htotal]
    by_cases hused : h.dev.satList.satId i = 0
    · rw [hused, if_neg]
      rintro ⟨-, hfound, hlt⟩
      exact hfirst.mpr ⟨hfound, hlt⟩ hused
    · rw [if_pos ⟨hi, hfirst.mp hused⟩]
      exact ((hst.labelled i hi).resolve_left hused).symm
  have hslot : ∀ i < satMax, slot (paramInit h.dev.eeprom).eeprom i = slot h.dev.eeprom i :=
    fun i hi => slot_paramInit hi h.dev.eeprom
  have hin := inStep_paramInit h.dev.eeprom
  have hsought := satSought_paramInit h.dev.eeprom
  generalize paramInit h.dev.eeprom = d at hids hslot hin hsought
  exact ⟨(hst.frame hslot).congr hids, hin, hsought⟩

/-- **List and query show the map.** -/
theorem Inv.holds {h : Hist} (hinv : Inv h) : Holds h.sats h.dev where
  list id := (hinv.stored.domain id).symm
  places := hinv.stored.labelled
  sent := sent_saveAllSatParamQue hinv.stored hinv.inStep
  last := rfl

/--
**No satellite is lost, as long as only what is listed is revised, no deletion comes upon
a free entry, and no longitude is negative or changed by an `FP32`.**  In every state of
such a run from start-up, a restart lists exactly the satellites that have been set and not
deleted, and the query sends each of them once, as it was last set.
-/
theorem allStates_kept (m : Eeprom) (hstart : StartSound m) (ops : List Op)
    (hsound : Runs.AllSteps Hist.step Sound (.start m) ops) :
    Runs.AllStates Hist.step Kept (.start m) ops := by
  rintro pre post rfl
  have hpre := ((Runs.allSteps_append _ pre post).mp hsound).1
  refine (Runs.inv_run ?_ (inv_start hstart) hpre).restart.holds
  intro h op hinv hop
  cases op with
  | satParamSet pbuff => exact hinv.set hop
  | delSatSet pbuff => exact hinv.del hop

end

section
attribute [local instance] SoftFloat.single

/-- An erased EEPROM lists no satellite. -/
theorem startSound_erased : StartSound fun _ => 0xFF := by
  have hfree : ∀ i < satMax, (paramInit fun _ => 0xFF).satList.satId i = 0 := by decide +kernel
  intro id bytes hbytes
  unfold listed at hbytes
  split at hbytes
  · next h =>
      obtain ⟨hne, i, hi, hid⟩ := h
      exact absurd (hid.symm.trans (hfree i hi)) hne
  · exact absurd hbytes (by simp)

/-- Two satellites at 105.2 degrees are added, and the first is deleted again. -/
theorem kept_one_of_two :
    Kept (Runs.run Hist.step (.start fun _ => 0xFF)
      [.satParamSet (0 :: satFive.drop 1), .satParamSet (0 :: satFive.drop 1),
        .delSatSet [1]]) := by
  have hset (l : SatList) : SetSound l (0 :: satFive.drop 1) := fun _ =>
    ⟨Or.inl rfl, by decide, by decide +kernel⟩
  have hdel (l : SatList) : DelHarmless l [1] := Or.inl (Slots.noZeroHit_of_not_mem (by decide))
  exact allStates_kept (fun _ => 0xFF) startSound_erased
    [.satParamSet (0 :: satFive.drop 1), .satParamSet (0 :: satFive.drop 1), .delSatSet [1]]
    ⟨hset _, hset _, hdel _, trivial⟩ _ [] (List.append_nil _).symm

/-- A satellite that is revised and not listed is not there after a restart. -/
theorem revised_not_kept :
    (satParamSet satFive (paramInit fun _ => 0xFF)).1 = .SUCC ∧
      ¬ Kept (Runs.run Hist.step (.start fun _ => 0xFF) [.satParamSet satFive]) := by
  refine ⟨by decide +kernel, fun hkept => ?_⟩
  have hlist := (hkept.list 5).mpr (by decide +kernel)
  exact absurd hlist (by decide +kernel)

end

end SwiftAcu.Sat
