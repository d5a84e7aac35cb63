/-
The list of satellites.

What the list is for is a table of a hundred labelled slots with a counter.  A satellite
that is set with id 0 takes the first free slot; one that is set with an id is written to
its place whether or not the place is in use, and is not counted.  A deletion gives slots
back by their labels, and takes the first free entry for one when it is asked for 0.
-/
import SwiftAcu.Acu.SatRun
import SwiftAcu.Lib.Runs
import SwiftAcu.Proofs.Sat.Boot

namespace SwiftAcu.Sat

section
variable [SoftFloat]

/-- The table a list stands for. -/
def table (l : SatList) : Slots.Table UInt8 := ⟨l.total.toNat, l.satId⟩

/-- The list is in step: ids are 0 or in their place, and the count is that of the ids. -/
def InStep (l : SatList) : Prop := Slots.Counted satMax slotLabel (table l)

/-! ### What a command does -/

/-- The device after a satellite was set, without the list. -/
def withSat (p : SatParam) (d : Device) : Device :=
  { d with eeprom := paramSave (satParamAddr p.id) ([p.id] ++ satParamBytes p) d.eeprom }

/-- The ways a setting can go. -/
inductive SetOutcome (pbuff : List UInt8) (d : Device) : Ret × Device → Prop where
  /-- The command is refused. -/
  | refused (h : pbuff.length ≠ 0x1B ∨ pbuff.getD 0 0 = 0 ∧ (100 ≤ d.satList.total ∨
      Slots.first satMax d.satList.satId 0 = none)) : SetOutcome pbuff d (.FAIL, d)
  /-- The satellite is added at the first free place. -/
  | added (i : Nat) (hlen : pbuff.length = 0x1B) (hid : pbuff.getD 0 0 = 0)
      (hroom : d.satList.total < 100) (hfirst : Slots.first satMax d.satList.satId 0 = some i) :
      SetOutcome pbuff d (.SUCC, { d with
        eeprom := satTotalNumSave (d.satList.total + 1)
          (withSat (addSatParam (slotLabel i) pbuff) d).eeprom
        satList := ⟨d.satList.total + 1, Function.update d.satList.satId i (slotLabel i)⟩ })
  /-- The satellite is written to the place of its id. -/
  | revised (hlen : pbuff.length = 0x1B) (hid : pbuff.getD 0 0 ≠ 0) :
      SetOutcome pbuff d (.SUCC,
        { withSat (addSatParam (pbuff.getD 0 0) pbuff) d with
          satList := d.satList.put (pbuff.getD 0 0) })

theorem satParamSave_of_ne_zero {p : SatParam} (h : p.id ≠ 0) (m : Eeprom) :
    satParamSave p m = some (paramSave (satParamAddr p.id) ([p.id] ++ satParamBytes p) m) := by
  have hpos : ¬ p.id ≤ 0 := UInt8.not_le.mpr (UInt8.pos_iff_ne_zero.mpr h)
  exact if_neg hpos

/-- **What setting a satellite does.** -/
theorem satParamSet_outcome (pbuff : List UInt8) (d : Device) :
    SetOutcome pbuff d (satParamSet pbuff d) := by
  unfold satParamSet
  split
  · next hlen => exact .refused (Or.inl hlen)
  · next hlen =>
    have hlen := not_not.mp hlen
    split
    · next hfull => exact .refused (Or.inr ⟨hfull.1, Or.inl hfull.2⟩)
    · next hroom =>
      by_cases hid : pbuff.getD 0 0 = 0
      · have hlt : d.satList.total < 100 := UInt16.not_le.mp fun hle => hroom ⟨hid, hle⟩
        obtain hnone | ⟨i, hsome⟩ :=
          Option.eq_none_or_eq_some (Slots.first satMax d.satList.satId 0)
        · have hfree : d.satList.freeId = 0 := by rw [SatList.freeId, hnone]
          have hsave : satParamSave (addSatParam 0 pbuff) d.eeprom = none :=
            if_pos (show (0 : UInt8) ≤ 0 by decide)
          simp only [hid, hfree, ne_eq, not_true_eq_false, and_false, if_false, hsave]
          exact .refused (Or.inr ⟨hid, Or.inr hnone⟩)
        · obtain ⟨hi, -, -⟩ := Slots.first_eq_some hsome
          have hi100 : i < 100 := hi
          have hfree : d.satList.freeId = slotLabel i := by rw [SatList.freeId, hsome]; rfl
          have hne : slotLabel i ≠ 0 := (labels_slotLabel (by decide)).ne_zero i hi
          have hput (n : UInt16) : SatList.put ⟨n, d.satList.satId⟩ (slotLabel i) =
              ⟨n, Function.update d.satList.satId i (slotLabel i)⟩ := by
            rw [SatList.put, toNat_slotLabel (by omega), Nat.add_sub_cancel]
          have hsave := satParamSave_of_ne_zero (p := addSatParam (slotLabel i) pbuff) hne d.eeprom
          simp only [hid, hfree, ne_eq, hne, not_false_eq_true, and_self, if_true, hsave]
          have hadded := SetOutcome.added i hlen hid hlt hsome
          rw [← hput] at hadded
          exact hadded
      · have hsave := satParamSave_of_ne_zero (p := addSatParam (pbuff.getD 0 0) pbuff) hid d.eeprom
        simp only [hid, false_and, if_false, hsave]
        exact .revised hlen hid

omit [SoftFloat] in
/-- One round of a deletion follows the table. -/
theorem table_delSatId (d : Device) (id : UInt8) :
    table (delSatId d id).satList = (table d.satList).delete satMax id := by
  simp only [delSatId, Slots.Table.delete, table]
  split
  · next h => rw [h]
  · next i h =>
      rw [h]
      simp only [Slots.Table.mk.injEq, and_true]
      split
      · next hpos =>
          have hone : (1 : UInt16) ≤ d.satList.total :=
            UInt16.le_iff_toNat_le.mpr (UInt16.lt_iff_toNat_lt.mp hpos)
          rw [UInt16.toNat_sub_of_le _ _ hone]
          rfl
      · next hzero =>
          have : d.satList.total.toNat = 0 := by
            simpa [UInt16.lt_iff_toNat_lt] using hzero
          omega

omit [SoftFloat] in
theorem table_foldl_delSatId (pbuff : List UInt8) (d : Device) :
    table (pbuff.foldl delSatId d).satList = (table d.satList).deleteAll satMax pbuff := by
  induction pbuff generalizing d with
  | nil => rfl
  | cons id pbuff ih =>
      rw [List.foldl_cons, ih, table_delSatId]
      rfl

omit [SoftFloat] in
/-- **Deleting follows the table.** -/
theorem table_delSatSet (pbuff : List UInt8) (d : Device) :
    table (delSatSet pbuff d).2.satList = (table d.satList).deleteAll satMax pbuff :=
  table_foldl_delSatId pbuff d

/-! ### Keeping in step -/

/-- The list as it should be: an entry is 0 or the id of its place, and the count is the
number of ids. -/
structure ListOk (l : SatList) : Prop where
  ids : ∀ i < satMax, l.satId i = 0 ∨ l.satId i = UInt8.ofNat (i + 1)
  count : l.total.toNat = ((List.range satMax).filter fun i => l.satId i ≠ 0).length

omit [SoftFloat] in
theorem listOk_iff_inStep (l : SatList) : ListOk l ↔ InStep l := by
  have hcount : ((List.range satMax).filter fun i => l.satId i ≠ 0).length =
      Slots.used satMax l.satId := by
    rw [Slots.used, Nat.count, List.countP_eq_length_filter]
  constructor
  · exact fun h => ⟨h.ids, h.count.trans hcount⟩
  · exact fun h => ⟨h.labelled, h.total_eq.trans hcount.symm⟩

/-- A setting leaves ids and count in step: what it sets is new, or listed, or has an id no
place has. -/
def SetHarmless (l : SatList) (pbuff : List UInt8) : Prop :=
  pbuff.length = 0x1B → pbuff.getD 0 0 = 0 ∨ satMax < (pbuff.getD 0 0).toNat ∨
    l.satId ((pbuff.getD 0 0).toNat - 1) = pbuff.getD 0 0

/-- A deletion comes upon no zero while an entry is free, or names every satellite. -/
def DelHarmless (l : SatList) (pbuff : List UInt8) : Prop :=
  Slots.NoZeroHit satMax l.satId pbuff ∨ Slots.AllNamed satMax l.satId pbuff

/-- The command leaves ids and count in step. -/
def Harmless (d : Device) : Op → Prop
  | .satParamSet pbuff => SetHarmless d.satList pbuff
  | .delSatSet pbuff => DelHarmless d.satList pbuff

omit [SoftFloat] in
/-- Writing an id to its place. -/
theorem inStep_put_iff {l : SatList} (h : InStep l) {id : UInt8} (hid : id ≠ 0) :
    InStep (l.put id) ↔ satMax < id.toNat ∨ l.satId (id.toNat - 1) = id := by
  have hlabel := slotLabel_pred hid
  have hpos : id.toNat ≠ 0 := fun h0 => hid (UInt8.toNat_inj.mp h0)
  show Slots.Counted satMax slotLabel ((table l).put (id.toNat - 1) id) ↔ _
  by_cases hlt : id.toNat ≤ satMax
  · have hput := Slots.Counted.put_iff h (labels_slotLabel (by decide))
      (i := id.toNat - 1) (show _ < satMax by omega)
    rw [hlabel] at hput
    rw [hput]
    exact ⟨Or.inr, fun hor => hor.resolve_left (by omega)⟩
  · exact iff_of_true (Slots.Counted.put_outside h (by omega) id) (Or.inl (by omega))

/-- **One command.**  Ids and count stay in step exactly if the command is harmless. -/
theorem step_inStep_iff (d : Device) (op : Op) (h : InStep d.satList) :
    InStep (step d op).satList ↔ Harmless d op := by
  cases op with
  | satParamSet pbuff =>
      show InStep (satParamSet pbuff d).2.satList ↔ SetHarmless d.satList pbuff
      have hout := satParamSet_outcome pbuff d
      generalize satParamSet pbuff d = r at hout
      cases hout with
      | refused hrefused =>
          refine iff_of_true h fun hlen => Or.inl ?_
          exact (hrefused.resolve_left fun hne => hne hlen).1
      | added i hlen hid hroom hfirst =>
          refine iff_of_true ?_ fun _ => Or.inl hid
          obtain ⟨hi, hfree, -⟩ := Slots.first_eq_some hfirst
          have hlt : d.satList.total.toNat < 100 := UInt16.lt_iff_toNat_lt.mp hroom
          have hsucc : (d.satList.total + 1).toNat = d.satList.total.toNat + 1 := by
            rw [UInt16.toNat_add]
            show (d.satList.total.toNat + 1) % 2 ^ 16 = _
            omega
          have htake := Slots.Counted.take h (labels_slotLabel (by decide)) hi hfree
          rw [Slots.Table.take, show (table d.satList).total = d.satList.total.toNat from rfl,
            ← hsucc] at htake
          exact htake
      | revised hlen hid =>
          show InStep (d.satList.put (pbuff.getD 0 0)) ↔ _
          rw [inStep_put_iff h hid]
          exact ⟨fun hor _ => Or.inr hor, fun hall => (hall hlen).resolve_left hid⟩
  | delSatSet pbuff =>
      show InStep (delSatSet pbuff d).2.satList ↔ DelHarmless d.satList pbuff
      unfold InStep
      rw [table_delSatSet]
      exact Slots.Counted.deleteAll_iff h (labels_slotLabel (by decide)) pbuff

/-- **What a start lists is in step**, whatever the EEPROM holds. -/
theorem inStep_satInit (m : Eeprom) : InStep (satInit m).1 := by
  have hids := satInit_satId m
  have htotal := satInit_total m
  have hfirst := Slots.count_first (Found m) (satSought m).toNat satMax
  generalize (satInit m).1 = l at hids htotal
  constructor
  · intro i _
    show l.satId i = 0 ∨ l.satId i = slotLabel i
    rw [hids]
    split
    · exact Or.inr rfl
    · exact Or.inl rfl
  · show l.total.toNat = Slots.used satMax l.satId
    rw [htotal, foundBefore, ← hfirst, Slots.used, Nat.count, Nat.count]
    refine List.countP_congr fun i hi => ?_
    have hi : i < satMax := List.mem_range.mp hi
    have hne : slotLabel i ≠ 0 := (labels_slotLabel (by decide)).ne_zero i hi
    rw [hids]
    simp only [hi, true_and, foundBefore]
    split
    · next h => simp [h, hne]
    · next h => simp [h]

/--
**The satellite list stays in step, as long as no satellite is revised that is not
listed, and no deletion comes upon a free entry.**  In every run from start-up the list
is as it should be all the time exactly if each command is harmless.
-/
theorem allStates_listOk_iff_harmless (m : Eeprom) (ops : List Op) :
    Runs.AllStates step (fun d => ListOk d.satList) (paramInit m) ops ↔
      Runs.AllSteps step Harmless (paramInit m) ops := by
  have hstep (d : Device) (op : Op) (h : ListOk d.satList) :
      ListOk (step d op).satList ↔ Harmless d op := by
    rw [listOk_iff_inStep] at h ⊢
    exact step_inStep_iff d op h
  have hinit : ListOk (paramInit m).satList := by
    rw [paramInit_satList, listOk_iff_inStep]
    exact inStep_satInit m
  exact Runs.allStates_iff hstep hinit ops

end

section
attribute [local instance] SoftFloat.single

/-- A satellite at 105.2 degrees for the id 5. -/
def satFive : List UInt8 :=
  [5] ++ List.replicate 16 0x41 ++ [0] ++ be32 105200 ++ be32 12500000 ++ [0x48]

/-- A satellite revised that is not listed; and a deletion of id 0 after one was added. -/
theorem uncounted_satellites :
    ¬ ListOk (Runs.run step (paramInit fun _ => 0xFF) [.satParamSet satFive]).satList ∧
    ¬ ListOk (Runs.run step (paramInit fun _ => 0xFF)
      [.satParamSet (0 :: satFive.drop 1), .delSatSet [0]]).satList := by
  constructor
  · exact fun hok => absurd hok.count (by decide +kernel)
  · exact fun hok => absurd hok.count (by decide +kernel)

end

end SwiftAcu.Sat
