/-
The list of antenna records.

What the list is for is a table of ten labelled slots with a counter.  A record takes
the first free slot, a deletion gives slots back by their labels, and a change of the
band or a calibration empties the table.  The list of the code does each of these on its
own fields; it follows the table, and it is right exactly as long as the table is.
-/
import SwiftAcu.Acu.AntennaRecord
import SwiftAcu.Lib.Runs
import SwiftAcu.Proofs.Param.Slot

namespace SwiftAcu

/-! ### The table -/

/-- The table a list stands for. -/
def AntennaRecordList.table (l : AntennaRecordList) : Slots.Table UInt8 :=
  ⟨l.total.toNat, l.recordId⟩

/-- The list is in step: ids are 0 or in their place, and the count is that of the ids. -/
def AntennaRecordList.InStep (l : AntennaRecordList) : Prop :=
  Slots.Counted antennaRecordMax slotLabel l.table

theorem AntennaRecordList.InStep.total_le {l : AntennaRecordList} (h : l.InStep) :
    l.total.toNat ≤ antennaRecordMax := by
  have htotal : l.total.toNat = Slots.used antennaRecordMax l.recordId := h.total_eq
  rw [htotal]
  exact Slots.used_le _ _

/-! ### Each operation on the table -/

theorem table_delAntennaRecordId (d : Device) (id : UInt8) :
    (delAntennaRecordId d id).recordList.table =
      d.recordList.table.delete antennaRecordMax id := by
  simp only [delAntennaRecordId, Slots.Table.delete, AntennaRecordList.table]
  split
  · next h => rw [h]
  · next i h =>
      rw [h]
      simp only [Slots.Table.mk.injEq, and_true]
      split
      · next hpos =>
          rw [UInt32.toNat_sub_of_le _ _ (by rw [UInt32.le_iff_toNat_le]; exact hpos)]
          rfl
      · next hzero =>
          have : d.recordList.total.toNat = 0 := by
            simpa [UInt32.lt_iff_toNat_lt] using hzero
          omega

/-- **Deleting follows the table.** -/
theorem table_delete (pbuff : List UInt8) (d : Device) :
    (pbuff.foldl delAntennaRecordId d).recordList.table =
      d.recordList.table.deleteAll antennaRecordMax pbuff := by
  induction pbuff generalizing d with
  | nil => rfl
  | cons id pbuff ih =>
      rw [List.foldl_cons, ih, table_delAntennaRecordId]
      rfl

/-- **Clearing empties the table.** -/
theorem inStep_clear (l : AntennaRecordList) : l.clear.InStep := by
  have hfree : ∀ i < antennaRecordMax, l.clear.recordId i = 0 := fun i hi => if_pos hi
  exact ⟨fun i hi => Or.inl (hfree i hi), (Slots.used_eq_zero.mpr hfree).symm⟩

/-- With an entry free, the first free entry is found, and its id is the label of its slot. -/
theorem freeId_of_free {l : AntennaRecordList} (h : ∃ i < antennaRecordMax, l.recordId i = 0) :
    ∃ i < antennaRecordMax, l.recordId i = 0 ∧ l.freeId = slotLabel i := by
  obtain hnone | ⟨i, hsome⟩ :=
    Option.eq_none_or_eq_some (Slots.first antennaRecordMax l.recordId 0)
  · obtain ⟨i, hi, hfree⟩ := h
    exact absurd hfree (Slots.first_eq_none.mp hnone i hi)
  · obtain ⟨hi, hfree, -⟩ := Slots.first_eq_some hsome
    exact ⟨i, hi, hfree, by rw [AntennaRecordList.freeId, hsome]; rfl⟩

/-- **A record takes a free slot**, as long as the list is in step. -/
theorem antennaRecord_eq [SoftFloat] {d : Device} (h : d.recordList.InStep)
    (hlt : d.recordList.total < 10) (time : SysDateTime) (now : Now) :
    ∃ i < antennaRecordMax, d.recordList.recordId i = 0 ∧ d.recordList.freeId = slotLabel i ∧
      antennaRecord 0 time now d = (.SUCC, { d with
        eeprom := antennaRecordTotalNumSave (d.recordList.total + 1)
          (antennaRecordSave (slotLabel i)
            (antennaRecordBuff (slotLabel i) time d.currSatParam d.antennaParam now) d.eeprom)
        recordList :=
          ⟨d.recordList.total + 1,
            Function.update d.recordList.recordId i (slotLabel i)⟩ }) := by
  have hlt' : d.recordList.total.toNat < 10 := UInt32.lt_iff_toNat_lt.mp hlt
  obtain ⟨i, hi, hfree, hid⟩ := freeId_of_free (h.exists_free hlt')
  have hi10 : i < 10 := hi
  have hlabel : (slotLabel i).toNat = i + 1 := toNat_slotLabel (by omega)
  have hne : slotLabel i ≠ 0 := (labels_slotLabel (by decide)).ne_zero i hi
  have hput : d.recordList.put (slotLabel i) =
      ⟨d.recordList.total, Function.update d.recordList.recordId i (slotLabel i)⟩ := by
    rw [AntennaRecordList.put, if_neg hne, hlabel]
    rfl
  have hsucc : (d.recordList.total + 1).toNat = d.recordList.total.toNat + 1 := by
    rw [UInt32.toNat_add]
    show (d.recordList.total.toNat + 1) % 2 ^ 32 = _
    omega
  have hnum : ¬ 10 < d.recordList.total + 1 := by
    rw [UInt32.lt_iff_toNat_lt, hsucc]
    show ¬ 10 < _
    omega
  have hchanged : d.recordList.total + 1 ≠ d.recordList.total := fun heq => by
    rw [heq] at hsucc
    omega
  refine ⟨i, hi, hfree, hid, ?_⟩
  simp only [antennaRecord, hid, hput, if_neg hnum]
  rw [if_neg (by simp), if_neg (UInt32.not_le.mpr hlt), if_pos hchanged]

/-- Recording follows the table. -/
theorem table_record [SoftFloat] {d : Device} (h : d.recordList.InStep)
    (hlt : d.recordList.total < 10) (time : SysDateTime) (now : Now) :
    ∃ i < antennaRecordMax, d.recordList.recordId i = 0 ∧
      (antennaRecord 0 time now d).2.recordList.table =
        d.recordList.table.take i (slotLabel i) := by
  obtain ⟨i, hi, hfree, -, heq⟩ := antennaRecord_eq h hlt time now
  have hlt' : d.recordList.total.toNat < 10 := UInt32.lt_iff_toNat_lt.mp hlt
  have hsucc : (d.recordList.total + 1).toNat = d.recordList.total.toNat + 1 := by
    rw [UInt32.toNat_add]
    show (d.recordList.total.toNat + 1) % 2 ^ 32 = _
    omega
  refine ⟨i, hi, hfree, ?_⟩
  rw [heq]
  simp only [AntennaRecordList.table, Slots.Table.take, hsucc]

/-- A record keeps the list in step: it is refused, or takes a free slot. -/
theorem inStep_record [SoftFloat] {d : Device} (h : d.recordList.InStep) (cmdlen : UInt8)
    (time : SysDateTime) (now : Now) : (antennaRecord cmdlen time now d).2.recordList.InStep := by
  by_cases hlen : cmdlen = 0
  · subst hlen
    by_cases hlt : d.recordList.total < 10
    · obtain ⟨i, hi, hfree, htable⟩ := table_record h hlt time now
      unfold AntennaRecordList.InStep
      rw [htable]
      exact h.take (labels_slotLabel (by decide)) hi hfree
    · have hfull : (antennaRecord 0 time now d).2 = d := by
        rw [antennaRecord, if_neg (by simp), if_pos (UInt32.not_lt.mp hlt)]
      rwa [hfull]
  · have hrefused : (antennaRecord cmdlen time now d).2 = d := by rw [antennaRecord, if_pos hlen]
    rwa [hrefused]

theorem inStep_antennaParamSet {d : Device} (h : d.recordList.InStep) (agc : Ret)
    (pbuff : List UInt8) : (antennaParamSet agc pbuff d).2.recordList.InStep := by
  simp only [antennaParamSet]
  split
  · exact h
  · split
    · exact inStep_clear _
    · exact h

theorem inStep_antennaParamAdjustSet [SoftFloat] {d : Device} (h : d.recordList.InStep)
    (e : Encoders) :
    (antennaParamAdjustSet e d).2.recordList.InStep := by
  simp only [antennaParamAdjustSet]
  split
  · exact h
  · split
    · exact h
    · split
      · exact h
      · exact inStep_clear _

/-! ### The list at start-up -/

/-- The ids the search leaves are those of the slots it found. -/
theorem used_recordScan (m : Eeprom) : Slots.used antennaRecordMax (recordScan m) =
    (List.range antennaRecordMax).countP fun i => recordFound m i := by
  rw [Slots.used, Nat.count]
  refine List.countP_congr fun i hi => ?_
  have hi : i < antennaRecordMax := List.mem_range.mp hi
  have hne : UInt8.ofNat (i + 1) ≠ 0 := (labels_slotLabel (by decide)).ne_zero i hi
  by_cases hfound : recordFound m i = true
  · have hscan : recordScan m i = UInt8.ofNat (i + 1) := if_pos ⟨hi, hfound⟩
    exact iff_of_true (decide_eq_true (hscan ▸ hne)) hfound
  · have hscan : recordScan m i = 0 := if_neg fun h => hfound h.2
    exact iff_of_false (by simp [hscan]) hfound

/-- **A list that was searched for is in step**, whatever the EEPROM holds. -/
theorem inStep_recordInit (m : Eeprom) : (recordInit m).1.InStep := by
  constructor
  · intro i _
    show recordScan m i = 0 ∨ recordScan m i = slotLabel i
    unfold recordScan
    split
    · exact Or.inr rfl
    · exact Or.inl rfl
  · show (UInt32.ofNat ((List.range antennaRecordMax).countP fun i => recordFound m i)).toNat =
      Slots.used antennaRecordMax (recordScan m)
    rw [used_recordScan]
    have hle := Slots.used_le antennaRecordMax (recordScan m)
    rw [used_recordScan] at hle
    have hle10 : (List.range antennaRecordMax).countP (fun i => recordFound m i) ≤ 10 := hle
    simp only [UInt32.toNat_ofNat']
    omega

end SwiftAcu
