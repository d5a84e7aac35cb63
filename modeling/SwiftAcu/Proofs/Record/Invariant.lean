/-
What holds of the antenna records in every run.

Recording, clearing and starting up keep ids and count in step whatever they are given.
A deletion does so exactly if no zero among its bytes meets a free entry: the handler
compares the byte with every entry, the free ones too, and takes the first of them for a
record that is to be given back.  The count then stands one too low, and the only way
back is a deletion that empties the list.
-/
import SwiftAcu.Acu.RecordRun
import SwiftAcu.Proofs.Record.List

namespace SwiftAcu.Record

section
variable [SoftFloat]

/--
The list as it should be: an entry is 0 or the id of its place, the count is the number
of ids, and as long as it is below the maximum the next record finds a free id.
-/
structure ListOk (l : AntennaRecordList) : Prop where
  ids : ∀ i < antennaRecordMax, l.recordId i = 0 ∨ l.recordId i = UInt8.ofNat (i + 1)
  count : l.total.toNat =
    ((List.range antennaRecordMax).filter fun i => l.recordId i ≠ 0).length
  free : l.total.toNat < antennaRecordMax →
    1 ≤ l.freeId.toNat ∧ l.freeId.toNat ≤ antennaRecordMax

/-- Every id in the list is among `ids`. -/
def NamesAll (l : AntennaRecordList) (ids : List UInt8) : Prop :=
  Slots.AllNamed antennaRecordMax l.recordId ids

/-- No zero among `ids` comes while the list has a free entry. -/
def MeetsNoFree (l : AntennaRecordList) (ids : List UInt8) : Prop :=
  Slots.NoZeroHit antennaRecordMax l.recordId ids

/-- A deletion never comes upon a zero while an entry is free, or names every record. -/
def Harmless (d : Device) (op : Op) : Prop :=
  MeetsNoFree d.recordList op.deleted ∨ NamesAll d.recordList op.deleted

omit [SoftFloat] in
/-- A list of ids without a zero meets no free entry. -/
theorem meetsNoFree_of_not_mem {l : AntennaRecordList} {ids : List UInt8} (h : 0 ∉ ids) :
    MeetsNoFree l ids := Slots.noZeroHit_of_not_mem h

omit [SoftFloat] in
theorem listOk_iff_inStep (l : AntennaRecordList) : ListOk l ↔ l.InStep := by
  have hcount : ((List.range antennaRecordMax).filter fun i => l.recordId i ≠ 0).length =
      Slots.used antennaRecordMax l.recordId := by
    rw [Slots.used, Nat.count, List.countP_eq_length_filter]
  constructor
  · intro h
    exact ⟨h.ids, h.count.trans hcount⟩
  · intro h
    refine ⟨h.labelled, h.total_eq.trans hcount.symm, fun hlt => ?_⟩
    obtain ⟨i, hi, -, hid⟩ := freeId_of_free (h.exists_free hlt)
    have hi10 : i < 10 := hi
    rw [hid, toNat_slotLabel (by omega)]
    exact ⟨Nat.le_add_left 1 i, hi⟩

/-- **One command.**  Ids and count stay in step exactly if the command is harmless. -/
theorem step_listOk_iff (d : Device) (op : Op) (h : ListOk d.recordList) :
    ListOk (step d op).recordList ↔ Harmless d op := by
  have hin := (listOk_iff_inStep _).mp h
  have hnone : MeetsNoFree d.recordList [] := meetsNoFree_of_not_mem List.not_mem_nil
  have hdelete (ids : List UInt8) :
      (ids.foldl delAntennaRecordId d).recordList.InStep ↔
        MeetsNoFree d.recordList ids ∨ NamesAll d.recordList ids := by
    unfold AntennaRecordList.InStep
    rw [table_delete]
    exact Slots.Counted.deleteAll_iff hin (labels_slotLabel (by decide)) ids
  rw [listOk_iff_inStep]
  cases op with
  | pcRecord cmdlen now => exact iff_of_true (inStep_record hin cmdlen _ now) (Or.inl hnone)
  | oledRecord cmdlen now => exact iff_of_true (inStep_record hin cmdlen _ now) (Or.inl hnone)
  | pcDelete pbuff => exact hdelete pbuff
  | oledDelete pbuff => exact hdelete pbuff
  | antennaParamSet agc pbuff =>
      exact iff_of_true (inStep_antennaParamSet hin agc pbuff) (Or.inl hnone)
  | antennaParamAdjustSet e =>
      exact iff_of_true (inStep_antennaParamAdjustSet hin e) (Or.inl hnone)

theorem listOk_paramInit (m : Eeprom) : ListOk (paramInit m).recordList :=
  (listOk_iff_inStep _).mpr (inStep_recordInit _)

/--
**The record list stays in step, as long as no deletion comes upon a free entry.**  In
every run from start-up the list is as it should be all the time exactly if each
deletion is harmless.
-/
theorem allStates_listOk_iff (m : Eeprom) (ops : List Op) :
    Runs.AllStates step (fun d => ListOk d.recordList) (paramInit m) ops ↔
      Runs.AllSteps step Harmless (paramInit m) ops :=
  Runs.allStates_iff step_listOk_iff (listOk_paramInit m) ops

end

section
attribute [local instance] SoftFloat.single

/-- A day at noon, the antenna at rest. -/
def noon : Now where
  sysDateTime := ⟨2020, 1, 1, 12, 0, 0⟩
  rtc := ⟨2020, 1, 1, 12, 0, 0⟩
  beaconRxpowerMv := 0
  beaconRxpowerDb := 0
  antennaPosition := 0
  antennaCabrage := 0
  antennaPolar := 0

/-- One record, then a deletion of id 0: the record is still listed, and no longer counted. -/
theorem delete_zero_miscounts :
    ¬ ∀ (m : Eeprom) (ops : List Op),
      Runs.AllStates step (fun d => ListOk d.recordList) (paramInit m) ops := by
  intro hall
  have hok := hall (fun _ => 0xFF) [.pcRecord 0 noon, .pcDelete [0]] _ [] (List.append_nil _).symm
  exact absurd hok.count (by decide +kernel)

end

end SwiftAcu.Record
