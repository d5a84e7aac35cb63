/-
What each handler leaves in `txbuff`.

All queries but three leave a whole answer there on every path.
`…_AntennaAdjustParamQue` leaves nothing.  `…_AntennaRecordQue` leaves nothing where the
EEPROM does not answer for a record, but the frames it has put together before lie at the
front of the buffer then.  A log query leaves an answer if it comes to its end.
-/
import SwiftAcu.Proofs.Reply.Answer

namespace SwiftAcu.Reply

open Memory

/-! ### Lengths -/

@[simp] theorem length_le32 (data : Nat) : (le32 data).length = 4 := rfl

@[simp] theorem length_degree_int32u [SoftFloat] (x : FP32) : (degree_int32u x).length = 4 := rfl

@[simp] theorem length_degree_int32s [SoftFloat] (x : FP32) : (degree_int32s x).length = 4 := rfl

@[simp] theorem length_localDegree [SoftFloat] (x : FP32) : (localDegree x).length = 4 := rfl

@[simp] theorem length_devStaFields [SoftFloat] (side : Fin 2) (a : Acu DevInfo) :
    (devStaFields side a).length = 26 := by
  simp [devStaFields]

theorem length_flatMap_le {α β : Type} {as : List α} {f : α → List β} {n : Nat}
    (h : ∀ a ∈ as, (f a).length ≤ n) : (as.flatMap f).length ≤ n * as.length := by
  induction as with
  | nil => simp
  | cons a as ih =>
      have hhead := h a (by simp)
      have htail := ih fun b hb => h b (List.mem_cons_of_mem _ hb)
      rw [List.flatMap_cons, List.length_append, List.length_cons, Nat.mul_succ]
      omega

/-- There are 16 alarms. -/
theorem length_alarmStaCodeDeal (dev_alarm_buff : Fin 6 → UInt8) :
    (alarmStaCodeDeal dev_alarm_buff).length ≤ 48 := by
  have hcode : ∀ e ∈ alarmStaCodeTbl, e.2.2.length ≤ 3 := by decide
  have htbl : 3 * alarmStaCodeTbl.length = 48 := rfl
  rw [← htbl]
  refine length_flatMap_le fun e he => ?_
  split
  · exact hcode e he
  · simp

/-! ### Fields -/

/-- The length is counted up from 3 and down again. -/
theorem ofNat_add_sub_three (n : Nat) : UInt8.ofNat (3 + n) - 3 = UInt8.ofNat n := by
  rw [Nat.add_comm, UInt8.ofNat_add]
  exact UInt8.add_sub_cancel _ _

theorem fills_reply {c : CmdId} {fields : List UInt8} {n : Nat} (h : fields.length ≤ n) :
    (reply c fields).Fills c.id n :=
  ⟨fields, h, by simp only [reply, ofNat_add_sub_three]⟩

theorem fills_devAlarmQue (d : DevInfo) : (devAlarmQue d).Fills CmdId.currWarnStaQue.id 48 :=
  ⟨_, length_alarmStaCodeDeal _, rfl⟩

theorem fills_replicate (status : Ret) (acts : List Act) (cmd_id n : Nat) :
    (⟨status, acts, some (PcComm.answerId cmd_id ++ [UInt8.ofNat n] ++ List.replicate n 0xFF)⟩ :
      Handled).Fills cmd_id n :=
  ⟨List.replicate n 0xFF, by simp, by simp⟩

theorem Handled.Fills.mono {h : Handled} {cmd_id n m : Nat} (hfills : h.Fills cmd_id n)
    (hle : n ≤ m) : h.Fills cmd_id m := by
  obtain ⟨payload, hlen, htxbuff⟩ := hfills
  exact ⟨payload, hlen.trans hle, htxbuff⟩

/-- A version is 64 bytes long. -/
theorem fills_versionQue (d : DevInfo) : (versionQue d).Fills CmdId.versionQue.id 64 :=
  fills_reply (by simp)

/-- The queries that depend on more than the device in RAM, or on none of it. -/
def CmdId.Plain (c : CmdId) : Prop :=
  ¬ PcComm.IsSet c.id ∧ c ≠ .antennaAdjustParamQue ∧ c ≠ .antennaRecordQue ∧ c ≠ .warnLogQue ∧
    c ≠ .operationLogQue

section
variable {c : CmdId} {rxbuff : Nat → UInt8} {r : Request}

/-- The plain queries of the PC, the version last, fill their replies. -/
theorem fills_pcFuncDeal [SoftFloat] (hc : CmdId.Plain c) :
    ∃ h, pcFuncDeal c rxbuff r = some h ∧ h.Fills c.id 64 := by
  obtain ⟨hset, hadjust, hrecord, hwarn, hopt⟩ := hc
  cases c
  case currSatParamQue => exact ⟨_, rfl, fills_reply (by simp)⟩
  case allSaveSatParamQue => exact ⟨_, rfl, (fills_replicate _ _ _ 27).mono (by decide)⟩
  case antennaParamQue => exact ⟨_, rfl, fills_reply (by simp)⟩
  case localParamQue => exact ⟨_, rfl, fills_reply (by simp)⟩
  case devSysDateTimeQue => exact ⟨_, rfl, fills_reply (by simp)⟩
  case netWorkQue => exact ⟨_, rfl, fills_reply (by simp)⟩
  case aimAtSatTheoreticalDegreeQue => exact ⟨_, rfl, fills_reply (by simp)⟩
  case motorSoftLimitQue => exact ⟨_, rfl, fills_reply (by simp)⟩
  case aimAtSatParamQue => exact ⟨_, rfl, fills_reply (by simp)⟩
  case devStaQue => exact ⟨_, rfl, fills_reply (by simp)⟩
  case devAdminQue => exact ⟨_, rfl, fills_reply (by simp)⟩
  case currWarnStaQue => exact ⟨_, rfl, (fills_devAlarmQue _).mono (by decide)⟩
  case versionQue => exact ⟨_, rfl, fills_versionQue _⟩
  case antennaAdjustParamQue => exact absurd rfl hadjust
  case antennaRecordQue => exact absurd rfl hrecord
  case warnLogQue => exact absurd rfl hwarn
  case operationLogQue => exact absurd rfl hopt
  all_goals exact absurd (by decide) hset

/-- So do those of the front panel, with shorter ones but for the version. -/
theorem fills_oledFuncDeal [SoftFloat] (hc : CmdId.Plain c) (hmem : c ∈ oledcommCmdDealTbl)
    (hversion : c ≠ .versionQue) : (oledFuncDeal c rxbuff r).Fills c.id 48 := by
  obtain ⟨hset, hadjust, hrecord, -, -⟩ := hc
  cases c
  case currSatParamQue => exact fills_reply (by simp)
  case allSaveSatParamQue => exact (fills_replicate _ _ _ 27).mono (by decide)
  case antennaParamQue => exact fills_reply (by simp)
  case localParamQue => exact fills_reply (by simp)
  case devSysDateTimeQue => exact fills_reply (by simp)
  case netWorkQue => exact fills_reply (by simp)
  case aimAtSatTheoreticalDegreeQue => exact fills_reply (by simp)
  case motorSoftLimitQue => exact fills_reply (by simp)
  case devStaQue => exact fills_reply (by simp)
  case devAdminQue => exact fills_reply (by simp)
  case currWarnStaQue => exact fills_devAlarmQue _
  case versionQue => exact absurd rfl hversion
  case antennaAdjustParamQue => exact absurd rfl hadjust
  case antennaRecordQue => exact absurd rfl hrecord
  all_goals first | exact absurd (by decide) hset | exact absurd hmem (by decide)

end

/-! ### Antenna records -/

/-- The ids of the list that are looked up. -/
def Listed (id : UInt8) : Prop := 0 < id ∧ id ≤ 10

instance (id : UInt8) : Decidable (Listed id) := inferInstanceAs (Decidable (_ ∧ _))

/-- The EEPROM answers for every record of the list. -/
def RecordsAnswer (d : DevInfo) (ids : List UInt8) : Prop :=
  ∀ id ∈ ids, Listed id → d.answers (antennaRecordAddr id) = true

/-- The EEPROM answers for the first record of the list. -/
def FirstAnswers (d : DevInfo) (ids : List UInt8) : Prop :=
  ∃ id, ids.find? (fun id => Listed id) = some id ∧ d.answers (antennaRecordAddr id) = true

section
variable {d : DevInfo} {ids : List UInt8}

theorem recordQueLoop_skip {id : UInt8} (hid : ¬ Listed id) :
    recordQueLoop d (id :: ids) = recordQueLoop d ids := if_neg hid

theorem recordQueLoop_read {id : UInt8} (hid : Listed id)
    (hans : d.answers (antennaRecordAddr id) = true) :
    recordQueLoop d (id :: ids) =
      (recordFrame (antennaRecordRead id d.device.eeprom) :: (recordQueLoop d ids).1,
        (recordQueLoop d ids).2) := (if_pos hid).trans (if_pos hans)

theorem recordQueLoop_stop {id : UInt8} (hid : Listed id)
    (hans : ¬ d.answers (antennaRecordAddr id) = true) :
    recordQueLoop d (id :: ids) = ([], false) := (if_pos hid).trans (if_neg hans)

/-- The loop comes to its end if the EEPROM answers throughout. -/
theorem recordQueLoop_complete_iff :
    (recordQueLoop d ids).2 = true ↔ RecordsAnswer d ids := by
  induction ids with
  | nil => simp [recordQueLoop, RecordsAnswer]
  | cons id ids ih =>
      have hcons : RecordsAnswer d (id :: ids) ↔
          (Listed id → d.answers (antennaRecordAddr id) = true) ∧ RecordsAnswer d ids :=
        List.forall_mem_cons
      rw [hcons, ← ih]
      by_cases hid : Listed id
      · by_cases hans : d.answers (antennaRecordAddr id) = true
        · simp [recordQueLoop_read hid hans, hans]
        · simp [recordQueLoop_stop hid hans, hid, hans]
      · simp [recordQueLoop_skip hid, hid]

/-- Something has been put together before the loop is left, if the first record was read. -/
theorem recordQueLoop_nil_iff (hfail : ¬ RecordsAnswer d ids) :
    (recordQueLoop d ids).1 = [] ↔ ¬ FirstAnswers d ids := by
  induction ids with
  | nil => exact absurd (fun id hid => absurd hid (by simp)) hfail
  | cons id ids ih =>
      by_cases hid : Listed id
      · have hfirst : (id :: ids).find? (fun id => Listed id) = some id := by simp [hid]
        by_cases hans : d.answers (antennaRecordAddr id) = true
        · have hyes : FirstAnswers d (id :: ids) := ⟨id, hfirst, hans⟩
          simp [recordQueLoop_read hid hans, hyes]
        · have hno : ¬ FirstAnswers d (id :: ids) := fun ⟨id', hid', hans'⟩ => by
            rw [hfirst] at hid'
            exact hans (Option.some.inj hid' ▸ hans')
          simp [recordQueLoop_stop hid hans, hno]
      · have hfirst : FirstAnswers d (id :: ids) ↔ FirstAnswers d ids := by
          simp [FirstAnswers, hid]
        have htail : ¬ RecordsAnswer d ids := fun h =>
          hfail (List.forall_mem_cons.mpr ⟨fun hl => absurd hl hid, h⟩)
        rw [recordQueLoop_skip hid, hfirst]
        exact ih htail

/-- The frames put together are frames of records. -/
theorem recordQueLoop_frames {f : List UInt8} (hf : f ∈ (recordQueLoop d ids).1) :
    ∃ readbuff : List UInt8, readbuff.length = 80 ∧ f = recordFrame readbuff := by
  induction ids with
  | nil => exact absurd hf (by simp [recordQueLoop])
  | cons id ids ih =>
      by_cases hid : Listed id
      · by_cases hans : d.answers (antennaRecordAddr id) = true
        · rw [recordQueLoop_read hid hans] at hf
          rcases List.mem_cons.mp hf with rfl | hf
          · exact ⟨antennaRecordRead id d.device.eeprom, length_read _ _ _, rfl⟩
          · exact ih hf
        · exact absurd hf (by simp [recordQueLoop_stop hid hans])
      · rw [recordQueLoop_skip hid] at hf
        exact ih hf

/-- What the frame of a record carries behind the length. -/
def recordData (readbuff : List UInt8) : List UInt8 :=
  readbuff.take 34 ++ (readbuff.drop 46).take 4

theorem length_recordData {readbuff : List UInt8} (h : readbuff.length = 80) :
    (recordData readbuff).length = 38 := by
  simp [recordData, h]

/-- The frame of a record carries an answer. -/
theorem recordFrame_eq {readbuff : List UInt8} (h : readbuff.length = 80) :
    recordFrame readbuff = frameOf (PcComm.answerId CmdId.antennaRecordQue.id ++
      [UInt8.ofNat (recordData readbuff).length] ++ recordData readbuff) := by
  have hlen : (PcComm.answerId CmdId.antennaRecordQue.id ++
      [UInt8.ofNat (recordData readbuff).length] ++ recordData readbuff).length = 41 := by
    simp [length_recordData h, PcComm.answerId]
  rw [frameOf, hlen, length_recordData h]
  simp only [recordFrame, recordData, List.append_assoc]
  rfl

theorem length_recordFrame {readbuff : List UInt8} (h : readbuff.length = 80) :
    (recordFrame readbuff).length = 45 := by
  rw [recordFrame_eq h]
  simp [length_recordData h, PcComm.answerId]

end

end SwiftAcu.Reply
