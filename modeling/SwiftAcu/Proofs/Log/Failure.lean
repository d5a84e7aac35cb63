/-
Saves that fail.

Here the flash fails as it likes.  A save returns `FAIL` at three places: when the
chip does not answer, when the record does not verify, and when neither the slot nor
the slot after it verifies.  The first leaves RAM alone, the second leaves it alone
unless it has just been loaded with the addresses of a first record, and the third
comes after RAM has moved on to the new record.
-/
import SwiftAcu.Proofs.Log.Confine

namespace SwiftAcu.AppLog

/-! ### The three failures -/

/-- The driver does not verify the record in the room the save makes for it. -/
def RecordFails (b : Board) (k : LogKind) (a : Save) : Prop :=
  let log_size := a.buff.length + 26
  let room := reserve b.flash (nextDataAddr k.region (b.logInfo k)) log_size
  let info := preload k.region (b.logInfo k) log_size
  (room.2.b3WriteDataBuff room.1
    (record log_size (nextIndex info) a.now a.buff info.currlogAddr info.currlogSize)).1 = .FAIL

/-- The driver verifies neither the slot of `info` nor the slot after it. -/
def SlotsFail (info : LogInfo) (c : FlashChip) : Prop :=
  let c := if subSector (u32 (info.logSysAddr + logSysRecordSize)) ≠ subSector info.logSysAddr then
      c.b3SubSectorErase (u32 (info.logSysAddr + logSysRecordSize))
    else c
  let first := c.b3WriteDataBuff info.logSysAddr (infoRecord info)
  first.1 = .FAIL ∧
    (first.2.b3WriteDataBuff (u32 (info.logSysAddr + logSysRecordSize)) (infoRecord info)).1 = .FAIL

/-- The slots that come after the record of the save `a` fail. -/
def InfoFails (b : Board) (k : LogKind) (a : Save) : Prop :=
  let log_size := a.buff.length + 26
  let data := writeData k.region (b.logInfo k) b.flash a.now a.buff
  SlotsFail (advance k.region (preload k.region (b.logInfo k) log_size) data.2.1
    (nextIndex (b.logInfo k)) log_size) data.2.2

/-- RAM already holds what a first record loads it with. -/
def Preloaded (b : Board) (k : LogKind) (a : Save) : Prop :=
  (b.logInfo k).currlogAddr = k.region.dataBegin ∧ (b.logInfo k).currlogIndex = 1 ∧
    (b.logInfo k).currlogSize = a.buff.length + 26

/-! ### What each failure leaves -/

theorem writeData_fail_iff (b : Board) (k : LogKind) (a : Save) :
    (writeData k.region (b.logInfo k) b.flash a.now a.buff).1 = .FAIL ↔ RecordFails b k a := by
  unfold writeData RecordFails
  dsimp only
  exact Iff.rfl

/-- The info half fails exactly when both slots do, and then it returns RAM as it found it. -/
theorem writeInfo_fail_iff (info : LogInfo) (c : FlashChip) :
    ((writeInfo info c).1 = .FAIL ↔ SlotsFail info c) ∧
      ((writeInfo info c).1 = .FAIL → (writeInfo info c).2.1 = info) := by
  unfold writeInfo SlotsFail
  dsimp only
  generalize (if subSector (u32 (info.logSysAddr + logSysRecordSize)) ≠ subSector info.logSysAddr
    then c.b3SubSectorErase (u32 (info.logSysAddr + logSysRecordSize)) else c) = c₀
  rcases hfirst : c₀.b3WriteDataBuff info.logSysAddr (infoRecord info) with ⟨ret, c₁⟩
  cases ret with
  | SUCC => simp
  | FAIL =>
      dsimp only
      rcases hsecond : c₁.b3WriteDataBuff (u32 (info.logSysAddr + logSysRecordSize))
        (infoRecord info) with ⟨ret, c₂⟩
      cases ret <;> simp

/-- The count of logs moves with every record. -/
theorem advance_ne (r : LogRegion) (info : LogInfo) (log_size flash_addr index : Nat) :
    advance r (preload r info log_size) flash_addr index log_size ≠ info := by
  intro h
  have htotal := congrArg LogInfo.logTotalNum h
  rw [advance, preload_total] at htotal
  dsimp only at htotal
  rw [u32] at htotal
  omega

theorem preload_eq_iff (r : LogRegion) (info : LogInfo) (log_size : Nat) :
    preload r info log_size = info ↔ info.logTotalNum ≠ 0 ∨
      (info.currlogAddr = r.dataBegin ∧ info.currlogIndex = 1 ∧ info.currlogSize = log_size) := by
  unfold preload
  by_cases hz : info.logTotalNum = 0
  · rw [if_pos hz, LogInfo.ext_iff]
    simp only [hz, ne_eq, not_true_eq_false, false_or, true_and, and_true]
    tauto
  · rw [if_neg hz]
    simp [hz]

/-- **What a failed save leaves in RAM**, failure by failure. -/
theorem save2Flash_fail {b : Board} (k : LogKind) (a : Save) (hlink : b.commStat ≠ commUnlink) :
    (RecordFails b k a →
      (logSave2Flash b k a).1 = .FAIL ∧ (logSave2Flash b k a).2.logInfo k =
        preload k.region (b.logInfo k) (a.buff.length + 26)) ∧
    (¬RecordFails b k a →
      ((logSave2Flash b k a).1 = .FAIL ↔ InfoFails b k a) ∧
      ((logSave2Flash b k a).1 = .FAIL → (logSave2Flash b k a).2.logInfo k ≠ b.logInfo k)) := by
  rw [logSave2Flash_eq, ← writeData_fail_iff]
  dsimp only
  rw [Board.saved_info, save2Flash, if_neg hlink]
  unfold InfoFails
  rcases hdata : writeData k.region (b.logInfo k) b.flash a.now a.buff with ⟨ret, flash_addr, c⟩
  cases ret with
  | FAIL => simp
  | SUCC =>
      obtain ⟨hiff, hkept⟩ := writeInfo_fail_iff (advance k.region
        (preload k.region (b.logInfo k) (a.buff.length + 26)) flash_addr (nextIndex (b.logInfo k))
        (a.buff.length + 26)) c
      refine ⟨fun h => Ret.noConfusion h, fun _ => ⟨hiff, fun hfail => ?_⟩⟩
      rw [hkept hfail]
      exact advance_ne k.region (b.logInfo k) (a.buff.length + 26) flash_addr
        (nextIndex (b.logInfo k))

/--
**When a failed save is a no-op on the log index.**  For either log, every state, payload
and pattern of programming failures: RAM is as it was after a `FAIL` exactly when the
chip did not answer, or the record failed and nothing was loaded for it, or the
record did not fail and one of the two slots was written.
-/
theorem failed_save_keeps_iff (b : Board) (k : LogKind) (a : Save) :
    ((logSave2Flash b k a).1 = .FAIL → (logSave2Flash b k a).2.logInfo k = b.logInfo k) ↔
      b.commStat = commUnlink ∨
        (RecordFails b k a ∧ ((b.logInfo k).logTotalNum ≠ 0 ∨ Preloaded b k a)) ∨
        (¬RecordFails b k a ∧ ¬InfoFails b k a) := by
  by_cases hlink : b.commStat = commUnlink
  · refine iff_of_true (fun _ => ?_) (Or.inl hlink)
    rw [logSave2Flash_eq]
    dsimp only
    rw [Board.saved_info, save2Flash, if_pos hlink]
  obtain ⟨hrec, hok⟩ := save2Flash_fail k a hlink
  by_cases hfails : RecordFails b k a
  · obtain ⟨hfail, hinfo⟩ := hrec hfails
    have hpre := preload_eq_iff k.region (b.logInfo k) (a.buff.length + 26)
    rw [hinfo, hpre]
    simp only [hfail, hlink, hfails, forall_const, true_and, not_true_eq_false, false_and, false_or,
      or_false]
    exact Iff.rfl
  · obtain ⟨hiff, hne⟩ := hok hfails
    simp only [hlink, hfails, false_and, false_or, not_false_eq_true, true_and]
    constructor
    · intro hkeep hinfo
      have hfail := hiff.mpr hinfo
      exact hne hfail (hkeep hfail)
    · intro hinfo hfail
      exact absurd (hiff.mp hfail) hinfo

/-- The chip fails to clear any bit of the page programs after the first `n`. -/
def deadAfter (n : Nat) : Board :=
  { bootBoard with
    flash := { erasedChip with
      weak := List.replicate n (fun _ => 0x00) ++ List.replicate 4 (fun _ => 0xFF) } }

/-- A first record that fails leaves its size in RAM; slots that fail leave RAM counting a save
that was reported as failed. -/
theorem failed_saves_move_index :
    ((logSave2Flash (deadAfter 0) .opt emptySave).1 = .FAIL ∧
      (logSave2Flash (deadAfter 0) .opt emptySave).2.optLogInfo ≠ (deadAfter 0).optLogInfo) ∧
    ((logSave2Flash (deadAfter 1) .warn emptySave).1 = .FAIL ∧
      (logSave2Flash (deadAfter 1) .warn emptySave).2.warnLogInfo.logTotalNum = 1 ∧
      (deadAfter 1).warnLogInfo.logTotalNum = 0) := by
  decide +kernel

end SwiftAcu.AppLog
