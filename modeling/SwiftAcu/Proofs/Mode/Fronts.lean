/-
The PC and the front panel run one mode machine.

Each of the two commands is there twice, once for each front end, and the two texts differ
in the codes they write to the operation log.  `onOled` is what becomes of a command under
way if the front panel's codes are written in place of the PC's.  It leaves the state alone
and changes nothing a command looks at, so every line of a handler goes through it, and the
handler of the front panel is that of the PC seen through it.
-/
import SwiftAcu.Acu.ModeSel
import SwiftAcu.Proofs.Record.Recall

namespace SwiftAcu.Mode

/-- Each code of the front panel lies 16 behind that of the PC. -/
def Act.onOled : Act → Act
  | .optLog code => .optLog (code + 0x10)
  | .optLogPose code sat antenna aim => .optLogPose (code + 0x10) sat antenna aim
  | a => a

namespace Cmd

/-- The command with the codes of the front panel. -/
def onOled (c : Cmd) : Cmd := { c with acts := c.acts.map Act.onOled }

/-! ### One line of a handler -/

@[simp] theorem toSta_onOled (c : Cmd) : c.onOled.toSta = c.toSta := rfl

@[simp] theorem onOled_begin (s : Sta) : s.begin.onOled = s.begin := rfl

/-- What is done is logged at the end, and only its code changes. -/
theorem map_onOled_concat (acts : List Act) (a : Act) :
    (acts ++ [a]).map Act.onOled = acts.map Act.onOled ++ [a.onOled] := by
  rw [List.map_append]
  rfl

@[simp] theorem onOled_taskDel (t : TaskId) (c : Cmd) :
    (c.taskDel t).onOled = c.onOled.taskDel t := by
  simp only [onOled, taskDel, map_onOled_concat, Act.onOled]

@[simp] theorem onOled_taskCreate (t : TaskId) (c : Cmd) :
    (c.taskCreate t).onOled = c.onOled.taskCreate t := by
  simp only [onOled, taskCreate, map_onOled_concat, Act.onOled]

@[simp] theorem onOled_optLog (code : Nat) (c : Cmd) :
    (c.optLog code).onOled = c.onOled.optLog (code + 0x10) := by
  simp only [onOled, optLog, map_onOled_concat, Act.onOled]

@[simp] theorem onOled_taskDelIfRun (t : TaskId) (c : Cmd) :
    (c.taskDelIfRun t).onOled = c.onOled.taskDelIfRun t := by
  unfold taskDelIfRun
  by_cases hrun : 0 < c.taskRunFlag t
  · rw [if_pos hrun, onOled_taskDel]
    exact (if_pos hrun).symm
  · rw [if_neg hrun]
    exact (if_neg hrun).symm

@[simp] theorem onOled_tasksDel (c : Cmd) : c.tasksDel.onOled = c.onOled.tasksDel := by
  simp only [tasksDel, onOled_taskDelIfRun]

theorem onOled_allDriveEnd (pdu : Pdu) (c : Cmd) :
    c.onOled.allDriveEnd pdu = ((c.allDriveEnd pdu).1, (c.allDriveEnd pdu).2.onOled) := by
  simp only [onOled, allDriveEnd, map_onOled_concat, Act.onOled]

@[simp] theorem onOled_safeEnd (pdu : Pdu) (c : Cmd) :
    (c.safeEnd pdu).onOled = c.onOled.safeEnd pdu := by
  unfold safeEnd
  simp only [onOled_allDriveEnd]
  split <;> rfl

theorem onOled_setFreq (beacon : UInt32 → Ret) (beacon_freq : UInt32) (c : Cmd) :
    c.onOled.setFreq beacon beacon_freq =
      ((c.setFreq beacon beacon_freq).1, (c.setFreq beacon beacon_freq).2.onOled) := by
  simp only [onOled, setFreq, map_onOled_concat, Act.onOled]

@[simp] theorem onOled_setMode (mode : UInt8) (c : Cmd) :
    (c.setMode mode).onOled = c.onOled.setMode mode := rfl

@[simp] theorem onOled_setWorkSta (sta : UInt8) (c : Cmd) :
    (c.setWorkSta sta).onOled = c.onOled.setWorkSta sta := rfl

@[simp] theorem onOled_endMode (mode : UInt8) (t : TaskId) (code : Nat) (c : Cmd) :
    (c.endMode mode t code).onOled = c.onOled.endMode mode t (code + 0x10) := by
  unfold endMode
  rw [apply_ite onOled, onOled_optLog, onOled_taskDelIfRun, toSta_onOled]

theorem onOled_oneTaskDel (c : Cmd) : c.oneTaskDel.onOled = c.onOled.oneTaskDel := by
  simp only [oneTaskDel, apply_ite onOled, onOled_taskDel, toSta_onOled]
  rfl

@[simp] theorem onOled_leaveMode (pdu : Pdu) (c : Cmd) :
    (c.leaveMode pdu).onOled = c.onOled.leaveMode pdu := by
  unfold leaveMode
  rw [apply_ite onOled, onOled_safeEnd, onOled_setMode, onOled_oneTaskDel, toSta_onOled]

@[simp] theorem onOled_setCurrSatParam (r : Recalled) (c : Cmd) :
    (c.setCurrSatParam r).onOled = c.onOled.setCurrSatParam r := rfl

@[simp] theorem onOled_startGoto [SoftFloat] (code : Nat) (faults : Faults) (history_max_mv : UInt32)
    (r : Recalled) (c : Cmd) :
    (c.startGoto code faults history_max_mv r).onOled =
      c.onOled.startGoto (code + 0x10) faults history_max_mv r := by
  unfold startGoto
  rw [onOled_taskCreate]
  simp only [onOled, map_onOled_concat, Act.onOled]

/-- The receiver answers either command alike. -/
theorem onOled_recallRecord [SoftFloat] (code : Nat) (faults : Faults) (beacon : UInt32 → Ret)
    (history_max_mv : UInt32) (r : Recalled) (c : Cmd) :
    c.onOled.recallRecord (code + 0x10) faults beacon history_max_mv r =
      ((c.recallRecord code faults beacon history_max_mv r).1,
        (c.recallRecord code faults beacon history_max_mv r).2.onOled) := by
  unfold recallRecord
  simp only [← onOled_setCurrSatParam, onOled_setFreq, toSta_onOled]
  rcases (c.setCurrSatParam r).setFreq beacon
    (beaconFreq r.freq (c.setCurrSatParam r).device.antennaParam.loFreq) with ⟨_ | _, c'⟩
  · simp only [onOled_startGoto]
  · rfl

end Cmd

/-! ### The two handlers -/

/-- A handler of the PC, seen with the codes of the front panel. -/
def onOled (r : Ret × Cmd) : Ret × Cmd := (r.1, r.2.onOled)

theorem oledAimAtSatModeSel_eq (pdu : Pdu) (rxbuff : Nat → UInt8) (s : Sta) :
    oledAimAtSatModeSel pdu rxbuff s = onOled (pcAimAtSatModeSel pdu rxbuff s) := by
  unfold oledAimAtSatModeSel pcAimAtSatModeSel
  by_cases hcmd : isAimAtSatModeSel rxbuff = false
  · rw [if_pos hcmd, if_pos hcmd]
    rfl
  · rw [if_neg hcmd, if_neg hcmd]
    simp only [onOled, apply_ite Cmd.onOled, Cmd.onOled_setMode, Cmd.onOled_optLog,
      Cmd.onOled_setWorkSta, Cmd.onOled_taskCreate, Cmd.onOled_safeEnd, Cmd.onOled_endMode,
      Cmd.onOled_tasksDel, Cmd.onOled_begin]

theorem oledAntennaRecordGoto_eq [SoftFloat] (pdu : Pdu) (faults : Faults) (beacon : UInt32 → Ret)
    (history_max_mv : UInt32) (rxbuff : Nat → UInt8) (s : Sta) :
    oledAntennaRecordGoto pdu faults beacon history_max_mv rxbuff s =
      onOled (pcAntennaRecordGoto pdu faults beacon history_max_mv rxbuff s) := by
  unfold oledAntennaRecordGoto pcAntennaRecordGoto
  have hleave : (s.begin.leaveMode pdu).onOled = s.begin.leaveMode pdu := by
    rw [Cmd.onOled_leaveMode, Cmd.onOled_begin]
  by_cases hcmd : cmdIdOf rxbuff ≠ CmdId.antennaRecordGoto.id
  · rw [if_pos hcmd, if_pos hcmd]
    exact congrArg (Prod.mk Ret.FAIL) hleave.symm
  · rw [if_neg hcmd, if_neg hcmd]
    cases hrecord : (s.begin.leaveMode pdu).recordOf faults (rxbuff 3) with
    | none => exact congrArg (Prod.mk Ret.FAIL) hleave.symm
    | some buff =>
        dsimp only
        rw [Record.oledGotoRecord_eq]
        by_cases hother : (s.begin.leaveMode pdu).otherAntenna (pcGotoRecord buff)
        · rw [if_pos hother, if_pos hother]
          exact congrArg (Prod.mk Ret.FAIL) hleave.symm
        · rw [if_neg hother, if_neg hother]
          have hrecall := (s.begin.leaveMode pdu).onOled_recallRecord logOptAntennaPoseAppByPc
            faults beacon history_max_mv (pcGotoRecord buff)
          rw [hleave] at hrecall
          exact hrecall

/-- The same status and state, and the same acts in the same order, but for the codes logged. -/
structure SameButLog (pc oled : Ret × Cmd) : Prop where
  status : oled.1 = pc.1
  sta : oled.2.toSta = pc.2.toSta
  acts : oled.2.acts = pc.2.acts.map Act.onOled

theorem sameButLog_onOled (pc : Ret × Cmd) : SameButLog pc (onOled pc) := ⟨rfl, rfl, rfl⟩

/-- **Both front ends run one mode machine.** -/
theorem fronts_sameButLog [SoftFloat] (pdu : Pdu) (faults : Faults) (beacon : UInt32 → Ret)
    (history_max_mv : UInt32) (rxbuff : Nat → UInt8) (s : Sta) :
    SameButLog (pcAimAtSatModeSel pdu rxbuff s) (oledAimAtSatModeSel pdu rxbuff s) ∧
      SameButLog (pcAntennaRecordGoto pdu faults beacon history_max_mv rxbuff s)
        (oledAntennaRecordGoto pdu faults beacon history_max_mv rxbuff s) := by
  rw [oledAimAtSatModeSel_eq, oledAntennaRecordGoto_eq]
  exact ⟨sameButLog_onOled _, sameButLog_onOled _⟩

end SwiftAcu.Mode
