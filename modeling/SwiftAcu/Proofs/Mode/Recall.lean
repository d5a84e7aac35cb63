/-
What `AntennaRecordGoto` comes to.

The command leaves the mode first and looks for its record then: it finds none and is over,
or it finds one and goes on to the receiver.
-/
import SwiftAcu.Acu.ModeSel

namespace SwiftAcu.Mode

section
variable [SoftFloat]

namespace Cmd

variable (c : Cmd)

omit [SoftFloat] in
/-- The stops change the motors and nothing else. -/
@[simp] theorem device_safeEnd (pdu : Pdu) : (c.safeEnd pdu).device = c.device := by
  unfold safeEnd
  dsimp only
  split
  · rfl
  · rfl

omit [SoftFloat] in
@[simp] theorem device_leaveMode (pdu : Pdu) : (c.leaveMode pdu).device = c.device := by
  unfold leaveMode
  split
  · rw [device_safeEnd]
    show c.oneTaskDel.device = c.device
    unfold oneTaskDel
    split_ifs <;> rfl
  · rfl

theorem recallRecord_fail {beacon : UInt32 → Ret} {r : Recalled}
    (h : beacon (beaconFreq r.freq c.device.antennaParam.loFreq) = .FAIL) (code : Nat)
    (faults : Faults) (history_max_mv : UInt32) :
    c.recallRecord code faults beacon history_max_mv r =
      (.FAIL, ((c.setCurrSatParam r).setFreq beacon
        (beaconFreq r.freq c.device.antennaParam.loFreq)).2) := by
  unfold recallRecord setFreq
  simp only [setCurrSatParam, h]

theorem recallRecord_succ {beacon : UInt32 → Ret} {r : Recalled}
    (h : beacon (beaconFreq r.freq c.device.antennaParam.loFreq) = .SUCC) (code : Nat)
    (faults : Faults) (history_max_mv : UInt32) :
    c.recallRecord code faults beacon history_max_mv r =
      (.SUCC, ((c.setCurrSatParam r).setFreq beacon
        (beaconFreq r.freq c.device.antennaParam.loFreq)).2.startGoto code faults history_max_mv r)
      := by
  unfold recallRecord setFreq
  simp only [setCurrSatParam, h]

omit [SoftFloat] in
theorem recordOf_leaveMode (pdu : Pdu) (faults : Faults) (id : UInt8) :
    (c.leaveMode pdu).recordOf faults id = c.recordOf faults id := by
  simp only [recordOf, device_leaveMode]

omit [SoftFloat] in
theorem otherAntenna_leaveMode (pdu : Pdu) (r : Recalled) :
    (c.leaveMode pdu).otherAntenna r ↔ c.otherAntenna r := by
  simp only [otherAntenna, device_leaveMode]

end Cmd

section
variable {faults : Faults} {rxbuff : Nat → UInt8} {s : Sta}

/-- The command finds no record and is over, or it finds one and goes on. -/
theorem pcAntennaRecordGoto_cases (pdu : Pdu) (faults : Faults) (beacon : UInt32 → Ret)
    (history_max_mv : UInt32) (rxbuff : Nat → UInt8) (s : Sta) :
    ((∀ r, ¬ s.gotoFinds faults rxbuff r) ∧
        pcAntennaRecordGoto pdu faults beacon history_max_mv rxbuff s =
          (.FAIL, s.begin.leaveMode pdu)) ∨
      ∃ r, s.gotoFinds faults rxbuff r ∧
        pcAntennaRecordGoto pdu faults beacon history_max_mv rxbuff s =
          (s.begin.leaveMode pdu).recallRecord logOptAntennaPoseAppByPc faults beacon
            history_max_mv r
    := by
  unfold pcAntennaRecordGoto Sta.gotoFinds
  simp only [Cmd.recordOf_leaveMode]
  by_cases hcmd : cmdIdOf rxbuff ≠ CmdId.antennaRecordGoto.id
  · exact Or.inl ⟨fun r h => hcmd h.1, if_pos hcmd⟩
  · rw [if_neg hcmd]
    cases hrecord : s.begin.recordOf faults (rxbuff 3) with
    | none => exact Or.inl ⟨by simp, rfl⟩
    | some buff =>
        by_cases hother : s.begin.otherAntenna (pcGotoRecord buff)
        · refine Or.inl ⟨?_, if_pos ((Cmd.otherAntenna_leaveMode _ pdu _).mpr hother)⟩
          rintro r ⟨-, ⟨buff', hbuff, rfl⟩, hsame⟩
          rw [Option.some.injEq] at hbuff
          exact hsame (hbuff ▸ hother)
        · refine Or.inr ⟨pcGotoRecord buff, ⟨not_not.mp hcmd, ⟨buff, rfl, rfl⟩, hother⟩, ?_⟩
          exact if_neg (mt (Cmd.otherAntenna_leaveMode _ pdu _).mp hother)

theorem gotoFinds_unique {r r' : Recalled} (h : s.gotoFinds faults rxbuff r)
    (h' : s.gotoFinds faults rxbuff r') : r = r' := by
  obtain ⟨-, ⟨buff, hbuff, rfl⟩, -⟩ := h
  obtain ⟨-, ⟨buff', hbuff', rfl⟩, -⟩ := h'
  rw [hbuff, Option.some.injEq] at hbuff'
  rw [hbuff']

end

end

section
attribute [local instance] SoftFloat.single

/-- A device with an empty EEPROM. -/
def newDevice : Sta where
  device := paramInit fun _ => 0
  taskRunFlag _ := 0
  seekSatMode := 0x00
  devWorkSta := 0x00
  motors := ⟨fun _ => 0, []⟩
  aim := ⟨0, 0, 0⟩
  historyMaxMv := 0
  agcMaxMv := 0
  devParamReflashFlag _ := 0

end

end SwiftAcu.Mode
