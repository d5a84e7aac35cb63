/-
Whether the alarms of the beacon settings last.

The monitor keeps its alarms in a buffer of its own and copies it over `ACUCurrSta` in every
call.  The two bits the settings raise are never in it, so that a call clears them: a
setting that failed is reported no longer than up to the next call.
-/
import SwiftAcu.Acu.Beacon
import SwiftAcu.Acu.Query
import SwiftAcu.Proofs.Monitor.Alarm

namespace SwiftAcu.Beacon

open Monitor Runs

/-! ### The codes -/

/-- The codes of the alarms that are on, one by one. -/
def alarmStaCodes (dev_alarm_buff : Fin 6 → UInt8) : List (List UInt8) :=
  (alarmStaCodeTbl.filter fun e => dev_alarm_buff e.1 &&& e.2.1 ≠ 0).map fun e => e.2.2

/-- `APP_MONITOR_AlarmStaCodeDeal` puts them one behind the other. -/
theorem flatten_alarmStaCodes (dev_alarm_buff : Fin 6 → UInt8) :
    (alarmStaCodes dev_alarm_buff).flatten = alarmStaCodeDeal dev_alarm_buff := by
  unfold alarmStaCodes alarmStaCodeDeal
  induction alarmStaCodeTbl with
  | nil => rfl
  | cons e tbl ih =>
      rw [List.flatMap_cons, ← ih]
      by_cases hon : dev_alarm_buff e.1 &&& e.2.1 ≠ 0
      · simp [hon]
      · simp [hon]

/-- There are three bytes to a code, and no more codes than a byte can count. -/
theorem length_flatten_alarmStaCodes (dev_alarm_buff : Fin 6 → UInt8) :
    (alarmStaCodes dev_alarm_buff).flatten.length = 3 * (alarmStaCodes dev_alarm_buff).length := by
  have hcode : ∀ e ∈ alarmStaCodeTbl, e.2.2.length = 3 := by decide
  have hall : ∀ code ∈ alarmStaCodes dev_alarm_buff, code.length = 3 := by
    intro code hmem
    obtain ⟨e, he, rfl⟩ := List.mem_map.mp hmem
    exact hcode e (List.mem_of_mem_filter he)
  rw [List.length_flatten, List.map_congr_left hall, List.map_const', List.sum_replicate_nat,
    Nat.mul_comm]

/-- **What the query of the alarms answers**: the codes of those that are on, in their order. -/
theorem devAlarmQue_codes (d : DevInfo) :
    (Reply.devAlarmQue d).txbuff = some (PcComm.answerId CmdId.currWarnStaQue.id ++
      [UInt8.ofNat (3 * (alarmStaCodes d.currSta.devAlarmBuff).length)] ++
      (alarmStaCodes d.currSta.devAlarmBuff).flatten) := by
  rw [← length_flatten_alarmStaCodes, flatten_alarmStaCodes]
  rfl

/-- A code is in them exactly if its bit is on. -/
theorem mem_alarmStaCodes {e : Fin 6 × UInt8 × List UInt8} (he : e ∈ alarmStaCodeTbl)
    (dev_alarm_buff : Fin 6 → UInt8) :
    e.2.2 ∈ alarmStaCodes dev_alarm_buff ↔ dev_alarm_buff e.1 &&& e.2.1 ≠ 0 := by
  have hinj : ∀ e ∈ alarmStaCodeTbl, ∀ e' ∈ alarmStaCodeTbl, e.2.2 = e'.2.2 → e = e' := by decide
  simp only [alarmStaCodes, List.mem_map, List.mem_filter, decide_eq_true_eq]
  constructor
  · rintro ⟨e', ⟨he', hon⟩, hcode⟩
    rwa [← hinj e' he' e he hcode]
  · intro hon
    exact ⟨e, ⟨he, hon⟩, rfl⟩

/-! ### What the monitor keeps -/

/-- The bits of `dev_alarm_buff[1]` the settings raise. -/
def settingBits (buff : Fin 6 → UInt8) : UInt8 := buff 1 &&& 0x06

theorem settingBits_update_of_ne {buff : Fin 6 → UInt8} {i : Fin 6} (h : i ≠ 1) (x : UInt8) :
    settingBits (Function.update buff i x) = settingBits buff := by
  rw [settingBits, settingBits, Function.update_of_ne h.symm]

theorem settingBits_alarm {i : Fin 6} {bit : UInt8} (h : i ≠ 1 ∨ bit = 0x01) (code : Option Nat)
    (high on : Bool) (c : Call) :
    settingBits (alarm i bit code high on c).devAlarmBuff = settingBits c.devAlarmBuff := by
  by_cases hi : i = 1
  · obtain rfl := hi
    obtain rfl : bit = 0x01 := h.resolve_left (not_not.mpr rfl)
    unfold alarm
    split
    · simp only [settingBits, setBit, Function.update_self, and_or_distrib]
      exact UInt8.or_zero
    · simp only [settingBits, clearBits, Function.update_self, UInt8.and_assoc]
      rfl
  · unfold alarm
    split
    · exact settingBits_update_of_ne hi _
    · exact settingBits_update_of_ne hi _

theorem settingBits_axisLimit (e : Input) (part : AntennaPart) (c : Call) :
    settingBits (axisLimit e part c).devAlarmBuff = settingBits c.devAlarmBuff := by
  have hne : (5 : Fin 6) ≠ 1 := by decide
  obtain ⟨-, h⟩ | ⟨-, cnt, h⟩ | ⟨-, cnt, h⟩ := axisLimit_cases e c part
  · rw [h]
    exact settingBits_update_of_ne hne _
  · rw [h]
  · rw [h, raiseLimit_eq]
    exact settingBits_update_of_ne hne _

theorem settingBits_alarms (e : Input) (s : Monitor.Sta) :
    settingBits (alarms e s).devAlarmBuff = settingBits s.devAlarmBuff := by
  have hgps : ∀ c : Call, settingBits (gpsAlarm e c).devAlarmBuff = settingBits c.devAlarmBuff := by
    intro c
    unfold gpsAlarm
    dsimp only
    split
    · split
      · exact settingBits_update_of_ne (by decide) _
      · split
        · exact settingBits_alarm (Or.inl (by decide)) ..
        · rfl
    · exact settingBits_update_of_ne (by decide) _
  have hpdu : ∀ c : Call, settingBits (pduAlarms e c).devAlarmBuff = settingBits c.devAlarmBuff := by
    intro c
    unfold pduAlarms
    dsimp only
    split
    · rw [settingBits_axisLimit, settingBits_axisLimit, settingBits_axisLimit,
        settingBits_alarm (Or.inl (by decide))]
    · split
      · exact settingBits_alarm (Or.inl (by decide)) ..
      · exact settingBits_alarm (Or.inl (by decide)) ..
  have hlink : ∀ c : Call, settingBits (linkAlarms e c).devAlarmBuff = settingBits c.devAlarmBuff := by
    intro c
    unfold linkAlarms
    dsimp only
    rw [settingBits_alarm (Or.inl (by decide)), settingBits_alarm (Or.inl (by decide)),
      settingBits_alarm (Or.inr rfl), settingBits_alarm (Or.inl (by decide)),
      settingBits_alarm (Or.inl (by decide)), settingBits_alarm (Or.inl (by decide))]
  rw [alarms, hgps, hpdu, hlink]

/-- A call neither raises nor lowers these bits in the monitor's own buffer. -/
theorem settingBits_devHWSta (e : Input) (s : Monitor.Sta) :
    settingBits (devHWSta e s).devAlarmBuff = settingBits s.devAlarmBuff := by
  rw [devHWSta, buff_idle, buff_standby]
  exact settingBits_alarms e s

/-! ### What is reported -/

/-- The bit of `dev_alarm_buff[1]` is on for the front ends. -/
def Watch.alarmOn (w : Watch) (bit : UInt8) : Prop := w.sta.mon.curr.devAlarmBuff 1 &&& bit ≠ 0

/-- Each setting is reported exactly while the last attempt at it has failed. -/
structure AlarmsLast (w : Watch) : Prop where
  freq : w.alarmOn 0x02 ↔ w.freqFailed = true
  agc : w.alarmOn 0x04 ↔ w.agcFailed = true
  freqCode : [0x01, 0x02, 0x02] ∈ alarmStaCodes w.sta.mon.curr.devAlarmBuff ↔ w.freqFailed = true
  agcCode : [0x01, 0x02, 0x03] ∈ alarmStaCodes w.sta.mon.curr.devAlarmBuff ↔ w.agcFailed = true

/-- The codes say what the bits say. -/
theorem alarmsLast_iff (w : Watch) :
    AlarmsLast w ↔ (w.alarmOn 0x02 ↔ w.freqFailed = true) ∧ (w.alarmOn 0x04 ↔ w.agcFailed = true) := by
  have hfreq : [0x01, 0x02, 0x02] ∈ alarmStaCodes w.sta.mon.curr.devAlarmBuff ↔ w.alarmOn 0x02 :=
    mem_alarmStaCodes (e := (1, 0x02, [0x01, 0x02, 0x02])) (by decide) _
  have hagc : [0x01, 0x02, 0x03] ∈ alarmStaCodes w.sta.mon.curr.devAlarmBuff ↔ w.alarmOn 0x04 :=
    mem_alarmStaCodes (e := (1, 0x04, [0x01, 0x02, 0x03])) (by decide) _
  constructor
  · intro h
    exact ⟨h.freq, h.agc⟩
  · rintro ⟨h, h'⟩
    exact ⟨h, h', hfreq.trans h, hagc.trans h'⟩

/-- No call of the monitor comes while the last attempt at a setting has failed. -/
def NoneFailed (w : Watch) : Event → Prop
  | .monitor (.tick _) => w.freqFailed = false ∧ w.agcFailed = false
  | _ => True

/-- What is reported lasts, and the monitor has none of it. -/
structure Watch.Ok (w : Watch) : Prop where
  last : AlarmsLast w
  own : settingBits w.sta.mon.devAlarmBuff = 0

/-! ### One event -/

theorem setBit_and (buff : Fin 6 → UInt8) (bit bit' : UInt8) :
    setBit buff 1 bit 1 &&& bit' = buff 1 &&& bit' ||| bit &&& bit' := by
  rw [setBit, Function.update_self, and_or_distrib]

theorem clearBits_and (buff : Fin 6 → UInt8) (bit bit' : UInt8) :
    clearBits buff 1 bit 1 &&& bit' = buff 1 &&& (~~~bit &&& bit') := by
  rw [clearBits, Function.update_self, UInt8.and_assoc]

/-- An attempt at a setting decides its own bit and leaves the other. -/
theorem raise_and (bit bit' : UInt8) (code : Nat) (s : Monitor.Sta) :
    (raise bit code s).curr.devAlarmBuff 1 &&& bit' =
      s.curr.devAlarmBuff 1 &&& bit' ||| bit &&& bit' := setBit_and ..

theorem lower_and (bit bit' : UInt8) (s : Monitor.Sta) :
    (lower bit s).curr.devAlarmBuff 1 &&& bit' = s.curr.devAlarmBuff 1 &&& (~~~bit &&& bit') :=
  clearBits_and ..

/-- What `s'` has of the alarms of `s`, but for one of the two bits. -/
def Keeps (bit : UInt8) (s s' : Sta) : Prop :=
  s'.mon.devAlarmBuff = s.mon.devAlarmBuff ∧
    s'.mon.curr.devAlarmBuff 1 &&& bit = s.mon.curr.devAlarmBuff 1 &&& bit

theorem setFreq_spec (freq : UInt32) (answer : Answer) (s : Sta) :
    Keeps 0x04 s (setFreq freq answer s).2 ∧
      if InRange freq then
        ((setFreq freq answer s).2.mon.curr.devAlarmBuff 1 &&& 0x02 ≠ 0 ↔
          (setFreq freq answer s).1 = .FAIL)
      else (setFreq freq answer s).2 = s := by
  by_cases hrange : InRange freq
  · rw [if_pos hrange]
    unfold setFreq
    rw [if_neg hrange]
    cases setFreqCmdResultGet answer with
    | SUCC => exact ⟨⟨rfl, lower_and ..⟩, by simp [lower_and]⟩
    | FAIL => exact ⟨⟨rfl, (raise_and ..).trans UInt8.or_zero⟩, by simp [raise_and]⟩
  · rw [if_neg hrange]
    unfold setFreq
    rw [if_pos (not_not.mp hrange)]
    exact ⟨⟨rfl, rfl⟩, rfl⟩

theorem setAgcOutputRange_spec (agc_output_flag : UInt8) (answer : Answer) (s : Sta) :
    Keeps 0x02 s (setAgcOutputRange agc_output_flag answer s).2 ∧
      ((setAgcOutputRange agc_output_flag answer s).2.mon.curr.devAlarmBuff 1 &&& 0x04 ≠ 0 ↔
        (setAgcOutputRange agc_output_flag answer s).1 = .FAIL) := by
  unfold setAgcOutputRange
  dsimp only
  cases setAgcOutputRangeResultGet _ answer with
  | SUCC => exact ⟨⟨rfl, lower_and ..⟩, by simp [lower_and]⟩
  | FAIL => exact ⟨⟨rfl, (raise_and ..).trans UInt8.or_zero⟩, by simp [raise_and]⟩

theorem mon_step_tick (w : Watch) (e : Input) :
    (w.step (.monitor (.tick e))).sta.mon = (devHWSta e w.sta.mon).toSta := by
  simp only [Watch.step, Monitor.step]

/-- Behind a call of the monitor neither setting is reported. -/
theorem alarmOn_tick (w : Watch) (hown : settingBits w.sta.mon.devAlarmBuff = 0) (e : Input) :
    ¬(w.step (.monitor (.tick e))).alarmOn 0x02 ∧ ¬(w.step (.monitor (.tick e))).alarmOn 0x04 := by
  have hzero : settingBits (devHWSta e w.sta.mon).devAlarmBuff = 0 :=
    (settingBits_devHWSta e w.sta.mon).trans hown
  have hoff : ∀ bit : UInt8, 0x06 &&& bit = bit →
      ¬(w.step (.monitor (.tick e))).alarmOn bit := by
    intro bit hbit
    unfold Watch.alarmOn
    rw [settingBits] at hzero
    rw [mon_step_tick, devAlarmBuff_devHWSta, ← hbit, ← UInt8.and_assoc, hzero]
    exact not_not.mpr UInt8.zero_and
  exact ⟨hoff 0x02 rfl, hoff 0x04 rfl⟩

/-- An event that meets the condition keeps all in order. -/
theorem ok_watchStep {w : Watch} (hok : w.Ok) {e : Event} (he : NoneFailed w e) : (w.step e).Ok := by
  obtain ⟨hfreq, hagc⟩ := (alarmsLast_iff w).mp hok.last
  cases e with
  | setFreq freq answer =>
      obtain ⟨⟨hown, hother⟩, hbit⟩ := setFreq_spec freq answer w.sta
      refine ⟨(alarmsLast_iff _).mpr ⟨?_, ?_⟩, (congrArg settingBits hown).trans hok.own⟩
      · unfold Watch.alarmOn Watch.step
        dsimp only
        by_cases hrange : InRange freq
        · rw [if_pos hrange] at hbit ⊢
          simpa using hbit
        · rw [if_neg hrange] at hbit ⊢
          rw [hbit]
          exact hfreq
      · unfold Watch.alarmOn Watch.step
        dsimp only
        rw [hother]
        exact hagc
  | setAgcOutputRange agc_output_flag answer =>
      obtain ⟨⟨hown, hother⟩, hbit⟩ := setAgcOutputRange_spec agc_output_flag answer w.sta
      refine ⟨(alarmsLast_iff _).mpr ⟨?_, ?_⟩, (congrArg settingBits hown).trans hok.own⟩
      · unfold Watch.alarmOn Watch.step
        dsimp only
        rw [hother]
        exact hfreq
      · unfold Watch.alarmOn Watch.step
        dsimp only
        simpa using hbit
  | monitor a =>
      cases a with
      | tick input =>
          obtain ⟨hnofreq, hnoagc⟩ := he
          obtain ⟨hoff, hoff'⟩ := alarmOn_tick w hok.own input
          refine ⟨(alarmsLast_iff _).mpr ⟨iff_of_false hoff ?_, iff_of_false hoff' ?_⟩, ?_⟩
          · exact Bool.eq_false_iff.mp hnofreq
          · exact Bool.eq_false_iff.mp hnoagc
          · exact (settingBits_devHWSta input w.sta.mon).trans hok.own
      | measure antenna => exact ⟨(alarmsLast_iff _).mpr ⟨hfreq, hagc⟩, hok.own⟩
      | start part direction limit ret => exact ⟨(alarmsLast_iff _).mpr ⟨hfreq, hagc⟩, hok.own⟩
      | stop part ret => exact ⟨(alarmsLast_iff _).mpr ⟨hfreq, hagc⟩, hok.own⟩
      | others taskRunFlag seekSatMode devWorkSta devAdmin =>
          exact ⟨(alarmsLast_iff _).mpr ⟨hfreq, hagc⟩, hok.own⟩

/-- A call of the monitor that finds a failed setting takes its alarm away. -/
theorem not_last_step {w : Watch} (hok : w.Ok) {e : Event} (he : ¬NoneFailed w e) :
    ¬AlarmsLast (w.step e) := by
  intro hlast
  cases e with
  | setFreq freq answer => exact he trivial
  | setAgcOutputRange agc_output_flag answer => exact he trivial
  | monitor a =>
      cases a with
      | tick input =>
          obtain ⟨hoff, hoff'⟩ := alarmOn_tick w hok.own input
          refine he ⟨?_, ?_⟩
          · exact Bool.eq_false_iff.mpr (mt hlast.freq.mpr hoff)
          · exact Bool.eq_false_iff.mpr (mt hlast.agc.mpr hoff')
      | measure antenna => exact he trivial
      | start part direction limit ret => exact he trivial
      | stop part ret => exact he trivial
      | others taskRunFlag seekSatMode devWorkSta devAdmin => exact he trivial

/-! ### Runs -/

theorem ok_watchBoot (curr : CurrSta) (seekSatMode devWorkSta : UInt8) (devAdmin : DevAdmin) :
    (Watch.boot curr seekSatMode devWorkSta devAdmin).Ok := by
  refine ⟨(alarmsLast_iff _).mpr ⟨?_, ?_⟩, UInt8.zero_and⟩
  · exact iff_of_false (not_not.mpr UInt8.zero_and) Bool.false_ne_true
  · exact iff_of_false (not_not.mpr UInt8.zero_and) Bool.false_ne_true

/--
**The alarms of the settings last exactly in the runs in which no call of the monitor
comes while one of them is due.**
-/
theorem alarms_last_iff (curr : CurrSta) (seekSatMode devWorkSta : UInt8) (devAdmin : DevAdmin)
    (es : List Event) :
    AllStates Watch.step AlarmsLast (.boot curr seekSatMode devWorkSta devAdmin) es ↔
      AllSteps Watch.step NoneFailed (.boot curr seekSatMode devWorkSta devAdmin) es :=
  allStates_iff_of_inv (fun (w : Watch) (hok : w.Ok) => hok.last)
    (fun (w : Watch) (e : Event) (hok : w.Ok) (he : NoneFailed w e) => ok_watchStep hok he)
    (fun (w : Watch) (e : Event) (hok : w.Ok) (he : ¬NoneFailed w e) => not_last_step hok he)
    (ok_watchBoot curr seekSatMode devWorkSta devAdmin) es

/-- The receiver does not answer, and the monitor is called once. -/
theorem failed_freq_forgotten :
    ¬AllStates Watch.step AlarmsLast
      (.boot ⟨⟨180, 45, 0⟩, 0, 0, 0, 0, 0, fun _ => 0, fun _ => 0, fun _ => 0⟩ 0x00 0x00
        ⟨0, 0, 0, 0, 0, 0, 0, 0⟩)
      [.setFreq 1000000 none, .monitor calmTick] := by
  intro h
  have hlast := (h [.setFreq 1000000 none, .monitor calmTick] [] rfl).freq
  exact absurd (hlast.mpr (by decide +kernel)) (by unfold Watch.alarmOn; decide +kernel)

end SwiftAcu.Beacon
