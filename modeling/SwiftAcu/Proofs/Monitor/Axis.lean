/-
What one call of the alarm monitor does to one axis.

The three axes share a byte of alarms, of which each has two bits, and no call for one
axis reaches those of another.  So an axis goes its own way: a counter, the limit whose
alarm is up, and two bits, moved on by the limit the axis is at.
-/
import SwiftAcu.Acu.MonitorRun

namespace SwiftAcu.Monitor

/-- What the monitor keeps of an axis. -/
structure Axis where
  cnt : UInt8
  /-- `motor_limit_sta`. -/
  sta : UInt8
  /-- The alarm bits of the two limits. -/
  low : Bool
  high : Bool
  deriving DecidableEq

/-- One call, with the axis at the limit `dir`, or at none. -/
def Axis.next (v : Axis) (dir : UInt8) : Axis :=
  if dir = 0x00 then ⟨0, 0x00, false, false⟩
  else if 3 ≤ v.cnt + 1 then
    if v.sta ≠ dir then
      ⟨0, dir, v.low || dir = dirLeftDownAnticlock, v.high || dir ≠ dirLeftDownAnticlock⟩
    else { v with cnt := 0 }
  else { v with cnt := v.cnt + 1 }

/-- The bit of a limit is on. -/
def limitOn (buff : Fin 6 → UInt8) (part : AntennaPart) (dir : UInt8) : Bool :=
  buff 5 &&& limitBit part dir ≠ 0

/-- The axis in the state of the monitor. -/
def Sta.axis (s : Sta) (part : AntennaPart) : Axis :=
  { cnt := s.limitAlarmCnt part
    sta := s.motorLimitSta part
    low := limitOn s.devAlarmBuff part dirLeftDownAnticlock
    high := limitOn s.devAlarmBuff part dirRightUpClock }

theorem Sta.axis_sta (s : Sta) (part : AntennaPart) : (s.axis part).sta = s.motorLimitSta part := rfl

/-! ### Bits -/

theorem and_or_distrib (x a b : UInt8) : (x ||| a) &&& b = (x &&& b) ||| (a &&& b) := by
  apply UInt8.toBitVec_inj.mp
  ext i
  simp [Bool.and_or_distrib_right]

theorem limitOn_setBit (buff : Fin 6 → UInt8) (part part' : AntennaPart) (dir dir' : UInt8) :
    limitOn (setBit buff 5 (limitBit part' dir')) part dir =
      (limitOn buff part dir || limitBit part' dir' &&& limitBit part dir ≠ 0) := by
  simp only [limitOn, setBit, Function.update_self, and_or_distrib, ne_eq, UInt8.or_eq_zero_iff]
  by_cases h : buff 5 &&& limitBit part dir = 0 <;> simp [h]

theorem limitOn_clearBits (buff : Fin 6 → UInt8) (part part' : AntennaPart) (dir : UInt8) :
    limitOn (clearBits buff 5 (limitBits part')) part dir =
      decide (buff 5 &&& (~~~limitBits part' &&& limitBit part dir) ≠ 0) := by
  simp only [limitOn, clearBits, Function.update_self, UInt8.and_assoc]

theorem limitOn_update_of_ne {buff : Fin 6 → UInt8} {i : Fin 6} (h : i ≠ 5) (x : UInt8)
    (part : AntennaPart) (dir : UInt8) :
    limitOn (Function.update buff i x) part dir = limitOn buff part dir := by
  rw [limitOn, limitOn, Function.update_of_ne h.symm]

/-- The bits of two axes are apart. -/
theorem limitBit_disjoint {part part' : AntennaPart} (h : part' ≠ part) (dir dir' : UInt8) :
    limitBit part' dir' &&& limitBit part dir = 0 := by
  cases part <;> cases part' <;> first | exact absurd rfl h | skip
  all_goals
    simp only [limitBit]
    split <;> split <;> rfl

theorem limitBits_disjoint {part part' : AntennaPart} (h : part' ≠ part) (dir : UInt8) :
    ~~~limitBits part' &&& limitBit part dir = limitBit part dir := by
  cases part <;> cases part' <;> first | exact absurd rfl h | skip
  all_goals
    simp only [limitBit, limitBits]
    split <;> rfl

theorem limitBits_cover (part : AntennaPart) (dir : UInt8) :
    ~~~limitBits part &&& limitBit part dir = 0 := by
  cases part <;> simp only [limitBit, limitBits] <;> split <;> rfl

theorem limitOn_clearBits_of_ne {part part' : AntennaPart} (h : part' ≠ part)
    (buff : Fin 6 → UInt8) (dir : UInt8) :
    limitOn (clearBits buff 5 (limitBits part')) part dir = limitOn buff part dir := by
  rw [limitOn_clearBits, limitBits_disjoint h]
  rfl

/-- The two bits of an axis are apart. -/
theorem limitBit_self (part : AntennaPart) (dir dir' : UInt8) :
    limitBit part dir' &&& limitBit part dir ≠ 0 ↔
      (dir = dirLeftDownAnticlock ↔ dir' = dirLeftDownAnticlock) := by
  by_cases hdir : dir = dirLeftDownAnticlock <;> by_cases hdir' : dir' = dirLeftDownAnticlock <;>
    cases part <;> simp [limitBit, hdir, hdir'] <;> decide

/-! ### The calls for the axes -/

section
variable (e : Input) (c : Call) (part : AntennaPart)

theorem axis_alarm {i : Fin 6} (h : i ≠ 5) (bit : UInt8) (code : Option Nat) (high on : Bool) :
    (alarm i bit code high on c).toSta.axis part = c.toSta.axis part := by
  unfold alarm
  split
  · simp only [Sta.axis, setBit, limitOn_update_of_ne h]
  · simp only [Sta.axis, clearBits, limitOn_update_of_ne h]

/-- What a raised alarm does to a call. -/
theorem raiseLimit_eq (part' : AntennaPart) (dir : UInt8) :
    raiseLimit e part' dir c =
      { c.withMotors (if c.motorMove part' = dir
          then (antennaDriveEnd e.pdu part'.id c.motors).2 else c.motors) with
        devAlarmBuff := setBit c.devAlarmBuff 5 (limitBit part' dir)
        motorLimitSta := Function.update c.motorLimitSta part' dir
        warnLog := limitWarn part' dir :: c.warnLog
        alarmHighFlag := true } := by
  unfold raiseLimit
  dsimp only
  split
  · rfl
  · rfl

/-- What the limits of an axis do to a call: they clear its alarms, count, or raise one. -/
theorem axisLimit_cases (part' : AntennaPart) :
    e.limitDir c.curr.antenna part' = 0x00 ∧
        axisLimit e part' c = { c with
          devAlarmBuff := clearBits c.devAlarmBuff 5 (limitBits part')
          motorLimitSta := Function.update c.motorLimitSta part' 0x00
          limitAlarmCnt := Function.update c.limitAlarmCnt part' 0 } ∨
      (3 ≤ c.limitAlarmCnt part' + 1 →
          c.motorLimitSta part' = e.limitDir c.curr.antenna part') ∧
        (∃ limitAlarmCnt, axisLimit e part' c = { c with limitAlarmCnt }) ∨
      (e.limitDir c.curr.antenna part' ≠ 0x00 ∧ 3 ≤ c.limitAlarmCnt part' + 1 ∧
          c.motorLimitSta part' ≠ e.limitDir c.curr.antenna part') ∧
        ∃ limitAlarmCnt, axisLimit e part' c =
          { raiseLimit e part' (e.limitDir c.curr.antenna part') c with limitAlarmCnt } := by
  unfold axisLimit
  dsimp only
  split
  · next hzero => exact Or.inl ⟨hzero, rfl⟩
  · next hdir =>
      split
      · next hcnt =>
          by_cases hup : c.motorLimitSta part' ≠ e.limitDir c.curr.antenna part'
          · rw [if_pos hup]
            exact Or.inr (Or.inr ⟨⟨hdir, hcnt, hup⟩, _, rfl⟩)
          · rw [if_neg hup]
            exact Or.inr (Or.inl ⟨fun _ => not_not.mp hup, _, rfl⟩)
      · next hcnt => exact Or.inr (Or.inl ⟨fun h => absurd h hcnt, _, rfl⟩)

/-- What a raised alarm leaves of every axis. -/
theorem axis_raiseLimit (part' : AntennaPart) (dir : UInt8) :
    (raiseLimit e part' dir c).toSta.axis part =
      if part' = part then
        { c.toSta.axis part with
          sta := dir
          low := (c.toSta.axis part).low || dir = dirLeftDownAnticlock
          high := (c.toSta.axis part).high || dir ≠ dirLeftDownAnticlock }
      else c.toSta.axis part := by
  have hbuff : (raiseLimit e part' dir c).devAlarmBuff =
      setBit c.devAlarmBuff 5 (limitBit part' dir) := by rw [raiseLimit_eq]
  have hsta : (raiseLimit e part' dir c).motorLimitSta =
      Function.update c.motorLimitSta part' dir := by rw [raiseLimit_eq]
  have hcnt : (raiseLimit e part' dir c).limitAlarmCnt = c.limitAlarmCnt := by
    rw [raiseLimit_eq]
    rfl
  have hhigh : (dirRightUpClock = dirLeftDownAnticlock) = False := by decide
  simp only [Sta.axis, hbuff, hsta, hcnt, limitOn_setBit]
  by_cases hpart : part' = part
  · subst hpart
    simp only [if_true, Function.update_self, limitBit_self, hhigh, true_iff, false_iff]
  · have hzero (d : UInt8) : limitBit part' dir &&& limitBit part d = 0 :=
      limitBit_disjoint hpart d dir
    simp [hpart, hzero, Function.update_of_ne (Ne.symm hpart)]

/-- **The call for an axis** moves that axis on, and no other. -/
theorem axis_axisLimit (part' : AntennaPart) :
    (axisLimit e part' c).toSta.axis part =
      if part' = part then (c.toSta.axis part).next (e.limitDir c.curr.antenna part)
      else c.toSta.axis part := by
  unfold axisLimit Axis.next
  by_cases hpart : part' = part
  · subst hpart
    rw [if_pos rfl]
    dsimp only
    by_cases hzero : e.limitDir c.curr.antenna part' = 0x00
    · rw [if_pos hzero, if_pos hzero]
      simp [Sta.axis, limitOn_clearBits, limitBits_cover]
    rw [if_neg hzero, if_neg hzero]
    have hcnt : (c.toSta.axis part').cnt = c.limitAlarmCnt part' := rfl
    have hsta : (c.toSta.axis part').sta = c.motorLimitSta part' := rfl
    rw [hcnt, hsta]
    split
    · by_cases hup : c.motorLimitSta part' ≠ e.limitDir c.curr.antenna part'
      · have hraised := axis_raiseLimit e c part' part' (e.limitDir c.curr.antenna part')
        rw [if_pos rfl] at hraised
        rw [if_pos hup, if_pos hup]
        simp only [Sta.axis, Axis.mk.injEq] at hraised ⊢
        obtain ⟨-, hsta, hlow, hhigh⟩ := hraised
        exact ⟨Function.update_self .., hsta, hlow, hhigh⟩
      · rw [if_neg hup, if_neg hup]
        simp [Sta.axis]
    · simp [Sta.axis]
  · rw [if_neg hpart]
    have hne : part ≠ part' := Ne.symm hpart
    dsimp only
    split
    · simp [Sta.axis, limitOn_clearBits_of_ne hpart, Function.update_of_ne hne]
    · split
      · split
        · have hraised := axis_raiseLimit e c part part' (e.limitDir c.curr.antenna part')
          rw [if_neg hpart] at hraised
          simp only [Sta.axis, Axis.mk.injEq] at hraised ⊢
          obtain ⟨hcnt, hsta, hlow, hhigh⟩ := hraised
          exact ⟨(Function.update_of_ne hne ..).trans hcnt, hsta, hlow, hhigh⟩
        · simp [Sta.axis, Function.update_of_ne hne]
      · simp [Sta.axis, Function.update_of_ne hne]

end

/-! ### The whole call -/

/-- The angles stay as they were measured. -/
theorem curr_alarm (i : Fin 6) (bit : UInt8) (code : Option Nat) (high on : Bool) (c : Call) :
    (alarm i bit code high on c).curr = c.curr := by
  unfold alarm
  split <;> rfl

theorem curr_axisLimit (e : Input) (part : AntennaPart) (c : Call) :
    (axisLimit e part c).curr = c.curr := by
  obtain ⟨-, h⟩ | ⟨-, cnt, h⟩ | ⟨-, cnt, h⟩ := axisLimit_cases e c part
  · rw [h]
  · rw [h]
  · rw [h, raiseLimit_eq]
    rfl

theorem curr_linkAlarms (e : Input) (c : Call) : (linkAlarms e c).curr = c.curr := by
  simp only [linkAlarms, curr_alarm]

theorem axis_linkAlarms (e : Input) (c : Call) (part : AntennaPart) :
    (linkAlarms e c).toSta.axis part = c.toSta.axis part := by
  unfold linkAlarms
  dsimp only
  rw [axis_alarm _ _ (by decide), axis_alarm _ _ (by decide), axis_alarm _ _ (by decide),
    axis_alarm _ _ (by decide), axis_alarm _ _ (by decide), axis_alarm _ _ (by decide)]

/-- Every axis goes its own way while the power unit is linked. -/
theorem axis_pduAlarms (e : Input) (c : Call) (part : AntennaPart) :
    (pduAlarms e c).toSta.axis part =
      if e.pduLinked then (c.toSta.axis part).next (e.limitDir c.curr.antenna part)
      else c.toSta.axis part := by
  unfold pduAlarms
  dsimp only
  split
  · rw [axis_axisLimit, axis_axisLimit, axis_axisLimit]
    simp only [curr_axisLimit, curr_alarm, axis_alarm _ _ (show (3 : Fin 6) ≠ 5 by decide)]
    cases part <;> rfl
  · have halarm : (alarm 3 0x01 (some logWarnPduErr) true true c).toSta.axis part =
        c.toSta.axis part := axis_alarm c part (by decide) ..
    split
    · exact halarm
    · exact halarm

/-- What the receiver does to a call. -/
theorem gpsAlarm_cases (e : Input) (c : Call) :
    ∃ gpsTimeoutCnt,
      gpsAlarm e c =
          { c with gpsTimeoutCnt, devAlarmBuff := clearBits c.devAlarmBuff 4 0x02 } ∨
        gpsAlarm e c = { c with gpsTimeoutCnt } ∨
        gpsAlarm e c =
          alarm 4 0x02 (some logWarnPduGpsPositioningFail) false true { c with gpsTimeoutCnt } := by
  unfold gpsAlarm
  dsimp only
  split
  · split
    · exact ⟨0, Or.inl rfl⟩
    · split
      · exact ⟨c.gpsTimeoutCnt + 1, Or.inr (Or.inr rfl)⟩
      · exact ⟨c.gpsTimeoutCnt + 1, Or.inr (Or.inl rfl)⟩
  · exact ⟨c.gpsTimeoutCnt, Or.inl rfl⟩

theorem axis_gpsAlarm (e : Input) (c : Call) (part : AntennaPart) :
    (gpsAlarm e c).toSta.axis part = c.toSta.axis part := by
  have hclear : Sta.axis { c.toSta with devAlarmBuff := clearBits c.devAlarmBuff 4 0x02 } part =
      c.toSta.axis part := by
    simp only [Sta.axis, clearBits, limitOn_update_of_ne (show (4 : Fin 6) ≠ 5 by decide)]
  obtain ⟨gpsTimeoutCnt, h | h | h⟩ := gpsAlarm_cases e c
  · rw [h]
    exact hclear
  · rw [h]
    rfl
  · rw [h]
    exact axis_alarm _ part (by decide) ..

theorem axis_endTask (e : Input) (c : Call) (i : Fin 3) (part : AntennaPart) :
    (endTask e c i).toSta.axis part = c.toSta.axis part := by
  unfold endTask
  split <;> rfl

theorem curr_endTask (e : Input) (c : Call) (i : Fin 3) : (endTask e c i).curr = c.curr := by
  unfold endTask
  split <;> rfl

theorem buff_endTask (e : Input) (c : Call) (i : Fin 3) :
    (endTask e c i).devAlarmBuff = c.devAlarmBuff := by
  unfold endTask
  split <;> rfl

/-- What a high alarm does to a call: it ends the tasks. -/
theorem standby_cases (e : Input) (c : Call) :
    standby e c = c ∨ ∃ seekSatMode devWorkSta optLog,
      standby e c = { endTask e (endTask e (endTask e c 0) 1) 2 with
        seekSatMode, devWorkSta, optLog } := by
  unfold standby
  split
  · dsimp only
    generalize endTask e (endTask e (endTask e c 0) 1) 2 = c'
    split
    · exact Or.inr ⟨_, _, _, rfl⟩
    · exact Or.inr ⟨c'.seekSatMode, c'.devWorkSta, c'.optLog, rfl⟩
  · exact Or.inl rfl

theorem axis_standby (e : Input) (c : Call) (part : AntennaPart) :
    (standby e c).toSta.axis part = c.toSta.axis part := by
  have htasks : (endTask e (endTask e (endTask e c 0) 1) 2).toSta.axis part =
      c.toSta.axis part := by rw [axis_endTask, axis_endTask, axis_endTask]
  obtain h | ⟨seekSatMode, devWorkSta, optLog, h⟩ := standby_cases e c
  · rw [h]
  · rw [h]
    exact htasks

theorem curr_standby (e : Input) (c : Call) : (standby e c).curr = c.curr := by
  obtain h | ⟨seekSatMode, devWorkSta, optLog, h⟩ := standby_cases e c
  · rw [h]
  · rw [h, curr_endTask, curr_endTask, curr_endTask]

theorem buff_standby (e : Input) (c : Call) : (standby e c).devAlarmBuff = c.devAlarmBuff := by
  obtain h | ⟨seekSatMode, devWorkSta, optLog, h⟩ := standby_cases e c
  · rw [h]
  · rw [h, buff_endTask, buff_endTask, buff_endTask]

theorem idle_cases (c : Call) : idle c = c ∨ idle c = { c with devWorkSta := 0 } := by
  unfold idle
  split
  · exact Or.inr rfl
  · exact Or.inl rfl

theorem axis_idle (c : Call) (part : AntennaPart) :
    (idle c).toSta.axis part = c.toSta.axis part := by
  obtain h | h := idle_cases c
  · rw [h]
  · rw [h]
    rfl

theorem curr_idle (c : Call) : (idle c).curr = c.curr := by
  obtain h | h := idle_cases c
  · rw [h]
  · rw [h]

theorem buff_idle (c : Call) : (idle c).devAlarmBuff = c.devAlarmBuff := by
  obtain h | h := idle_cases c
  · rw [h]
  · rw [h]

theorem axis_alarms (e : Input) (s : Sta) (part : AntennaPart) :
    (alarms e s).toSta.axis part =
      if e.pduLinked then (s.axis part).next (e.limitDir s.curr.antenna part)
      else s.axis part := by
  unfold alarms
  rw [axis_gpsAlarm, axis_pduAlarms, axis_linkAlarms, curr_linkAlarms]

/-- **Every axis goes its own way** in a call with the power unit linked. -/
theorem axis_devHWSta (e : Input) (s : Sta) (part : AntennaPart) :
    (devHWSta e s).toSta.axis part =
      if e.pduLinked then (s.axis part).next (e.limitDir s.curr.antenna part)
      else s.axis part := by
  rw [devHWSta, axis_idle, axis_standby, ← axis_alarms]
  rfl

/-- An alarm flag of zero says that all bytes are zero. -/
theorem devAlarmBuff_reportSta (buff : Fin 6 → UInt8) (curr : CurrSta) :
    (reportSta buff curr).devAlarmBuff = buff := by
  unfold reportSta devAlarmFlag
  dsimp only
  by_cases h : ∃ i, buff i ≠ 0
  · rw [if_pos h, if_pos (by decide)]
  · rw [if_neg h, if_neg (by decide)]
    funext i
    by_contra hne
    exact h ⟨i, Ne.symm hne⟩

/-- **What is reported is what is kept.** -/
theorem devAlarmBuff_devHWSta (e : Input) (s : Sta) :
    (devHWSta e s).curr.devAlarmBuff = (devHWSta e s).devAlarmBuff := by
  rw [devHWSta, curr_idle, buff_idle, curr_standby, buff_standby]
  exact devAlarmBuff_reportSta ..

end SwiftAcu.Monitor
