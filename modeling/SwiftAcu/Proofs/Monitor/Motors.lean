/-
What one call of the alarm monitor does to one motor.

A motor is stopped when the alarm of the limit it moves toward is raised, and with the
tasks that a high alarm ends.  If neither happens nothing is sent to it.
-/
import SwiftAcu.Proofs.Monitor.Axis
import SwiftAcu.Proofs.Motor

namespace SwiftAcu.Monitor

/-! ### When a motor is stopped -/

/-- The alarm of a limit is raised in a call. -/
def Axis.Raises (v : Axis) (dir : UInt8) : Prop := dir ≠ 0x00 ∧ 3 ≤ v.cnt + 1 ∧ v.sta ≠ dir

/-- The call sends a stop for the alarm it raises. -/
def LimitStop (e : Input) (s : Sta) (part : AntennaPart) : Prop :=
  (s.axis part).Raises (e.limitDir s.curr.antenna part) ∧
    s.motorMove part = e.limitDir s.curr.antenna part

/-- A broken link of the encoders or the receiver. -/
def LinkAlarm (e : Input) : Prop :=
  e.encoderLinked .position = false ∨ e.encoderLinked .cabrage = false ∨
    (e.elecCoderNum = 3 ∧ e.encoderLinked .polar = false) ∨ e.beaconLinked = false

/-- A high alarm is given in a call with the power unit linked. -/
def HighAlarm (e : Input) (s : Sta) : Prop :=
  LinkAlarm e ∨ ∃ part, (s.axis part).Raises (e.limitDir s.curr.antenna part)

/-! ### The motors and the tasks before the limits -/

instance (v : Axis) (dir : UInt8) : Decidable (v.Raises dir) :=
  inferInstanceAs (Decidable (_ ∧ _ ∧ _))

instance (e : Input) (s : Sta) (part : AntennaPart) : Decidable (LimitStop e s part) :=
  inferInstanceAs (Decidable (_ ∧ _))

section
variable (e : Input) (c : Call)

theorem motors_alarm (i : Fin 6) (bit : UInt8) (code : Option Nat) (high on : Bool) :
    (alarm i bit code high on c).motors = c.motors := by
  unfold alarm
  split
  · rfl
  · rfl

theorem taskRunFlag_alarm (i : Fin 6) (bit : UInt8) (code : Option Nat) (high on : Bool) :
    (alarm i bit code high on c).taskRunFlag = c.taskRunFlag := by
  unfold alarm
  split
  · rfl
  · rfl

theorem high_alarm (i : Fin 6) (bit : UInt8) (code : Option Nat) (high on : Bool) :
    (alarm i bit code high on c).alarmHighFlag = (c.alarmHighFlag || (on && high)) := by
  unfold alarm
  cases on with
  | true => rfl
  | false => simp

theorem motors_linkAlarms : (linkAlarms e c).motors = c.motors := by
  simp only [linkAlarms, motors_alarm]

theorem taskRunFlag_linkAlarms : (linkAlarms e c).taskRunFlag = c.taskRunFlag := by
  simp only [linkAlarms, taskRunFlag_alarm]

theorem high_linkAlarms :
    (linkAlarms e c).alarmHighFlag = true ↔ c.alarmHighFlag = true ∨ LinkAlarm e := by
  simp only [linkAlarms, high_alarm, Bool.and_true, Bool.and_false, Bool.or_false, LinkAlarm,
    Bool.or_eq_true, Bool.and_eq_true, Bool.not_eq_true', decide_eq_true_eq, or_assoc]

/-! ### The limits -/

theorem motors_raiseLimit (part : AntennaPart) (dir : UInt8) :
    (raiseLimit e part dir c).motors =
      if c.motorMove part = dir then (antennaDriveEnd e.pdu part.id c.motors).2
      else c.motors := by
  rw [raiseLimit_eq]
  rfl

/-- An axis whose state is its limit by the third count raises no alarm. -/
theorem not_raises_of_cnt {part : AntennaPart} {dir : UInt8}
    (h : 3 ≤ c.limitAlarmCnt part + 1 → c.motorLimitSta part = dir) :
    ¬ (c.toSta.axis part).Raises dir := fun hraises => hraises.2.2 (h hraises.2.1)

/-- The limits of an axis: what becomes of the motors depends on a raised alarm alone. -/
theorem motors_axisLimit (part : AntennaPart) :
    (axisLimit e part c).motors =
      if LimitStop e c.toSta part then (exchange e.pdu part 0x00 c.motors).2 else c.motors := by
  obtain ⟨hzero, h⟩ | ⟨hnot, cnt, h⟩ | ⟨hraises, cnt, h⟩ := axisLimit_cases e c part
  · rw [h, if_neg fun hstop => hstop.1.1 hzero]
    rfl
  · rw [h, if_neg fun hstop => not_raises_of_cnt c hnot hstop.1]
    rfl
  · have hraises : (c.toSta.axis part).Raises (e.limitDir c.curr.antenna part) := hraises
    rw [h, ← antennaDriveEnd_id]
    refine (motors_raiseLimit e c part _).trans ?_
    simp only [LimitStop, hraises, true_and]

theorem taskRunFlag_axisLimit (part : AntennaPart) :
    (axisLimit e part c).taskRunFlag = c.taskRunFlag := by
  obtain ⟨-, h⟩ | ⟨-, cnt, h⟩ | ⟨-, cnt, h⟩ := axisLimit_cases e c part
  · rw [h]
  · rw [h]
  · rw [h, raiseLimit_eq]
    rfl

theorem high_axisLimit (part : AntennaPart) :
    (axisLimit e part c).alarmHighFlag = true ↔
      c.alarmHighFlag = true ∨ (c.toSta.axis part).Raises (e.limitDir c.curr.antenna part) := by
  obtain ⟨hzero, h⟩ | ⟨hnot, cnt, h⟩ | ⟨hraises, cnt, h⟩ := axisLimit_cases e c part
  · rw [h, or_iff_left fun hraises => hraises.1 hzero]
  · rw [h, or_iff_left (not_raises_of_cnt c hnot)]
  · rw [h, raiseLimit_eq]
    exact iff_of_true rfl (Or.inr hraises)

end

/-! ### The motor of one axis -/

/-- No command was sent for the axis. -/
structure Call.Untouched (c : Call) (s : Sta) (part : AntennaPart) : Prop where
  move : c.motorMove part = s.motorMove part
  sent : ∀ d ∈ c.sent, d.part ≠ part

/-- The limits of the axis are still to be looked at. -/
structure Call.Waiting (c : Call) (s : Sta) (part : AntennaPart) : Prop
    extends Call.Untouched c s part where
  axis : c.toSta.axis part = s.axis part
  antenna : c.curr.antenna = s.curr.antenna

/-- They have been looked at. -/
structure Call.Served (c : Call) (e : Input) (s : Sta) (part : AntennaPart) : Prop where
  stopped : LimitStop e s part → c.motors.Stopped part
  answered : LimitStop e s part → e.pdu part 0 = .SUCC → c.motorMove part = 0x00
  untouched : ¬ LimitStop e s part → c.Untouched s part

section
variable {e : Input} {s : Sta} {c : Call} {part part' : AntennaPart}

theorem sent_exchange_of_ne (h : part' ≠ part) {m : Motors} (hm : ∀ d ∈ m.sent, d.part ≠ part)
    (direction : UInt8) : ∀ d ∈ (exchange e.pdu part' direction m).2.sent, d.part ≠ part := by
  intro d hd
  simp only [exchange, List.mem_append, List.mem_singleton] at hd
  obtain hd | rfl := hd
  · exact hm d hd
  · exact h

/-- The call for another axis. -/
theorem Call.Untouched.axisLimit (h : c.Untouched s part) (hpart : part' ≠ part) :
    (axisLimit e part' c).Untouched s part := by
  have hmotors := motors_axisLimit e c part'
  have hmove : (Monitor.axisLimit e part' c).motorMove =
      (Monitor.axisLimit e part' c).motors.motorMove := rfl
  have hsent : (Monitor.axisLimit e part' c).sent =
      (Monitor.axisLimit e part' c).motors.sent := rfl
  split at hmotors
  · refine ⟨?_, ?_⟩
    · rw [hmove, hmotors, motorMove_exchange_of_ne _ _ hpart.symm]
      exact h.move
    · rw [hsent, hmotors]
      exact sent_exchange_of_ne hpart h.sent _
  · refine ⟨?_, ?_⟩
    · rw [hmove, hmotors]
      exact h.move
    · rw [hsent, hmotors]
      exact h.sent

theorem Call.Waiting.axisLimit (h : c.Waiting s part) (hpart : part' ≠ part) :
    (axisLimit e part' c).Waiting s part := by
  refine ⟨h.toUntouched.axisLimit hpart, ?_, ?_⟩
  · rw [axis_axisLimit, if_neg hpart, h.axis]
  · rw [curr_axisLimit, h.antenna]

theorem Call.Served.axisLimit (h : c.Served e s part) (hpart : part' ≠ part) :
    (axisLimit e part' c).Served e s part := by
  have hmotors := motors_axisLimit e c part'
  have hmove : (Monitor.axisLimit e part' c).motorMove =
      (Monitor.axisLimit e part' c).motors.motorMove := rfl
  refine ⟨fun hstop => ?_, fun hstop hret => ?_, fun hno => (h.untouched hno).axisLimit hpart⟩
  · rw [hmotors]
    split
    · exact stopped_exchange _ _ _ (h.stopped hstop)
    · exact h.stopped hstop
  · rw [hmove, hmotors]
    split
    · rw [motorMove_exchange_of_ne _ _ hpart.symm]
      exact h.answered hstop hret
    · exact h.answered hstop hret

/-- The call for the axis itself. -/
theorem Call.Waiting.served (h : c.Waiting s part) : (Monitor.axisLimit e part c).Served e s part := by
  have hmotors := motors_axisLimit e c part
  have hlimit : LimitStop e c.toSta part ↔ LimitStop e s part := by
    rw [LimitStop, LimitStop, h.axis, h.antenna, h.move]
  simp only [hlimit] at hmotors
  have hcount : c.motors.count part = 0 := by
    refine List.countP_eq_zero.mpr fun d hd => ?_
    simpa using h.sent d hd
  have hmove : (Monitor.axisLimit e part c).motorMove =
      (Monitor.axisLimit e part c).motors.motorMove := rfl
  refine ⟨fun hstop => ?_, fun hstop hret => ?_, fun hno => ?_⟩
  · rw [hmotors, if_pos hstop]
    exact stopped_exchange_self ..
  · rw [hmove, hmotors, if_pos hstop]
    exact motorMove_exchange_of_succ _ _ (by rw [hcount, hret])
  · rw [if_neg hno] at hmotors
    refine ⟨?_, ?_⟩
    · rw [hmove, hmotors]
      exact h.move
    · have hsent : (Monitor.axisLimit e part c).sent = c.sent := congrArg Motors.sent hmotors
      rw [hsent]
      exact h.sent

theorem Call.Untouched.congr {c' : Call} (h : c.Untouched s part) (hmotors : c'.motors = c.motors) :
    c'.Untouched s part :=
  ⟨(congrFun (congrArg Motors.motorMove hmotors) part).trans h.move,
    fun d hd => h.sent d (by rwa [← show c'.sent = c.sent from congrArg Motors.sent hmotors])⟩

theorem Call.Served.congr {c' : Call} (h : c.Served e s part) (hmotors : c'.motors = c.motors) :
    c'.Served e s part :=
  ⟨fun hstop => hmotors ▸ h.stopped hstop,
    fun hstop hret => (congrFun (congrArg Motors.motorMove hmotors) part).trans
      (h.answered hstop hret),
    fun hno => (h.untouched hno).congr hmotors⟩

/-- The three axes, one after the other. -/
theorem Call.Waiting.limits (h : c.Waiting s part) :
    (Monitor.axisLimit e .polar (Monitor.axisLimit e .cabrage
      (Monitor.axisLimit e .position c))).Served e s part := by
  cases part with
  | position => exact (h.served.axisLimit (by decide)).axisLimit (by decide)
  | cabrage => exact (h.axisLimit (by decide)).served.axisLimit (by decide)
  | polar => exact ((h.axisLimit (by decide)).axisLimit (by decide)).served

end

/-! ### A high alarm is an alarm -/

section
variable (e : Input) (s : Sta) (c : Call)

/-- An alarm of another bit leaves the bit. -/
theorem bit_alarm {bit b : UInt8} (h : ~~~bit &&& b = b) (i : Fin 6) (code : Option Nat)
    (high on : Bool) :
    (alarm i bit code high on c).devAlarmBuff i &&& b = c.devAlarmBuff i &&& b := by
  have hapart : bit &&& b = 0 := by
    rw [← h, ← UInt8.and_assoc, UInt8.and_not_self, UInt8.zero_and]
  unfold alarm
  split
  · simp only [setBit, Function.update_self, and_or_distrib, hapart, UInt8.or_zero]
  · simp only [clearBits, Function.update_self, UInt8.and_assoc, h]

theorem bit_alarm_self {bit : UInt8} (hbit : bit ≠ 0) (i : Fin 6) (code : Option Nat)
    (high : Bool) {on : Bool} (hon : on = true) :
    (alarm i bit code high on c).devAlarmBuff i &&& bit ≠ 0 := by
  subst hon
  simp only [alarm, if_true, setBit, Function.update_self, and_or_distrib, UInt8.and_self, ne_eq,
    UInt8.or_eq_zero_iff]
  exact fun h => hbit h.2

theorem devAlarmBuff_alarm_of_ne {i j : Fin 6} (h : j ≠ i) (bit : UInt8) (code : Option Nat)
    (high on : Bool) :
    (alarm i bit code high on c).devAlarmBuff j = c.devAlarmBuff j := by
  unfold alarm
  split
  · exact Function.update_of_ne h ..
  · exact Function.update_of_ne h ..

theorem buff_linkAlarms {e : Input} (h : LinkAlarm e) :
    ∃ i, i ≠ 3 ∧ i ≠ 4 ∧ i ≠ 5 ∧ (linkAlarms e c).devAlarmBuff i ≠ 0 := by
  have hzero {x b : UInt8} (h : x &&& b ≠ 0) : x ≠ 0 := by
    rintro rfl
    exact h UInt8.zero_and
  unfold linkAlarms
  dsimp only
  obtain hpos | hcab | hpol | hbeacon := h
  · refine ⟨0, by decide, by decide, by decide, hzero (b := 0x01) ?_⟩
    rw [devAlarmBuff_alarm_of_ne _ (by decide), devAlarmBuff_alarm_of_ne _ (by decide),
      devAlarmBuff_alarm_of_ne _ (by decide), bit_alarm _ (by decide), bit_alarm _ (by decide)]
    exact bit_alarm_self _ (by decide) _ _ _ (by rw [hpos]; rfl)
  · refine ⟨0, by decide, by decide, by decide, hzero (b := 0x02) ?_⟩
    rw [devAlarmBuff_alarm_of_ne _ (by decide), devAlarmBuff_alarm_of_ne _ (by decide),
      devAlarmBuff_alarm_of_ne _ (by decide), bit_alarm _ (by decide)]
    exact bit_alarm_self _ (by decide) _ _ _ (by rw [hcab]; rfl)
  · refine ⟨0, by decide, by decide, by decide, hzero (b := 0x04) ?_⟩
    rw [devAlarmBuff_alarm_of_ne _ (by decide), devAlarmBuff_alarm_of_ne _ (by decide),
      devAlarmBuff_alarm_of_ne _ (by decide)]
    exact bit_alarm_self _ (by decide) _ _ _ (by rw [hpol.1, hpol.2]; rfl)
  · refine ⟨1, by decide, by decide, by decide, hzero (b := 0x01) ?_⟩
    rw [devAlarmBuff_alarm_of_ne _ (by decide), devAlarmBuff_alarm_of_ne _ (by decide)]
    exact bit_alarm_self _ (by decide) _ _ _ (by rw [hbeacon]; rfl)

theorem devAlarmBuff_axisLimit_of_ne {i : Fin 6} (h : i ≠ 5) (part : AntennaPart) :
    (axisLimit e part c).devAlarmBuff i = c.devAlarmBuff i := by
  obtain ⟨-, heq⟩ | ⟨-, cnt, heq⟩ | ⟨-, cnt, heq⟩ := axisLimit_cases e c part
  · rw [heq]
    exact Function.update_of_ne h ..
  · rw [heq]
  · rw [heq, raiseLimit_eq]
    exact Function.update_of_ne h ..

theorem devAlarmBuff_gpsAlarm_of_ne {i : Fin 6} (h : i ≠ 4) :
    (gpsAlarm e c).devAlarmBuff i = c.devAlarmBuff i := by
  obtain ⟨gpsTimeoutCnt, heq | heq | heq⟩ := gpsAlarm_cases e c
  · rw [heq]
    exact Function.update_of_ne h ..
  · rw [heq]
  · rw [heq]
    exact devAlarmBuff_alarm_of_ne _ h ..

/-- A bit of the sixth byte is on for every limit whose alarm is raised. -/
theorem buff_ne_zero_of_raises {e : Input} {s : Sta} (hpdu : e.pduLinked = true)
    {part : AntennaPart} (h : (s.axis part).Raises (e.limitDir s.curr.antenna part)) :
    (alarms e s).devAlarmBuff 5 ≠ 0 := by
  have haxis := axis_alarms e s part
  rw [if_pos hpdu, Axis.next, if_neg h.1, if_pos h.2.1, if_pos h.2.2] at haxis
  intro hzero
  have hoff (dir : UInt8) : limitOn (alarms e s).devAlarmBuff part dir = false := by
    simp [limitOn, hzero]
  simp only [Sta.axis, hoff, Axis.mk.injEq] at haxis
  obtain ⟨-, -, hlow, hhigh⟩ := haxis
  simp only [Bool.false_eq, Bool.or_eq_false_iff, decide_eq_false_iff_not] at hlow hhigh
  exact hhigh.2 hlow.2

theorem high_pduAlarms (hpdu : e.pduLinked = true) :
    (pduAlarms e c).alarmHighFlag = true ↔ c.alarmHighFlag = true ∨
      ∃ part, (c.toSta.axis part).Raises (e.limitDir c.curr.antenna part) := by
  have hthree (P : AntennaPart → Prop) :
      (∃ part, P part) ↔ P .position ∨ P .cabrage ∨ P .polar := by
    constructor
    · rintro ⟨part, h⟩
      cases part with
      | position => exact Or.inl h
      | cabrage => exact Or.inr (Or.inl h)
      | polar => exact Or.inr (Or.inr h)
    · rintro (h | h | h)
      · exact ⟨_, h⟩
      · exact ⟨_, h⟩
      · exact ⟨_, h⟩
  unfold pduAlarms
  dsimp only
  rw [if_pos hpdu]
  simp only [high_axisLimit, axis_axisLimit, curr_axisLimit, curr_alarm, high_alarm,
    axis_alarm _ _ (show (3 : Fin 6) ≠ 5 by decide), Bool.and_false, Bool.or_false, hthree, or_assoc,
    reduceCtorEq, if_false]

theorem motors_gpsAlarm : (gpsAlarm e c).motors = c.motors := by
  obtain ⟨gpsTimeoutCnt, h | h | h⟩ := gpsAlarm_cases e c
  · rw [h]
    rfl
  · rw [h]
    rfl
  · rw [h, motors_alarm]
    rfl

theorem taskRunFlag_gpsAlarm : (gpsAlarm e c).taskRunFlag = c.taskRunFlag := by
  obtain ⟨gpsTimeoutCnt, h | h | h⟩ := gpsAlarm_cases e c
  · rw [h]
  · rw [h]
  · rw [h, taskRunFlag_alarm]

theorem high_gpsAlarm : (gpsAlarm e c).alarmHighFlag = c.alarmHighFlag := by
  obtain ⟨gpsTimeoutCnt, h | h | h⟩ := gpsAlarm_cases e c
  · rw [h]
  · rw [h]
  · rw [h, high_alarm, Bool.and_false, Bool.or_false]

theorem taskRunFlag_pduAlarms (hpdu : e.pduLinked = true) :
    (pduAlarms e c).taskRunFlag = c.taskRunFlag := by
  unfold pduAlarms
  dsimp only
  rw [if_pos hpdu]
  simp only [taskRunFlag_axisLimit, taskRunFlag_alarm]

end

/-! ### The alarms of a call -/

section
variable {e : Input} (s : Sta) (hpdu : e.pduLinked = true)

include hpdu

theorem taskRunFlag_alarms : (alarms e s).taskRunFlag = s.taskRunFlag := by
  rw [alarms, taskRunFlag_gpsAlarm, taskRunFlag_pduAlarms _ _ hpdu, taskRunFlag_linkAlarms]

/-- **The flag of a high alarm** is set for a broken link or a raised limit. -/
theorem high_alarms : (alarms e s).alarmHighFlag = true ↔ HighAlarm e s := by
  rw [alarms, high_gpsAlarm, high_pduAlarms _ _ hpdu, high_linkAlarms]
  simp only [axis_linkAlarms, curr_linkAlarms, HighAlarm, Bool.false_eq_true, false_or]

/-- A high alarm is among the alarms that are reported. -/
theorem devAlarmFlag_of_high (h : HighAlarm e s) : 0 < devAlarmFlag (alarms e s).devAlarmBuff := by
  have hone : ∃ i, (alarms e s).devAlarmBuff i ≠ 0 := by
    obtain hlink | ⟨part, hraises⟩ := h
    · obtain ⟨i, h3, h4, h5, hbit⟩ := buff_linkAlarms { s with sent := [], alarmHighFlag := false } hlink
      refine ⟨i, ?_⟩
      rw [alarms, devAlarmBuff_gpsAlarm_of_ne _ _ h4, pduAlarms]
      dsimp only
      rwa [if_pos hpdu, devAlarmBuff_axisLimit_of_ne _ _ h5, devAlarmBuff_axisLimit_of_ne _ _ h5,
        devAlarmBuff_axisLimit_of_ne _ _ h5, devAlarmBuff_alarm_of_ne _ h3]
    · exact ⟨5, buff_ne_zero_of_raises hpdu hraises⟩
  rw [devAlarmFlag, if_pos hone]
  decide

/-- Every axis is served. -/
theorem served_alarms (part : AntennaPart) : (alarms e s).Served e s part := by
  have hwaiting : (alarm 3 0x01 none false false
      (linkAlarms e { s with sent := [], alarmHighFlag := false })).Waiting s part := by
    have hmotors := motors_linkAlarms e { s with sent := [], alarmHighFlag := false }
    rw [← motors_alarm _ 3 0x01 none false false] at hmotors
    refine ⟨⟨congrFun (congrArg Motors.motorMove hmotors) part, ?_⟩, ?_, ?_⟩
    · have hsent : Call.sent _ = [] := congrArg Motors.sent hmotors
      rw [hsent]
      exact fun d hd => absurd hd List.not_mem_nil
    · rw [axis_alarm _ _ (by decide), axis_linkAlarms]
    · rw [curr_alarm, curr_linkAlarms]
  rw [alarms, pduAlarms]
  dsimp only
  rw [if_pos hpdu]
  exact hwaiting.limits.congr (motors_gpsAlarm ..)

end

/-! ### The tasks a high alarm ends -/

section
variable {e : Input} {c : Call} {part : AntennaPart}

theorem stopped_endTask (h : c.motors.Stopped part) (i : Fin 3) :
    (endTask e c i).motors.Stopped part := by
  have hall := stopped_allDriveEnd e.pdu part h
  unfold endTask
  dsimp only
  split
  · split
    · exact stopped_allDriveEnd e.pdu part hall
    · exact hall
  · exact h

theorem stopped_endTask_self {i : Fin 3} (h : 0 < c.taskRunFlag i) :
    (endTask e c i).motors.Stopped part := by
  unfold endTask
  dsimp only
  rw [if_pos h]
  split
  · exact stopped_allDriveEnd_self ..
  · exact stopped_allDriveEnd_self ..

theorem endTask_of_not {i : Fin 3} (h : ¬ 0 < c.taskRunFlag i) : endTask e c i = c := by
  rw [endTask, if_neg h]

theorem taskRunFlag_endTask_of_ne {i j : Fin 3} (h : j ≠ i) :
    (endTask e c i).taskRunFlag j = c.taskRunFlag j := by
  unfold endTask
  dsimp only
  split
  · exact Function.update_of_ne h ..
  · rfl

/-- The three tasks, one after the other. -/
theorem stopped_endTasks {i : Fin 3} (h : 0 < c.taskRunFlag i) :
    (endTask e (endTask e (endTask e c 0) 1) 2).motors.Stopped part := by
  obtain rfl | rfl | rfl : i = 0 ∨ i = 1 ∨ i = 2 := by omega
  · exact stopped_endTask (stopped_endTask (stopped_endTask_self h) 1) 2
  · exact stopped_endTask
      (stopped_endTask_self (by rwa [taskRunFlag_endTask_of_ne (by decide)])) 2
  · exact stopped_endTask_self
      (by rwa [taskRunFlag_endTask_of_ne (by decide), taskRunFlag_endTask_of_ne (by decide)])

theorem endTasks_of_not (h : ¬ ∃ i, 0 < c.taskRunFlag i) :
    endTask e (endTask e (endTask e c 0) 1) 2 = c := by
  have hnot (i : Fin 3) : ¬ 0 < c.taskRunFlag i := fun hi => h ⟨i, hi⟩
  rw [endTask_of_not (hnot 0), endTask_of_not (hnot 1), endTask_of_not (hnot 2)]

/-- What ends the tasks is all that standby does to the motors. -/
theorem motors_standby :
    (standby e c).motors =
      if 0 < c.curr.devAlarmFlag ∧ c.alarmHighFlag = true then
        (endTask e (endTask e (endTask e c 0) 1) 2).motors
      else c.motors := by
  unfold standby
  split
  · dsimp only
    generalize endTask e (endTask e (endTask e c 0) 1) 2 = c'
    split
    · rfl
    · rfl
  · rfl

/-- A high alarm with a task that runs stops every motor. -/
theorem stopped_standby (halarm : 0 < c.curr.devAlarmFlag ∧ c.alarmHighFlag = true)
    (h : ∃ i, 0 < c.taskRunFlag i) : (standby e c).motors.Stopped part := by
  obtain ⟨i, hi⟩ := h
  rw [motors_standby, if_pos halarm]
  exact stopped_endTasks hi

theorem stopped_standby_of_stopped (h : c.motors.Stopped part) :
    (standby e c).motors.Stopped part := by
  rw [motors_standby]
  split
  · exact stopped_endTask (stopped_endTask (stopped_endTask h 0) 1) 2
  · exact h

theorem motors_standby_of_not
    (h : ¬ ((0 < c.curr.devAlarmFlag ∧ c.alarmHighFlag = true) ∧ ∃ i, 0 < c.taskRunFlag i)) :
    (standby e c).motors = c.motors := by
  rw [motors_standby]
  split
  · next halarm => rw [endTasks_of_not fun htask => h ⟨halarm, htask⟩]
  · rfl

theorem motors_idle : (idle c).motors = c.motors := by
  obtain h | h := idle_cases c
  · rw [h]
  · rw [h]
    rfl

end

/-! ### The whole call -/

section
variable {e : Input} {s : Sta} (hpdu : e.pduLinked = true) (part : AntennaPart)

include hpdu

theorem high_report_iff :
    (0 < (report (alarms e s)).curr.devAlarmFlag ∧ (report (alarms e s)).alarmHighFlag = true) ↔
      HighAlarm e s :=
  ⟨fun h => (high_alarms s hpdu).mp h.2,
    fun h => ⟨devAlarmFlag_of_high s hpdu h, (high_alarms s hpdu).mpr h⟩⟩

/-- **What a call does to a motor**: it is stopped, or nothing is sent to it. -/
theorem stopped_devHWSta
    (h : LimitStop e s part ∨ HighAlarm e s ∧ ∃ i, 0 < s.taskRunFlag i) :
    (devHWSta e s).motors.Stopped part := by
  rw [devHWSta, motors_idle]
  obtain hlimit | ⟨hhigh, htask⟩ := h
  · exact stopped_standby_of_stopped ((served_alarms s hpdu part).stopped hlimit)
  · refine stopped_standby ((high_report_iff hpdu).mpr hhigh) ?_
    have htasks : (report (alarms e s)).taskRunFlag = s.taskRunFlag := taskRunFlag_alarms s hpdu
    rwa [htasks]

theorem untouched_devHWSta (hlimit : ¬ LimitStop e s part)
    (htask : ¬ (HighAlarm e s ∧ ∃ i, 0 < s.taskRunFlag i)) :
    (devHWSta e s).Untouched s part := by
  have hmotors : (devHWSta e s).motors = (alarms e s).motors := by
    rw [devHWSta, motors_idle]
    refine (motors_standby_of_not ?_).trans rfl
    rw [high_report_iff hpdu]
    have htasks : (report (alarms e s)).taskRunFlag = s.taskRunFlag := taskRunFlag_alarms s hpdu
    rwa [htasks]
  exact ((served_alarms s hpdu part).untouched hlimit).congr hmotors

end

/-! ### No motor is started -/

section
variable (e : Input) (c : Call)

theorem eases_endTask (i : Fin 3) : c.motors.Eases (endTask e c i).motors := by
  have hall := eases_allDriveEnd e.pdu c.motors
  unfold endTask
  dsimp only
  split
  · split
    · exact hall.trans (eases_allDriveEnd e.pdu _)
    · exact hall
  · exact .refl _

theorem eases_standby : c.motors.Eases (standby e c).motors := by
  rw [motors_standby]
  split
  · exact ((eases_endTask e c 0).trans (eases_endTask e _ 1)).trans (eases_endTask e _ 2)
  · exact .refl _

end

theorem eases_devHWSta (e : Input) (s : Sta) :
    (alarms e s).motors.Eases (devHWSta e s).motors := by
  rw [devHWSta, motors_idle]
  exact eases_standby e (report (alarms e s))

theorem motorMove_of_eases {c c' : Call} (h : c.motors.Eases c'.motors) (part : AntennaPart) :
    c'.motorMove part = 0x00 ∨ c'.motorMove part = c.motorMove part := h part

/-- A stop that is answered is not undone in the call. -/
theorem motorMove_of_answered {e : Input} {s : Sta} (hpdu : e.pduLinked = true)
    {part : AntennaPart} (h : LimitStop e s part) (hret : e.pdu part 0 = .SUCC) :
    (devHWSta e s).motorMove part = 0x00 := by
  have hoff := (served_alarms s hpdu part).answered h hret
  obtain hzero | hsame := motorMove_of_eases (eases_devHWSta e s) part
  · exact hzero
  · exact hsame.trans hoff

/-- Without a stop for a limit a motor is at most stopped with the tasks. -/
theorem motorMove_of_not_limitStop {e : Input} {s : Sta} (hpdu : e.pduLinked = true)
    {part : AntennaPart} (h : ¬ LimitStop e s part) :
    (devHWSta e s).motorMove part = 0x00 ∨ (devHWSta e s).motorMove part = s.motorMove part := by
  have hmove := ((served_alarms s hpdu part).untouched h).move
  obtain hzero | hsame := motorMove_of_eases (eases_devHWSta e s) part
  · exact Or.inl hzero
  · exact Or.inr (hsame.trans hmove)

end SwiftAcu.Monitor
