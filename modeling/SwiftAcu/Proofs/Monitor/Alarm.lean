/-
Whether the limit alarms tell the truth.

The counter of an axis counts both its limits, and an alarm is taken back only when the
axis is at neither.  So an axis that goes from one limit to the other without a call in
between may raise an alarm too early, or next to the one that is up; and that is all that
can go wrong.
-/
import SwiftAcu.Proofs.Monitor.Axis

namespace SwiftAcu.Monitor

/-! ### The statement -/

/-- The alarm of a limit is up for the front ends. -/
def Sta.alarmUp (s : Sta) (part : AntennaPart) (dir : UInt8) : Prop :=
  limitOn s.curr.devAlarmBuff part dir = true

/-- One axis after a call: its alarms exclude each other, match its state, and are not new
unless it has been at the limit for three calls. -/
def TrueAlarm (s s' : Sta) (part : AntennaPart) (streak : Streak) : Prop :=
  ¬ (s'.alarmUp part dirLeftDownAnticlock ∧ s'.alarmUp part dirRightUpClock) ∧
    ∀ dir, dir = dirLeftDownAnticlock ∨ dir = dirRightUpClock → s'.alarmUp part dir →
      s'.motorLimitSta part = dir ∧ (¬ s.alarmUp part dir → streak.dir = dir ∧ 3 ≤ streak.len)

/-- The limit alarms are right after a call. -/
def AlarmsTrue (w : Watch) : Action → Prop
  | .tick e => ∀ part,
      TrueAlarm w.sta (w.step (.tick e)).sta part ((w.step (.tick e)).streak part)
  | _ => True

/--
No third count at a limit whose alarm is not up meets the alarm of the other limit, or an
axis that was not at this limit in the two calls before.
-/
def Unmixed (w : Watch) : Action → Prop
  | .tick e => ∀ part, e.limitDir w.sta.curr.antenna part ≠ 0x00 →
      w.sta.limitAlarmCnt part = 2 →
      w.sta.motorLimitSta part ≠ e.limitDir w.sta.curr.antenna part →
        w.sta.motorLimitSta part = 0x00 ∧
          (w.streak part).dir = e.limitDir w.sta.curr.antenna part ∧ 2 ≤ (w.streak part).len
  | _ => True

/-- The power unit is linked in a call. -/
def Action.PduLinked : Action → Prop
  | .tick e => e.pduLinked = true
  | _ => True

/-! ### One axis -/

/-- The counter is below three, and the alarm bit is that of the state. -/
structure Axis.Ok (v : Axis) : Prop where
  cnt : v.cnt = 0 ∨ v.cnt = 1 ∨ v.cnt = 2
  sta : v.sta = 0x00 ∨ v.sta = dirLeftDownAnticlock ∨ v.sta = dirRightUpClock
  low : v.low = decide (v.sta = dirLeftDownAnticlock)
  high : v.high = decide (v.sta = dirRightUpClock)

/-- The condition on a call for one axis. -/
def Axis.Unmixed (v : Axis) (streak : Streak) (dir : UInt8) : Prop :=
  dir ≠ 0x00 → v.cnt = 2 → v.sta ≠ dir → v.sta = 0x00 ∧ streak.dir = dir ∧ 2 ≤ streak.len

/-- The statement on a call for one axis. -/
def Axis.Truthful (v v' : Axis) (streak : Streak) : Prop :=
  ¬ (v'.low = true ∧ v'.high = true) ∧
    (v'.low = true → v'.sta = dirLeftDownAnticlock ∧
      (v.low = false → streak.dir = dirLeftDownAnticlock ∧ 3 ≤ streak.len)) ∧
    (v'.high = true → v'.sta = dirRightUpClock ∧
      (v.high = false → streak.dir = dirRightUpClock ∧ 3 ≤ streak.len))

theorem dirs_ne : dirRightUpClock ≠ dirLeftDownAnticlock := by decide

theorem limitDir_cases (degree start stop : FP32) :
    SwiftAcu.limitDir degree start stop = 0x00 ∨
      SwiftAcu.limitDir degree start stop = dirLeftDownAnticlock ∨
      SwiftAcu.limitDir degree start stop = dirRightUpClock := by
  unfold SwiftAcu.limitDir
  split
  · exact Or.inr (Or.inl rfl)
  · split
    · exact Or.inr (Or.inr rfl)
    · exact Or.inl rfl

theorem Input.limitDir_cases (e : Input) (curr : Degrees) (part : AntennaPart) :
    e.limitDir curr part = 0x00 ∨ e.limitDir curr part = dirLeftDownAnticlock ∨
      e.limitDir curr part = dirRightUpClock := by
  unfold Input.limitDir
  split
  · exact Monitor.limitDir_cases ..
  · exact Or.inl rfl

/-- A third count at a limit raises its alarm, if it is not up. -/
theorem Axis.next_of_raise {v : Axis} {dir : UInt8} (hdir : dir ≠ 0x00) (hcnt : v.cnt = 2)
    (hup : v.sta ≠ dir) : v.next dir =
      ⟨0, dir, v.low || dir = dirLeftDownAnticlock, v.high || dir ≠ dirLeftDownAnticlock⟩ := by
  rw [Axis.next, if_neg hdir, if_pos (by rw [hcnt]; decide), if_pos hup]

/-- Any other call at a limit only counts. -/
theorem Axis.next_of_count {v : Axis} {dir : UInt8} (hok : v.Ok) (hdir : dir ≠ 0x00)
    (h : v.cnt = 2 → v.sta = dir) :
    ∃ cnt, (cnt = 0 ∨ cnt = 1 ∨ cnt = 2) ∧ v.next dir = { v with cnt } := by
  rw [Axis.next, if_neg hdir]
  obtain hcnt | hcnt | hcnt := hok.cnt
  · exact ⟨1, Or.inr (Or.inl rfl), by rw [hcnt]; rfl⟩
  · exact ⟨2, Or.inr (Or.inr rfl), by rw [hcnt]; rfl⟩
  · refine ⟨0, Or.inl rfl, ?_⟩
    rw [hcnt, if_pos (by decide), if_neg (not_not.mpr (h hcnt))]

theorem Axis.next_of_none {v : Axis} : v.next 0x00 = ⟨0, 0x00, false, false⟩ := rfl

/-- An axis that is not at a limit is in order. -/
theorem Axis.ok_none : Axis.Ok ⟨0, 0x00, false, false⟩ :=
  ⟨Or.inl rfl, Or.inl rfl, rfl, rfl⟩

/-- An axis in order tells the truth as long as its alarms do not change. -/
theorem Axis.Ok.truthful {v v' : Axis} (hok : v.Ok) (hsta : v'.sta = v.sta) (hlow : v'.low = v.low)
    (hhigh : v'.high = v.high) (streak : Streak) : v.Truthful v' streak := by
  have hlow' : v.low = true → v.sta = dirLeftDownAnticlock := by
    intro h
    simpa [hok.low] using h
  have hhigh' : v.high = true → v.sta = dirRightUpClock := by
    intro h
    simpa [hok.high] using h
  rw [Axis.Truthful, hsta, hlow, hhigh]
  refine ⟨?_, fun h => ⟨hlow' h, fun hnot => ?_⟩, fun h => ⟨hhigh' h, fun hnot => ?_⟩⟩
  · rintro ⟨hl, hh⟩
    exact absurd ((hlow' hl).symm.trans (hhigh' hh)) (by decide)
  · exact absurd (h.symm.trans hnot) (by decide)
  · exact absurd (h.symm.trans hnot) (by decide)

/-- Three calls at a limit are two before this one. -/
theorem Streak.three_le_next {k : Streak} {dir : UInt8} (hdir : dir ≠ 0x00) :
    (k.next dir).dir = dir ∧ 3 ≤ (k.next dir).len ↔ k.dir = dir ∧ 2 ≤ k.len := by
  rw [Streak.next, if_neg hdir]
  by_cases hsame : dir = k.dir
  · rw [if_pos hsame]
    exact and_congr ⟨fun _ => hsame.symm, fun _ => rfl⟩ (by dsimp only; omega)
  · rw [if_neg hsame]
    have hshort : ¬ 3 ≤ (1 : Nat) := by decide
    exact iff_of_false (fun h => hshort h.2) fun h => hsame h.1.symm

/-- **One call** leaves an axis in order and truthful exactly under its condition. -/
theorem Axis.next_spec {v : Axis} (hok : v.Ok) (streak : Streak) {dir : UInt8}
    (hdir : dir = 0x00 ∨ dir = dirLeftDownAnticlock ∨ dir = dirRightUpClock) :
    (v.Truthful (v.next dir) (streak.next dir) ↔ v.Unmixed streak dir) ∧
      (v.Unmixed streak dir → (v.next dir).Ok) := by
  by_cases hzero : dir = 0x00
  · subst hzero
    rw [Axis.next_of_none]
    refine ⟨iff_of_true ?_ fun h => absurd rfl h, fun _ => Axis.ok_none⟩
    exact ⟨by simp, by simp, by simp⟩
  by_cases hcount : v.cnt = 2 → v.sta = dir
  · obtain ⟨cnt, hcnt, hnext⟩ := Axis.next_of_count hok hzero hcount
    rw [hnext]
    have hunmixed : v.Unmixed streak dir := fun _ h2 hne => absurd (hcount h2) hne
    exact ⟨iff_of_true (hok.truthful rfl rfl rfl _) hunmixed, fun _ => ⟨hcnt, hok.sta, hok.low, hok.high⟩⟩
  obtain ⟨h2, hup⟩ := Classical.not_imp.mp hcount
  rw [Axis.next_of_raise hzero h2 hup]
  have hcond : v.Unmixed streak dir ↔ v.sta = 0x00 ∧ streak.dir = dir ∧ 2 ≤ streak.len :=
    ⟨fun h => h hzero h2 hup, fun h _ _ _ => h⟩
  rw [hcond]
  obtain hsta | hsta | hsta := hok.sta
  · -- no alarm is up
    have hlow : v.low = false := by rw [hok.low, hsta]; rfl
    have hhigh : v.high = false := by rw [hok.high, hsta]; rfl
    rw [← Streak.three_le_next hzero]
    obtain rfl | rfl | rfl := hdir
    · exact absurd rfl hzero
    · refine ⟨?_, fun _ => ⟨Or.inl rfl, Or.inr (Or.inl rfl), by simp, by simp [hhigh, dirs_ne.symm]⟩⟩
      simp [Axis.Truthful, hlow, hhigh, hsta]
    · refine ⟨?_, fun _ => ⟨Or.inl rfl, Or.inr (Or.inr rfl), by simp [hlow, dirs_ne],
        by simp [dirs_ne]⟩⟩
      simp [Axis.Truthful, hlow, hhigh, hsta, dirs_ne]
  · -- the low one is up, so this is the high one
    have hlow : v.low = true := by rw [hok.low, hsta]; rfl
    have hnot : v.sta ≠ 0x00 := by rw [hsta]; decide
    obtain rfl | rfl | rfl := hdir
    · exact absurd rfl hzero
    · exact absurd hsta hup
    · exact ⟨iff_of_false (fun h => h.1 (by simp [hlow, dirs_ne])) fun h => hnot h.1,
        fun h => absurd h.1 hnot⟩
  · -- the high one is up, so this is the low one
    have hhigh : v.high = true := by rw [hok.high, hsta]; rfl
    have hnot : v.sta ≠ 0x00 := by rw [hsta]; decide
    obtain rfl | rfl | rfl := hdir
    · exact absurd rfl hzero
    · exact ⟨iff_of_false (fun h => h.1 (by simp [hhigh])) fun h => hnot h.1,
        fun h => absurd h.1 hnot⟩
    · exact absurd hsta hup

/-! ### All axes -/

/-- Every axis is in order, and what is reported is what is kept. -/
structure Watch.Ok (w : Watch) : Prop where
  axis : ∀ part, (w.sta.axis part).Ok
  reported : w.sta.curr.devAlarmBuff = w.sta.devAlarmBuff

theorem trueAlarm_iff {s s' : Sta} (h : s.curr.devAlarmBuff = s.devAlarmBuff)
    (h' : s'.curr.devAlarmBuff = s'.devAlarmBuff) (part : AntennaPart) (streak : Streak) :
    TrueAlarm s s' part streak ↔ (s.axis part).Truthful (s'.axis part) streak := by
  unfold TrueAlarm Axis.Truthful Sta.alarmUp Sta.axis
  rw [h, h']
  dsimp only
  refine and_congr_right fun _ => ⟨fun hdir => ⟨fun hlow => ?_, fun hhigh => ?_⟩, ?_⟩
  · have hup := hdir _ (Or.inl rfl) hlow
    exact ⟨hup.1, fun hnot => hup.2 (by rw [hnot]; decide)⟩
  · have hup := hdir _ (Or.inr rfl) hhigh
    exact ⟨hup.1, fun hnot => hup.2 (by rw [hnot]; decide)⟩
  · rintro ⟨hlow, hhigh⟩ dir (rfl | rfl) hup
    · exact ⟨(hlow hup).1, fun hnot => (hlow hup).2 (Bool.eq_false_iff.mpr hnot)⟩
    · exact ⟨(hhigh hup).1, fun hnot => (hhigh hup).2 (Bool.eq_false_iff.mpr hnot)⟩

theorem sta_tick (w : Watch) (e : Input) : (w.step (.tick e)).sta = (devHWSta e w.sta).toSta := by
  simp only [Watch.step, step]

theorem reported_tick (w : Watch) (e : Input) :
    (w.step (.tick e)).sta.curr.devAlarmBuff = (w.step (.tick e)).sta.devAlarmBuff := by
  rw [sta_tick]
  exact devAlarmBuff_devHWSta e w.sta

theorem axis_tick {w : Watch} {e : Input} (h : e.pduLinked = true) (part : AntennaPart) :
    (w.step (.tick e)).sta.axis part =
      (w.sta.axis part).next (e.limitDir w.sta.curr.antenna part) := by
  have hcall := axis_devHWSta e w.sta part
  rw [if_pos h] at hcall
  rw [sta_tick]
  exact hcall

/-- **A call** is truthful exactly under the condition, and keeps the order then. -/
theorem alarmsTrue_iff {w : Watch} (hok : w.Ok) {a : Action} (ha : a.PduLinked) :
    AlarmsTrue w a ↔ Unmixed w a := by
  cases a with
  | tick e =>
      refine forall_congr' fun part => ?_
      rw [trueAlarm_iff hok.reported (reported_tick w e), axis_tick ha part]
      exact (Axis.next_spec (hok.axis part) (w.streak part) (e.limitDir_cases ..)).1
  | measure antenna => exact Iff.rfl
  | start part direction limit ret => exact Iff.rfl
  | stop part ret => exact Iff.rfl
  | others taskRunFlag seekSatMode devWorkSta devAdmin => exact Iff.rfl

theorem ok_step {w : Watch} (hok : w.Ok) {a : Action} (ha : a.PduLinked) (h : Unmixed w a) :
    (w.step a).Ok := by
  cases a with
  | tick e =>
      refine ⟨fun part => ?_, reported_tick w e⟩
      rw [axis_tick ha part]
      exact (Axis.next_spec (hok.axis part) (w.streak part) (e.limitDir_cases ..)).2 (h part)
  | measure antenna => exact ⟨hok.axis, hok.reported⟩
  | start part direction limit ret => exact ⟨hok.axis, hok.reported⟩
  | stop part ret => exact ⟨hok.axis, hok.reported⟩
  | others taskRunFlag seekSatMode devWorkSta devAdmin => exact ⟨hok.axis, hok.reported⟩

theorem ok_boot (curr : CurrSta) (seekSatMode devWorkSta : UInt8) (devAdmin : DevAdmin) :
    (Watch.boot curr seekSatMode devWorkSta devAdmin).Ok := by
  refine ⟨fun part => ?_, rfl⟩
  have hbits (dir : UInt8) : limitOn (fun _ => 0) part dir = false := by simp [limitOn]
  exact ⟨Or.inl rfl, Or.inl rfl, hbits _, hbits _⟩

/-- **The limit alarms tell the truth** throughout exactly the runs in which no third count is
reached across both limits. -/
theorem alarms_true_iff (curr : CurrSta) (seekSatMode devWorkSta : UInt8) (devAdmin : DevAdmin)
    (as : List Action) (h : ∀ a ∈ as, a.PduLinked) :
    Runs.AllSteps Watch.step AlarmsTrue (.boot curr seekSatMode devWorkSta devAdmin) as ↔
      Runs.AllSteps Watch.step Unmixed (.boot curr seekSatMode devWorkSta devAdmin) as :=
  Runs.allSteps_iff_of_inv (fun _ a ha hok => alarmsTrue_iff hok (h a ha))
    (fun _ a ha hok => ok_step hok (h a ha)) (ok_boot curr seekSatMode devWorkSta devAdmin)

/-! ### From one limit to the other -/

/-- Everything is linked, and the power unit answers as given. -/
def linkedInput (pdu : Pdu) : Input :=
  { encoderLinked := fun _ => true
    elecCoderNum := 3
    beaconLinked := true
    eepromLinked := true
    flashLinked := true
    pduLinked := true
    softLimit := ⟨⟨110, 5, -90⟩, ⟨260, 85, 90⟩⟩
    dataSrcFlag := 0x00
    gpsValid := 0x41
    periodMs := 100
    pdu }

/-- A call in which every motor command succeeds. -/
def calmTick : Action := .tick (linkedInput fun _ _ => .SUCC)

/-- A device that has just started, in standby. -/
def startedWatch : Watch :=
  .boot ⟨⟨180, 45, 0⟩, 0, 0, 0, 0, 0, fun _ => 0, fun _ => 0, fun _ => 0⟩ 0x00 0x00
    ⟨0, 0, 0, 0, 0, 0, 0, 0⟩

/-- The antenna stays left for three calls. -/
def leftRun : List Action := [.measure ⟨100, 45, 0⟩, calmTick, calmTick, calmTick]

theorem pduLinked_leftRun : ∀ a ∈ leftRun, a.PduLinked := by
  intro a ha
  simp only [leftRun, List.mem_cons, List.not_mem_nil, or_false] at ha
  obtain rfl | rfl | rfl | rfl := ha
  · trivial
  · rfl
  · rfl
  · rfl

theorem unmixed_leftRun : Runs.AllSteps Watch.step Unmixed startedWatch leftRun := by
  refine ⟨trivial, fun part => ?_, fun part => ?_, fun part => ?_, trivial⟩
  all_goals cases part <;> decide +kernel

/-- Its left limit is reported rightly. -/
theorem alarms_true_leftRun : Runs.AllSteps Watch.step AlarmsTrue startedWatch leftRun :=
  (alarms_true_iff _ _ _ _ leftRun pduLinked_leftRun).mpr unmixed_leftRun

/-- It is then seen right for three calls, and both azimuth alarms are up. -/
theorem not_alarms_true_leftRight :
    ¬ Runs.AllSteps Watch.step AlarmsTrue startedWatch
      (leftRun ++ [.measure ⟨270, 45, 0⟩, calmTick, calmTick, calmTick]) := by
  intro h
  have hlast := (Runs.allSteps_iff_split _ _).mp h
    (leftRun ++ [.measure ⟨270, 45, 0⟩, calmTick, calmTick]) calmTick [] rfl
  have hone : TrueAlarm _ _ .position _ := hlast .position
  exact hone.1 ⟨by unfold Sta.alarmUp; decide +kernel, by unfold Sta.alarmUp; decide +kernel⟩

end SwiftAcu.Monitor
