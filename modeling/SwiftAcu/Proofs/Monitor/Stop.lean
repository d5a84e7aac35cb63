/-
Whether a motor can push past a limit.

The monitor stops a motor when it raises the alarm of the limit the motor moves toward,
and at no other call: a stop that is lost is not sent again while the alarm is up.  The
only other stops are those of a high alarm that ends a running task.  So a motor pushes on
exactly if it moves toward a limit whose alarm is up already, and no task is ended.
-/
import SwiftAcu.Proofs.Monitor.Alarm
import SwiftAcu.Proofs.Monitor.Motors

namespace SwiftAcu.Monitor

/-! ### The statement -/

/-- The axis has been at the limit `dir` for three calls or more. -/
def Streak.Long (k : Streak) (dir : UInt8) : Prop := k.dir = dir ∧ 3 ≤ k.len

/-- After a call no motor moves toward a limit at which its axis has been for three calls,
unless a stop of it was sent in this call and failed. -/
def NoPush (w : Watch) : Action → Prop
  | .tick e => ∀ part dir, dir ≠ 0x00 → ((w.step (.tick e)).streak part).Long dir →
      (devHWSta e w.sta).motorMove part ≠ dir ∨ StopFailed (devHWSta e w.sta).sent part
  | _ => True

/-- A motor that moves toward a limit whose alarm has been up before the third call or a later
one is stopped with a task that a high alarm ends. -/
def AlarmStops (w : Watch) : Action → Prop
  | .tick e => ∀ part dir, dir ≠ 0x00 → ((w.step (.tick e)).streak part).Long dir →
      w.sta.motorLimitSta part = dir → w.sta.motorMove part = dir →
        HighAlarm e w.sta ∧ ∃ i, 0 < w.sta.taskRunFlag i
  | _ => True

/-! ### The counter and the streak -/

/-- An axis that has been at a limit for longer than the counter has counted has its alarm up. -/
structure Axis.Counts (v : Axis) (k : Streak) : Prop where
  cnt : v.cnt = 0 ∨ v.cnt = 1 ∨ v.cnt = 2
  sta : v.sta = k.dir ∨ k.len ≤ v.cnt.toNat

/-- A call that does not raise an alarm at a limit leaves the state. -/
theorem Axis.next_of_not_raises {v : Axis} {dir : UInt8} (hdir : dir ≠ 0x00)
    (h : ¬ v.Raises dir) : (v.next dir).sta = v.sta := by
  rw [Axis.next, if_neg hdir]
  split
  · next hcnt =>
      have hup : ¬ v.sta ≠ dir := fun hup => h ⟨hdir, hcnt, hup⟩
      rw [if_neg hup]
  · rfl

theorem Streak.next_dir {k : Streak} {dir : UInt8} (h : dir ≠ 0x00) : (k.next dir).dir = dir := by
  rw [Streak.next, if_neg h]
  split
  · rfl
  · rfl

/-- One call more makes a streak longer by one at most. -/
theorem Streak.next_len {k : Streak} {dir : UInt8} (h : dir ≠ 0x00) :
    (k.next dir).len = 1 ∨ dir = k.dir ∧ (k.next dir).len = k.len + 1 := by
  rw [Streak.next, if_neg h]
  by_cases hsame : dir = k.dir
  · rw [if_pos hsame]
    exact Or.inr ⟨hsame, rfl⟩
  · rw [if_neg hsame]
    exact Or.inl rfl

theorem Axis.Counts.next {v : Axis} {k : Streak} (h : v.Counts k) (dir : UInt8) :
    (v.next dir).Counts (k.next dir) := by
  by_cases hzero : dir = 0x00
  · subst hzero
    exact ⟨Or.inl rfl, Or.inl rfl⟩
  have hcount (cnt : UInt8) (hv : v.next dir = { v with cnt }) (hcnt : cnt.toNat = v.cnt.toNat + 1) :
      (v.next dir).sta = (k.next dir).dir ∨ (k.next dir).len ≤ (v.next dir).cnt.toNat := by
    rw [hv, Streak.next_dir hzero]
    dsimp only
    obtain hone | ⟨hsame, hlen⟩ := Streak.next_len (k := k) hzero
    · right
      omega
    · obtain hsta | hshort := h.sta
      · exact Or.inl (hsta.trans hsame.symm)
      · right
        omega
  obtain hcnt | hcnt | hcnt := h.cnt
  · have hv : v.next dir = { v with cnt := 1 } := by
      rw [Axis.next, if_neg hzero, hcnt, if_neg (by decide)]
      rfl
    exact ⟨by rw [hv]; exact Or.inr (Or.inl rfl), hcount 1 hv (by rw [hcnt]; rfl)⟩
  · have hv : v.next dir = { v with cnt := 2 } := by
      rw [Axis.next, if_neg hzero, hcnt, if_neg (by decide)]
      rfl
    exact ⟨by rw [hv]; exact Or.inr (Or.inr rfl), hcount 2 hv (by rw [hcnt]; rfl)⟩
  · rw [Axis.next, if_neg hzero, hcnt, if_pos (by decide)]
    by_cases hup : v.sta ≠ dir
    · rw [if_pos hup]
      exact ⟨Or.inl rfl, Or.inl (Streak.next_dir hzero).symm⟩
    · rw [if_neg hup]
      exact ⟨Or.inl rfl, Or.inl ((not_not.mp hup).trans (Streak.next_dir hzero).symm)⟩

/-- A long streak has its alarm raised now, if it was not up before. -/
theorem Axis.Counts.raises {v : Axis} {k : Streak} (h : v.Counts k) {dir : UInt8}
    (hdir : dir ≠ 0x00) (hlong : (k.next dir).Long dir) (hup : v.sta ≠ dir) : v.Raises dir := by
  by_contra hnot
  have hsta := Axis.next_of_not_raises hdir hnot
  have hnext := h.next dir
  obtain hnow | hshort := hnext.sta
  · exact hup (hsta.symm.trans (hnow.trans hlong.1))
  · have hlen := hlong.2
    obtain hcnt | hcnt | hcnt := hnext.cnt
    · rw [hcnt] at hshort
      exact absurd (hlen.trans hshort) (by decide)
    · rw [hcnt] at hshort
      exact absurd (hlen.trans hshort) (by decide)
    · rw [hcnt] at hshort
      exact absurd (hlen.trans hshort) (by decide)

/-! ### Runs -/

/-- Every axis is counted. -/
def Watch.Counts (w : Watch) : Prop := ∀ part, (w.sta.axis part).Counts (w.streak part)

theorem counts_step {w : Watch} (h : w.Counts) {a : Action} (ha : a.PduLinked) :
    (w.step a).Counts := by
  cases a with
  | tick e =>
      intro part
      rw [axis_tick ha part]
      exact (h part).next _
  | measure antenna => exact h
  | start part direction limit ret => exact h
  | stop part ret => exact h
  | others taskRunFlag seekSatMode devWorkSta devAdmin => exact h

theorem counts_boot (curr : CurrSta) (seekSatMode devWorkSta : UInt8) (devAdmin : DevAdmin) :
    (Watch.boot curr seekSatMode devWorkSta devAdmin).Counts :=
  fun _ => ⟨Or.inl rfl, Or.inl rfl⟩

/-- A motor that a call has stopped does not push, unless its last stop failed. -/
theorem not_pushes_of_stopped {c : Call} {part : AntennaPart} (h : c.motors.Stopped part)
    {dir : UInt8} (hdir : dir ≠ 0x00) : c.motorMove part ≠ dir ∨ StopFailed c.sent part := by
  obtain hoff | hfailed := h
  · have hmove : c.motorMove part = 0x00 := hoff
    rw [hmove]
    exact Or.inl hdir.symm
  · exact Or.inr hfailed

/-- **A call** leaves no motor pushing exactly under the condition. -/
theorem noPush_iff {w : Watch} (h : w.Counts) {a : Action} (ha : a.PduLinked) :
    NoPush w a ↔ AlarmStops w a := by
  cases a with
  | tick e =>
      refine forall_congr' fun part => forall_congr' fun dir => forall_congr' fun hdir =>
        forall_congr' fun hlong => ?_
      -- the axis is at this limit now
      have hnow : e.limitDir w.sta.curr.antenna part = dir := by
        have hk : ((w.streak part).next (e.limitDir w.sta.curr.antenna part)).Long dir := hlong
        by_cases hzero : e.limitDir w.sta.curr.antenna part = 0x00
        · rw [hzero] at hk
          exact absurd hk.1.symm hdir
        · exact (Streak.next_dir hzero).symm.trans hk.1
      constructor
      · intro hpush hsta hmove
        by_contra htask
        have hlimit : ¬ LimitStop e w.sta part := by
          intro hl
          exact hl.1.2.2 (hsta.trans hnow.symm)
        have huntouched := untouched_devHWSta ha part hlimit htask
        obtain hne | ⟨c, hc, hpart, -⟩ := hpush
        · exact hne (huntouched.move.trans hmove)
        · exact huntouched.sent c hc hpart
      · intro hcond
        by_cases hmove : w.sta.motorMove part = dir
        · by_cases hsta : w.sta.motorLimitSta part = dir
          · exact not_pushes_of_stopped (stopped_devHWSta ha part (Or.inr (hcond hsta hmove))) hdir
          · have hraises : (w.sta.axis part).Raises dir := by
              refine (h part).raises hdir ?_ hsta
              rw [← hnow]
              rw [← hnow] at hlong
              exact hlong
            rw [← hnow] at hraises hmove
            exact not_pushes_of_stopped (stopped_devHWSta ha part (Or.inl ⟨hraises, hmove⟩)) hdir
        · by_cases hcases : LimitStop e w.sta part ∨
              HighAlarm e w.sta ∧ ∃ i, 0 < w.sta.taskRunFlag i
          · exact not_pushes_of_stopped (stopped_devHWSta ha part hcases) hdir
          · obtain ⟨hlimit, htask⟩ := not_or.mp hcases
            left
            rw [(untouched_devHWSta ha part hlimit htask).move]
            exact hmove
  | measure antenna => exact Iff.rfl
  | start part direction limit ret => exact Iff.rfl
  | stop part ret => exact Iff.rfl
  | others taskRunFlag seekSatMode devWorkSta devAdmin => exact Iff.rfl

/-- **No motor pushes past a limit** in exactly the runs in which a motor that moves toward a
limit whose alarm is up is stopped with a task. -/
theorem no_push_iff (curr : CurrSta) (seekSatMode devWorkSta : UInt8) (devAdmin : DevAdmin)
    (as : List Action) (h : ∀ a ∈ as, a.PduLinked) :
    Runs.AllSteps Watch.step NoPush (.boot curr seekSatMode devWorkSta devAdmin) as ↔
      Runs.AllSteps Watch.step AlarmStops (.boot curr seekSatMode devWorkSta devAdmin) as :=
  Runs.allSteps_iff_of_inv (fun _ a ha hok => noPush_iff hok (h a ha))
    (fun _ a ha hok _ => counts_step hok (h a ha)) (counts_boot curr seekSatMode devWorkSta devAdmin)

/-! ### Lost stops -/

/-- The stop of a raised alarm is answered, and no start toward a limit is while its alarm is
up. -/
def Answered (w : Watch) : Action → Prop
  | .tick e => e.pduLinked = true ∧ ∀ part, LimitStop e w.sta part → e.pdu part 0 = .SUCC
  | .start antenna_part direction limit ret => ∀ part, AntennaPart.ofId antenna_part = some part →
      (antennaDriveStart (fun _ _ => ret) w.sta.curr.antenna limit antenna_part direction
        ⟨w.sta.motorMove, []⟩).1 = .SUCC → w.sta.motorLimitSta part ≠ direction
  | _ => True

/-- No motor moves toward a limit whose alarm is up. -/
def Watch.Rests (w : Watch) : Prop :=
  ∀ part, w.sta.motorLimitSta part ≠ 0x00 → w.sta.motorMove part ≠ w.sta.motorLimitSta part

theorem rests_tick {w : Watch} (h : w.Rests) {e : Input} (ha : Answered w (.tick e)) :
    (w.step (.tick e)).Rests := by
  obtain ⟨hpdu, hanswered⟩ := ha
  intro part hsta
  have haxis : ((w.step (.tick e)).sta.axis part).sta =
      ((w.sta.axis part).next (e.limitDir w.sta.curr.antenna part)).sta := by
    rw [axis_tick hpdu part]
  rw [sta_tick] at haxis hsta ⊢
  rw [Sta.axis_sta] at haxis
  by_cases hstop : LimitStop e w.sta part
  · rw [motorMove_of_answered hpdu hstop (hanswered part hstop)]
    exact hsta.symm
  -- nothing is sent for the limit, so the motor moves as before or not at all
  obtain hoff | hmove := motorMove_of_not_limitStop hpdu hstop
  · rw [hoff]
    exact hsta.symm
  rw [hmove]
  by_cases hzero : e.limitDir w.sta.curr.antenna part = 0x00
  · rw [hzero] at haxis
    exact absurd haxis hsta
  by_cases hraises : (w.sta.axis part).Raises (e.limitDir w.sta.curr.antenna part)
  · rw [Axis.next, if_neg hzero, if_pos hraises.2.1, if_pos hraises.2.2] at haxis
    rw [haxis]
    exact fun hdir => hstop ⟨hraises, hdir⟩
  · rw [Axis.next_of_not_raises hzero hraises] at haxis
    rw [haxis] at hsta ⊢
    exact h part hsta

/-- A start leaves the motors, or is answered. -/
theorem motorMove_start (ret : Ret) (curr : Degrees) (limit : SoftLimit)
    (antenna_part direction : UInt8) (m : Motors) (part : AntennaPart) :
    let r := antennaDriveStart (fun _ _ => ret) curr limit antenna_part direction m
    r.2.motorMove part = m.motorMove part ∨
      r.1 = .SUCC ∧ AntennaPart.ofId antenna_part = some part ∧ r.2.motorMove part = direction := by
  dsimp only
  unfold antennaDriveStart
  cases hid : AntennaPart.ofId antenna_part with
  | none => exact Or.inl rfl
  | some part' =>
      dsimp only
      split
      · exact Or.inl rfl
      split
      · exact Or.inl rfl
      cases ret with
      | FAIL => exact Or.inl (congrFun (motorMove_exchange_of_fail _ _ (by decide)) part)
      | SUCC =>
          by_cases hpart : part = part'
          · subst hpart
            exact Or.inr ⟨rfl, rfl, motorMove_exchange_of_succ _ _ rfl⟩
          · exact Or.inl (motorMove_exchange_of_ne _ _ hpart _)

theorem rests_step {w : Watch} (h : w.Rests) {a : Action} (ha : Answered w a) :
    (w.step a).Rests := by
  cases a with
  | tick e => exact rests_tick h ha
  | start antenna_part direction limit ret =>
      intro part hsta
      obtain hsame | ⟨hret, hid, hmove⟩ := motorMove_start ret w.sta.curr.antenna limit
        antenna_part direction ⟨w.sta.motorMove, []⟩ part
      · exact fun hpush => h part hsta (hsame.symm.trans hpush)
      · exact fun hpush => ha part hid hret (hpush.symm.trans hmove)
  | stop antenna_part ret =>
      intro part hsta
      have heases : (⟨w.sta.motorMove, []⟩ : Motors).Eases
          (antennaDriveEnd (fun _ _ => ret) antenna_part ⟨w.sta.motorMove, []⟩).2 := by
        unfold antennaDriveEnd
        split
        · exact .refl _
        · exact eases_exchange _ _ _
      obtain hoff | hsame := heases part
      · exact fun hpush => hsta (hpush.symm.trans hoff)
      · exact fun hpush => h part hsta (hsame.symm.trans hpush)
  | measure antenna => exact h
  | others taskRunFlag seekSatMode devWorkSta devAdmin => exact h

theorem rests_boot (curr : CurrSta) (seekSatMode devWorkSta : UInt8) (devAdmin : DevAdmin) :
    (Watch.boot curr seekSatMode devWorkSta devAdmin).Rests := fun _ hsta => absurd rfl hsta

/-- **No motor pushes past a limit** as long as no stop of a raised alarm is lost and no start
toward its limit is taken. -/
theorem noPush_of_answered (curr : CurrSta) (seekSatMode devWorkSta : UInt8) (devAdmin : DevAdmin)
    {as : List Action}
    (h : Runs.AllSteps Watch.step Answered (.boot curr seekSatMode devWorkSta devAdmin) as) :
    Runs.AllSteps Watch.step NoPush (.boot curr seekSatMode devWorkSta devAdmin) as := by
  have hstep (w : Watch) (a : Action) (hinv : w.Rests ∧ w.Counts) (ha : Answered w a) :
      NoPush w a ∧ (w.step a).Rests ∧ (w.step a).Counts := by
    obtain ⟨hrests, hcounts⟩ := hinv
    have hlinked : a.PduLinked := by
      cases a with
      | tick e => exact ha.1
      | measure antenna => trivial
      | start part direction limit ret => trivial
      | stop part ret => trivial
      | others taskRunFlag seekSatMode devWorkSta devAdmin => trivial
    have hstops : AlarmStops w a := by
      cases a with
      | tick e =>
          intro part dir hdir _ hsta hmove
          exact absurd (hmove.trans hsta.symm) (hrests part (by rwa [hsta]))
      | measure antenna => trivial
      | start part direction limit ret => trivial
      | stop part ret => trivial
      | others taskRunFlag seekSatMode devWorkSta devAdmin => trivial
    exact ⟨(noPush_iff hcounts hlinked).mpr hstops, rests_step hrests ha,
      counts_step hcounts hlinked⟩
  exact Runs.AllSteps.imp_of_inv hstep ⟨rests_boot curr seekSatMode devWorkSta devAdmin,
    counts_boot curr seekSatMode devWorkSta devAdmin⟩ h

/-! ### A stop that is answered, and one that is lost -/

/-- Where no motor runs with an alarm of its axis up, nothing is asked. -/
theorem alarmStops_of_quiet {w : Watch} {e : Input}
    (h : ∀ part, w.sta.motorLimitSta part = 0x00 ∨ w.sta.motorMove part = 0x00) :
    AlarmStops w (.tick e) := by
  intro part dir hdir _ hsta hmove
  obtain hnone | hstill := h part
  · exact absurd (hsta.symm.trans hnone) hdir
  · exact absurd (hmove.symm.trans hstill) hdir

/-- The antenna turns right past its limit, where it stays for four calls. -/
def stoppedAtLimit : List Action :=
  [.start 1 dirRightUpClock ⟨⟨110, 5, -90⟩, ⟨260, 85, 90⟩⟩ .SUCC, .measure ⟨270, 45, 0⟩,
    calmTick, calmTick, calmTick, calmTick]

theorem pduLinked_stoppedAtLimit : ∀ a ∈ stoppedAtLimit, a.PduLinked := by
  intro a ha
  simp only [stoppedAtLimit, List.mem_cons, List.not_mem_nil, or_false] at ha
  obtain rfl | rfl | rfl | rfl | rfl | rfl := ha
  · trivial
  · trivial
  · rfl
  · rfl
  · rfl
  · rfl

theorem alarmStops_stoppedAtLimit :
    Runs.AllSteps Watch.step AlarmStops startedWatch stoppedAtLimit := by
  refine ⟨trivial, trivial, alarmStops_of_quiet fun part => ?_, alarmStops_of_quiet fun part => ?_,
    alarmStops_of_quiet fun part => ?_, alarmStops_of_quiet fun part => ?_, trivial⟩
  all_goals cases part <;> decide +kernel

/-- The third call stops the motor. -/
theorem no_push_stoppedAtLimit : Runs.AllSteps Watch.step NoPush startedWatch stoppedAtLimit :=
  (no_push_iff _ _ _ _ stoppedAtLimit pduLinked_stoppedAtLimit).mpr alarmStops_stoppedAtLimit

/-- A call in which no motor command is answered. -/
def deafTick : Action := .tick (linkedInput fun _ _ => .FAIL)

/-- The antenna turns right past its limit, and the stop of the third call is lost. -/
def pastLimit : List Action :=
  [.start 1 dirRightUpClock ⟨⟨110, 5, -90⟩, ⟨260, 85, 90⟩⟩ .SUCC, .measure ⟨270, 45, 0⟩,
    calmTick, calmTick, deafTick]

/-- The next call does not stop the motor, though every command would succeed. -/
theorem not_no_push_lost :
    ¬ Runs.AllSteps Watch.step NoPush startedWatch (pastLimit ++ [calmTick]) := by
  intro h
  have hlast := (Runs.allSteps_iff_split _ _).mp h pastLimit calmTick [] rfl
  have hone := hlast .position dirRightUpClock (by decide)
    ⟨by decide +kernel, by decide +kernel⟩
  obtain hmove | ⟨c, hc, -⟩ := hone
  · exact hmove (by decide +kernel)
  · have hnone : (devHWSta (linkedInput fun _ _ => .SUCC)
        (Runs.run Watch.step startedWatch pastLimit).sta).sent = [] := by decide +kernel
    rw [hnone] at hc
    exact absurd hc List.not_mem_nil

end SwiftAcu.Monitor
