/-
Whether a cancelled move stays cancelled.

The task looks at its flag when it waits, and at the end of a round of the watch in which a
motor still runs; everywhere else it goes on after a cancel has returned.  A start it gives
then runs on in a mode that has no move.  So does one it has given between the stops of the
command, or whose stops the power unit has not answered.
-/
import SwiftAcu.Proofs.Goto.Step

namespace SwiftAcu.Goto

/-! ### The statement -/

/-- The task is in an `Antenna_DriveStart`. -/
def Pc.starts : Pc → Bool
  | .start .. => true
  | _ => false

/-- A motor runs, and the task was the last to start it. -/
def Watch.moves (w : Watch) (part : AntennaPart) : Bool :=
  w.byTask part && w.sta.motorMove part ≠ 0x00

/-- While its move is cancelled the task is in no `Antenna_DriveStart`, and no motor runs that it
has started. -/
def Watch.Final (w : Watch) : Prop :=
  w.cancelled = true → w.sta.pc.starts = false ∧ ∀ part, w.moves part = false

/-- The task looks at an axis that is off its aim. -/
def Sta.findsOff (s : Sta) : Bool :=
  match s.pc with
  | .aim part => s.drives part && 0 < aimDir part (s.antenna.part part) (s.locals.aim.part part)
  | _ => false

/--
No cancel returns between the look at an axis and its start, or while a motor runs that the task
has started; and while it holds the task finds no axis off its aim.
-/
def StartsNone (w : Watch) : Action → Prop
  | .modeSelStep front _ => w.sta.cancels front = true →
      w.sta.pc.starts = false ∧ ∀ part, w.moves part = false
  | .task _ => w.cancelled = true → w.sta.findsOff = false
  | _ => True

/-! ### One step of the task -/

theorem starts_afterStart (part : AntennaPart) : (afterStart part).starts = false := by
  cases part with
  | position => rfl
  | cabrage => rfl
  | polar => rfl

theorem starts_afterWatch (part : AntennaPart) : (afterWatch part).starts = false := by
  cases part with
  | position => rfl
  | cabrage => rfl
  | polar => rfl

/-- A step of the task that is in no start leaves it in none, but after a look at an axis off its
aim. -/
theorem starts_task {s : Sta} (h : s.pc.starts = false) (ret : Ret) :
    (taskAntennaRecordGoto ret s).pc.starts = s.findsOff := by
  unfold taskAntennaRecordGoto Sta.findsOff
  cases hpc : s.pc with
  | wait =>
      dsimp only
      split
      · rfl
      · exact h
  | gotoBegin =>
      obtain ⟨aim, devWorkSta, heq⟩ := begins_eq s
      dsimp only
      rw [heq]
      rfl
  | aim part =>
      dsimp only
      unfold aims
      by_cases hdrives : s.drives part = true
      · rw [if_pos hdrives, hdrives, Bool.true_and]
        dsimp only
        split
        · next hdir => exact (decide_eq_true hdir).symm
        · next hdir => exact (starts_afterStart part).trans (decide_eq_false hdir).symm
      · rw [if_neg hdrives, Bool.eq_false_iff.mpr hdrives, Bool.false_and]
        exact starts_afterStart part
  | start part again =>
      rw [hpc] at h
      cases h
  | watch part =>
      obtain ⟨cmpDir, pc, heq, hnext⟩ := watches_eq part s
      dsimp only
      rw [heq]
      obtain rfl | rfl | rfl | rfl := hnext
      · rfl
      · rfl
      · rfl
      · exact starts_afterWatch part
  | stop part reason again =>
      obtain ⟨motorMove, heq, -⟩ := stops_eq ret part s reason again
      dsimp only
      rw [heq]
      split
      · dsimp only
        obtain hnext | hnext | hnext := afterStop_cases part s reason
        · rw [hnext]
          rfl
        · rw [hnext]
          rfl
        · rw [hnext]
          exact starts_afterWatch part
      · cases again with
        | true => rfl
        | false => rfl
  | guard part =>
      obtain ⟨errCnt, old, pc, heq, hnext⟩ := guards_eq part s
      dsimp only
      rw [heq]
      obtain rfl | rfl := hnext
      · rfl
      · exact starts_afterWatch part
  | round =>
      dsimp only
      unfold rounds
      split
      · rfl
      · split
        · rfl
        · rfl
  | pause =>
      dsimp only
      unfold pauses
      dsimp only
      split
      · rfl
      · rfl
  | gotoEnd =>
      obtain ⟨seekSatMode, devWorkSta, heq⟩ := ends_eq s
      dsimp only
      rw [heq]
      rfl

/-- A step of the task that is in no start stops a motor at most. -/
theorem eased_task {s : Sta} (h : s.pc.starts = false) (ret : Ret) :
    Eased s.motorMove (taskAntennaRecordGoto ret s).motorMove := by
  unfold taskAntennaRecordGoto
  cases hpc : s.pc with
  | wait =>
      dsimp only
      split
      · exact .refl _
      · exact .refl _
  | gotoBegin =>
      obtain ⟨aim, devWorkSta, heq⟩ := begins_eq s
      dsimp only
      rw [heq]
      exact .refl _
  | aim part =>
      obtain ⟨dir, motorRunFlag, pc, heq, -⟩ := aims_eq part s
      dsimp only
      rw [heq]
      exact .refl _
  | start part again =>
      rw [hpc] at h
      cases h
  | watch part =>
      obtain ⟨cmpDir, pc, heq, -⟩ := watches_eq part s
      dsimp only
      rw [heq]
      exact .refl _
  | stop part reason again =>
      obtain ⟨motorMove, heq, heased⟩ := stops_eq ret part s reason again
      dsimp only
      rw [heq]
      split
      · exact heased
      · exact heased
  | guard part =>
      obtain ⟨errCnt, old, pc, heq, -⟩ := guards_eq part s
      dsimp only
      rw [heq]
      exact .refl _
  | round =>
      dsimp only
      unfold rounds
      split
      · exact .refl _
      · split
        · exact .refl _
        · exact .refl _
  | pause => exact .refl _
  | gotoEnd =>
      obtain ⟨seekSatMode, devWorkSta, heq⟩ := ends_eq s
      dsimp only
      rw [heq]
      exact .refl _

/-! ### The stop is final -/

instance decidableStartsNone (w : Watch) (a : Action) : Decidable (StartsNone w a) :=
  match a with
  | .modeSelStep .. => inferInstanceAs (Decidable (_ → _ ∧ _))
  | .task _ => inferInstanceAs (Decidable (_ → _))
  | .measure _ => isTrue trivial
  | .modeSel .. => isTrue trivial
  | .create => isTrue trivial
  | .del => isTrue trivial
  | .drive .. => isTrue trivial
  | .driveEnd .. => isTrue trivial
  | .others .. => isTrue trivial

theorem moves_iff {w : Watch} {part : AntennaPart} :
    w.moves part = true ↔ w.byTask part = true ∧ w.sta.motorMove part ≠ 0x00 := by
  rw [Watch.moves, Bool.and_eq_true, decide_eq_true_iff]

/-- What does not run by the task does not so after stops. -/
theorem moves_of_eased {w w' : Watch} {part : AntennaPart} (h : w.moves part = false)
    (hby : w'.byTask = w.byTask) (heased : Eased w.sta.motorMove w'.sta.motorMove) :
    w'.moves part = false := by
  rw [Bool.eq_false_iff] at h ⊢
  intro hmoves
  obtain ⟨hyes, hmove⟩ := moves_iff.mp hmoves
  obtain hoff | hsame := heased part
  · exact hmove hoff
  · exact h (moves_iff.mpr ⟨hby ▸ hyes, hsame ▸ hmove⟩)

/-- An axis that another task starts is not the task's any more. -/
theorem moves_drive {w : Watch} {part : AntennaPart} (h : w.moves part = false)
    (antenna_part direction : UInt8) (ret : Ret) :
    (w.step (.drive antenna_part direction ret)).moves part = false := by
  rw [Bool.eq_false_iff] at h ⊢
  intro hmoves
  obtain ⟨hby, hmove⟩ := moves_iff.mp hmoves
  refine h (moves_iff.mpr ?_)
  change w.startedBy (.drive antenna_part direction ret) part = true at hby
  change (antennaDriveStart (fun _ _ => ret) w.sta.antenna w.sta.softLimit antenna_part direction
    ⟨w.sta.motorMove, []⟩).2.motorMove part ≠ 0x00 at hmove
  unfold Watch.startedBy at hby
  dsimp only at hby
  cases hid : AntennaPart.ofId antenna_part with
  | none =>
      rw [hid] at hby
      have hother : AntennaPart.ofId antenna_part ≠ some part := by
        rw [hid]
        exact fun heq => by cases heq
      rw [motorMove_driveStart_of_ne _ _ _ _ _ hother] at hmove
      exact ⟨hby, hmove⟩
  | some q =>
      rw [hid] at hby
      dsimp only at hby
      split at hby
      · obtain ⟨hne, hby⟩ := owed_of_update hby
        have hother : AntennaPart.ofId antenna_part ≠ some part := by
          rw [hid]
          exact fun heq => hne (Option.some.inj heq).symm
        rw [motorMove_driveStart_of_ne _ _ _ _ _ hother] at hmove
        exact ⟨hby, hmove⟩
      · next hfail =>
        rw [motorMove_driveStart_of_fail _ _ _ _ _ hfail] at hmove
        exact ⟨hby, hmove⟩

/-- What others do starts no axis for the task. -/
theorem Watch.Final.frame {w w' : Watch} (h : w.Final) (hc : w'.cancelled = w.cancelled)
    (hpc : w'.sta.pc = w.sta.pc) (hmoves : ∀ part, w.moves part = false → w'.moves part = false) :
    w'.Final := by
  intro hyes
  obtain ⟨hno, hnone⟩ := h (hc ▸ hyes)
  exact ⟨hpc ▸ hno, fun part => hmoves part (hnone part)⟩

/-- **A step of the task** leaves a stop final, if it finds no axis off its aim. -/
theorem final_task_iff {w : Watch} (h : w.Final) (ret : Ret) :
    (w.step (.task ret)).Final ↔ StartsNone w (.task ret) := by
  by_cases hc : w.cancelled = true
  · obtain ⟨hno, hnone⟩ := h hc
    have hby : (w.step (.task ret)).byTask = w.byTask := by
      change w.startedBy (.task ret) = w.byTask
      unfold Watch.startedBy
      dsimp only
      split
      · next part again hpc =>
        rw [hpc] at hno
        cases hno
      · rfl
    have hmoves (part : AntennaPart) : (w.step (.task ret)).moves part = false :=
      moves_of_eased (hnone part) hby (eased_task hno ret)
    have hstarts : (w.step (.task ret)).sta.pc.starts = w.sta.findsOff := starts_task hno ret
    constructor
    · intro hfinal _
      exact hstarts ▸ (hfinal hc).1
    · intro hcond _
      exact ⟨hstarts ▸ hcond hc, hmoves⟩
  · exact iff_of_true (fun hyes => absurd hyes hc) fun hyes => absurd hyes hc

/-- **A step of a command** leaves a stop final, if nothing is started over its return. -/
theorem final_modeSelStep_iff {w : Watch} (h : w.Final) (front : Front) (ret : Ret) :
    (w.step (.modeSelStep front ret)).Final ↔ StartsNone w (.modeSelStep front ret) := by
  obtain ⟨taskRunFlag, motorMove, devWorkSta, seekSatMode, sel, hstep, -, heased⟩ :=
    step_modeSelStep w front ret
  have hmoves (part : AntennaPart) (hno : w.moves part = false) :
      (w.step (.modeSelStep front ret)).moves part = false :=
    moves_of_eased hno rfl (by rw [hstep]; exact heased)
  have hpc : (w.step (.modeSelStep front ret)).sta.pc = w.sta.pc := by rw [hstep]
  by_cases hret : w.sta.cancels front = true
  · have hsame (part : AntennaPart) :
        (w.step (.modeSelStep front ret)).moves part = w.moves part := by
      unfold Watch.moves
      rw [step_returns w front ret hret]
      rfl
    have hyes : (w.step (.modeSelStep front ret)).cancelled = true := by
      change (w.cancelled || w.sta.cancels front) = true
      rw [hret, Bool.or_true]
    constructor
    · intro hfinal _
      obtain ⟨hno, hnone⟩ := hfinal hyes
      exact ⟨hpc ▸ hno, fun part => hsame part ▸ hnone part⟩
    · intro hcond _
      obtain ⟨hno, hnone⟩ := hcond hret
      exact ⟨hpc ▸ hno, fun part => hmoves part (hnone part)⟩
  · have hc : (w.step (.modeSelStep front ret)).cancelled = w.cancelled := by
      change (w.cancelled || w.sta.cancels front) = w.cancelled
      rw [Bool.eq_false_iff.mpr hret, Bool.or_false]
    exact iff_of_true (h.frame hc hpc hmoves) fun hyes => absurd hyes hret

/-- **One action** leaves a stop final exactly under the condition. -/
theorem final_step_iff {w : Watch} (h : w.Final) (a : Action) :
    (w.step a).Final ↔ StartsNone w a := by
  cases a with
  | task ret => exact final_task_iff h ret
  | modeSelStep front ret => exact final_modeSelStep_iff h front ret
  | modeSel front mode =>
      obtain ⟨sel, hstep⟩ := step_modeSel w front mode
      refine iff_of_true (h.frame rfl (by rw [hstep]) fun part hno => ?_) trivial
      exact moves_of_eased hno rfl (by rw [hstep]; exact .refl _)
  | create => exact iff_of_true (fun hc => absurd hc (by decide : ¬ false = true)) trivial
  | del =>
      obtain ⟨taskRunFlag, heq, -⟩ := taskDel_eq 2 w.sta
      have hstep : (w.step .del).sta = { w.sta with taskRunFlag } := heq
      refine iff_of_true (h.frame rfl (by rw [hstep]) fun part hno => ?_) trivial
      exact moves_of_eased hno rfl (by rw [hstep]; exact .refl _)
  | drive antenna_part direction ret =>
      exact iff_of_true (h.frame rfl rfl fun part hno => moves_drive hno antenna_part direction ret)
        trivial
  | driveEnd antenna_part ret =>
      refine iff_of_true (h.frame rfl rfl fun part hno => ?_) trivial
      exact moves_of_eased hno rfl (eased_driveEnd ret antenna_part w.sta.motorMove)
  | measure antenna => exact iff_of_true (h.frame rfl rfl fun _ hno => hno) trivial
  | others satelliteTrack gradientTrack seekSatMode devWorkSta elecCoderNum aim aimHand softLimit =>
      exact iff_of_true (h.frame rfl rfl fun _ hno => hno) trivial

theorem final_boot (s : Sta) : (Watch.boot s).Final :=
  fun hc => absurd hc (by decide : ¬ false = true)

/-- **A stop is final** in exactly the runs in which nothing is started over it. -/
theorem stop_final_iff (s : Sta) (as : List Action) :
    Runs.AllStates Watch.step Watch.Final (.boot s) as ↔
      Runs.AllSteps Watch.step StartsNone (.boot s) as := by
  have hstep (w : Watch) (a : Action) (h : w.Final) : (w.step a).Final ↔ StartsNone w a :=
    final_step_iff h a
  exact Runs.allStates_iff hstep (final_boot s) as

/-! ### A cancel between two passes -/

/-- A device in hand mode, 20 degrees off its aim. -/
def parked : Sta :=
  { pc := .wait
    locals :=
      { dir := fun _ => 0, cmpDir := fun _ => 0, motorRunFlag := fun _ => 0, errCnt := fun _ => 0
        aim := ⟨0, 0, 0⟩, old := fun _ => 0, i := 0 }
    taskRunFlag := fun _ => 0
    seekSatMode := 0x01
    devWorkSta := 0x11
    antenna := ⟨180, 45, 0⟩
    softLimit := ⟨⟨110, 5, -90⟩, ⟨260, 85, 90⟩⟩
    aim := ⟨180, 45, 0⟩
    aimHand := ⟨200, 45, 0⟩
    elecCoderNum := 2
    motorMove := fun _ => 0
    sel := fun _ => none }

/-- The azimuth is started. -/
def started : List Action := .create :: List.replicate 6 (.task .SUCC)

/-- An `AimAtSatModeSel` of the PC with mode 0x00, whose stops are answered. -/
def cancelPc : List Action := .modeSel .pc 0x00 :: List.replicate 11 (.modeSelStep .pc .SUCC)

/-- A cancel in the watch is final. -/
theorem stop_final_started :
    Runs.AllStates Watch.step Watch.Final (.boot parked) (started ++ cancelPc) :=
  (stop_final_iff parked _).mpr (by decide +kernel)

/-- The azimuth arrives, and the first pass ends. -/
def paused : List Action := started ++ .measure ⟨200, 45, 0⟩ :: List.replicate 7 (.task .SUCC)

/-- It stays there, and the task comes to its end. -/
def arrived : List Action := paused ++ List.replicate 18 (.task .SUCC)

/-- The cancel returns in the seconds after the first pass, and the antenna drifts off its aim:
the second pass starts the azimuth in idle mode. -/
theorem not_stop_final_paused :
    ¬ Runs.AllStates Watch.step Watch.Final (.boot parked)
      (paused ++ cancelPc ++ .measure ⟨199, 45, 0⟩ :: List.replicate 3 (.task .SUCC)) := by
  intro h
  have hlast := h (paused ++ cancelPc ++ .measure ⟨199, 45, 0⟩ :: List.replicate 3 (.task .SUCC))
    [] (List.append_nil _).symm
  exact absurd ((hlast (by decide +kernel)).2 .position) (by decide +kernel)

end SwiftAcu.Goto
