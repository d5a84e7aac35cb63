/-
What a step of the driving task changes.

A command changes what its motor does; the task itself goes on from the answer alone.
-/
import SwiftAcu.Acu.GotoRun
import SwiftAcu.Proofs.Motor

namespace SwiftAcu.Goto

section
variable (ret : Ret) (part : AntennaPart) (s : Sta)

theorem driveEnd_eq :
    ∃ motorMove, driveEnd ret part s = (ret, { s with motorMove }) ∧
      Eased s.motorMove motorMove := by
  unfold driveEnd
  rw [antennaDriveEnd_id]
  exact ⟨_, rfl, eases_exchange _ part ⟨s.motorMove, []⟩⟩

theorem eased_driveEnd (antenna_part : UInt8) (motorMove : AntennaPart → UInt8) :
    Eased motorMove
      (antennaDriveEnd (fun _ _ => ret) antenna_part ⟨motorMove, []⟩).2.motorMove := by
  unfold antennaDriveEnd
  split
  · exact .refl _
  · next part _ => exact eases_exchange _ part ⟨motorMove, []⟩

theorem driveStart_eq :
    ∃ motorMove, driveStart ret part s = ((driveStart ret part s).1, { s with motorMove }) :=
  ⟨_, rfl⟩

/-- A stop that is answered is the end of the axis, a second one that is not that of the move. -/
theorem stops_eq (reason : StopReason) (again : Bool) :
    ∃ motorMove, (stops ret part reason again s =
      if ret = .SUCC then
        { ({ s with motorMove } : Sta).setRun part 0 with pc := afterStop s part reason }
      else { s with motorMove, pc := if again then .gotoEnd else .stop part reason true }) ∧
        Eased s.motorMove motorMove := by
  obtain ⟨motorMove, heq, heased⟩ := driveEnd_eq ret part s
  refine ⟨motorMove, ?_, heased⟩
  unfold stops
  rw [heq]
  cases ret with
  | SUCC =>
      cases reason with
      | arrived => rfl
      | turned => rfl
      | stuck => rfl
  | FAIL => rfl

theorem afterStop_cases (reason : StopReason) :
    afterStop s part reason = .stop part .turned false ∨ afterStop s part reason = .guard part ∨
      afterStop s part reason = afterWatch part := by
  cases reason with
  | arrived =>
      unfold afterStop
      dsimp only
      split
      · exact Or.inl rfl
      · exact Or.inr (Or.inl rfl)
  | turned => exact Or.inr (Or.inl rfl)
  | stuck => exact Or.inr (Or.inr rfl)

/-- A start that is taken sets the axis running, a second one that is not ends the move. -/
theorem starts_eq (again : Bool) :
    ∃ motorMove, starts ret part again s =
      if (driveStart ret part s).1 = .SUCC then
        { ({ s with motorMove } : Sta).setRun part 1 with pc := afterStart part }
      else { s with motorMove, pc := if again then .gotoEnd else .start part true } := by
  obtain ⟨motorMove, heq⟩ := driveStart_eq ret part s
  refine ⟨motorMove, ?_⟩
  unfold starts
  rw [heq]
  cases (driveStart ret part s).1 with
  | SUCC => rfl
  | FAIL => rfl

/-- A look at an axis. -/
theorem watches_eq :
    ∃ cmpDir pc, watches part s = { s with locals := { s.locals with cmpDir }, pc } ∧
      (pc = .stop part .arrived false ∨ pc = .stop part .turned false ∨ pc = .guard part ∨
        pc = afterWatch part) := by
  unfold watches
  dsimp only
  split
  · split
    · exact ⟨_, _, rfl, Or.inl rfl⟩
    · split
      · exact ⟨_, _, rfl, Or.inr (Or.inl rfl)⟩
      · exact ⟨_, _, rfl, Or.inr (Or.inr (Or.inl rfl))⟩
  · exact ⟨s.locals.cmpDir, _, rfl, Or.inr (Or.inr (Or.inr rfl))⟩

theorem guards_eq :
    ∃ errCnt old pc, guards part s = { s with locals := { s.locals with errCnt, old }, pc } ∧
      (pc = .stop part .stuck false ∨ pc = afterWatch part) := by
  unfold guards
  dsimp only
  split
  · split
    · exact ⟨_, s.locals.old, _, rfl, Or.inl rfl⟩
    · exact ⟨_, s.locals.old, _, rfl, Or.inr rfl⟩
  · exact ⟨_, _, _, rfl, Or.inr rfl⟩

theorem aims_eq :
    ∃ dir motorRunFlag pc, aims part s =
        { s with locals := { s.locals with dir, motorRunFlag }, pc } ∧
      (pc = .start part false ∧ motorRunFlag = s.locals.motorRunFlag ∨
        pc = afterStart part ∧ (motorRunFlag = s.locals.motorRunFlag ∨
          motorRunFlag = Function.update s.locals.motorRunFlag part 0)) := by
  unfold aims
  dsimp only
  split
  · split
    · exact ⟨_, s.locals.motorRunFlag, _, rfl, Or.inl ⟨rfl, rfl⟩⟩
    · exact ⟨_, _, _, rfl, Or.inr ⟨rfl, Or.inr rfl⟩⟩
  · exact ⟨s.locals.dir, s.locals.motorRunFlag, _, rfl, Or.inr ⟨rfl, Or.inl rfl⟩⟩

theorem begins_eq :
    ∃ aim devWorkSta, begins s =
      { s with
        taskRunFlag := Function.update s.taskRunFlag 2 1
        devWorkSta
        pc := .aim .position
        locals := { s.locals with aim, motorRunFlag := fun _ => 0, errCnt := fun _ => 0, i := 0 } } := by
  unfold begins
  dsimp only
  split
  · exact ⟨_, _, rfl⟩
  · split
    · exact ⟨_, _, rfl⟩
    · exact ⟨s.locals.aim, s.devWorkSta, rfl⟩

theorem ends_eq :
    ∃ seekSatMode devWorkSta, ends s =
      { s with
        pc := .wait, taskRunFlag := Function.update s.taskRunFlag 2 0, seekSatMode, devWorkSta } := by
  unfold ends
  dsimp only
  split
  · exact ⟨s.seekSatMode, _, rfl⟩
  · split
    · exact ⟨_, _, rfl⟩
    · split
      · exact ⟨s.seekSatMode, _, rfl⟩
      · exact ⟨s.seekSatMode, s.devWorkSta, rfl⟩

end

/-! ### The commands -/

theorem taskDel_eq (i : Fin 3) (s : Sta) :
    ∃ taskRunFlag, taskDel i s = { s with taskRunFlag } ∧
      (taskRunFlag = s.taskRunFlag ∨ taskRunFlag = Function.update s.taskRunFlag i 0) := by
  unfold taskDel
  split
  · exact ⟨_, rfl, Or.inr rfl⟩
  · exact ⟨_, rfl, Or.inl rfl⟩

/-- A step of a command ends a task, stops a motor, or makes one of its stores. -/
theorem aimAtSatModeSelStep_eq (ret : Ret) (front : Front) (c : ModeSel) (s : Sta) :
    ∃ taskRunFlag motorMove devWorkSta seekSatMode sel,
      aimAtSatModeSelStep ret front c s =
          { s with taskRunFlag, motorMove, devWorkSta, seekSatMode, sel } ∧
        (s.taskRunFlag 2 = 0 → taskRunFlag 2 = 0) ∧ Eased s.motorMove motorMove := by
  unfold aimAtSatModeSelStep
  split
  · exact ⟨s.taskRunFlag, s.motorMove, s.devWorkSta, s.seekSatMode, _, rfl, id, .refl _⟩
  · next seekSatMode i tests _ =>
    dsimp only
    split
    · obtain ⟨flag, heq, hflag⟩ := taskDel_eq i s
      rw [heq]
      refine ⟨flag, s.motorMove, s.devWorkSta, s.seekSatMode, _, rfl, fun h => ?_, .refl _⟩
      obtain rfl | rfl := hflag
      · exact h
      · by_cases hi : (2 : Fin 3) = i
        · rw [hi, Function.update_self]
        · rw [Function.update_of_ne hi, h]
    · exact ⟨s.taskRunFlag, s.motorMove, s.devWorkSta, s.seekSatMode, _, rfl, id, .refl _⟩
  · next d _ =>
    obtain ⟨motorMove, heq, heased⟩ := driveEnd_eq ret d.part s
    dsimp only
    rw [heq]
    exact ⟨s.taskRunFlag, motorMove, s.devWorkSta, s.seekSatMode, _, rfl, id, heased⟩
  · exact ⟨s.taskRunFlag, s.motorMove, _, s.seekSatMode, _, rfl, id, .refl _⟩
  · exact ⟨s.taskRunFlag, s.motorMove, s.devWorkSta, _, _, rfl, id, .refl _⟩
  · exact ⟨s.taskRunFlag, s.motorMove, s.devWorkSta, s.seekSatMode, _, rfl, id, .refl _⟩

/-! ### The commands, watched -/

section
variable (w : Watch) (front : Front)

/-- A command that comes in is under way then, and has done nothing. -/
theorem step_modeSel (mode : UInt8) :
    ∃ sel, (w.step (.modeSel front mode)).sta = { w.sta with sel } := by
  cases hsel : w.sta.sel front with
  | some c => exact ⟨w.sta.sel, by simp only [Watch.step, step, aimAtSatModeSel, hsel]⟩
  | none =>
      have hstep : (w.step (.modeSel front mode)).sta = w.sta.setSel front (some
          ⟨mode, if mode ≤ 0x03 then .test (selTests mode) else .seekSatMode⟩) := by
        simp only [Watch.step, step, aimAtSatModeSel, hsel]
      exact ⟨_, hstep⟩

/-- A step of a command ends tasks and stops motors at most, and no axis waits for a stop then
that did not before. -/
theorem step_modeSelStep (ret : Ret) :
    ∃ taskRunFlag motorMove devWorkSta seekSatMode sel,
      (w.step (.modeSelStep front ret)).sta =
          { w.sta with taskRunFlag, motorMove, devWorkSta, seekSatMode, sel } ∧
        (w.sta.taskRunFlag 2 = 0 → taskRunFlag 2 = 0) ∧ Eased w.sta.motorMove motorMove := by
  cases hsel : w.sta.sel front with
  | none =>
      exact ⟨w.sta.taskRunFlag, w.sta.motorMove, w.sta.devWorkSta, w.sta.seekSatMode, w.sta.sel,
        by simp only [Watch.step, step, hsel], id, .refl _⟩
  | some c =>
      have hstep : (w.step (.modeSelStep front ret)).sta =
          aimAtSatModeSelStep ret front c w.sta := by simp only [Watch.step, step, hsel]
      rw [hstep]
      exact aimAtSatModeSelStep_eq ret front c w.sta

/-- A cancel that returns only returns. -/
theorem step_returns (ret : Ret) (h : w.sta.cancels front = true) :
    (w.step (.modeSelStep front ret)).sta = w.sta.setSel front none := by
  have hsel : ∃ mode, w.sta.sel front = some ⟨mode, .ret⟩ := by
    obtain hsel | hsel := Bool.or_eq_true .. ▸ h
    · exact ⟨_, of_decide_eq_true hsel⟩
    · exact ⟨_, of_decide_eq_true hsel⟩
  obtain ⟨mode, hsel⟩ := hsel
  simp only [Watch.step, step, hsel, aimAtSatModeSelStep]

/-- A stop takes an axis off those that wait for one. -/
theorem owed_of_update {part q : AntennaPart} {owed : AntennaPart → Bool}
    (h : Function.update owed part false q = true) : q ≠ part ∧ owed q = true := by
  by_cases hq : q = part
  · rw [hq, Function.update_self] at h
    cases h
  · rw [Function.update_of_ne hq] at h
    exact ⟨hq, h⟩

theorem owes_modeSelStep (ret : Ret) {part : AntennaPart}
    (hyes : w.owes (.modeSelStep front ret) part = true) : w.owed part = true := by
  have howes : w.owes (.modeSelStep front ret) = w.owed ∨
      ∃ q, w.owes (.modeSelStep front ret) = Function.update w.owed q false := by
    unfold Watch.owes
    dsimp only
    split
    · exact Or.inr ⟨_, rfl⟩
    · exact Or.inl rfl
  obtain hsame | ⟨q, hstop⟩ := howes
  · rwa [hsame] at hyes
  · rw [hstop] at hyes
    exact (owed_of_update hyes).2

end

end SwiftAcu.Goto
