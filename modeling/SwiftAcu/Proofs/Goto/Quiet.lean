/-
When a cancel is seen in time.

A cancel that returns while a pass is begun, or in the seconds after a pass, is not seen
before the axes are started anew; nor is one that returns in the watch, if all motors come
to rest before the flag is looked at.  Any other is final, whatever the angles are.
-/
import SwiftAcu.Proofs.Goto.Cancel

namespace SwiftAcu.Goto

/-! ### The condition -/

/-- The task begins a pass, or is bound to. -/
def Sta.StartsPass (s : Sta) : Prop :=
  match s.pc with
  | .gotoBegin | .aim _ | .start _ _ => True
  | .pause => s.locals.i < 2
  | _ => False

/-- The flag is off, and no pass begins. -/
def Sta.Quiet (s : Sta) : Prop := s.taskRunFlag 2 = 0 ∧ ¬ s.StartsPass

/--
A cancel returns with the flag off and no pass on its way; and while it holds the motors are
not all at rest at the end of a round, unless it is one of the third pass.
-/
def SeesCancel (w : Watch) : Action → Prop
  | .modeSelStep front _ => w.sta.cancels front = true → w.sta.Quiet
  | .task _ => w.cancelled = true → w.sta.pc = .round → w.sta.locals.AtRest → 2 ≤ w.sta.locals.i
  | _ => True

/-- No cancel returns while a motor runs that the task has started. -/
def AllStopped (w : Watch) : Action → Prop
  | .modeSelStep front _ => w.sta.cancels front = true → ∀ part, w.moves part = false
  | _ => True

/-! ### One step of the task -/

/-- A step from a quiet state. -/
theorem Sta.Quiet.watches {s : Sta} (h : s.Quiet) (part : AntennaPart) :
    (Goto.watches part s).Quiet := by
  obtain ⟨cmpDir, pc, heq, hpc⟩ := watches_eq part s
  rw [heq]
  refine ⟨h.1, ?_⟩
  obtain rfl | rfl | rfl | rfl := hpc
  · exact id
  · exact id
  · exact id
  · cases part with
    | position => exact id
    | cabrage => exact id
    | polar => exact id

theorem Sta.Quiet.guards {s : Sta} (h : s.Quiet) (part : AntennaPart) :
    (Goto.guards part s).Quiet := by
  obtain ⟨errCnt, old, pc, heq, hpc⟩ := guards_eq part s
  rw [heq]
  refine ⟨h.1, ?_⟩
  obtain rfl | rfl := hpc
  · exact id
  · cases part with
    | position => exact id
    | cabrage => exact id
    | polar => exact id

theorem Sta.Quiet.stops {s : Sta} (h : s.Quiet) (ret : Ret) (part : AntennaPart)
    (reason : StopReason) (again : Bool) : (Goto.stops ret part reason again s).Quiet := by
  obtain ⟨motorMove, heq, -⟩ := stops_eq ret part s reason again
  rw [heq]
  split
  · refine ⟨h.1, ?_⟩
    unfold StartsPass
    dsimp only
    obtain hpc | hpc | hpc := afterStop_cases part s reason
    · rw [hpc]
      exact id
    · rw [hpc]
      exact id
    · rw [hpc]
      cases part with
      | position => exact id
      | cabrage => exact id
      | polar => exact id
  · refine ⟨h.1, ?_⟩
    cases again with
    | true => exact id
    | false => exact id

/-- **A step of the task** from a quiet state begins no pass, but after a round of the first two
passes in which all motors came to rest. -/
theorem quiet_task_iff {s : Sta} (h : s.Quiet) (ret : Ret) :
    (taskAntennaRecordGoto ret s).Quiet ↔ (s.pc = .round → s.locals.AtRest → 2 ≤ s.locals.i) := by
  have hstarts := h.2
  unfold Sta.StartsPass at hstarts
  unfold taskAntennaRecordGoto
  cases hpc : s.pc with
  | wait =>
      have hoff : ¬ s.taskRunFlag 2 = 1 := by
        rw [h.1]
        decide
      dsimp only
      rw [if_neg hoff]
      exact iff_of_true h fun hround => by cases hround
  | gotoBegin =>
      rw [hpc] at hstarts
      exact absurd trivial hstarts
  | aim part =>
      rw [hpc] at hstarts
      exact absurd trivial hstarts
  | start part again =>
      rw [hpc] at hstarts
      exact absurd trivial hstarts
  | watch part => exact iff_of_true (h.watches part) fun hround => by cases hround
  | stop part reason again =>
      exact iff_of_true (h.stops ret part reason again) fun hround => by cases hround
  | guard part => exact iff_of_true (h.guards part) fun hround => by cases hround
  | round =>
      dsimp only
      unfold rounds
      by_cases hrest : s.locals.AtRest
      · rw [if_pos hrest]
        refine ⟨fun hq _ _ => ?_, fun hcond => ⟨h.1, ?_⟩⟩
        · have hi : ¬ s.locals.i < 2 := hq.2
          omega
        · have hi := hcond rfl hrest
          change ¬ s.locals.i < 2
          omega
      · rw [if_neg hrest, if_pos h.1]
        exact iff_of_true ⟨h.1, id⟩ fun _ hr => absurd hr hrest
  | pause =>
      rw [hpc] at hstarts
      have hi : ¬ s.locals.i + 1 < 3 := by
        have hlast : ¬ s.locals.i < 2 := hstarts
        omega
      dsimp only
      unfold pauses
      dsimp only
      rw [if_neg hi]
      exact iff_of_true ⟨h.1, id⟩ fun hround => by cases hround
  | gotoEnd =>
      obtain ⟨seekSatMode, devWorkSta, heq⟩ := ends_eq s
      have hoff : Function.update s.taskRunFlag 2 0 2 = 0 := Function.update_self ..
      dsimp only
      rw [heq]
      exact iff_of_true ⟨hoff, id⟩ fun hround => by cases hround

/-! ### Runs -/

/-- A cancelled move is quiet. -/
def Watch.Quiet (w : Watch) : Prop := w.cancelled = true → w.sta.Quiet

/-- What other tasks do begins no pass. -/
theorem Sta.Quiet.frame {s s' : Sta} (h : s.Quiet) (hpc : s'.pc = s.pc)
    (hlocals : s'.locals = s.locals) (hflag : s'.taskRunFlag 2 = 0) : s'.Quiet := by
  refine ⟨hflag, ?_⟩
  have hstarts := h.2
  unfold StartsPass at hstarts ⊢
  rwa [hpc, hlocals]

/-- **A cancelled move stays quiet** exactly under the condition. -/
theorem quiet_step_iff {w : Watch} (h : w.Quiet) (a : Action) :
    (w.step a).Quiet ↔ SeesCancel w a := by
  cases a with
  | task ret =>
      by_cases hc : w.cancelled = true
      · have htask := quiet_task_iff (h hc) ret
        exact ⟨fun hq _ => htask.mp (hq hc), fun hcond _ => htask.mpr (hcond hc)⟩
      · exact iff_of_true (fun hq => absurd hq hc) fun hq => absurd hq hc
  | modeSelStep front ret =>
      obtain ⟨taskRunFlag, motorMove, devWorkSta, seekSatMode, sel, hstep, hzero, -⟩ :=
        step_modeSelStep w front ret
      have hcancelled : (w.step (.modeSelStep front ret)).cancelled = true ↔
          w.cancelled = true ∨ w.sta.cancels front = true :=
        iff_of_eq (Bool.or_eq_true ..)
      have hkeep (hq : w.sta.Quiet) : (w.step (.modeSelStep front ret)).sta.Quiet := by
        rw [hstep]
        exact hq.frame rfl rfl (hzero hq.1)
      have hback (hc : w.sta.cancels front = true)
          (hq : (w.step (.modeSelStep front ret)).sta.Quiet) : w.sta.Quiet := by
        rw [step_returns w front ret hc] at hq
        exact hq
      unfold Watch.Quiet
      rw [hcancelled]
      exact ⟨fun hq hc => hback hc (hq (Or.inr hc)), fun hcond hc => hkeep (hc.elim h hcond)⟩
  | modeSel front mode =>
      refine iff_of_true (fun hc => ?_) trivial
      have hq := h hc
      obtain ⟨sel, hstep⟩ := step_modeSel w front mode
      rw [hstep]
      exact hq.frame rfl rfl hq.1
  | create => exact iff_of_true (fun hc => absurd hc (by decide : ¬ false = true)) trivial
  | del =>
      refine iff_of_true (fun hc => ?_) trivial
      have hq := h hc
      have hoff : ¬ 0 < w.sta.taskRunFlag 2 := by
        rw [hq.1]
        decide
      change (taskDel 2 w.sta).Quiet
      rw [taskDel, if_neg hoff]
      exact hq
  | measure antenna => exact iff_of_true (fun hc => (h hc).frame rfl rfl (h hc).1) trivial
  | drive part direction ret =>
      exact iff_of_true (fun hc => (h hc).frame rfl rfl (h hc).1) trivial
  | driveEnd part ret => exact iff_of_true (fun hc => (h hc).frame rfl rfl (h hc).1) trivial
  | others satelliteTrack gradientTrack seekSatMode devWorkSta elecCoderNum aim aimHand softLimit =>
      exact iff_of_true (fun hc => (h hc).frame rfl rfl (h hc).1) trivial

theorem quiet_boot (s : Sta) : (Watch.boot s).Quiet :=
  fun hc => absurd hc (by decide : ¬ false = true)

/-- **Exactly in the runs whose cancels are seen** no pass is begun while one holds. -/
theorem allStates_quiet_iff (s : Sta) (as : List Action) :
    Runs.AllStates Watch.step Watch.Quiet (.boot s) as ↔
      Runs.AllSteps Watch.step SeesCancel (.boot s) as := by
  have hstep (w : Watch) (a : Action) (h : w.Quiet) : (w.step a).Quiet ↔ SeesCancel w a :=
    quiet_step_iff h a
  exact Runs.allStates_iff hstep (quiet_boot s) as

/-! ### The stop is final -/

/-- A cancel that is seen starts nothing. -/
theorem startsNone_of_quiet {w : Watch} (h : w.Quiet) {a : Action} (hsees : SeesCancel w a)
    (hstopped : AllStopped w a) : StartsNone w a := by
  cases a with
  | task ret =>
      intro hc
      have hstarts := (h hc).2
      unfold Sta.StartsPass at hstarts
      unfold Sta.findsOff
      cases hpc : w.sta.pc with
      | aim part =>
          rw [hpc] at hstarts
          exact absurd trivial hstarts
      | _ => rfl
  | modeSelStep front ret =>
      intro hc
      refine ⟨?_, hstopped hc⟩
      have hstarts := (hsees hc).2
      unfold Sta.StartsPass at hstarts
      cases hpc : w.sta.pc with
      | start part again =>
          rw [hpc] at hstarts
          exact absurd trivial hstarts
      | _ => rfl
  | _ => trivial

/-- A stop is final in every run whose cancels are seen, with the motors stopped. -/
theorem stop_final_of_seesCancel (s : Sta) (as : List Action)
    (h : Runs.AllSteps Watch.step (fun w a => SeesCancel w a ∧ AllStopped w a) (.boot s) as) :
    Runs.AllStates Watch.step Watch.Final (.boot s) as := by
  have hstep (w : Watch) (a : Action) (hq : w.Quiet) (hboth : SeesCancel w a ∧ AllStopped w a) :
      StartsNone w a ∧ (w.step a).Quiet :=
    ⟨startsNone_of_quiet hq hboth.1 hboth.2, (quiet_step_iff hq a).mpr hboth.1⟩
  have hnone := Runs.AllSteps.imp_of_inv hstep (quiet_boot s) h
  have hfinal (w : Watch) (a : Action) (hf : w.Final) : (w.step a).Final ↔ StartsNone w a :=
    final_step_iff hf a
  exact (Runs.allStates_iff hfinal (final_boot s) as).mpr hnone

end SwiftAcu.Goto
