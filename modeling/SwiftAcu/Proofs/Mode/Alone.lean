/-
A command that nothing comes between.

In a run a command is a list of parts, and anything may happen behind each of them.  Its text,
as `Acu/ModeSel.lean` has it, is what the parts come to if nothing does.  A part acts on what a
command has done so far without looking at it, so the parts may as well go on from one command
under way: this is what the text does.
-/
import SwiftAcu.Proofs.Mode.Parts
import SwiftAcu.Proofs.Mode.Recall

namespace SwiftAcu.Mode

variable [SoftFloat]

/-- The parts, run to the end from a command under way, with what is returned. -/
inductive Completes (front : Front) (env : Env) : Cmd → List Part → Ret × Cmd → Prop where
  | ret {c : Cmd} {p : Part} {r : Ret} (rest : List Part) (h : p.ret = some r) :
    Completes front env c (p :: rest) (r, (p.exec front env c).1)
  | next {c : Cmd} {p : Part} {rest : List Part} {out : Ret × Cmd} (h : p.ret = none)
    (hrest : Completes front env (p.exec front env c).1 ((p.exec front env c).2 ++ rest) out) :
    Completes front env c (p :: rest) out

/-! ### Parts in a run -/

section
variable {front : Front} {env : Env}

/-- The command behind some acts. -/
def Cmd.behind (acts : List Act) (c : Cmd) : Cmd := { c with acts := acts ++ c.acts }

omit [SoftFloat] in
theorem Cmd.behind_begin (c : Cmd) : c.toSta.begin.behind c.acts = c := by
  unfold behind Sta.begin
  rw [List.append_nil]

omit [SoftFloat] in
theorem Cmd.kernel_behind (pc : TaskId → Pc) (acts : List Act) (c : Cmd) :
    (c.behind acts).kernel pc = c.kernel (acts.foldl Mode.kernel pc) := List.foldl_append

/-- What has been done is not looked at. -/
theorem exec_behind (acts : List Act) (c : Cmd) (p : Part) :
    p.exec front env (c.behind acts) =
      ((p.exec front env c).1.behind acts, (p.exec front env c).2) := by
  cases p with
  | taskDelIfRun t =>
      dsimp only [Part.exec]
      unfold Cmd.taskDelIfRun
      by_cases hrun : 0 < c.taskRunFlag t
      · rw [if_pos hrun, if_pos (show 0 < (c.behind acts).taskRunFlag t from hrun)]
        simp [Cmd.taskDel, Cmd.behind]
      · rw [if_neg hrun, if_neg (show ¬ 0 < (c.behind acts).taskRunFlag t from hrun)]
  | oneTaskDel ts =>
      cases ts with
      | nil => rfl
      | cons t ts =>
          dsimp only [Part.exec]
          by_cases hrun : 0 < c.taskRunFlag t
          · rw [if_pos hrun, if_pos (show 0 < (c.behind acts).taskRunFlag t from hrun)]
            simp [Cmd.taskDel, Cmd.behind]
          · rw [if_neg hrun, if_neg (show ¬ 0 < (c.behind acts).taskRunFlag t from hrun)]
  | setCurrSatParam r =>
      dsimp only [Part.exec]
      by_cases hother : c.otherAntenna r
      · rw [if_pos hother, if_pos (show (c.behind acts).otherAntenna r from hother)]
      · rw [if_neg hother, if_neg (show ¬ (c.behind acts).otherAntenna r from hother)]
        rfl
  | allDriveEnd again => simp [Part.exec, Cmd.allDriveEnd, Cmd.behind]
  | taskCreate t => simp [Part.exec, Cmd.taskCreate, Cmd.behind]
  | optLog code => simp [Part.exec, Cmd.optLog, Cmd.behind]
  | setFreq r =>
      simp only [Part.exec, Cmd.setFreq, Cmd.behind, List.append_assoc]
      rfl
  | optLogPose => simp [Part.exec, Cmd.behind]
  | returnCreate => simp [Part.exec, Cmd.taskCreate, Cmd.behind]
  | _ => rfl

/-- **Parts that nothing comes between come to what they come to on one command.** -/
theorem run_completes {c : Cmd} {ps : List Part} {out : Ret × Cmd}
    (h : Completes front env c ps out) (pc : TaskId → Pc) {w : World} {mode : UInt8}
    (hsta : w.sta = c.toSta) (hpc : w.pc = c.kernel pc) (hcmd : w.cmds front = some ⟨mode, ps⟩) :
    ∃ n, Event.ret (Runs.run step w (List.replicate n (.go front env))) (.go front env) =
        some out.1 ∧
      step (Runs.run step w (List.replicate n (.go front env))) (.go front env) =
        { sta := out.2.toSta, pc := out.2.kernel pc, cmds := Function.update w.cmds front none } := by
  have hexec (c : Cmd) (p : Part) : p.exec front env c =
      ((p.exec front env c.toSta.begin).1.behind c.acts, (p.exec front env c.toSta.begin).2) := by
    rw [← exec_behind, Cmd.behind_begin]
  have hgo {c : Cmd} {p : Part} {rest : List Part} {w : World} (hsta : w.sta = c.toSta)
      (hpc : w.pc = c.kernel pc) (hcmd : w.cmds front = some ⟨mode, p :: rest⟩) :
      step w (.go front env) =
        { sta := (p.exec front env c).1.toSta
          pc := (p.exec front env c).1.kernel pc
          cmds := Function.update w.cmds front (if p.ret = none then
            some ⟨mode, (p.exec front env c).2 ++ rest⟩ else none) } := by
    show w.go front env = _
    unfold World.go World.after
    rw [hcmd, hexec c p, Cmd.kernel_behind]
    dsimp only
    rw [hsta, hpc]
    rfl
  induction h generalizing w with
  | @ret c p r rest hret =>
      refine ⟨0, ?_, ?_⟩
      · rw [List.replicate_zero, Runs.run_nil]
        simp only [Event.ret, hcmd]
        exact hret
      · rw [List.replicate_zero, Runs.run_nil, hgo hsta hpc hcmd, hret, if_neg (by simp)]
  | @next c p rest out hret hrest ih =>
      have hstep := hgo hsta hpc hcmd
      rw [if_pos hret] at hstep
      obtain ⟨n, hn, hout⟩ := ih (w := step w (.go front env)) (by rw [hstep]) (by rw [hstep])
        (by rw [hstep]; exact Function.update_self _ _ _)
      refine ⟨n + 1, ?_, ?_⟩
      · rw [List.replicate_succ, Runs.run_cons]
        exact hn
      · rw [List.replicate_succ, Runs.run_cons, hout, hstep]
        dsimp only
        rw [Function.update_idem]

/-! ### Parts in a text -/

variable {c : Cmd} {rest : List Part} {out : Ret × Cmd}

theorem Completes.taskDelIfRun {t : TaskId} (h : Completes front env (c.taskDelIfRun t) rest out) :
    Completes front env c (.taskDelIfRun t :: rest) out := .next rfl h

theorem Completes.tasksDel (h : Completes front env c.tasksDel rest out) :
    Completes front env c (tasksDelParts ++ rest) out := h.taskDelIfRun.taskDelIfRun.taskDelIfRun

theorem Completes.endMode {mode : UInt8} {t : TaskId} {code : Nat}
    (h : Completes front env (c.endMode mode t code) rest out) :
    Completes front env c (.endMode mode t code :: rest) out := by
  refine .next rfl ?_
  dsimp only [Part.exec]
  unfold Cmd.endMode at h
  by_cases hmode : c.seekSatMode = mode
  · rw [if_pos hmode] at h ⊢
    exact Completes.taskDelIfRun (.next rfl h)
  · rw [if_neg hmode] at h ⊢
    exact h

theorem Completes.safeEnd (h : Completes front env (c.safeEnd env.pdu) rest out) :
    Completes front env c (.allDriveEnd false :: rest) out := by
  refine .next rfl ?_
  dsimp only [Part.exec]
  unfold Cmd.safeEnd at h
  by_cases hfail : (c.allDriveEnd env.pdu).1 = .FAIL
  · rw [if_pos ⟨hfail, by simp⟩]
    dsimp only at h
    rw [if_pos hfail] at h
    refine .next rfl ?_
    dsimp only [Part.exec]
    rw [if_neg (by simp)]
    exact h
  · rw [if_neg fun hand => hfail hand.1]
    dsimp only at h
    rw [if_neg hfail] at h
    exact h

theorem Completes.oneTaskDel (h : Completes front env c.oneTaskDel rest out) :
    Completes front env c
      (.oneTaskDel [.antennaRecordGoto, .satGradientTrack, .satelliteTrack] :: rest) out := by
  unfold Cmd.oneTaskDel at h
  refine .next rfl ?_
  dsimp only [Part.exec]
  by_cases hgoto : 0 < c.taskRunFlag .antennaRecordGoto
  · rw [if_pos hgoto] at h ⊢
    exact h
  rw [if_neg hgoto] at h ⊢
  refine .next rfl ?_
  dsimp only [Part.exec]
  by_cases hgradient : 0 < c.taskRunFlag .satGradientTrack
  · rw [if_pos hgradient] at h ⊢
    exact h
  rw [if_neg hgradient] at h ⊢
  refine .next rfl ?_
  dsimp only [Part.exec]
  by_cases htrack : 0 < c.taskRunFlag .satelliteTrack
  · rw [if_pos htrack] at h ⊢
    exact h
  · rw [if_neg htrack] at h ⊢
    exact .next rfl h

theorem Completes.leaveMode (h : Completes front env (c.leaveMode env.pdu) rest out) :
    Completes front env c (.leaveMode :: rest) out := by
  refine .next rfl ?_
  dsimp only [Part.exec]
  unfold Cmd.leaveMode at h
  by_cases hmode : c.seekSatMode ≠ 0x00
  · rw [if_pos hmode] at h ⊢
    exact Completes.oneTaskDel (.next rfl h.safeEnd)
  · rw [if_neg hmode] at h ⊢
    exact h

end

/-! ### The two commands -/

/-- `…_AimAtSatModeSel` of a front end. -/
def aimAtSatModeSelOf : Front → Pdu → (Nat → UInt8) → Sta → Ret × Cmd
  | .pc => pcAimAtSatModeSel
  | .oled => oledAimAtSatModeSel

/-- `…_AntennaRecordGoto` of a front end. -/
def antennaRecordGotoOf : Front → Pdu → Faults → (UInt32 → Ret) → UInt32 → (Nat → UInt8) → Sta →
    Ret × Cmd
  | .pc => pcAntennaRecordGoto
  | .oled => oledAntennaRecordGoto

theorem completes_modeSelParts (front : Front) (env : Env) {rxbuff : Nat → UInt8}
    (hcmd : isAimAtSatModeSel rxbuff = true) (s : Sta) :
    Completes front env s.begin (modeSelParts front (rxbuff 3))
      (aimAtSatModeSelOf front env.pdu rxbuff s) := by
  have hnot : ¬ isAimAtSatModeSel rxbuff = false := by simp [hcmd]
  unfold modeSelParts
  cases front with
  | pc =>
      show Completes .pc env s.begin _ (pcAimAtSatModeSel env.pdu rxbuff s)
      unfold pcAimAtSatModeSel
      dsimp only
      rw [if_neg hnot]
      split_ifs with hone htwo hthree hzero
      · exact Completes.tasksDel (Completes.safeEnd (.next rfl (.next rfl (.ret [] rfl))))
      · exact Completes.tasksDel
          (Completes.safeEnd (.next rfl (.next rfl (.next rfl (.ret [] rfl)))))
      · exact Completes.tasksDel
          (Completes.safeEnd (.next rfl (.next rfl (.next rfl (.ret [] rfl)))))
      · exact Completes.endMode (Completes.endMode (Completes.endMode (Completes.endMode
          (Completes.safeEnd (.next rfl (.ret [] rfl))))))
      · exact .ret [] rfl
  | oled =>
      show Completes .oled env s.begin _ (oledAimAtSatModeSel env.pdu rxbuff s)
      unfold oledAimAtSatModeSel
      dsimp only
      rw [if_neg hnot]
      split_ifs with hone htwo hthree hzero
      · exact Completes.tasksDel (Completes.safeEnd (.next rfl (.next rfl (.ret [] rfl))))
      · exact Completes.tasksDel
          (Completes.safeEnd (.next rfl (.next rfl (.next rfl (.ret [] rfl)))))
      · exact Completes.tasksDel
          (Completes.safeEnd (.next rfl (.next rfl (.next rfl (.ret [] rfl)))))
      · exact Completes.endMode (Completes.endMode (Completes.endMode (Completes.endMode
          (Completes.safeEnd (.next rfl (.ret [] rfl))))))
      · exact .ret [] rfl

theorem completes_setCurrSatParam (front : Front) (env : Env) (r : Recalled) (c : Cmd)
    (hsame : ¬ c.otherAntenna r) :
    Completes front env c [.setCurrSatParam r]
      (c.recallRecord (logCode front logOptAntennaPoseAppByPc logOptAntennaPoseAppByOled)
        env.faults env.beacon env.history_max_mv r) := by
  have hfreq (c : Cmd) : Part.exec front env c (.setFreq r) =
      ((c.setFreq env.beacon (beaconFreq r.freq c.device.antennaParam.loFreq)).2,
        if env.beacon (beaconFreq r.freq c.device.antennaParam.loFreq) = .FAIL then [.returnFail]
        else [.setHistory r]) := rfl
  have hloFreq : (c.setCurrSatParam r).device.antennaParam = c.device.antennaParam := rfl
  refine .next rfl ?_
  dsimp only [Part.exec]
  rw [if_neg hsame]
  refine .next rfl ?_
  rw [hfreq, hloFreq]
  cases hbeacon : env.beacon (beaconFreq r.freq c.device.antennaParam.loFreq) with
  | FAIL =>
      rw [Cmd.recallRecord_fail c hbeacon, if_pos rfl]
      exact .ret [] rfl
  | SUCC =>
      rw [Cmd.recallRecord_succ c hbeacon, if_neg (by simp)]
      exact .next rfl (.next rfl (.next rfl (.next rfl (.next rfl (.ret [] rfl)))))

theorem completes_recordGotoParts (front : Front) (env : Env) (rxbuff : Nat → UInt8) (s : Sta) :
    Completes front env s.begin (recordGotoParts rxbuff)
      (antennaRecordGotoOf front env.pdu env.faults env.beacon env.history_max_mv rxbuff s) := by
  have htext (c : Cmd) (id : UInt8) (out : Ret × Cmd)
      (hnone : c.recordOf env.faults id = none → out = (.FAIL, c))
      (hother : ∀ buff, c.recordOf env.faults id = some buff →
        c.otherAntenna (gotoRecord front buff) → out = (.FAIL, c))
      (hsame : ∀ buff, c.recordOf env.faults id = some buff →
        ¬ c.otherAntenna (gotoRecord front buff) → out =
          c.recallRecord (logCode front logOptAntennaPoseAppByPc logOptAntennaPoseAppByOled)
            env.faults env.beacon env.history_max_mv (gotoRecord front buff)) :
      Completes front env c [.findRecord id] out := by
    refine .next rfl ?_
    dsimp only [Part.exec]
    cases hrecord : c.recordOf env.faults id with
    | none =>
        rw [hnone hrecord]
        exact .ret [] rfl
    | some buff =>
        by_cases hcase : c.otherAntenna (gotoRecord front buff)
        · rw [hother buff hrecord hcase]
          refine .next rfl ?_
          dsimp only [Part.exec]
          rw [if_pos hcase]
          exact .ret [] rfl
        · rw [hsame buff hrecord hcase]
          exact completes_setCurrSatParam front env _ c hcase
  unfold recordGotoParts
  refine Completes.leaveMode ?_
  cases front with
  | pc =>
      show Completes .pc env _ _ (pcAntennaRecordGoto _ _ _ _ _ _)
      unfold pcAntennaRecordGoto
      dsimp only
      by_cases hcmd : cmdIdOf rxbuff ≠ CmdId.antennaRecordGoto.id
      · rw [if_pos hcmd, if_pos hcmd]
        exact .ret [] rfl
      · rw [if_neg hcmd, if_neg hcmd]
        refine htext _ _ _ (fun hnone => ?_) (fun buff hsome hother => ?_)
          (fun buff hsome hsame => ?_)
        · rw [hnone]
        · rw [hsome]
          exact if_pos hother
        · rw [hsome]
          exact if_neg hsame
  | oled =>
      show Completes .oled env _ _ (oledAntennaRecordGoto _ _ _ _ _ _)
      unfold oledAntennaRecordGoto
      dsimp only
      by_cases hcmd : cmdIdOf rxbuff ≠ CmdId.antennaRecordGoto.id
      · rw [if_pos hcmd, if_pos hcmd]
        exact .ret [] rfl
      · rw [if_neg hcmd, if_neg hcmd]
        refine htext _ _ _ (fun hnone => ?_) (fun buff hsome hother => ?_)
          (fun buff hsome hsame => ?_)
        · rw [hnone]
        · rw [hsome]
          exact if_pos hother
        · rw [hsome]
          exact if_neg hsame

/-- The command of an event, if the datagram is one, on the state it meets. -/
def Event.text (env : Env) (s : Sta) : Event → Option (Front × (Ret × Cmd))
  | .aimAtSatModeSel front rxbuff =>
    if isAimAtSatModeSel rxbuff then some (front, aimAtSatModeSelOf front env.pdu rxbuff s)
    else none
  | .antennaRecordGoto front rxbuff =>
    some (front,
      antennaRecordGotoOf front env.pdu env.faults env.beacon env.history_max_mv rxbuff s)
  | _ => none

/--
**A command that nothing comes between is its text.**  It comes in, and goes on until it returns:
what it returns then and what it has done to the device and to the tasks is what the text says.
-/
theorem alone_text (env : Env) {w : World} {e : Event} {front : Front} {out : Ret × Cmd}
    (hfree : w.cmds front = none) (htext : e.text env w.sta = some (front, out)) :
    ∃ n, Event.ret (Runs.run step w (e :: List.replicate n (.go front env))) (.go front env) =
        some out.1 ∧
      step (Runs.run step w (e :: List.replicate n (.go front env))) (.go front env) =
        w.after out.2 := by
  have hcompletes {mode : UInt8} {ps : List Part} (hstep : step w e = w.comeIn front mode ps)
      (hps : Completes front env w.sta.begin ps out) :
      ∃ n, Event.ret (Runs.run step w (e :: List.replicate n (.go front env))) (.go front env) =
          some out.1 ∧
        step (Runs.run step w (e :: List.replicate n (.go front env))) (.go front env) =
          w.after out.2 := by
    have hin : w.comeIn front mode ps =
        { w with cmds := Function.update w.cmds front (some ⟨mode, ps⟩) } := by
      unfold World.comeIn
      rw [hfree]
    have hcmd : (step w e).cmds front = some ⟨mode, ps⟩ := by
      rw [hstep, hin]
      exact Function.update_self _ _ _
    obtain ⟨n, hret, hout⟩ := run_completes hps w.pc (by rw [hstep, hin]; rfl)
      (by rw [hstep, hin]; rfl) hcmd
    refine ⟨n, hret, ?_⟩
    rw [Runs.run_cons, hout, hstep, hin]
    dsimp only
    rw [Function.update_idem, Function.update_eq_self_iff.mpr hfree.symm]
    rfl
  cases e with
  | aimAtSatModeSel f rxbuff =>
      by_cases hcmd : isAimAtSatModeSel rxbuff = true
      · have htext : some (f, aimAtSatModeSelOf f env.pdu rxbuff w.sta) = some (front, out) :=
          (if_pos hcmd).symm.trans htext
        rw [Option.some.injEq, Prod.mk.injEq] at htext
        obtain ⟨rfl, rfl⟩ := htext
        exact hcompletes (if_pos hcmd) (completes_modeSelParts f env hcmd w.sta)
      · have hnone : none = some (front, out) := (if_neg hcmd).symm.trans htext
        cases hnone
  | antennaRecordGoto f rxbuff =>
      have htext : some (f, antennaRecordGotoOf f env.pdu env.faults env.beacon env.history_max_mv
        rxbuff w.sta) = some (front, out) := htext
      rw [Option.some.injEq, Prod.mk.injEq] at htext
      obtain ⟨rfl, rfl⟩ := htext
      exact hcompletes rfl (completes_recordGotoParts f env rxbuff w.sta)
  | _ => cases htext

end SwiftAcu.Mode
