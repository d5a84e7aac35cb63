/-
Which tracking tasks a mode command leaves behind.

A command deletes a task only if its `Task_Run_Flag` is up, and the task raises the flag
itself.  So a command that selects a mode leaves behind every task of another mode that has
been created and not been scheduled, and every one that another command creates once its own
tests are made.  A mode byte that is none of the five is stored like any other, and deletes
nothing; nor does the byte of the recall.  What is kept between the events of a run is that a
command past its tests of a task has left it only to its own mode.
-/
import SwiftAcu.Proofs.Mode.Parts
import SwiftAcu.Proofs.Mode.Recall

namespace SwiftAcu.Mode

/-! ### What is kept -/

/-- Of the tasks that a command is past, it leaves behind that of its mode at most. -/
structure Running.Sound (r : Running) (pc : TaskId → Pc) : Prop where
  mode : r.mode ≤ 0x04
  shape : Shape r.mode r.rest
  left : ∀ t, t.isTracking = true → r.past t = true → pc t = .dormant ∨ t.mode = r.mode

structure World.Sound (w : World) : Prop where
  mode : w.sta.seekSatMode ≤ 0x04
  cmds : ∀ front r, w.cmds front = some r → r.Sound w.pc

/-- No task is created but where it may be. -/
def World.Creates (w : World) (pc : TaskId → Pc) : Prop :=
  ∀ t, t.isTracking = true → w.pc t = .dormant → pc t = .dormant ∨ w.MayCreate t

section
variable {w w' : World}

theorem World.Sound.running (h : w.Sound) {pc : TaskId → Pc} (hpc : w.Creates pc) {front : Front}
    {r : Running} (hr : w.cmds front = some r) : r.Sound pc := by
  have hsound := h.cmds front r hr
  refine ⟨hsound.mode, hsound.shape, fun t ht hpast => ?_⟩
  obtain hdormant | hown := hsound.left t ht hpast
  · obtain hdormant | hmay := hpc t ht hdormant
    · exact Or.inl hdormant
    · exact Or.inr (hmay front r hr hpast)
  · exact Or.inr hown

/-- What is no part of a command. -/
theorem World.Sound.frame (h : w.Sound) (hmode : w'.sta.seekSatMode ≤ 0x04)
    (hpc : w.Creates w'.pc) (hcmds : w'.cmds = w.cmds) : w'.Sound :=
  ⟨hmode, fun front r hr => h.running hpc (show w.cmds front = some r from hcmds ▸ hr)⟩

/-! ### The tasks -/

theorem creates_track (w : World) (t : TaskId) (rest : Pc) : w.Creates (w.track t rest).pc := by
  intro u _ hdormant
  left
  by_cases hut : u = t
  · subst hut
    unfold World.track
    rw [hdormant]
    exact hdormant
  · have hother (pc : Pc) : Function.update w.pc t pc u = .dormant := by
      rw [Function.update_of_ne hut, hdormant]
    unfold World.track
    split
    · exact hother _
    · split
      · exact hother _
      · exact hother _
    · exact hother _
    · exact hother _
    · exact hother _
    · exact hother _
    · exact hdormant

/-- A task sets no mode but the idle one. -/
theorem seekSatMode_track (t : TaskId) (rest : Pc) (w : World) :
    (w.track t rest).sta.seekSatMode = w.sta.seekSatMode ∨
      (w.track t rest).sta.seekSatMode = 0x00 := by
  unfold World.track
  split
  · exact Or.inl rfl
  · split <;> exact Or.inl rfl
  · exact Or.inr rfl
  · exact Or.inl rfl
  · exact Or.inl rfl
  · exact Or.inl rfl
  · exact Or.inl rfl

theorem cmds_track (t : TaskId) (rest : Pc) (w : World) : (w.track t rest).cmds = w.cmds := by
  unfold World.track
  split
  · rfl
  · split <;> rfl
  · rfl
  · rfl
  · rfl
  · rfl
  · rfl

theorem le_of_kept {mode mode' : UInt8} (h : mode ≤ 0x04) (hkept : mode' = mode ∨ mode' = 0x00) :
    mode' ≤ 0x04 := by
  obtain rfl | rfl := hkept
  · exact h
  · decide

theorem sound_track (h : w.Sound) (t : TaskId) (rest : Pc) : (w.track t rest).Sound :=
  h.frame (le_of_kept h.mode (seekSatMode_track t rest w)) (creates_track w t rest)
    (cmds_track t rest w)

/-- The end of the third task. -/
theorem sound_antennaRecordGotoEnd (h : w.Sound) : (taskAntennaRecordGotoEnd w).Sound := by
  have hgoto (pc : Pc) : w.Creates (Function.update w.pc .antennaRecordGoto pc) := by
    intro t ht hdormant
    have hne : t ≠ .antennaRecordGoto := by
      rintro rfl
      simp [TaskId.isTracking] at ht
    rw [Function.update_of_ne hne]
    exact Or.inl hdormant
  unfold taskAntennaRecordGotoEnd
  split
  · exact h.frame h.mode (hgoto _) rfl
  · split
    · exact h.frame h.mode (hgoto _) rfl
    · split
      · exact h.frame h.mode (hgoto _) rfl
      · split
        · exact h.frame h.mode (hgoto _) rfl
        · exact h.frame h.mode (hgoto _) rfl
  · exact h.frame (show (0x00 : UInt8) ≤ 0x04 by decide) (hgoto _) rfl
  · exact h.frame h.mode (hgoto _) rfl
  · exact h

/-- A task that is created where it may be. -/
theorem sound_taskCreate (h : w.Sound) (u : TaskId)
    (hmay : u.isTracking = true → w.MayCreate u) : (w.after (w.sta.begin.taskCreate u)).Sound := by
  refine h.frame h.mode (fun t ht hdormant => ?_) rfl
  show (w.sta.begin.taskCreate u).kernel w.pc t = .dormant ∨ _
  rw [kernel_taskCreate w.pc ht]
  by_cases htu : t = u
  · exact Or.inr (htu ▸ hmay (htu ▸ ht))
  · rw [if_neg htu]
    exact Or.inl hdormant

theorem sound_ethRelink (h : w.Sound) (hfits : Fits w .ethRelink) : (taskEthRelink w).Sound := by
  unfold taskEthRelink
  dsimp only
  split
  · next hmode => exact sound_taskCreate h _ fun ht => hfits _ ht hmode.symm
  · split
    · next hmode => exact sound_taskCreate h _ fun ht => hfits _ ht hmode.symm
    · split
      · exact sound_taskCreate h _ fun ht => by cases ht
      · exact h

/-! ### The commands -/

/-- A command that comes in, if it is past no task but what it may be. -/
theorem sound_comeIn (h : w.Sound) {front : Front} {mode : UInt8} {parts : List Part}
    (hnew : (⟨mode, parts⟩ : Running).Sound w.pc) : (w.comeIn front mode parts).Sound := by
  unfold World.comeIn
  split
  · exact h
  · refine ⟨h.mode, fun front' r hr => ?_⟩
    dsimp only at hr
    by_cases hfront : front' = front
    · subst hfront
      rw [Function.update_self, Option.some.injEq] at hr
      exact hr ▸ hnew
    · rw [Function.update_of_ne hfront] at hr
      exact h.cmds front' r hr

/-- The modes that make tests test both tracking tasks. -/
theorem sound_modeSelParts (front : Front) {mode : UInt8} {pc : TaskId → Pc} (hmode : mode ≤ 0x04)
    (hrecall : mode = 0x04 → ∀ t, t.isTracking = true → pc t = .dormant) :
    (⟨mode, modeSelParts front mode⟩ : Running).Sound pc := by
  have hmodes : mode = 0x01 ∨ mode = 0x02 ∨ mode = 0x03 ∨ mode = 0x00 ∨ mode = 0x04 := by
    rw [UInt8.le_iff_toNat_le, show (0x04 : UInt8).toNat = 4 from rfl] at hmode
    simp only [← UInt8.toNat_inj]
    have hcases : mode.toNat = 1 ∨ mode.toNat = 2 ∨ mode.toNat = 3 ∨ mode.toNat = 0 ∨
        mode.toNat = 4 := by omega
    exact hcases
  obtain rfl | rfl | rfl | rfl | rfl := hmodes
  · refine ⟨hmode, ?_, fun t ht hpast => ?_⟩
    · exact .cons trivial rfl (.cons trivial rfl (.cons trivial rfl (.cons trivial rfl
        (.cons trivial rfl (.cons trivial rfl (.last rfl))))))
    · cases t with
      | satelliteTrack | satGradientTrack => cases hpast
      | antennaRecordGoto => cases ht
  · refine ⟨hmode, ?_, fun t ht hpast => ?_⟩
    · exact .cons trivial rfl (.cons trivial rfl (.cons trivial rfl (.cons trivial rfl
        (.cons trivial rfl (.cons (fun _ => rfl) rfl (.cons trivial rfl (.last rfl)))))))
    · cases t with
      | satelliteTrack | satGradientTrack => cases hpast
      | antennaRecordGoto => cases ht
  · refine ⟨hmode, ?_, fun t ht hpast => ?_⟩
    · exact .cons trivial rfl (.cons trivial rfl (.cons trivial rfl (.cons trivial rfl
        (.cons trivial rfl (.cons (fun _ => rfl) rfl (.cons trivial rfl (.last rfl)))))))
    · cases t with
      | satelliteTrack | satGradientTrack => cases hpast
      | antennaRecordGoto => cases ht
  · refine ⟨hmode, ?_, fun t ht hpast => ?_⟩
    · exact .cons trivial rfl (.cons trivial rfl (.cons trivial rfl (.cons trivial rfl
        (.cons trivial rfl (.cons trivial rfl (.last rfl))))))
    · cases t with
      | satelliteTrack | satGradientTrack => cases hpast
      | antennaRecordGoto => cases ht
  · exact ⟨hmode, .last rfl, fun t ht _ => Or.inl (hrecall rfl t ht)⟩

/-- A recall is past no task before it has set its mode. -/
theorem sound_recordGotoParts (rxbuff : Nat → UInt8) (pc : TaskId → Pc) :
    (⟨0x04, recordGotoParts rxbuff⟩ : Running).Sound pc := by
  unfold recordGotoParts
  split
  · refine ⟨show (0x04 : UInt8) ≤ 0x04 by decide, .cons trivial rfl (.last trivial),
      fun t _ hpast => ?_⟩
    cases hpast
  · refine ⟨show (0x04 : UInt8) ≤ 0x04 by decide, .cons trivial rfl (.last rfl),
      fun t _ hpast => ?_⟩
    cases hpast

section
variable [SoftFloat] {front : Front} {env : Env} {mode : UInt8} {p : Part} {rest : List Part}

theorem creates_exec (hr : w.cmds front = some ⟨mode, p :: rest⟩) (hfits : Fits w (.go front env)) :
    w.Creates ((p.exec front env w.sta.begin).1.kernel w.pc) := by
  obtain ⟨-, hmay⟩ := hfits _ hr p rfl
  intro t ht hdormant
  obtain hsame | hgone | hcreate := kernel_exec w.pc front env w.sta p ht
  · rw [hsame]
    exact Or.inl hdormant
  · exact Or.inl hgone
  · exact Or.inr (hmay t ht hcreate)

/-- What is left of a command that has made a part. -/
theorem sound_exec (h : w.Sound) (hr : w.cmds front = some ⟨mode, p :: rest⟩)
    (hfits : Fits w (.go front env)) (hret : p.ret = none) :
    (⟨mode, (p.exec front env w.sta.begin).2 ++ rest⟩ : Running).Sound
      ((p.exec front env w.sta.begin).1.kernel w.pc) := by
  have hcreates := creates_exec hr hfits
  have hsound := h.cmds front _ hr
  refine ⟨hsound.mode, shape_exec hsound.shape, fun t ht hpast => ?_⟩
  simp only [Running.past, List.all_append, Bool.and_eq_true, List.all_eq_true,
    Bool.not_eq_true'] at hpast
  obtain ⟨hmore, hrest⟩ := hpast
  by_cases hconcerns : p.concerns t = true
  · obtain hspares | hgone := spares_or_dormant w.pc front env ht hconcerns hmore hret
    · obtain hdormant | hown := (hfits _ hr p rfl).1 t ht hspares
      · obtain hsame | hgone | hcreate := kernel_exec w.pc front env w.sta p ht
        · exact Or.inl (hsame.trans hdormant)
        · exact Or.inl hgone
        · cases p with
          | taskCreate u => cases hconcerns
          | _ => cases hcreate
      · exact Or.inr hown
    · exact Or.inl hgone
  · refine (h.running hcreates hr).left t ht ?_
    simp only [Running.past, List.all_cons, Bool.and_eq_true, Bool.not_eq_true', List.all_eq_true]
    exact ⟨Bool.eq_false_iff.mpr hconcerns, hrest⟩

theorem sound_go (h : w.Sound) (hfits : Fits w (.go front env)) : (w.go front env).Sound := by
  unfold World.go
  split
  · exact h
  · exact h
  · next mode p rest hr =>
    have hsound := h.cmds front _ hr
    refine ⟨?_, fun front' r hr' => ?_⟩
    · have hcases := seekSatMode_exec front env w.sta hsound.shape.1
      show (p.exec front env w.sta.begin).1.seekSatMode ≤ 0x04
      obtain hsame | hidle | hown := hcases
      · rw [hsame]
        exact h.mode
      · rw [hidle]
        decide
      · rw [hown]
        exact hsound.mode
    · dsimp only at hr'
      by_cases hfront : front' = front
      · subst hfront
        rw [Function.update_self] at hr'
        split at hr'
        · next hret =>
          rw [Option.some.injEq] at hr'
          exact hr' ▸ sound_exec h hr hfits hret
        · cases hr'
      · rw [Function.update_of_ne hfront] at hr'
        exact h.running (creates_exec hr hfits) hr'

/-- **A command that returns `SUCC`** has left no task but that of its mode. -/
theorem agrees_of_return (h : w.Sound) (hr : w.cmds front = some ⟨mode, p :: rest⟩)
    (hret : p.ret = some .SUCC) : (w.go front env).Agrees := by
  obtain ⟨-, ⟨hfine, hends, -⟩, hleft⟩ := h.cmds front _ hr
  have hgo : w.go front env =
      { w.after (p.exec front env w.sta.begin).1 with
        cmds := Function.update w.cmds front none } := by
    simp only [World.go, hr, hret]
    rfl
  rw [hgo]
  intro t ht hnot
  cases p with
  | returnMode m =>
      cases hends rfl
      obtain hdormant | hown := hleft t ht rfl
      · exact absurd hdormant hnot
      · exact hown.trans hfine.symm
  | returnCreate =>
      cases hends rfl
      have hnone : t.mode ≠ mode := by
        rw [show mode = 0x04 from hfine]
        cases t with
        | satelliteTrack | satGradientTrack => decide
        | antennaRecordGoto => cases ht
      have hkept : (w.sta.begin.taskCreate .antennaRecordGoto).kernel w.pc t = w.pc t := by
        rw [kernel_taskCreate w.pc ht, if_neg (by rintro rfl; cases ht)]
      obtain hdormant | hown := hleft t ht rfl
      · exact absurd (hkept.trans hdormant) hnot
      · exact absurd hown hnone
  | _ => cases hret

end

end

/-! ### Every event -/

/-- **A fitting event** keeps what is kept. -/
theorem sound_step [SoftFloat] {w : World} (h : w.Sound) {e : Event} (hfits : Fits w e) : (step w e).Sound := by
  cases e with
  | aimAtSatModeSel front rxbuff =>
      unfold step
      dsimp only
      split
      · next hcmd =>
        obtain ⟨hmode, hrecall⟩ := hfits hcmd
        exact sound_comeIn h (sound_modeSelParts front hmode hrecall)
      · exact h
  | antennaRecordGoto front rxbuff => exact sound_comeIn h (sound_recordGotoParts rxbuff w.pc)
  | go front env => exact sound_go h hfits
  | ethRelink => exact sound_ethRelink h hfits
  | gotoCreate => exact sound_taskCreate h _ fun ht => by cases ht
  | satelliteTrack | satGradientTrack => exact sound_track h _ _
  | antennaRecordGotoEnd => exact sound_antennaRecordGotoEnd h

theorem holds_of_fits [SoftFloat] {w : World} (h : w.Sound) {e : Event} (hfits : Fits w e) : Holds w e := by
  refine ⟨(sound_step h hfits).mode, fun hret => ?_⟩
  cases e with
  | go front env =>
      cases hr : w.cmds front with
      | none =>
          simp only [Event.ret, hr] at hret
          cases hret
      | some r =>
          obtain ⟨mode, rest⟩ := r
          cases rest with
          | nil =>
              simp only [Event.ret, hr] at hret
              cases hret
          | cons p rest =>
              simp only [Event.ret, hr] at hret
              exact agrees_of_return h hr hret
  | _ => cases hret

theorem seekSatMode_boot (s : Sta) :
    (boot s).sta.seekSatMode ≤ 0x04 ↔
      (0 < ethRelinkResetMcuFlagRead s.device.eeprom →
        aimAtSatModeRead s.device.eeprom ≤ 0x04) := by
  show (if 0 < ethRelinkResetMcuFlagRead s.device.eeprom
    then aimAtSatModeRead s.device.eeprom else 0x00) ≤ (0x04 : UInt8) ↔ _
  split_ifs with hflag
  · simp [hflag]
  · simp [hflag]

/-- **The mode and the tasks agree throughout a run of fitting events.** -/
theorem mode_tasks_agree [SoftFloat] (s : Sta) (es : List Event)
    (hboot : 0 < ethRelinkResetMcuFlagRead s.device.eeprom →
      aimAtSatModeRead s.device.eeprom ≤ 0x04)
    (hfits : Runs.AllSteps step Fits (boot s) es) :
    (boot s).sta.seekSatMode ≤ 0x04 ∧ Runs.AllSteps step Holds (boot s) es := by
  have hmode := (seekSatMode_boot s).mpr hboot
  have hstart : (boot s).Sound := ⟨hmode, fun front r hr => by cases hr⟩
  refine ⟨hmode, ?_⟩
  have hstep (w : World) (e : Event) (h : w.Sound) (hf : Fits w e) :
      Holds w e ∧ (step w e).Sound := ⟨holds_of_fits h hf, sound_step h hf⟩
  exact Runs.AllSteps.imp_of_inv hstep hstart hfits

/-- The datagram that selects a mode. -/
def selectMode (mode : UInt8) : Nat → UInt8 := fun i => [0x02, 0x01, 0x01, mode].getD i 0

/-- Nothing goes wrong. -/
def noFault : Env := ⟨fun _ _ => .SUCC, .none, fun _ => .SUCC, 0⟩

/-- A command of a front end that nothing comes between. -/
def alone (front : Front) (mode : UInt8) : List Event :=
  .aimAtSatModeSel front (selectMode mode) :: List.replicate 8 (.go front noFault)

instance decidableForallTask (P : TaskId → Prop) [DecidablePred P] : Decidable (∀ t, P t) :=
  decidable_of_iff (P .satelliteTrack ∧ P .satGradientTrack ∧ P .antennaRecordGoto)
    ⟨fun h t => by cases t with
      | satelliteTrack => exact h.1
      | satGradientTrack => exact h.2.1
      | antennaRecordGoto => exact h.2.2, fun h => ⟨h _, h _, h _⟩⟩

instance decidableForallFront (P : Front → Prop) [DecidablePred P] : Decidable (∀ front, P front) :=
  decidable_of_iff (P .pc ∧ P .oled)
    ⟨fun h front => by cases front with
      | pc => exact h.1
      | oled => exact h.2, fun h => ⟨h _, h _⟩⟩

instance decidableMayCreate (w : World) (t : TaskId) : Decidable (w.MayCreate t) :=
  inferInstanceAs (Decidable (∀ _, _))

instance decidableFits (w : World) (e : Event) : Decidable (Fits w e) :=
  match e with
  | .aimAtSatModeSel .. => inferInstanceAs (Decidable (_ → _ ∧ _))
  | .antennaRecordGoto .. => isTrue trivial
  | .go .. => inferInstanceAs (Decidable (∀ _ ∈ _, ∀ _ ∈ _, _ ∧ _))
  | .ethRelink => inferInstanceAs (Decidable (∀ _, _ → _ → _))
  | .gotoCreate => isTrue trivial
  | .satelliteTrack => isTrue trivial
  | .satGradientTrack => isTrue trivial
  | .antennaRecordGotoEnd => isTrue trivial

section
attribute [local instance] SoftFloat.single

/-- The PC selects the automatic search, and its task is scheduled; then the front panel selects
the tracking, and the PC the same between the stops and the rest of it. -/
def twice : List Event :=
  alone .pc 0x02 ++ .satelliteTrack :: .aimAtSatModeSel .oled (selectMode 0x03) ::
    List.replicate 4 (.go .oled noFault) ++ alone .pc 0x03 ++
    List.replicate 4 (.go .oled noFault)

/-- The search is ended and the tracking is begun, twice. -/
theorem mode_tasks_agree_twice :
    (boot newDevice).sta.seekSatMode ≤ 0x04 ∧ Runs.AllSteps step Holds (boot newDevice) twice :=
  mode_tasks_agree newDevice twice (by decide +kernel) (by decide +kernel)

/-- The automatic search is selected and then the tracking, before the task of the search has
been scheduled: that task is left behind. -/
theorem auto_then_follow_disagrees :
    ¬ Runs.AllSteps step Holds (boot newDevice) (alone .pc 0x02 ++ alone .pc 0x03) := by
  intro h
  have hlast := (Runs.allSteps_iff_split _ _).mp h
    (alone .pc 0x02 ++ .aimAtSatModeSel .pc (selectMode 0x03) ::
      List.replicate 7 (.go .pc noFault)) (.go .pc noFault) [] rfl
  have hsearch := hlast.2 (by decide +kernel) .satelliteTrack rfl (by decide +kernel)
  exact absurd hsearch (by decide +kernel)

end

end SwiftAcu.Mode
