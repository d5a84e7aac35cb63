/-
The step of `APP_Gradient_Track`, and what it reports.

`gradientDrives` is the routine at the level of its drives; carried out it is the routine
itself.  The determinant that the gradient is divided by is one of the displacements between
the last three samples, so it can be told from the samples before a drive whether the
target of the drive was defined.  The norm is another matter: it is large whenever the loop
goes on.

The routine leaves its loop at the 32nd drive, and then reports a success without having
set `*Azc`, `*ELc` and `*pc`.
-/
import Mathlib.Tactic.Linarith
import SwiftAcu.Proofs.Track.Samples

namespace SwiftAcu.Track

/-! ### The level of the drives -/

/-- `gradientRound`, with a drive for a command. -/
def gradientDriveRound (fpu : Fpu) (s : GradientSta) :
    Tracker GradientRet (GradientSta ⊕ Unit) := do
  if 0.5 < s.grad.d_Az ^ 2 + s.grad.d_El ^ 2 then
    drive (s.new.az + gradientStep s.grad.d_Az_n 0.03) (s.new.el + gradientStep s.grad.d_El_n 0.02)
      (.FAIL, none)
    let new ← onMotors (pointGet appPowerAgGet4Purs)
    .exitIf (30 < s.step) (.SUCC, none)
    let deltaOld : Delta := ⟨s.deltaNew.az, s.deltaNew.el + 0.01, s.deltaNew.p⟩
    let deltaNew : Delta := ⟨new.az - s.new.az + 0.01, new.el - s.new.el, new.p - s.new.p⟩
    return .inl ⟨new, deltaNew, gradient fpu deltaNew deltaOld, s.step + 1⟩
  else return .inr ()

/-- `appGradientTrack`, with a drive for a command. -/
def gradientDrives (fuel : Nat) (fpu : Fpu) : Tracker GradientRet GradientRet := do
  let oldI ← onMotors (pointGet appPowerGet)
  onMotors (gradientMove dirLeftDownAnticlock dirRightUpClock true)
  let old ← onMotors (pointGet appPowerAgGet4Purs)
  onMotors (gradientMove dirRightUpClock dirLeftDownAnticlock false)
  let new ← onMotors (pointGet appPowerAgGet4Purs)
  let deltaNew : Delta := ⟨new.az - old.az + 0.01, new.el - old.el, new.p - old.p⟩
  let deltaOld : Delta := ⟨old.az - oldI.az, old.el - oldI.el + 0.01, old.p - oldI.p⟩
  Script.loop (gradientDriveRound fpu) fuel ⟨new, deltaNew, gradient fpu deltaNew deltaOld, 0⟩
  let elc ← .get (.degree .cabrage)
  let azc ← .get (.degree .position)
  let pc ← onMotors appPowerAgGet4Purs
  return (.SUCC, some ⟨azc, elc, pc⟩)

section
variable {ε α β : Type} (fuel : Nat) (limit : SoftLimit)

theorem lower_onMotors (c : Search ε β) :
    (onMotors c).lower (TrackCmd.carry fuel limit) = c := by
  rw [onMotors, Script.lower_lower]
  exact Script.lower_id c

theorem lower_seq (c : Tracker ε α) (f : α → Tracker ε β) :
    (c >>= f).lower (TrackCmd.carry fuel limit) =
      c.lower (TrackCmd.carry fuel limit) >>= fun a => (f a).lower (TrackCmd.carry fuel limit) :=
  Script.lower_bind _ c f

theorem lower_drive (tar_Az tar_El : FP32) (ret : ε) :
    (drive tar_Az tar_El ret).lower (TrackCmd.carry fuel limit) = (do
      let sta ← (adaptTargetAngle fuel limit (targets ⟨tar_Az, tar_El, 0⟩)
        fun part => if part = .polar then 1 else 0).call
      .exitIf (sta = .FAIL) ret) := by
  unfold drive
  rw [lower_seq, Script.lower_give]
  simp only [Script.lower_exitIf]
  rfl

theorem lower_gradientDriveRound (fpu : Fpu) (s : GradientSta) :
    (gradientDriveRound fpu s).lower (TrackCmd.carry fuel limit) =
      gradientRound fuel fpu limit s := by
  unfold gradientDriveRound gradientRound
  split
  · simp only [lower_seq, lower_drive, lower_onMotors, Script.lower_exitIf]
    show (Script.bind _ _).bind _ = _
    rw [Script.bind_bind]
    rfl
  · rfl

/-- **The drives carried out** are `APP_Gradient_Track`. -/
theorem lower_gradientDrives (fpu : Fpu) :
    (gradientDrives fuel fpu).lower (TrackCmd.carry fuel limit) =
      appGradientTrack fuel fpu limit := by
  unfold gradientDrives appGradientTrack
  simp only [lower_seq, lower_onMotors, Script.lower_loop, lower_gradientDriveRound]
  rfl

end

/-! ### What is seen before a drive -/

/-- The last two displacements of the samples, with the compensation `segma0`: where the older
one was the newer one before, it was compensated then too. -/
def deltas : List Point → Delta × Delta
  | [new, old, oldI] =>
    (⟨new.az - old.az + 0.01, new.el - old.el, new.p - old.p⟩,
      ⟨old.az - oldI.az, old.el - oldI.el + 0.01, old.p - oldI.p⟩)
  | new :: old :: oldI :: _ :: _ =>
    (⟨new.az - old.az + 0.01, new.el - old.el, new.p - old.p⟩,
      ⟨old.az - oldI.az + 0.01, old.el - oldI.el + 0.01, old.p - oldI.p⟩)
  | _ => (⟨0, 0, 0⟩, ⟨0, 0, 0⟩)

/-- `d_Az_El`. -/
def dAzEl (ps : List Point) : FP32 :=
  (deltas ps).1.az * (deltas ps).2.el - (deltas ps).1.el * (deltas ps).2.az

/-- The gradient of the samples. -/
def gradientOf (fpu : Fpu) (ps : List Point) : Gradient := gradient fpu (deltas ps).1 (deltas ps).2

/-- The length that the gradient is divided by. -/
def normOf (fpu : Fpu) (ps : List Point) : FP32 :=
  fpu.sqrt ((gradientOf fpu ps).d_Az ^ 2 + (gradientOf fpu ps).d_El ^ 2)

/-- What came before a drive is `P`, for every drive. -/
def EveryDrive (P : TrackTrace → Prop) (tr : TrackTrace) : Prop :=
  ∀ pre e post, tr = pre ++ e :: post → isDrive e = true → P pre

/-- The targets of the drives were computed without a division by zero. -/
def Defined (fpu : Fpu) (tr : TrackTrace) : Prop :=
  EveryDrive (fun pre => dAzEl (samples pre) ≠ 0 ∧ normOf fpu (samples pre) ≠ 0) tr

/-- The last displacements before a drive are not collinear. -/
def Apart (tr : TrackTrace) : Prop := EveryDrive (fun pre => dAzEl (samples pre) ≠ 0) tr

/-- A drive that succeeded. -/
def isReached : Event Src FP32 TrackCmd Ret → Bool
  | .sent (.adaptTargetAngle _ _) ret => ret = .SUCC
  | _ => false

def reached (tr : TrackTrace) : Nat := tr.countP isReached

/-- The point was read at the very end. -/
def ReadLast (p : Point) (tr : TrackTrace) : Prop :=
  ∃ tr₀ mv mvs, p = Block.point ⟨p.az, p.el, mv :: mvs⟩ ∧
    tr = tr₀ ++ .got (.degree .cabrage) p.el :: .got (.degree .position) p.az ::
      (mv :: mvs).map (.got .beaconRxpowerMv)

/-- What `APP_Gradient_Track` is to do: defined targets, at most 32 drives, and after a
success `*Azc`, `*ELc` and `*pc` read behind the last of them. -/
structure WellReported (fpu : Fpu) (ret : GradientRet) (tr : TrackTrace) : Prop where
  defined : Defined fpu tr
  bounded : drives tr ≤ 32
  fresh : ret.1 = .SUCC → ∃ p, ret.2 = some p ∧ ReadLast p tr

section
variable {P Q : TrackTrace → Prop} {tr evs : TrackTrace} {e : Event Src FP32 TrackCmd Ret}

theorem everyDrive_nil : EveryDrive P [] := fun pre _ _ heq => by cases pre <;> cases heq

theorem everyDrive_concat :
    EveryDrive P (tr ++ [e]) ↔ EveryDrive P tr ∧ (isDrive e = true → P tr) := by
  refine ⟨fun h => ⟨fun pre x post heq hx => ?_, fun he => h tr e [] rfl he⟩, fun h => ?_⟩
  · exact h pre x (post ++ [e]) (by rw [heq, List.append_assoc, List.cons_append]) hx
  · intro pre x post heq hx
    obtain rfl | ⟨post, y, rfl⟩ := List.eq_nil_or_concat post
    · obtain ⟨rfl, hlast⟩ := List.append_inj' heq rfl
      obtain rfl := List.singleton_inj.mp hlast
      exact h.2 hx
    · rw [List.concat_eq_append, ← List.cons_append, ← List.append_assoc] at heq
      exact h.1 pre x post (List.append_inj' heq rfl).1 hx

theorem everyDrive_and : EveryDrive (fun pre => P pre ∧ Q pre) tr ↔
    EveryDrive P tr ∧ EveryDrive Q tr := by
  refine ⟨fun h => ⟨fun pre e post heq he => ?_, fun pre e post heq he => ?_⟩, fun h => ?_⟩
  · exact (h pre e post heq he).1
  · exact (h pre e post heq he).2
  · exact fun pre e post heq he => ⟨h.1 pre e post heq he, h.2 pre e post heq he⟩

theorem drives_append : drives (tr ++ evs) = drives tr + drives evs := List.countP_append

theorem reached_append : reached (tr ++ evs) = reached tr + reached evs := List.countP_append

/-- Events without a drive. -/
theorem everyDrive_append (h : drives evs = 0) : EveryDrive P (tr ++ evs) ↔ EveryDrive P tr := by
  refine iff_of_eq (Event.frame (fun tr e he => ?_) (List.countP_eq_zero.mp h) tr)
  rw [everyDrive_concat]
  exact propext (and_iff_left fun hdrive => absurd hdrive he)

/-- No drive at all. -/
theorem everyDrive_of_none (h : drives evs = 0) : EveryDrive P evs := by
  have happend : EveryDrive P ([] ++ evs) ↔ EveryDrive P [] := everyDrive_append h
  exact happend.mpr everyDrive_nil

theorem reached_eq_zero (h : drives evs = 0) : reached evs = 0 := by
  refine List.countP_eq_zero.mpr fun e he hreached => ?_
  refine List.countP_eq_zero.mp h e he ?_
  cases e with
  | got s v => cases hreached
  | sent c r =>
      cases c with
      | motor c => cases hreached
      | adaptTargetAngle az el => rfl

end

/-! ### The moves before the loop -/

/-- Commands to the motors only. -/
def Commands (evs : TrackTrace) : Prop := ∀ e ∈ evs, ∃ c r, e = .sent (.motor c) r

theorem Commands.append {evs evs' : TrackTrace} (h : Commands evs) (h' : Commands evs') :
    Commands (evs ++ evs') := by
  intro e he
  obtain he | he := List.mem_append.mp he
  · exact h e he
  · exact h' e he

theorem Commands.drives_eq {evs : TrackTrace} (h : Commands evs) : drives evs = 0 := by
  refine List.countP_eq_zero.mpr fun e he => ?_
  obtain ⟨c, r, rfl⟩ := h e he
  exact Bool.false_ne_true

theorem Commands.samples_append {evs : TrackTrace} (h : Commands evs) (tr : TrackTrace) :
    samples (tr ++ evs) = samples tr := by
  refine Event.frame (fun tr e he => ?_) h tr
  obtain ⟨c, r, rfl⟩ := he
  exact samples_sent tr _ r

section
variable {ε : Type} {tr : TrackTrace} {E : ε → TrackTrace → Prop} {F : TrackTrace → Prop}

/-- A command to a motor, tried twice. -/
theorem postRun_onMotors_twice {Q : Ret → TrackTrace → Prop} (c : MotorCmd)
    (h : ∀ ret evs, Commands evs → Q ret (tr ++ evs)) :
    Script.PostRun (onMotors (twice c) : Tracker ε Ret) tr E Q F := by
  have hone (r : Ret) : Commands [.sent (.motor c) r] := by
    intro e he
    exact ⟨c, r, List.mem_singleton.mp he⟩
  have htwo (r r' : Ret) : Q r' (tr ++ [.sent (.motor c) r] ++ [.sent (.motor c) r']) := by
    rw [List.append_assoc]
    exact h r' _ ((hone r).append (hone r'))
  intro ret
  cases ret with
  | SUCC => exact h .SUCC _ (hone .SUCC)
  | FAIL =>
      intro ret
      cases ret with
      | SUCC => exact htwo .FAIL .SUCC
      | FAIL => exact htwo .FAIL .FAIL

theorem onMotors_bind {α β : Type} (c : Search ε α) (f : α → Search ε β) :
    onMotors (c >>= f) = onMotors c >>= fun a => onMotors (f a) := Script.lower_bind _ c f

theorem onMotors_exitIf (p : Prop) [Decidable p] (e : ε) :
    onMotors (.exitIf p e : Search ε Unit) = .exitIf p e := Script.lower_exitIf _ p e

/-- A part of the routine that gives commands to the motors only. -/
theorem postRun_gradientMove (azDir elDir : UInt8) (azFirst : Bool)
    {E : GradientRet → TrackTrace → Prop} {Q : Unit → TrackTrace → Prop}
    (hfail : ∀ evs, Commands evs → E (.FAIL, none) (tr ++ evs))
    (h : ∀ evs, Commands evs → Q () (tr ++ evs)) :
    Script.PostRun (onMotors (gradientMove azDir elDir azFirst)) tr E Q F := by
  unfold gradientMove
  rw [onMotors_bind, Script.postRun_bind]
  refine postRun_onMotors_twice _ fun ret evs₁ h₁ => ?_
  rw [onMotors_bind, onMotors_exitIf, Script.postRun_exitIf_bind]
  refine ⟨fun _ => hfail evs₁ h₁, fun _ => ?_⟩
  rw [onMotors_bind, Script.postRun_bind]
  refine postRun_onMotors_twice _ fun ret evs₂ h₂ => ?_
  rw [onMotors_bind, onMotors_exitIf, Script.postRun_exitIf_bind]
  refine ⟨fun _ => ?_, fun _ => ?_⟩
  · rw [List.append_assoc]
    exact hfail _ (h₁.append h₂)
  -- the answers of the two stops are thrown away, in whichever order they are given
  have hstops (c c' : MotorCmd) : Script.PostRun
      (onMotors (do let _ ← twice c; let _ ← twice c') : Tracker GradientRet Unit)
      (tr ++ evs₁ ++ evs₂) E Q F := by
    rw [onMotors_bind, Script.postRun_bind]
    refine postRun_onMotors_twice _ fun _ evs₃ h₃ => ?_
    rw [onMotors_bind, Script.postRun_bind]
    refine postRun_onMotors_twice _ fun _ evs₄ h₄ => ?_
    rw [List.append_assoc, List.append_assoc, List.append_assoc]
    exact h _ (h₁.append (h₂.append (h₃.append h₄)))
  cases azFirst with
  | true => exact hstops (.stop .position azDir) (.stop .cabrage elDir)
  | false => exact hstops (.stop .cabrage elDir) (.stop .position azDir)

end

/-! ### The loop -/

/-- The norm before every drive is not zero. -/
def NormsOk (fpu : Fpu) (tr : TrackTrace) : Prop :=
  EveryDrive (fun pre => normOf fpu (samples pre) ≠ 0) tr

/-- What holds at the condition of the loop. -/
structure GradientSta.Inv (fpu : Fpu) (s : GradientSta) (tr : TrackTrace) : Prop where
  samples : ∃ old oldI rest, samples tr = s.new :: old :: oldI :: rest ∧
    s.deltaNew = ⟨s.new.az - old.az + 0.01, s.new.el - old.el, s.new.p - old.p⟩
  grad : s.grad = gradientOf fpu (Track.samples tr)
  norms : NormsOk fpu tr
  drives : drives tr = s.step
  reached : reached tr = s.step
  le : s.step ≤ 31

/-- What holds when the routine returns. -/
structure Leaves (fpu : Fpu) (ret : GradientRet) (tr : TrackTrace) : Prop where
  norms : NormsOk fpu tr
  bounded : drives tr ≤ 32
  fresh : (ret.1 = .SUCC → ∃ p, ret.2 = some p ∧ ReadLast p tr) ↔ reached tr < 32

theorem Defined.iff_apart {fpu : Fpu} {tr : TrackTrace} (h : NormsOk fpu tr) :
    Defined fpu tr ↔ Apart tr :=
  everyDrive_and.trans (and_iff_left h)

theorem Leaves.wellReported_iff {fpu : Fpu} {ret : GradientRet} {tr : TrackTrace}
    (h : Leaves fpu ret tr) : WellReported fpu ret tr ↔ Apart tr ∧ reached tr < 32 := by
  refine ⟨fun hw => ⟨(Defined.iff_apart h.norms).mp hw.defined, h.fresh.mp hw.fresh⟩, fun hc => ?_⟩
  exact ⟨(Defined.iff_apart h.norms).mpr hc.1, h.bounded, h.fresh.mpr hc.2⟩

/-- A failure without a drive more than those before. -/
theorem leaves_fail {fpu : Fpu} {tr : TrackTrace} (hnorms : NormsOk fpu tr)
    (hdrives : drives tr ≤ 32) (hreached : reached tr < 32) : Leaves fpu (.FAIL, none) tr :=
  ⟨hnorms, hdrives, iff_of_true (fun hs => by cases hs) hreached⟩

section
variable {fpu : Fpu} {tr : TrackTrace} {F : TrackTrace → Prop}

/-- **One round.** -/
theorem postRun_gradientDriveRound (hsqrt : ∀ x, 0 < x → 0 < fpu.sqrt x) {s : GradientSta}
    (h : s.Inv fpu tr) :
    Script.PostRun (gradientDriveRound fpu s) tr (Leaves fpu)
      (Script.Round (GradientSta.Inv fpu) fun _ tr =>
        NormsOk fpu tr ∧ drives tr ≤ 31 ∧ reached tr ≤ 31) F := by
  unfold gradientDriveRound
  split
  · next hgo =>
      have hnorm : normOf fpu (samples tr) ≠ 0 := by
        rw [h.grad] at hgo
        exact (hsqrt _ (lt_trans (by norm_num) hgo)).ne'
      have hdriven {e : Event Src FP32 TrackCmd Ret} : NormsOk fpu (tr ++ [e]) :=
        everyDrive_concat.mpr ⟨h.norms, fun _ => hnorm⟩
      have hle := h.le
      refine postRun_drive_pointGet meanOf_appPowerAgGet4Purs (leaves_fail hdriven ?_ ?_)
        fun new evs htakes => ?_
      · rw [drives_append, h.drives]
        exact Nat.succ_le_succ hle
      · rw [reached_append, h.reached]
        exact Nat.lt_succ_of_le hle
      generalize hcmd : TrackCmd.adaptTargetAngle _ _ = c at *
      have hone : drives [.sent c .SUCC] = 1 ∧ reached [.sent c .SUCC] = 1 := by
        rw [← hcmd]
        exact ⟨rfl, rfl⟩
      have hevs := htakes.drives_eq
      have hdrives : drives (tr ++ [.sent c .SUCC] ++ evs) = s.step + 1 := by
        rw [drives_append, drives_append, hevs, h.drives, hone.1]
      have hreached : reached (tr ++ [.sent c .SUCC] ++ evs) = s.step + 1 := by
        rw [reached_append, reached_append, reached_eq_zero hevs, h.reached, hone.2]
      have hnorms : NormsOk fpu (tr ++ [.sent c .SUCC] ++ evs) :=
        (everyDrive_append hevs).mpr hdriven
      rw [Script.postRun_exitIf_bind]
      refine ⟨fun hlast => ?_, fun hnext => ?_⟩
      · -- the 32nd drive: the results are not set
        refine ⟨hnorms, by omega, iff_of_false (fun hfresh => ?_) (by omega)⟩
        obtain ⟨p, hp, -⟩ := hfresh rfl
        cases hp
      · obtain ⟨old, oldI, rest, hsamples, hdelta⟩ := h.samples
        have hsamples' : samples (tr ++ [.sent c .SUCC] ++ evs) =
            new :: s.new :: old :: oldI :: rest := by
          rw [htakes.samples_append, samples_sent, hsamples]
        refine ⟨⟨s.new, old, oldI :: rest, hsamples', rfl⟩, ?_, hnorms, hdrives, hreached,
          Nat.succ_le_succ (not_lt.mp hnext)⟩
        rw [hsamples', hdelta]
        rfl
  · refine ⟨h.norms, ?_, ?_⟩
    · rw [h.drives]
      exact h.le
    · rw [h.reached]
      exact h.le

/-- The way to the loop: three samples, and motor commands between them. -/
theorem postRun_gradientLoop (fuel : Nat) (hsqrt : ∀ x, 0 < x → 0 < fpu.sqrt x) {s : GradientSta}
    (h : s.Inv fpu tr) :
    Script.PostRun (Script.loop (gradientDriveRound fpu) fuel s) tr (Leaves fpu)
      (fun _ tr => NormsOk fpu tr ∧ drives tr ≤ 31 ∧ reached tr ≤ 31)
      (fun tr => NormsOk fpu tr ∧ drives tr ≤ 32) := by
  refine Script.postRun_loop (GradientSta.Inv fpu)
    (fun s tr hs => postRun_gradientDriveRound hsqrt hs) (fun s tr hs => ?_) fuel h
  exact ⟨hs.norms, hs.drives.le.trans (hs.le.trans (by decide))⟩

/-- Three samples have been taken, and nothing was driven. -/
theorem inv_first {oldI old new : Point} {evsI evs evs' moves moves' : TrackTrace}
    (hI : Takes oldI evsI) (hmoves : Commands moves) (hold : Takes old evs)
    (hmoves' : Commands moves') (hnew : Takes new evs') :
    GradientSta.Inv fpu
      ⟨new, ⟨new.az - old.az + 0.01, new.el - old.el, new.p - old.p⟩,
        gradient fpu ⟨new.az - old.az + 0.01, new.el - old.el, new.p - old.p⟩
          ⟨old.az - oldI.az, old.el - oldI.el + 0.01, old.p - oldI.p⟩, 0⟩
      (evsI ++ moves ++ evs ++ moves' ++ evs') := by
  have hdrives : drives (evsI ++ moves ++ evs ++ moves' ++ evs') = 0 := by
    rw [drives_append, drives_append, drives_append, drives_append, hI.drives_eq,
      hmoves.drives_eq, hold.drives_eq, hmoves'.drives_eq, hnew.drives_eq]
  have hfirst : samples evsI = [oldI] := hI.samples_append []
  have hsamples : samples (evsI ++ moves ++ evs ++ moves' ++ evs') = [new, old, oldI] := by
    rw [hnew.samples_append, hmoves'.samples_append, hold.samples_append,
      hmoves.samples_append, hfirst]
  refine ⟨⟨old, oldI, [], hsamples, rfl⟩, ?_, ?_, hdrives, reached_eq_zero hdrives, Nat.zero_le 31⟩
  · rw [hsamples]
    rfl
  · exact everyDrive_of_none hdrives

/-- A failure before the first drive. -/
theorem leaves_idle (h : drives tr = 0) : Leaves fpu (.FAIL, none) tr := by
  refine leaves_fail (everyDrive_of_none h) ?_ ?_
  · rw [h]
    exact Nat.zero_le 32
  · rw [reached_eq_zero h]
    exact Nat.zero_lt_succ 31

/-- The last readings of the routine. -/
theorem leaves_read (elc azc : FP32) {mv : FP32} {mvs : List FP32} {p : FP32}
    (h : NormsOk fpu tr ∧ drives tr ≤ 31 ∧ reached tr ≤ 31)
    (hp : ∀ az el, p = (Block.point ⟨az, el, mv :: mvs⟩).p) :
    Leaves fpu (.SUCC, some ⟨azc, elc, p⟩) (tr ++ [.got (.degree .cabrage) elc] ++
      [.got (.degree .position) azc] ++ (mv :: mvs).map (.got .beaconRxpowerMv)) := by
  obtain ⟨hnorms, hdrives, hreached⟩ := h
  rw [List.append_assoc, List.append_assoc]
  have hevs : drives ([.got (.degree .cabrage) elc] ++ ([.got (.degree .position) azc] ++
      (mv :: mvs).map (.got .beaconRxpowerMv))) = 0 := drives_mvs (mv :: mvs)
  refine ⟨(everyDrive_append hevs).mpr hnorms, ?_, iff_of_true (fun _ => ?_) ?_⟩
  · rw [drives_append, hevs]
    omega
  · refine ⟨_, rfl, tr, mv, mvs, ?_, rfl⟩
    rw [hp azc elc]
    rfl
  · rw [reached_append, reached_eq_zero hevs]
    omega

/-- The routine from its first sample to its last reading. -/
theorem postRun_gradientDrives (fuel : Nat) (hsqrt : ∀ x, 0 < x → 0 < fpu.sqrt x) :
    Script.PostRun (gradientDrives fuel fpu) [] (Leaves fpu) (Leaves fpu)
      (fun tr => NormsOk fpu tr ∧ drives tr ≤ 32) := by
  unfold gradientDrives
  refine (postRun_pointGet meanOf_appPowerGet).seq ?_
  intro oldI tr htr
  obtain ⟨_, hI, rfl⟩ := htr
  rw [Script.postRun_bind]
  refine postRun_gradientMove _ _ _ (fun moves hmoves => leaves_idle ?_) fun moves hmoves => ?_
  · rw [drives_append, hI.drives_eq, hmoves.drives_eq]
  refine (postRun_pointGet meanOf_appPowerAgGet4Purs).seq ?_
  intro old tr htr
  obtain ⟨evs, hold, rfl⟩ := htr
  rw [Script.postRun_bind]
  refine postRun_gradientMove _ _ _ (fun moves' hmoves' => leaves_idle ?_)
    fun moves' hmoves' => ?_
  · rw [drives_append, drives_append, drives_append, hI.drives_eq, hmoves.drives_eq,
      hold.drives_eq, hmoves'.drives_eq]
  refine (postRun_pointGet meanOf_appPowerAgGet4Purs).seq ?_
  intro new tr htr
  obtain ⟨evs', hnew, rfl⟩ := htr
  dsimp only
  refine (postRun_gradientLoop fuel hsqrt (inv_first hI hmoves hold hmoves' hnew)).seq ?_
  intro _ tr hdone
  rw [Script.postRun_get_bind]
  intro elc
  rw [Script.postRun_get_bind]
  intro azc
  refine (meanOf_appPowerAgGet4Purs _ _ _).seq ?_
  intro p tr' hp
  obtain ⟨mv, mvs, rfl, hmean⟩ := hp
  exact leaves_read elc azc hdone hmean

/--
**What `APP_Gradient_Track` reports.**  However the angles and the beacon read and the
commands are answered: the targets are defined, the drives at most 32 and a success comes with
what was read last, exactly if the displacements before each drive are not collinear and
fewer than 32 drives succeed.  A routine that is still running has made at most 32 drives too.
-/
theorem gradient_wellReported_iff (fuel : Nat) (fpu : Fpu) (hsqrt : ∀ x, 0 < x → 0 < fpu.sqrt x) :
    Script.PostRun (gradientDrives fuel fpu) []
      (fun ret tr => WellReported fpu ret tr ↔ Apart tr ∧ reached tr < 32)
      (fun ret tr => WellReported fpu ret tr ↔ Apart tr ∧ reached tr < 32)
      (fun tr => (Defined fpu tr ↔ Apart tr) ∧ drives tr ≤ 32) :=
  (postRun_gradientDrives fuel hsqrt).imp (fun _ _ h => h.wellReported_iff)
    (fun _ _ h => h.wellReported_iff) fun _ h => ⟨Defined.iff_apart h.1, h.2⟩

/-- **Down to the motors**: a call of `APP_Gradient_Track` that returns carries out drives and
samples of which this holds. -/
theorem appGradientTrack_leaves {env : Script.Env Src FP32 MotorCmd Ret} {fuel : Nat}
    {limit : SoftLimit} (hsqrt : ∀ x, 0 < x → 0 < fpu.sqrt x)
    {r : GradientRet ⊕ GradientRet} {trm : Trace}
    (h : (appGradientTrack fuel fpu limit).exec env [] = some (r, trm)) :
    ∃ tr, Script.Carried env (TrackCmd.carry fuel limit) tr trm ∧
      (WellReported fpu (r.elim id id) tr ↔ Apart tr ∧ reached tr < 32) := by
  rw [← lower_gradientDrives] at h
  obtain ⟨tr, hcarried, hleaves⟩ := (postRun_gradientDrives fuel hsqrt).post.lower .nil h
  refine ⟨tr, hcarried, ?_⟩
  cases r with
  | inl ret => exact hleaves.wellReported_iff
  | inr ret => exact hleaves.wellReported_iff

end

/-! ### The 32nd drive -/

/-- The same for quotients and square roots as they are. -/
theorem gradient_wellReported_root :
    Script.PostRun (gradientDrives 33 rootFpu) []
      (fun ret tr => WellReported rootFpu ret tr ↔ Apart tr ∧ reached tr < 32)
      (fun ret tr => WellReported rootFpu ret tr ↔ Apart tr ∧ reached tr < 32)
      (fun tr => (Defined rootFpu tr ↔ Apart tr) ∧ drives tr ≤ 32) :=
  gradient_wellReported_iff 33 rootFpu rootFpu_sqrt_pos

/-- How many commands were given. -/
def sends (tr : TrackTrace) : Nat := tr.countP fun
  | .sent _ _ => true
  | .got _ _ => false

/-- The antenna stands still, and from the eighth command on the power rises by a volt with
every command. -/
def risingValue (n : Nat) : Src → FP32
  | .degree .position => 180
  | .degree .cabrage => 45
  | .degree .polar => 0
  | .beaconRxpowerMv => 1000 * ((n - 7 : Nat) : FP32)

def risingEnv : Script.Env Src FP32 TrackCmd Ret :=
  { value := fun tr => risingValue (sends tr)
    answer := fun _ _ => .SUCC }

/-- The loop after `k` rounds. -/
def risingSta (k : Nat) : GradientSta := ⟨⟨180, 45, k + 1⟩, ⟨0.01, 0, 1⟩, ⟨100, 0, 1, 0⟩, k⟩

theorem sends_append (tr evs : TrackTrace) : sends (tr ++ evs) = sends tr + sends evs :=
  List.countP_append

theorem sends_readings {evs : TrackTrace} (h : Readings evs) : sends evs = 0 := by
  refine List.countP_eq_zero.mpr fun e he => ?_
  obtain ⟨s, v, rfl⟩ := h e he
  exact Bool.false_ne_true

theorem steady_rising : Steady risingEnv := by
  intro tr s v s'
  have hsends : sends (tr ++ [.got s v]) = sends tr := sends_append tr _
  exact congrArg (risingValue · s') hsends

theorem current_rising (tr : TrackTrace) :
    current risingEnv tr = ⟨180, 45, ((sends tr - 7 : Nat) : FP32)⟩ := by
  have hp : 1000 * ((sends tr - 7 : Nat) : FP32) / 1000 = ((sends tr - 7 : Nat) : FP32) := by
    ring
  exact congrArg (Point.mk 180 45) hp

theorem rootFpu_gradient_first :
    gradient rootFpu ⟨0.01, 0, 1⟩ ⟨0, 0.01, 0⟩ = ⟨100, 0, 1, 0⟩ := by
  rw [gradient, Gradient.mk.injEq]
  decide +kernel

theorem rootFpu_gradient :
    gradient rootFpu ⟨0.01, 0, 1⟩ ⟨0.01, 0.01, 1⟩ = ⟨100, 0, 1, 0⟩ := by
  rw [gradient, Gradient.mk.injEq]
  decide +kernel

/-- The state that a round computes. -/
theorem risingSta_succ (k : Nat) :
    GradientSta.mk ⟨180, 45, ((9 + k - 7 : Nat) : FP32)⟩
      ⟨180 - 180 + 0.01, 45 - 45, ((9 + k - 7 : Nat) : FP32) - ((k : FP32) + 1)⟩
      (gradient rootFpu ⟨180 - 180 + 0.01, 45 - 45, ((9 + k - 7 : Nat) : FP32) - ((k : FP32) + 1)⟩
        ⟨0.01, 0 + 0.01, 1⟩) (k + 1) = risingSta (k + 1) := by
  have hp : ((9 + k - 7 : Nat) : FP32) = (k : FP32) + 1 + 1 := by
    rw [show 9 + k - 7 = k + 1 + 1 by omega, Nat.cast_succ, Nat.cast_succ]
  rw [hp, sub_self, sub_self, zero_add, add_sub_cancel_left, rootFpu_gradient, risingSta,
    Nat.cast_succ]

/-- The state before the first round. -/
theorem risingSta_zero :
    GradientSta.mk ⟨180, 45, ((0 + 4 + 4 - 7 : Nat) : FP32)⟩
      ⟨180 - 180 + 0.01, 45 - 45, ((0 + 4 + 4 - 7 : Nat) : FP32) - ((0 + 4 - 7 : Nat) : FP32)⟩
      (gradient rootFpu
        ⟨180 - 180 + 0.01, 45 - 45, ((0 + 4 + 4 - 7 : Nat) : FP32) - ((0 + 4 - 7 : Nat) : FP32)⟩
        ⟨180 - 180, 45 - 45 + 0.01, ((0 + 4 - 7 : Nat) : FP32) - ((0 - 7 : Nat) : FP32)⟩) 0 =
      risingSta 0 := by
  have hnew : ((0 + 4 + 4 - 7 : Nat) : FP32) = 1 := Nat.cast_one
  have hold : ((0 + 4 - 7 : Nat) : FP32) = 0 := Nat.cast_zero
  rw [hnew, hold, sub_self, sub_self, sub_zero, sub_zero, zero_add, rootFpu_gradient_first,
    risingSta, Nat.cast_zero, zero_add]

/-- **A round of the climb**, up to the last. -/
theorem exec_risingRound {k : Nat} {tr : TrackTrace} (hk : sends tr = 8 + k) :
    ∃ tr', sends tr' = 9 + k ∧ (gradientDriveRound rootFpu (risingSta k)).exec risingEnv tr =
      if 30 < k then some (.inl (.SUCC, none), tr')
      else some (.inr (.inl (risingSta (k + 1))), tr') := by
  -- the drive and the sample of the round
  let drove : TrackTrace := tr ++ [.sent
    (.adaptTargetAngle (180 + gradientStep 1 0.03) (45 + gradientStep 0 0.02)) .SUCC]
  have hdrove : sends drove = 9 + k := by
    rw [sends_append, hk]
    show 8 + k + 1 = 9 + k
    omega
  obtain ⟨evs, hevs, hpoint⟩ := @Steady.exec_pointGet risingEnv drove GradientRet steady_rising _
    readsSteady_appPowerAgGet4Purs
  rw [current_rising, hdrove] at hpoint
  refine ⟨drove ++ evs, ?_, ?_⟩
  · rw [sends_append, hdrove, sends_readings hevs, Nat.add_zero]
  · unfold gradientDriveRound
    have hgo : (0.5 : FP32) < (risingSta k).grad.d_Az ^ 2 + (risingSta k).grad.d_El ^ 2 := by
      show (0.5 : FP32) < 100 ^ 2 + 0 ^ 2
      norm_num
    rw [if_pos hgo]
    refine (Script.exec_bind_of (exec_drive_succ rfl) _).trans ?_
    refine (Script.exec_bind_of hpoint _).trans ?_
    by_cases hlast : 30 < k
    · rw [if_pos hlast]
      have hexit : (Script.exitIf (30 < k) (Ret.SUCC, none) : Tracker GradientRet Unit).exec
          risingEnv (drove ++ evs) = some (.inl (.SUCC, none), drove ++ evs) := by
        rw [Script.exitIf, if_pos hlast]
        rfl
      exact Script.exec_bind_exit hexit _
    · rw [if_neg hlast]
      have hstay : (Script.exitIf (30 < k) (Ret.SUCC, none) : Tracker GradientRet Unit).exec
          risingEnv (drove ++ evs) = some (.inr (), drove ++ evs) := by
        rw [Script.exitIf, if_neg hlast]
        rfl
      refine (Script.exec_bind_of hstay _).trans ?_
      exact congrArg (fun s => some (Sum.inr (Sum.inl s), drove ++ evs)) (risingSta_succ k)

/-- The climb goes on to its 32nd drive. -/
theorem exec_risingLoop {n k : Nat} (hn : n + k = 31) {tr : TrackTrace} (hk : sends tr = 8 + k) :
    ∃ tr', (Script.loop (gradientDriveRound rootFpu) (n + 1) (risingSta k)).exec risingEnv tr =
      some (.inl (.SUCC, none), tr') := by
  induction n generalizing k tr with
  | zero =>
      obtain ⟨tr', -, hround⟩ := exec_risingRound hk
      rw [if_pos (by omega)] at hround
      exact ⟨tr', Script.exec_bind_exit hround _⟩
  | succ n ih =>
      obtain ⟨tr', hsends, hround⟩ := exec_risingRound hk
      rw [if_neg (by omega)] at hround
      obtain ⟨tr'', hloop⟩ := @ih (k + 1) (by omega) tr' (by omega)
      exact ⟨tr'', (Script.exec_bind_of hround _).trans hloop⟩

/-- The motors of a move are commanded four times. -/
theorem exec_gradientMove_rising (azDir elDir : UInt8) (azFirst : Bool) (tr : TrackTrace) :
    ∃ tr', sends tr' = sends tr + 4 ∧
      (onMotors (gradientMove azDir elDir azFirst)).exec risingEnv tr = some (.inr (), tr') := by
  cases azFirst with
  | true =>
      refine ⟨tr ++ [.sent (.motor (.start .position azDir)) .SUCC] ++
        [.sent (.motor (.start .cabrage elDir)) .SUCC] ++
        [.sent (.motor (.stop .position azDir)) .SUCC] ++
        [.sent (.motor (.stop .cabrage elDir)) .SUCC], ?_, rfl⟩
      rw [sends_append, sends_append, sends_append, sends_append]
      rfl
  | false =>
      refine ⟨tr ++ [.sent (.motor (.start .position azDir)) .SUCC] ++
        [.sent (.motor (.start .cabrage elDir)) .SUCC] ++
        [.sent (.motor (.stop .cabrage elDir)) .SUCC] ++
        [.sent (.motor (.stop .position azDir)) .SUCC], ?_, rfl⟩
      rw [sends_append, sends_append, sends_append, sends_append]
      rfl

/-- A sample of the climb. -/
theorem exec_pointGet_rising {power : Search GradientRet FP32} (hpower : ReadsSteady power) {n : Nat}
    {tr : TrackTrace} (hn : sends tr = n) : ∃ tr', sends tr' = n ∧
      (onMotors (pointGet power)).exec risingEnv tr =
        some (.inr ⟨180, 45, ((n - 7 : Nat) : FP32)⟩, tr') := by
  obtain ⟨evs, hevs, hexec⟩ := @Steady.exec_pointGet risingEnv tr GradientRet steady_rising _ hpower
  rw [current_rising, hn] at hexec
  refine ⟨tr ++ evs, ?_, hexec⟩
  rw [sends_append, sends_readings hevs, hn, Nat.add_zero]

/-- The climb, from its first sample on. -/
theorem exec_gradientDrives_rising : ∃ tr,
    (gradientDrives 32 rootFpu).exec risingEnv [] = some (.inl (.SUCC, none), tr) := by
  obtain ⟨trI, hI, hoI⟩ := @exec_pointGet_rising _ readsSteady_appPowerGet 0 [] rfl
  obtain ⟨trm, hm, hmove⟩ := exec_gradientMove_rising dirLeftDownAnticlock dirRightUpClock true trI
  rw [hI] at hm
  obtain ⟨tro, ho, hold⟩ := exec_pointGet_rising readsSteady_appPowerAgGet4Purs hm
  obtain ⟨trm', hm', hmove'⟩ :=
    exec_gradientMove_rising dirRightUpClock dirLeftDownAnticlock false tro
  rw [ho] at hm'
  obtain ⟨trn, hn, hnew⟩ := exec_pointGet_rising readsSteady_appPowerAgGet4Purs hm'
  obtain ⟨tr, hloop⟩ := @exec_risingLoop 31 0 rfl trn hn
  rw [← risingSta_zero] at hloop
  refine ⟨tr, ?_⟩
  refine (Script.exec_bind_of hoI _).trans ?_
  refine (Script.exec_bind_of hmove _).trans ?_
  refine (Script.exec_bind_of hold _).trans ?_
  refine (Script.exec_bind_of hmove' _).trans ?_
  refine (Script.exec_bind_of hnew _).trans ?_
  exact Script.exec_bind_exit hloop _

/-- With the power rising on and on, a success is reported without a reading. -/
theorem not_wellReported_rising :
    ¬ ∀ (fuel : Nat) (fpu : Fpu), (∀ x, 0 < x → 0 < fpu.sqrt x) →
      Script.Post (gradientDrives fuel fpu) [] (WellReported fpu) (WellReported fpu) := by
  intro h
  obtain ⟨tr, hrun⟩ := exec_gradientDrives_rising
  have hpost : WellReported rootFpu (.SUCC, none) tr :=
    (h 32 rootFpu rootFpu_sqrt_pos).exec _ hrun
  obtain ⟨p, hp, -⟩ := hpost.fresh rfl
  cases hp

end SwiftAcu.Track
