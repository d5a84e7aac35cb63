/-
The samples a tracker takes, and the targets it gives.

A sample is seen in the trace: azimuth and elevation are read, then the power once or more
without anything between; the power of the sample is the mean.  What a tracker computes as
a point is shown to be the sample it has just taken.
-/
import Mathlib.Algebra.BigOperators.Group.List.Basic
import Mathlib.Data.Nat.Sqrt
import Mathlib.Data.Rat.Floor
import Mathlib.Tactic.Positivity
import Mathlib.Tactic.Ring
import SwiftAcu.Acu.Tracker
import SwiftAcu.Proofs.Track.Searches

namespace SwiftAcu.Track

/-- What a tracker has read and been answered. -/
abbrev TrackTrace := List (Event Src FP32 TrackCmd Ret)

/-! ### What is seen -/

/-- The readings of a sample. -/
structure Block where
  az : FP32
  el : FP32
  mvs : List FP32

/-- The sample: the power is the mean, in volts. -/
def Block.point (b : Block) : Point :=
  ⟨b.az, b.el, (b.mvs.map fun mv => mv / 1000 / (b.mvs.length : FP32)).sum⟩

/-- The angles read last, and the samples so far, the latest first. -/
structure Survey where
  az : FP32
  el : FP32
  /-- The latest sample may go on. -/
  taking : Bool
  blocks : List Block

/-- One event more. -/
def Survey.step (s : Survey) : Event Src FP32 TrackCmd Ret → Survey
  | .got (.degree .position) v => { s with az := v, taking := false }
  | .got (.degree .cabrage) v => { s with el := v, taking := false }
  | .got (.degree .polar) _ => { s with taking := false }
  | .got .beaconRxpowerMv mv =>
    match s.taking, s.blocks with
    | true, b :: blocks => { s with blocks := { b with mvs := b.mvs ++ [mv] } :: blocks }
    | _, blocks => { s with taking := true, blocks := ⟨s.az, s.el, [mv]⟩ :: blocks }
  | .sent _ _ => { s with taking := false }

def survey (tr : TrackTrace) : Survey := tr.foldl Survey.step ⟨0, 0, false, []⟩

/-- The samples of a trace, the latest first. -/
def samples (tr : TrackTrace) : List Point := (survey tr).blocks.map Block.point

/-- An event that drives the antenna. -/
def isDrive : Event Src FP32 TrackCmd Ret → Bool
  | .sent (.adaptTargetAngle _ _) _ => true
  | _ => false

/-- How often the antenna was driven. -/
def drives (tr : TrackTrace) : Nat := tr.countP isDrive

/-- The last drive of the trace was one to a target, after `tr`. -/
def LastDrive (tar_Az tar_El : FP32) (tr whole : TrackTrace) : Prop :=
  ∃ ret evs, whole = tr ++ .sent (.adaptTargetAngle tar_Az tar_El) ret :: evs ∧ drives evs = 0

/-- There is one last drive. -/
theorem LastDrive.unique {az el az' el' : FP32} {tr tr' whole : TrackTrace}
    (h : LastDrive az el tr whole) (h' : LastDrive az' el' tr' whole) :
    az = az' ∧ el = el' ∧ tr = tr' := by
  obtain ⟨ret, evs, rfl, hevs⟩ := h
  obtain ⟨ret', evs', heq, hevs'⟩ := h'
  have hnot {evs between : TrackTrace} {e : Event Src FP32 TrackCmd Ret} {rest : TrackTrace}
      (he : isDrive e = true) (hsplit : evs = between ++ e :: rest) (hevs : drives evs = 0) :
    False := by
    have hmem : e ∈ evs := hsplit ▸ List.mem_append_right between List.mem_cons_self
    exact absurd he (List.countP_eq_zero.mp hevs e hmem)
  obtain ⟨between, rfl, hrest⟩ | ⟨between, rfl, hrest⟩ := List.append_eq_append_iff.mp heq
  · cases between with
    | nil =>
        obtain ⟨hhead, -⟩ := List.cons.inj hrest
        obtain ⟨haz, hel⟩ := TrackCmd.adaptTargetAngle.inj (Event.sent.inj hhead).1
        exact ⟨haz, hel, (List.append_nil tr).symm⟩
    | cons e between => exact (hnot rfl (List.cons.inj hrest).2 hevs).elim
  · cases between with
    | nil =>
        obtain ⟨hhead, -⟩ := List.cons.inj hrest
        obtain ⟨haz, hel⟩ := TrackCmd.adaptTargetAngle.inj (Event.sent.inj hhead).1
        exact ⟨haz.symm, hel.symm, List.append_nil tr'⟩
    | cons e between => exact (hnot rfl (List.cons.inj hrest).2 hevs').elim

/-! ### Taking a sample -/

/-- The events of a sample. -/
def Takes (p : Point) (evs : TrackTrace) : Prop :=
  ∃ mv mvs, p = Block.point ⟨p.az, p.el, mv :: mvs⟩ ∧
    evs = .got (.degree .position) p.az :: .got (.degree .cabrage) p.el ::
      (mv :: mvs).map (.got .beaconRxpowerMv)

theorem survey_append (tr evs : TrackTrace) :
    survey (tr ++ evs) = evs.foldl Survey.step (survey tr) := List.foldl_append

theorem samples_sent (tr : TrackTrace) (c : TrackCmd) (r : Ret) :
    samples (tr ++ [.sent c r]) = samples tr := by
  rw [samples, survey_append]
  rfl

/-- The power is read on and on. -/
theorem foldl_mvs (az el : FP32) (b : Block) (blocks : List Block) (mvs : List FP32) :
    (mvs.map (.got .beaconRxpowerMv)).foldl Survey.step ⟨az, el, true, b :: blocks⟩ =
      ⟨az, el, true, { b with mvs := b.mvs ++ mvs } :: blocks⟩ := by
  induction mvs generalizing b with
  | nil => rw [List.append_nil]; rfl
  | cons mv mvs ih =>
      have hone := ih { b with mvs := b.mvs ++ [mv] }
      rw [List.append_assoc] at hone
      exact hone

theorem Takes.samples_append {p : Point} {evs : TrackTrace} (h : Takes p evs) (tr : TrackTrace) :
    samples (tr ++ evs) = p :: samples tr := by
  obtain ⟨mv, mvs, hp, rfl⟩ := h
  rw [samples, survey_append, List.foldl_cons, List.foldl_cons, List.map_cons,
    List.foldl_cons]
  have hmvs := foldl_mvs p.az p.el ⟨p.az, p.el, [mv]⟩ (survey tr).blocks mvs
  refine (congrArg (fun s => s.blocks.map Block.point) hmvs).trans ?_
  exact congrArg (· :: samples tr) hp.symm

/-- The power is read without a drive. -/
theorem drives_mvs (mvs : List FP32) : drives (mvs.map (.got .beaconRxpowerMv)) = 0 := by
  refine List.countP_eq_zero.mpr fun e he => ?_
  obtain ⟨v, -, rfl⟩ := List.mem_map.mp he
  exact Bool.false_ne_true

theorem Takes.drives_eq {p : Point} {evs : TrackTrace} (h : Takes p evs) : drives evs = 0 := by
  obtain ⟨mv, mvs, -, rfl⟩ := h
  exact drives_mvs (mv :: mvs)

section
variable {ε : Type} {tr : TrackTrace} {E : ε → TrackTrace → Prop}

/-- The sum of `APP_Power_AG_Get`, as it goes on. -/
theorem postRun_powerAg (samp_count : FP32) (n : Nat) (power_ag : FP32) {F : TrackTrace → Prop} :
    Script.PostRun (onMotors (powerAg samp_count n power_ag) : Tracker ε FP32) tr E (fun p tr' =>
      ∃ mvs : List FP32, mvs.length = n ∧ tr' = tr ++ mvs.map (.got .beaconRxpowerMv) ∧
        p = power_ag + (mvs.map fun mv : FP32 => mv / 1000 / samp_count).sum) F := by
  induction n generalizing tr power_ag with
  | zero => exact ⟨[], rfl, (List.append_nil tr).symm, (add_zero power_ag).symm⟩
  | succ n ih =>
      intro mv
      refine (ih (power_ag + mv / 1000 / samp_count)).mono ?_
      intro p tr' hp
      obtain ⟨mvs, rfl, rfl, rfl⟩ := hp
      refine ⟨mv :: mvs, rfl, ?_, ?_⟩
      · rw [List.append_assoc]
        rfl
      · rw [List.map_cons, List.sum_cons, add_assoc]

/-- A power that is the mean of the readings it takes. -/
def MeanOf (power : Search ε FP32) : Prop :=
  ∀ (tr : TrackTrace) (E : ε → TrackTrace → Prop) (F : TrackTrace → Prop),
    Script.PostRun (onMotors power) tr E (fun p tr' =>
      ∃ mv mvs, tr' = tr ++ (mv :: mvs).map (.got .beaconRxpowerMv) ∧
        ∀ az el, p = (Block.point ⟨az, el, mv :: mvs⟩).p) F

theorem meanOf_appPowerGet : MeanOf (appPowerGet : Search ε FP32) := by
  intro tr E F mv
  refine ⟨mv, [], rfl, fun az el => ?_⟩
  simp [Block.point]

theorem meanOf_appPowerAgGet4Purs : MeanOf (appPowerAgGet4Purs : Search ε FP32) := by
  intro tr E F
  refine (postRun_powerAg 20 20 0).mono ?_
  intro p tr' hp
  obtain ⟨mvs, hlength, rfl, rfl⟩ := hp
  cases mvs with
  | nil => cases hlength
  | cons mv mvs =>
      refine ⟨mv, mvs, rfl, fun az el => ?_⟩
      rw [Block.point, hlength, zero_add]
      rfl

/-- A drive fails and the tracker leaves, or it goes on. -/
theorem postRun_drive {tar_Az tar_El : FP32} {ret : ε} {Q : Unit → TrackTrace → Prop}
    {F : TrackTrace → Prop}
    (hfail : E ret (tr ++ [.sent (.adaptTargetAngle tar_Az tar_El) .FAIL]))
    (hsucc : Q () (tr ++ [.sent (.adaptTargetAngle tar_Az tar_El) .SUCC])) :
    Script.PostRun (drive tar_Az tar_El ret) tr E Q F := by
  unfold drive
  rw [Script.postRun_give_bind]
  intro sta
  cases sta with
  | SUCC => exact hsucc
  | FAIL => exact hfail

/-- **A point that was got** is the sample that was taken. -/
theorem postRun_pointGet {power : Search ε FP32} (hpower : MeanOf power) {F : TrackTrace → Prop} :
    Script.PostRun (onMotors (pointGet power)) tr E
      (fun p tr' => ∃ evs, Takes p evs ∧ tr' = tr ++ evs) F := by
  intro az el
  show Script.PostRun (onMotors (power.bind fun p => .done (Point.mk az el p))) _ E _ F
  rw [onMotors, Script.lower_bind]
  refine (hpower _ E F).seq ?_
  intro p tr' hp
  obtain ⟨mv, mvs, rfl, hmean⟩ := hp
  refine ⟨_, ⟨mv, mvs, ?_, rfl⟩, ?_⟩
  · rw [hmean az el]
    rfl
  · rw [List.append_assoc, List.append_assoc]
    rfl

/-- A drive, and a sample after it. -/
theorem postRun_drive_pointGet {β : Type} {power : Search ε FP32} (hpower : MeanOf power)
    {tar_Az tar_El : FP32} {ret : ε} {f : Point → Tracker ε β} {Q : β → TrackTrace → Prop}
    {F : TrackTrace → Prop}
    (hfail : E ret (tr ++ [.sent (.adaptTargetAngle tar_Az tar_El) .FAIL]))
    (h : ∀ new evs, Takes new evs →
      Script.PostRun (f new) (tr ++ [.sent (.adaptTargetAngle tar_Az tar_El) .SUCC] ++ evs) E Q F) :
    Script.PostRun (do
      drive tar_Az tar_El ret
      let new ← onMotors (pointGet power)
      f new) tr E Q F := by
  rw [Script.postRun_bind]
  refine postRun_drive hfail ?_
  refine (postRun_pointGet hpower).seq ?_
  intro new tr' htr
  obtain ⟨evs, htakes, rfl⟩ := htr
  exact h new evs htakes

end

/-! ### An antenna that stands while it is read -/

/-- What is read changes with the commands only. -/
def Steady (env : Script.Env Src FP32 TrackCmd Ret) : Prop :=
  ∀ tr s v s', env.value (tr ++ [.got s v]) s' = env.value tr s'

/-- Where the antenna stands, and the power there. -/
def current (env : Script.Env Src FP32 TrackCmd Ret) (tr : TrackTrace) : Point :=
  ⟨env.value tr (.degree .position), env.value tr (.degree .cabrage),
    env.value tr .beaconRxpowerMv / 1000⟩

/-- Readings only. -/
def Readings (evs : TrackTrace) : Prop := ∀ e ∈ evs, ∃ s v, e = .got s v

section
variable {env : Script.Env Src FP32 TrackCmd Ret} {tr : TrackTrace} {ε : Type}

/-- The sum of `APP_Power_AG_Get` where the power is always the same. -/
theorem Steady.exec_powerAg (h : Steady env) (samp_count : FP32) (n : Nat) (power_ag : FP32) :
    ∃ evs, Readings evs ∧ (onMotors (powerAg samp_count n power_ag) : Tracker ε FP32).exec env tr =
      some (.inr (power_ag + n * (env.value tr .beaconRxpowerMv / 1000 / samp_count)),
        tr ++ evs) := by
  induction n generalizing tr power_ag with
  | zero =>
      refine ⟨[], fun e he => absurd he List.not_mem_nil, ?_⟩
      rw [List.append_nil, Nat.cast_zero, zero_mul, add_zero]
      rfl
  | succ n ih =>
      obtain ⟨evs, hevs, hexec⟩ := @ih (tr ++ [.got .beaconRxpowerMv
        (env.value tr .beaconRxpowerMv)]) (power_ag + env.value tr .beaconRxpowerMv / 1000 / samp_count)
      refine ⟨.got .beaconRxpowerMv (env.value tr .beaconRxpowerMv) :: evs, fun e he => ?_, ?_⟩
      · obtain rfl | he := List.mem_cons.mp he
        · exact ⟨_, _, rfl⟩
        · exact hevs e he
      · refine hexec.trans ?_
        rw [h, List.append_assoc, Nat.cast_succ]
        refine congrArg (fun p => some (Sum.inr p, _)) ?_
        ring

/-- A power that is read as it is, from a beacon that is steady. -/
def ReadsSteady (power : Search ε FP32) : Prop :=
  ∀ env, Steady env → ∀ tr, ∃ evs, Readings evs ∧
    (onMotors power).exec env tr = some (.inr (env.value tr .beaconRxpowerMv / 1000), tr ++ evs)

theorem readsSteady_appPowerGet : ReadsSteady (appPowerGet : Search ε FP32) := by
  intro env _ tr
  refine ⟨[.got .beaconRxpowerMv (env.value tr .beaconRxpowerMv)], fun e he => ?_, rfl⟩
  exact ⟨_, _, List.mem_singleton.mp he⟩

theorem readsSteady_appPowerAgGet4Purs : ReadsSteady (appPowerAgGet4Purs : Search ε FP32) := by
  intro env h tr
  obtain ⟨evs, hevs, hexec⟩ := @Steady.exec_powerAg env tr ε h 20 20 0
  refine ⟨evs, hevs, hexec.trans (congrArg (fun p => some (Sum.inr p, _)) ?_)⟩
  push_cast
  ring

/-- **A sample of an antenna that stands.** -/
theorem Steady.exec_pointGet (h : Steady env) {power : Search ε FP32} (hpower : ReadsSteady power) :
    ∃ evs, Readings evs ∧ (onMotors (pointGet power)).exec env tr =
      some (.inr (current env tr), tr ++ evs) := by
  obtain ⟨evs, hevs, hexec⟩ := hpower env h (tr ++ [.got (.degree .position)
    (env.value tr (.degree .position))] ++ [.got (.degree .cabrage) (env.value tr (.degree .cabrage))])
  rw [h, h] at hexec
  refine ⟨.got (.degree .position) (env.value tr (.degree .position)) ::
    .got (.degree .cabrage) (env.value tr (.degree .cabrage)) :: evs, fun e he => ?_, ?_⟩
  · obtain rfl | he := List.mem_cons.mp he
    · exact ⟨_, _, rfl⟩
    · obtain rfl | he := List.mem_cons.mp he
      · exact ⟨_, _, rfl⟩
      · exact hevs e he
  · unfold pointGet appCurrDegreeGetFp
    show (onMotors (power.bind fun p => .done (Point.mk _ _ p))).exec env _ = _
    rw [onMotors, Script.lower_bind, h]
    refine (Script.exec_bind_of hexec _).trans ?_
    rw [List.append_assoc, List.append_assoc]
    rfl

/-- A drive that is answered. -/
theorem exec_drive_succ {tar_Az tar_El : FP32} {ret : ε}
    (h : env.answer tr (.adaptTargetAngle tar_Az tar_El) = .SUCC) :
    (drive tar_Az tar_El ret).exec env tr =
      some (.inr (), tr ++ [.sent (.adaptTargetAngle tar_Az tar_El) .SUCC]) := by
  show ((Script.exitIf (env.answer tr _ = .FAIL) ret).exec env _ : Option _) = _
  rw [h]
  rfl

/-- A drive that is refused. -/
theorem exec_drive_fail {tar_Az tar_El : FP32} {ret : ε}
    (h : env.answer tr (.adaptTargetAngle tar_Az tar_El) = .FAIL) :
    (drive tar_Az tar_El ret).exec env tr =
      some (.inl ret, tr ++ [.sent (.adaptTargetAngle tar_Az tar_El) .FAIL]) := by
  show ((Script.exitIf (env.answer tr _ = .FAIL) ret).exec env _ : Option _) = _
  rw [h]
  rfl

end

/-! ### A unit that divides and takes roots -/

/-- Exact quotients, and square roots to eight digits, of which only that of zero is zero. -/
def rootFpu : Fpu :=
  { div := (· / ·)
    sqrt := fun x => (Nat.sqrt ⌈x * 10 ^ 16⌉₊ : FP32) / 10 ^ 8 }

theorem rootFpu_sqrt_pos (x : FP32) (h : 0 < x) : 0 < rootFpu.sqrt x := by
  have hceil : 0 < ⌈x * 10 ^ 16⌉₊ := Nat.ceil_pos.mpr (by positivity)
  have hsqrt : (0 : FP32) < Nat.sqrt ⌈x * 10 ^ 16⌉₊ := Nat.cast_pos.mpr (Nat.sqrt_pos.mpr hceil)
  exact div_pos hsqrt (by positivity)

end SwiftAcu.Track
