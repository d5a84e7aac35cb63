/-
Whether a strong signal is treated as lost.

A command of the tracking task is warranted by what has happened: a cross scan goes over a
configured radius, and no power has just been reported that is not low; a new aim has a low power
before it.  Powers that are low and powers near the reference are told apart as they should be.
But near is two-sided, and a power above the reference by more than the limit falls through every
case to the cross scan, or to the new aim.  Such a report and the command after it come together,
so between two rounds either both are in the trace or neither is: that is the invariant of the
task.
-/
import Mathlib.Tactic.Linarith
import SwiftAcu.Acu.Pursuit
import SwiftAcu.Lib.Since
import SwiftAcu.Proofs.Track.Rotate

namespace SwiftAcu.Track

/-- What the task has read and been answered. -/
abbrev PursuitTrace := List (Event Src FP32 PursuitCmd PursuitRet)

namespace PursuitParam

/-- Below the reference by more than the limit. -/
def Low (q : PursuitParam) (p : FP32) : Prop := p < q.p_opt - q.limit

/-- One of the two radii, and not 0. -/
def Configured (q : PursuitParam) (delta : FP32) : Prop :=
  (delta = q.scanRange0 ∨ delta = q.scanRange1) ∧ delta ≠ 0

/-- What happens after `tr` may happen; nothing is read between a search and what is done
about it. -/
def Warranted (q : PursuitParam) (tr : PursuitTrace) : Event Src FP32 PursuitCmd PursuitRet → Prop
  | .sent (.crossScan delta_Az delta_El) _ =>
    q.Configured delta_Az ∧ q.Configured delta_El ∧
      ∀ pt, tr.getLast? = some (.sent .gradientTrack (.SUCC, some pt)) → q.Low pt.p
  | .sent .preliminaryAim _ =>
    ∃ pt out, tr.getLast? = some (.sent (.triangleTrack pt) (.SUCC, out)) ∧ q.Low (out.getD pt).p
  | _ => True

/-- No strong signal has been treated as lost. -/
def Kept (q : PursuitParam) (tr : PursuitTrace) : Prop := Past.Through q.Warranted [] tr

/-- A search does not report a power above the reference by more than the limit. -/
def Bounded (q : PursuitParam) : Event Src FP32 PursuitCmd PursuitRet → Prop
  | .sent .gradientTrack (.SUCC, some pt) => pt.p ≤ q.p_opt + q.limit
  | .sent (.triangleTrack pt) (.SUCC, out) => (out.getD pt).p ≤ q.p_opt + q.limit
  | _ => True

/-- No search has. -/
def NotAbove (q : PursuitParam) (tr : PursuitTrace) : Prop := ∀ e ∈ tr, q.Bounded e

/-- The invariant. -/
def Matched (q : PursuitParam) (tr : PursuitTrace) : Prop := q.Kept tr ↔ q.NotAbove tr

/-- The same, and the task has read since its last search. -/
def Settled (q : PursuitParam) (tr : PursuitTrace) : Prop :=
  q.Matched tr ∧ ∀ c r, tr.getLast? ≠ some (.sent c r)

end PursuitParam

/-- A task is left with `FAIL` only, on a command that failed or on a new aim. -/
def LeftOn (ret : Ret) (tr : PursuitTrace) : Prop :=
  ret = .FAIL ∧ ∃ c r, tr.getLast? = some (.sent c r) ∧ (r.1 = .FAIL ∨ c = .preliminaryAim)

/-! ### One event more -/

section
variable {q : PursuitParam} {tr : PursuitTrace} {e : Event Src FP32 PursuitCmd PursuitRet}

theorem kept_concat : q.Kept (tr ++ [e]) ↔ q.Kept tr ∧ q.Warranted tr e :=
  Past.through_concat [] tr e

theorem notAbove_concat : q.NotAbove (tr ++ [e]) ↔ q.NotAbove tr ∧ q.Bounded e := by
  unfold PursuitParam.NotAbove
  rw [List.forall_mem_append, List.forall_mem_singleton]

theorem matched_nil : q.Matched [] := iff_of_true trivial fun _ he => absurd he List.not_mem_nil

/-- An event with which nothing is wrong. -/
theorem PursuitParam.Matched.concat (h : q.Matched tr) (hw : q.Warranted tr e) (hb : q.Bounded e) :
    q.Matched (tr ++ [e]) := by
  unfold PursuitParam.Matched at h ⊢
  rw [kept_concat, notAbove_concat, h]
  exact ⟨fun hn => ⟨hn.1, hb⟩, fun hn => ⟨hn.1, hw⟩⟩

/-- A reading changes nothing. -/
theorem PursuitParam.Matched.got (h : q.Matched tr) (s : Src) (v : FP32) :
    q.Matched (tr ++ [.got s v]) := h.concat trivial trivial

theorem PursuitParam.Matched.settled (h : q.Matched tr) (s : Src) (v : FP32) :
    q.Settled (tr ++ [.got s v]) := by
  refine ⟨h.got s v, fun c r hlast => ?_⟩
  rw [List.getLast?_concat] at hlast
  cases hlast

/-- **A report too high, and a command that it does not warrant.** -/
theorem matched_of_both {c : Event Src FP32 PursuitCmd PursuitRet} (hb : ¬ q.Bounded e)
    (hw : ¬ q.Warranted (tr ++ [e]) c) : q.Matched (tr ++ [e] ++ [c]) := by
  refine iff_of_false (fun hk => hw (kept_concat.mp hk).2) fun hn => ?_
  exact hb (notAbove_concat.mp (notAbove_concat.mp hn).1).2

end

/-! ### The readings -/

section
variable {ε : Type} {q : PursuitParam} {tr : PursuitTrace} {E : ε → PursuitTrace → Prop}
  {F : PursuitTrace → Prop}

theorem onReadings_bind {β γ : Type} (c : Search ε β) (f : β → Search ε γ) :
    onReadings (c >>= f) = onReadings c >>= fun b => onReadings (f b) := Script.lower_bind _ c f

theorem postRun_angle_bind {β : Type} {Q : β → PursuitTrace → Prop} (part : AntennaPart)
    (f : FP32 → Pursuer ε β) :
    Script.PostRun (onReadings (appCurrDegreeGetFp part) >>= f) tr E Q F ↔
      ∀ v, Script.PostRun (f v) (tr ++ [.got (.degree part) v]) E Q F := Iff.rfl

theorem postRun_powerAg_settled (samp_count : FP32) (n : Nat) (power_ag : FP32)
    (h : q.Matched tr) :
    Script.PostRun (onReadings (powerAg samp_count (n + 1) power_ag) : Pursuer ε FP32) tr E
      (fun _ tr => q.Settled tr) F := by
  induction n generalizing power_ag tr with
  | zero => exact fun mv => h.settled _ mv
  | succ n ih => exact fun mv => ih _ (h.got _ mv)

theorem postRun_pointGet_matched (h : q.Matched tr) :
    Script.PostRun (onReadings (pointGet appPowerAgGet) : Pursuer ε Point) tr E
      (fun _ tr => q.Matched tr) F := by
  unfold pointGet
  rw [onReadings_bind, postRun_angle_bind]
  intro az
  rw [onReadings_bind, postRun_angle_bind]
  intro el
  rw [onReadings_bind]
  refine (postRun_powerAg_settled 30 29 0 ((h.got _ az).got _ el)).seq ?_
  intro p tr hp
  exact hp.1

theorem postRun_powerDeviation_settled (p : FP32) (n : Nat) (power_ag : FP32)
    (h : q.Matched tr) :
    Script.PostRun (powerDeviation p (n + 1) power_ag : Pursuer ε FP32) tr E
      (fun _ tr => q.Settled tr) F := by
  induction n generalizing power_ag tr with
  | zero => exact fun mv => h.settled _ mv
  | succ n ih => exact fun mv => ih _ (h.got _ mv)

theorem postRun_appPowerDeviation_settled (fpu : Fpu) (p : FP32) (h : q.Matched tr) :
    Script.PostRun (appPowerDeviation fpu p : Pursuer ε FP32) tr E
      (fun _ tr => q.Settled tr) F := by
  unfold appPowerDeviation
  exact (postRun_powerDeviation_settled p 49 0 h).seq fun power_ag tr hsettled => hsettled

end

/-! ### The comparisons -/

section
variable {q : PursuitParam} {p : FP32}

/-- A power near the reference is not above it by more than the limit. -/
theorem le_of_appNb (h : appNb p q.p_opt q.limit = true) : p ≤ q.p_opt + q.limit := by
  have habs : |p - q.p_opt| ≤ q.limit := of_decide_eq_true h
  linarith [le_abs_self (p - q.p_opt)]

/-- A power that is not near is too high or low. -/
theorem high_or_low (h : ¬ appNb p q.p_opt q.limit = true) : q.p_opt + q.limit < p ∨ q.Low p := by
  have habs : q.limit < |p - q.p_opt| := by
    unfold appNb at h
    simpa using h
  obtain hhigh | hlow := lt_abs.mp habs
  · exact Or.inl (by linarith)
  · exact Or.inr (by unfold PursuitParam.Low; linarith)

/-- A radius that is set is one of the two. -/
theorem configured_getScanRadius (h0 : 0 < q.scanRange0) (h1 : 0 < q.scanRange1)
    (hfar : 2.5 < |p - q.p_opt|) : q.Configured (q.getScanRadius 0 p q.p_opt) := by
  unfold PursuitParam.getScanRadius
  by_cases hbt : appBt p q.p_opt 2.5 4
  · rw [if_pos hbt]
    exact ⟨Or.inl rfl, h0.ne'⟩
  · rw [if_neg hbt]
    have hnb : (!appNb p q.p_opt 4) = true := by
      unfold appBt at hbt
      unfold appNb
      simpa [hfar.le] using hbt
    rw [if_pos hnb]
    exact ⟨Or.inr rfl, h1.ne'⟩

end

/-! ### The searches -/

section
variable {q : PursuitParam} {tr : PursuitTrace} {F : PursuitTrace → Prop}

/-- The rule of a search: it fails, or the point it has set is taken over. -/
theorem postRun_searched {E : Ret → PursuitTrace → Prop} {Q : Point → PursuitTrace → Prop}
    {c : PursuitCmd} {out : Point} (hfail : ∀ o, E .FAIL (tr ++ [.sent c (.FAIL, o)]))
    (hsucc : ∀ o, Q (o.getD out) (tr ++ [.sent c (.SUCC, o)])) :
    Script.PostRun (searched c out) tr E Q F := by
  unfold searched
  rw [Script.postRun_give_bind]
  intro r
  obtain ⟨ret, o⟩ := r
  rw [Script.postRun_exitIf_bind]
  cases ret with
  | SUCC => exact ⟨fun h => Ret.noConfusion h, fun _ => hsucc o⟩
  | FAIL => exact ⟨fun _ => hfail o, fun h => absurd rfl h⟩

/-- The invariant where the task is left. -/
def LeftMatched (q : PursuitParam) (ret : Ret) (tr : PursuitTrace) : Prop :=
  q.Matched tr ∧ LeftOn ret tr

theorem leftOn_fail (tr : PursuitTrace) (c : PursuitCmd) (o : Option Point) :
    LeftOn .FAIL (tr ++ [.sent c (.FAIL, o)]) :=
  ⟨rfl, c, (.FAIL, o), List.getLast?_concat, Or.inl rfl⟩

theorem leftOn_aim (tr : PursuitTrace) (r : PursuitRet) :
    LeftOn .FAIL (tr ++ [.sent .preliminaryAim r]) :=
  ⟨rfl, .preliminaryAim, r, List.getLast?_concat, Or.inr rfl⟩

/-- **A new aim** after a power that is not near. -/
theorem matched_aim (hlimit : 0 < q.limit) (h : q.Matched tr) {pt : Point} {o : Option Point}
    (hfar : ¬ appNb (o.getD pt).p q.p_opt q.limit = true) (r : PursuitRet) :
    q.Matched (tr ++ [.sent (.triangleTrack pt) (.SUCC, o)] ++ [.sent .preliminaryAim r]) := by
  by_cases hhigh : q.p_opt + q.limit < (o.getD pt).p
  · refine matched_of_both (not_le_of_gt hhigh) ?_
    rintro ⟨pt', out, hlast, hlow⟩
    rw [List.getLast?_concat] at hlast
    cases hlast
    unfold PursuitParam.Low at hlow
    linarith
  · have hlow : q.Low (o.getD pt).p := (high_or_low hfar).resolve_left hhigh
    have htriangle : q.Matched (tr ++ [.sent (.triangleTrack pt) (.SUCC, o)]) :=
      h.concat trivial (not_lt.mp hhigh)
    exact htriangle.concat ⟨pt, o, List.getLast?_concat, hlow⟩ trivial

/-- The cross scan that the task starts for a power. -/
def scanFor (q : PursuitParam) (p : FP32) (r : PursuitRet) : Event Src FP32 PursuitCmd PursuitRet :=
  .sent (.crossScan (q.getScanRadius 0 p q.p_opt) (q.getScanRadius 0 p q.p_opt)) r

/-- **`APP_DScale_Cross_Scan_Track`**, if its cross scan breaks nothing. -/
theorem postRun_dScaleCrossScanTrack (hlimit : 0 < q.limit) {pt : Point}
    (hscan : ∀ r, q.Matched (tr ++ [scanFor q pt.p r])) :
    Script.PostRun (dScaleCrossScanTrack q pt) tr (LeftMatched q) (fun _ tr => q.Matched tr) F := by
  unfold dScaleCrossScanTrack
  refine (postRun_searched (Q := fun _ tr => q.Matched tr) (fun o => ⟨hscan _, leftOn_fail ..⟩)
    fun o => hscan _).seq fun _ tr htr => ?_
  refine (postRun_pointGet_matched htr).seq fun pt tr htr => ?_
  rw [Script.postRun_bind]
  refine postRun_searched (fun o => ⟨htr.concat trivial trivial, leftOn_fail ..⟩) fun o => ?_
  by_cases hnb : appNb (o.getD pt).p q.p_opt q.limit = true
  · rw [hnb]
    exact htr.concat trivial (le_of_appNb hnb)
  · rw [Bool.not_eq_true] at hnb
    rw [hnb]
    intro r
    exact ⟨matched_aim hlimit htr (by rw [hnb]; exact Bool.false_ne_true) r, leftOn_aim ..⟩

end

/-! ### The task -/

section
variable {q : PursuitParam} {tr : PursuitTrace} {F : PursuitTrace → Prop}

/-- A report that is not too high. -/
theorem bounded_gradientTrack {pt : Point} {o : Option Point}
    (h : (o.getD pt).p ≤ q.p_opt + q.limit) : q.Bounded (.sent .gradientTrack (.SUCC, o)) := by
  cases o with
  | none => trivial
  | some pt => exact h

/-- **The cross scan after a gradient track**: the power is too high, or low enough for a
radius. -/
theorem matched_gradientTrack_scan (hlimit : 0 < q.limit) (h0 : 0 < q.scanRange0)
    (h1 : 0 < q.scanRange1) (h : q.Matched tr) {pt : Point} {o : Option Point}
    (hpt : pt.p ≤ q.p_opt + q.limit)
    (hfar : ¬ appNb (o.getD pt).p q.p_opt q.limit = true)
    (hrain : q.limit ≤ q.p_opt - (o.getD pt).p → 2.5 < q.p_opt - (o.getD pt).p) (r : PursuitRet) :
    q.Matched (tr ++ [.sent .gradientTrack (.SUCC, o)] ++ [scanFor q (o.getD pt).p r]) := by
  by_cases hhigh : q.p_opt + q.limit < (o.getD pt).p
  · cases o with
    | none => exact absurd hpt (not_le_of_gt hhigh)
    | some new =>
        refine matched_of_both (not_le_of_gt hhigh) ?_
        rintro ⟨-, -, hlow⟩
        have hnew : new.p < q.p_opt - q.limit := hlow new List.getLast?_concat
        rw [Option.getD_some] at hhigh
        linarith
  · have hlow : q.Low (o.getD pt).p := (high_or_low hfar).resolve_left hhigh
    have hbelow : (o.getD pt).p < q.p_opt - q.limit := hlow
    have hdeep : 2.5 < |(o.getD pt).p - q.p_opt| := by
      have hdrop := hrain (by linarith)
      rw [abs_sub_comm]
      exact lt_of_lt_of_le hdrop (le_abs_self _)
    have hradius := configured_getScanRadius h0 h1 hdeep
    have hgradient : q.Matched (tr ++ [.sent .gradientTrack (.SUCC, o)]) :=
      h.concat trivial (bounded_gradientTrack (not_lt.mp hhigh))
    refine hgradient.concat ⟨hradius, hradius, fun new hlast => ?_⟩ trivial
    rw [List.getLast?_concat] at hlast
    cases hlast
    exact hlow

/-- **A round** of the task. -/
theorem postRun_pursuitRound (hlimit : 0 < q.limit) (h0 : 0 < q.scanRange0)
    (h1 : 0 < q.scanRange1) (fpu : Fpu) {pt : Point} (h : q.Matched tr) :
    Script.PostRun (pursuitRound fpu q pt) tr (LeftMatched q)
      (Script.Round (fun _ tr => q.Matched tr) fun _ _ => False) F := by
  unfold pursuitRound
  refine (postRun_powerAg_settled 30 29 0 h).seq fun p0 tr htr => ?_
  by_cases hdrift : appGe q.p_opt p0 q.limit = true
  · simp only [hdrift]
    have hdrop : q.limit ≤ q.p_opt - p0 := of_decide_eq_true hdrift
    refine (postRun_appPowerDeviation_settled fpu p0 htr.1).seq fun p_dev tr htr => ?_
    by_cases hdev : 0.5 < p_dev
    · rw [if_pos hdev]
      exact htr.1
    · rw [if_neg hdev]
      by_cases hnear : appNb p0 q.p_opt 3 = true
      · rw [if_pos hnear, Script.postRun_bind]
        refine postRun_searched (fun o => ⟨htr.1.concat trivial trivial, leftOn_fail ..⟩)
          fun o => ?_
        by_cases hnb : appNb (o.getD { pt with p := p0 }).p q.p_opt q.limit = true
        · rw [if_pos hnb]
          exact htr.1.concat trivial (bounded_gradientTrack (le_of_appNb hnb))
        · rw [if_neg hnb]
          by_cases hrain : (appGe q.p_opt (o.getD { pt with p := p0 }).p q.limit &&
            appLe q.p_opt (o.getD { pt with p := p0 }).p 2.5) = true
          · rw [if_pos hrain]
            have hge := of_decide_eq_true (Bool.and_eq_true_iff.mp hrain).1
            exact htr.1.concat trivial (bounded_gradientTrack (by linarith))
          · rw [if_neg hrain]
            refine (postRun_dScaleCrossScanTrack hlimit fun r => ?_).seq fun pt tr htr => htr
            have hp0 : p0 ≤ q.p_opt + q.limit := by linarith
            refine matched_gradientTrack_scan hlimit h0 h1 htr.1 hp0 hnb (fun hge => ?_) r
            · by_contra hle
              refine hrain (Bool.and_eq_true_iff.mpr ⟨decide_eq_true hge, ?_⟩)
              exact decide_eq_true (not_lt.mp hle)
      · rw [if_neg hnear]
        have hfar : 2.5 < |p0 - q.p_opt| := by
          unfold appNb at hnear
          have hthree : 3 < |p0 - q.p_opt| := by simpa using hnear
          linarith
        have hradius := configured_getScanRadius h0 h1 hfar
        refine (postRun_dScaleCrossScanTrack hlimit fun r => ?_).seq fun pt tr htr => htr
        exact htr.1.concat ⟨hradius, hradius, fun pt hlast => absurd hlast (htr.2 _ _)⟩ trivial
  · simp only [hdrift]
    exact htr.1

theorem postRun_pursuitStart (q : PursuitParam) {E : Ret → PursuitTrace → Prop} :
    Script.PostRun pursuitStart [] E (fun _ tr => q.Matched tr) F := by
  unfold pursuitStart
  rw [postRun_angle_bind]
  intro az0
  rw [postRun_angle_bind]
  intro el0
  exact (matched_nil.got _ az0).got _ el0

end

/--
**A strong signal is not treated as lost** as long as no search reports a power above the
reference by more than the limit, and only so long: wherever the task is left, or its fuel runs
out.  It is left on a command that failed or on a new aim.  The same holds between any two rounds
of the task whose searches drive the motors.
-/
theorem strong_kept_iff (fpu : Fpu) (q : PursuitParam) (hlimit : 0 < q.limit)
    (h0 : 0 < q.scanRange0) (h1 : 0 < q.scanRange1) :
    (∀ fuel, Script.PostRun (appSatGradientTrack fuel fpu q) []
      (fun ret tr => (q.Kept tr ↔ q.NotAbove tr) ∧ LeftOn ret tr) (fun _ _ => False)
      fun tr => q.Kept tr ↔ q.NotAbove tr) ∧
    ∀ (n fuel : Nat) (limit : SoftLimit) (aim : Degrees) (elec_coder_num : UInt8)
      (env : Script.Env Src FP32 MotorCmd Ret) (r : Ret ⊕ (Point ⊕ Ret)) (trm : Trace),
      ((pursuitRounds n fpu q).lower
        (PursuitCmd.carry fuel fpu limit aim elec_coder_num)).exec env [] = some (r, trm) →
      ∃ tr, Script.Carried env (PursuitCmd.carry fuel fpu limit aim elec_coder_num) tr trm ∧
        (q.Kept tr ↔ q.NotAbove tr) := by
  have hround (pt : Point) (tr : PursuitTrace) (h : q.Matched tr) :
      Script.PostRun (pursuitRound fpu q pt) tr (LeftMatched q)
        (Script.Round (fun _ tr => q.Matched tr) fun _ _ => False) q.Matched :=
    postRun_pursuitRound hlimit h0 h1 fpu h
  constructor
  · intro fuel
    refine (postRun_pursuitStart q).seq fun pt tr h => ?_
    exact Script.postRun_loop (fun _ tr => q.Matched tr) hround (fun _ _ h => h) fuel h
  · intro n fuel limit aim elec_coder_num env r trm hexec
    have hrounds : Script.PostRun (pursuitRounds n fpu q) [] (LeftMatched q)
        (Script.Round (fun _ tr => q.Matched tr) fun _ _ => False) q.Matched := by
      refine (postRun_pursuitStart q).seq fun pt tr h => ?_
      exact Script.postRun_rounds (fun _ tr => q.Matched tr) hround n h
    obtain ⟨tr, hcarried, hmatched⟩ := hrounds.post.lower .nil hexec
    refine ⟨tr, hcarried, ?_⟩
    cases r with
    | inl ret => exact hmatched.1
    | inr next =>
        cases next with
        | inl pt => exact hmatched
        | inr ret => exact hmatched.elim

/-! ### A power below and a power above -/

deriving instance DecidableEq for PursuitCmd

/-- A reference of 8 V, a limit of 1.25 V, and radii of 2 and 5 degrees. -/
def reference : PursuitParam := ⟨8, 1.25, 2, 5⟩

/-- The power is read as `mv`, and the searches report `found`. -/
def steadyEnv (mv found : FP32) : Script.Env Src FP32 PursuitCmd PursuitRet :=
  { value := fun _ src =>
      match src with
      | .degree .position => 180
      | .degree .cabrage => 45
      | .degree .polar => 0
      | .beaconRxpowerMv => mv
    answer := fun _ c =>
      match c with
      | .gradientTrack => (.SUCC, some ⟨180, 45, found⟩)
      | .triangleTrack _ => (.SUCC, some ⟨180, 45, found⟩)
      | _ => (.SUCC, none) }

/-- Both angles and the power, so many times. -/
def steadyReads (mv : FP32) (n : Nat) : PursuitTrace :=
  [.got (.degree .position) 180, .got (.degree .cabrage) 45] ++
    List.replicate n (.got .beaconRxpowerMv mv)

/-- At 4 V there is a cross scan, and at 6 V a new aim. -/
def undershot : PursuitTrace :=
  steadyReads 4000 80 ++ .sent (.crossScan 2 2) (.SUCC, none) :: steadyReads 4000 30 ++
    [.sent (.triangleTrack ⟨180, 45, 4⟩) (.SUCC, some ⟨180, 45, 6⟩),
      .sent .preliminaryAim (.SUCC, none)]

/-- A gradient track from 6 V to 9.9 V. -/
def upToScan : PursuitTrace :=
  steadyReads 6000 80 ++ [.sent .gradientTrack (.SUCC, some ⟨180, 45, 9.9⟩)]

/-- It is followed by a cross scan over a radius of 0. -/
def overshot : PursuitTrace :=
  upToScan ++ .sent (.crossScan 0 0) (.SUCC, none) :: steadyReads 6000 30 ++
    [.sent (.triangleTrack ⟨180, 45, 6⟩) (.SUCC, some ⟨180, 45, 9.9⟩),
      .sent .preliminaryAim (.SUCC, none)]

/-- The power of 6 V is low, and nothing is wrong with the run. -/
theorem strong_kept_undershot :
    (reference.Kept undershot ↔ reference.NotAbove undershot) ∧ LeftOn .FAIL undershot := by
  have hruns := (strong_kept_iff rootFpu reference (by decide +kernel) (by decide +kernel)
    (by decide +kernel)).1 1
  have hexec : (appSatGradientTrack 1 rootFpu reference).exec (steadyEnv 4000 6) [] =
      some (.inl .FAIL, undershot) := by
    decide +kernel
  exact hruns.post.exec (steadyEnv 4000 6) hexec

/-- A power of 9.9 V is treated as lost, though every search is carried out. -/
theorem not_strong_kept :
    ¬ ∀ (fpu : Fpu) (q : PursuitParam), 0 < q.limit → 0 < q.scanRange0 → 0 < q.scanRange1 →
      ∀ fuel, Script.Post (appSatGradientTrack fuel fpu q) []
        (fun _ tr => (∀ c r, .sent c r ∈ tr → r.1 = .SUCC) → q.Kept tr) fun _ _ => True := by
  intro h
  have hpost := h rootFpu reference (by decide +kernel) (by decide +kernel) (by decide +kernel) 1
  have hexec : (appSatGradientTrack 1 rootFpu reference).exec (steadyEnv 6000 9.9) [] =
      some (.inl .FAIL, overshot) := by
    decide +kernel
  have hall : (overshot.all fun
      | .sent _ r => r.1 = .SUCC
      | .got _ _ => true) = true := by
    decide +kernel
  have hkept : reference.Kept overshot := by
    refine hpost.exec (steadyEnv 6000 9.9) hexec ?_
    intro c r hmem
    exact of_decide_eq_true (List.all_eq_true.mp hall _ hmem)
  have hscan : reference.Warranted upToScan (.sent (.crossScan 0 0) (.SUCC, none)) :=
    (Past.through_iff_split [] overshot).mp hkept upToScan _ _ rfl
  have hlow : reference.Low 9.9 := hscan.2.2 ⟨180, 45, 9.9⟩ List.getLast?_concat
  exact absurd hlow (by unfold PursuitParam.Low; decide +kernel)

end SwiftAcu.Track
