/-
Where `cross_scan` ends.

An onlooker follows what the scan reads and commands: the angles, the axes that run, and
the best power of an upward sweep with the place it was read at.  It also judges whether the
antenna behaved: the commands succeed, no power is negative, an axis that runs moves its
way by less than 0.01 degree from one reading to the next, and one that stands does not.

Each routine is said to change what the onlooker knows: `driveDown` one angle, `scanUp` one
angle and the best.  The scan then ends on the best sample, unless that is one of the
elevation sweep and the azimuth has come back below where it started.
-/
import Mathlib.Algebra.Order.Group.Abs
import Mathlib.Tactic.Linarith
import SwiftAcu.Proofs.Track.Searches

namespace SwiftAcu.Track

/-! ### The onlooker -/

/-- A power of an upward sweep, and the angles it was read at. -/
structure Sample where
  p : FP32
  place : AntennaPart → FP32
  sweep : AntennaPart

/-- The better of the best so far and a sample; the sample if they are equal. -/
def better (best : Option Sample) (b : Sample) : Option Sample :=
  if best.any (b.p < ·.p) then best else some b

/-- What is seen of a scan. -/
structure Watch where
  angle : AntennaPart → FP32
  /-- The direction of an axis that runs. -/
  run : AntennaPart → Option UInt8
  /-- The azimuth at first. -/
  start : FP32
  /-- The last azimuth that was read on the way up. -/
  top : FP32
  best : Option Sample
  /-- The antenna has behaved. -/
  ok : Bool

/-- How the angle of an axis may change from one reading to the next. -/
def moves : Option UInt8 → FP32 → FP32 → Bool
  | none, last, v => v = last
  | some dir, last, v =>
    if dir = dirLeftDownAnticlock then v ≤ last ∧ last - v < 0.01 else last ≤ v ∧ v - last < 0.01

namespace Watch

/-- The axis that is swept. -/
def sweep (w : Watch) : Option AntennaPart :=
  if w.run .cabrage = some dirRightUpClock then some .cabrage
  else if w.run .position = some dirRightUpClock then some .position
  else none

/-- The best with one power more. -/
def sampled (w : Watch) (p : FP32) : Option Sample :=
  match w.sweep with
  | none => w.best
  | some part => better w.best ⟨p, w.angle, part⟩

/-- One event more. -/
def step (w : Watch) : Event Src FP32 MotorCmd Ret → Watch
  | .got (.degree part) v =>
    { w with
      angle := Function.update w.angle part v
      top := if part = .position ∧ w.run .position = some dirRightUpClock then v else w.top
      ok := w.ok && moves (w.run part) (w.angle part) v }
  | .got .beaconRxpowerMv mv =>
    { w with
      best := w.sampled (mv / 1000)
      ok := w.ok && 0 ≤ mv }
  | .sent (.start part dir) ret =>
    { w with
      run := Function.update w.run part (some dir)
      ok := w.ok && ret = .SUCC }
  | .sent (.stop part _) ret =>
    { w with
      run := Function.update w.run part none
      ok := w.ok && ret = .SUCC }

/-- The antenna stands at `az` and `el`, and nothing was seen yet. -/
def init (az el : FP32) : Watch :=
  { angle := fun
      | .position => az
      | .cabrage => el
      | .polar => 0
    run := fun _ => none
    start := az
    top := az
    best := none
    ok := true }

/-- What is seen of the events after the first two readings. -/
def seen (az el : FP32) (evs : Trace) : Watch := evs.foldl step (init az el)

/-- Both angles are those of the best sample. -/
def EndsOnBest (w : Watch) : Prop :=
  ∃ b, w.best = some b ∧ |w.angle .position - b.place .position| ≤ 0.01 ∧
    |w.angle .cabrage - b.place .cabrage| ≤ 0.01

/-- The best sample is one of the azimuth sweep, or that sweep got to where it started. -/
def SweptToBest (w : Watch) : Prop :=
  ∀ b, w.best = some b → b.sweep = .position ∨ w.start - 0.01 ≤ w.top

end Watch

/-- What is seen of a trace is `P`, if the antenna has behaved. -/
def Sees (P : Watch → Prop) (tr : Trace) : Prop :=
  ∃ az el evs, tr = .got (.degree .position) az :: .got (.degree .cabrage) el :: evs ∧
    ((Watch.seen az el evs).ok = true → P (Watch.seen az el evs))

/-! ### One event -/

namespace Watch

variable {w : Watch} {part : AntennaPart}

theorem ok_of_step {e : Event Src FP32 MotorCmd Ret} (h : (w.step e).ok = true) : w.ok = true := by
  cases e with
  | got s v =>
      cases s with
      | degree part => exact (Bool.and_eq_true_iff.mp h).1
      | beaconRxpowerMv => exact (Bool.and_eq_true_iff.mp h).1
  | sent c ret =>
      cases c with
      | start part dir => exact (Bool.and_eq_true_iff.mp h).1
      | stop part dir => exact (Bool.and_eq_true_iff.mp h).1

theorem step_degree {v : FP32} (h : (w.step (.got (.degree part) v)).ok = true) :
    moves (w.run part) (w.angle part) v = true ∧
      w.step (.got (.degree part) v) =
        { w with
          angle := Function.update w.angle part v
          top := if part = .position ∧ w.run .position = some dirRightUpClock then v else w.top } := by
  have hok := ok_of_step h
  have hmoves : moves (w.run part) (w.angle part) v = true := (Bool.and_eq_true_iff.mp h).2
  refine ⟨hmoves, ?_⟩
  rw [step, hmoves, hok]
  rfl

theorem step_power {mv : FP32} (h : (w.step (.got .beaconRxpowerMv mv)).ok = true) :
    0 ≤ mv ∧ w.step (.got .beaconRxpowerMv mv) = { w with best := w.sampled (mv / 1000) } := by
  have hok := ok_of_step h
  have hmv : decide (0 ≤ mv) = true := (Bool.and_eq_true_iff.mp h).2
  refine ⟨of_decide_eq_true hmv, ?_⟩
  rw [step, hmv, hok]
  rfl

theorem step_start {dir : UInt8} {ret : Ret}
    (h : (w.step (.sent (.start part dir) ret)).ok = true) :
    ret = .SUCC ∧ w.step (.sent (.start part dir) ret) =
      { w with run := Function.update w.run part (some dir) } := by
  have hok := ok_of_step h
  have hret : decide (ret = .SUCC) = true := (Bool.and_eq_true_iff.mp h).2
  refine ⟨of_decide_eq_true hret, ?_⟩
  rw [step, hret, hok]
  rfl

theorem step_stop {dir : UInt8} {ret : Ret}
    (h : (w.step (.sent (.stop part dir) ret)).ok = true) :
    ret = .SUCC ∧ w.step (.sent (.stop part dir) ret) =
      { w with run := Function.update w.run part none } := by
  have hok := ok_of_step h
  have hret : decide (ret = .SUCC) = true := (Bool.and_eq_true_iff.mp h).2
  refine ⟨of_decide_eq_true hret, ?_⟩
  rw [step, hret, hok]
  rfl

end Watch

section
variable {tr : Trace} {P Q : Watch → Prop}

theorem Sees.imp (h : Sees P tr) (himp : ∀ w, P w → Q w) : Sees Q tr := by
  obtain ⟨az, el, evs, heq, hP⟩ := h
  exact ⟨az, el, evs, heq, fun hok => himp _ (hP hok)⟩

theorem Sees.concat (h : Sees P tr) (e : Event Src FP32 MotorCmd Ret)
    (hstep : ∀ w, P w → (w.step e).ok = true → Q (w.step e)) : Sees Q (tr ++ [e]) := by
  obtain ⟨az, el, evs, rfl, hP⟩ := h
  refine ⟨az, el, evs ++ [e], rfl, fun hok => ?_⟩
  rw [Watch.seen, List.foldl_append] at hok ⊢
  exact hstep _ (hP (Watch.ok_of_step hok)) hok

/-- A command that is tried twice is seen to succeed at once. -/
theorem Sees.post_orFail (h : Sees P tr) (c : MotorCmd)
    (hstep : ∀ w, P w → (w.step (.sent c .SUCC)).ok = true → Q (w.step (.sent c .SUCC))) :
    Script.Post (orFail (twice c)) tr (fun ret _ => ret = .FAIL) fun _ tr => Sees Q tr := by
  refine Track.post_orFail (post_twice c ?_ ?_ ?_)
  · rw [if_neg (by decide)]
    exact h.concat _ hstep
  · rw [if_neg (by decide)]
    -- the onlooker has seen the first try fail
    have hfail : Sees (fun _ => False) (tr ++ [.sent c .FAIL]) := by
      refine h.concat _ fun w _ hok => ?_
      cases c with
      | start part dir => exact absurd (Watch.step_start hok).1 (by decide)
      | stop part dir => exact absurd (Watch.step_stop hok).1 (by decide)
    exact hfail.concat _ fun w hw _ => absurd hw id
  · rw [if_pos rfl]

end

/-! ### One axis -/

/-- Every axis stands. -/
def Stands (w : Watch) : Prop := w.run = fun _ => none

/-- The axis of `w` runs. -/
def Watch.running (w : Watch) (part : AntennaPart) (dir : UInt8) : Watch :=
  { w with run := Function.update w.run part (some dir) }

/-- The axis of `w` at another angle. -/
def Watch.at (w : Watch) (part : AntennaPart) (v : FP32) : Watch :=
  { w with angle := Function.update w.angle part v }

/-- The axis of `w` at another angle, that was read as it ran. -/
def Watch.passed (w : Watch) (part : AntennaPart) (dir : UInt8) (v : FP32) : Watch :=
  { w.at part v with top := if part = .position ∧ dir = dirRightUpClock then v else w.top }

/-- What `I` says of an antenna that stands holds but for the axis that runs. -/
def Sweeping (part : AntennaPart) (dir : UInt8) (I : Watch → Prop) (w : Watch) : Prop :=
  ∃ w₁, Stands w₁ ∧ I w₁ ∧ w = w₁.running part dir

section
variable {tr : Trace} {part : AntennaPart} {dir : UInt8} {R : Watch → Prop}

theorem Watch.at_self (w : Watch) (part : AntennaPart) : w.at part (w.angle part) = w := by
  rw [Watch.at, Function.update_eq_self]

theorem Watch.at_at (w : Watch) (part : AntennaPart) (v v' : FP32) :
    (w.at part v).at part v' = w.at part v' := by
  rw [Watch.at, Watch.at, Watch.at, Function.update_idem]

/-- An axis that was started is stopped again. -/
theorem Stands.stopped {w : Watch} (h : Stands w) :
    { w.running part dir with run := Function.update (w.running part dir).run part none } = w := by
  have hrun : Function.update (w.running part dir).run part none = w.run := by
    rw [Watch.running, Function.update_idem, h, Function.update_eq_self]
  rw [hrun]
  rfl

/-- An axis is started, watched in a loop and stopped: `I` is the invariant of the loop. -/
theorem post_leg_sees {α β : Type} {body : α → Search Ret (α ⊕ β)} {I : α → Watch → Prop}
    {J : β → Watch → Prop} (fuel : Nat) {a : α}
    (hbody : ∀ a tr, Sees (Sweeping part dir (I a)) tr →
      Script.Post (body a) tr (fun ret _ => ret = .FAIL)
        (Script.Round (fun a tr => Sees (Sweeping part dir (I a)) tr) fun b tr =>
          Sees (Sweeping part dir (J b)) tr))
    (h : Sees (fun w => Stands w ∧ I a w) tr) :
    Script.Post (do
        orFail (appMotorStart part dir)
        let last ← Script.loop body fuel a
        orFail (appMotorEnd part dir)
        return last : Search Ret β) tr (fun ret _ => ret = .FAIL)
      fun b tr => Sees (fun w => Stands w ∧ J b w) tr := by
  refine (h.post_orFail (Q := Sweeping part dir (I a)) _ ?_).seq ?_
  · intro w hw hok
    rw [(Watch.step_start hok).2]
    exact ⟨w, hw.1, hw.2, rfl⟩
  · intro _ tr hstarted
    refine (Script.post_loop (fun a tr => Sees (Sweeping part dir (I a)) tr) hbody fuel
      hstarted).seq ?_
    intro b tr hended
    refine (hended.post_orFail (Q := fun w => Stands w ∧ J b w) _ ?_).seq
      fun _ _ hstopped => hstopped
    intro w hw hok
    obtain ⟨w₁, hstands, hJ, rfl⟩ := hw
    rw [(Watch.step_stop hok).2, hstands.stopped]
    exact ⟨hstands, hJ⟩

theorem Watch.passed_down (w : Watch) (v : FP32) :
    w.passed part dirLeftDownAnticlock v = w.at part v := by
  rw [Watch.passed, if_neg fun h => absurd h.2 (by decide)]
  rfl

/-- The running axis is read. -/
theorem Sees.read_running {I J : Watch → Prop} {v : FP32} (h : Sees (Sweeping part dir I) tr)
    (hstep : ∀ w, I w → moves (some dir) (w.angle part) v = true → J (w.passed part dir v)) :
    Sees (Sweeping part dir J) (tr ++ [.got (.degree part) v]) := by
  refine h.concat _ fun w hw hok => ?_
  obtain ⟨w₁, hstands, hI, rfl⟩ := hw
  obtain ⟨hmoves, heq⟩ := Watch.step_degree hok
  have hrun : (w₁.running part dir).run part = some dir := Function.update_self ..
  rw [hrun] at hmoves
  refine ⟨w₁.passed part dir v, hstands, hstep w₁ hI hmoves, ?_⟩
  have htop : (part = .position ∧ (w₁.running part dir).run .position = some dirRightUpClock) ↔
      (part = .position ∧ dir = dirRightUpClock) := by
    refine and_congr_right fun hpart => ?_
    rw [← hpart, hrun, Option.some.injEq]
  simp only [heq, htop]
  rfl

/-- **An axis that was driven down** is at its bound, if it was above. -/
theorem post_driveDown_sees (fuel : Nat) (bound : FP32)
    (h : Sees (fun w => Stands w ∧ R w) tr) :
    Script.Post (driveDown fuel part bound) tr (fun ret _ => ret = .FAIL) fun last tr =>
      Sees (fun w => Stands w ∧ ∃ w₀, R w₀ ∧ w = w₀.at part last ∧
        (bound < w₀.angle part → |last - bound| ≤ 0.01)) tr := by
  refine post_leg_sees fuel (I := fun _ w => ∃ w₀ last, R w₀ ∧ w = w₀.at part last ∧
    (last = w₀.angle part ∨ bound + 0.01 ≤ last)) (fun _ tr hi => ?_) (h.imp fun w hw => ?_)
  · unfold appCurrDegreeGetFp
    rw [Script.post_get_bind]
    intro v
    have hback : appGe v bound acceptenceDomain = true ↔ 0.01 ≤ v - bound := decide_eq_true_iff
    by_cases hge : appGe v bound acceptenceDomain = true
    · rw [if_pos hge]
      refine hi.read_running fun w hw _ => ?_
      obtain ⟨w₀, last, hR, rfl, -⟩ := hw
      rw [hback] at hge
      refine ⟨w₀, v, hR, ?_, Or.inr (by linarith)⟩
      rw [Watch.passed_down, Watch.at_at]
    · rw [if_neg hge]
      refine hi.read_running fun w hw hmoves => ?_
      obtain ⟨w₀, last, hR, rfl, hlast⟩ := hw
      rw [hback, not_le] at hge
      refine ⟨w₀, hR, ?_, fun habove => ?_⟩
      · rw [Watch.passed_down, Watch.at_at]
      · have hdown : v ≤ last ∧ last - v < 0.01 := by
          simpa [moves, Watch.at] using hmoves
        rw [abs_le]
        obtain rfl | hlast := hlast
        · exact ⟨by linarith, by linarith⟩
        · exact ⟨by linarith, by linarith⟩
  · exact ⟨hw.1, w, w.angle part, hw.2, (w.at_self part).symm, Or.inl rfl⟩

/-! ### The best -/

/-- The axis of `w` after a sweep that ended at `last`. -/
def Watch.swept (w : Watch) (part : AntennaPart) (last : FP32) (best : Option Sample) : Watch :=
  { w.passed part dirRightUpClock last with best }

/-- The best power that the routine has is that of the best sample. -/
def Agrees (p : FP32) : Option Sample → Prop
  | none => p ≤ 0
  | some b => b.p = p

/-- The best of a sweep is one of its samples, or the one from before. -/
inductive Kept (w : Watch) (part : AntennaPart) (best₀ : Best) (last : FP32) (best : Best) :
    Option Sample → Prop where
  | taken (h : best.degree ≤ last) :
      Kept w part best₀ last best (some ⟨best.p, (w.at part best.degree).angle, part⟩)
  | same (h : best = best₀) : Kept w part best₀ last best w.best

theorem Watch.swept_passed (w : Watch) (last v : FP32) (best : Option Sample) :
    (w.swept part last best).passed part dirRightUpClock v = w.swept part v best := by
  have hangle : Function.update (Function.update w.angle part last) part v =
      Function.update w.angle part v := Function.update_idem ..
  by_cases hpart : part = .position
  · subst hpart
    simp only [Watch.swept, Watch.passed, Watch.at, hangle, and_self, if_true]
  · simp only [Watch.swept, Watch.passed, Watch.at, hangle, hpart, false_and, if_false]

theorem Watch.swept_angle (w : Watch) {last : FP32} {best : Option Sample} :
    (w.swept part last best).angle part = last := Function.update_self ..

theorem Watch.swept_at (w : Watch) {last : FP32} {best : Option Sample} :
    (w.swept part last best).at part last = w.swept part last best := by
  have hself := (w.swept part last best).at_self part
  rwa [Watch.swept_angle] at hself

theorem Kept.mono {w : Watch} {best₀ best : Best} {last v : FP32} {b : Option Sample}
    (h : Kept w part best₀ last best b) (hle : last ≤ v) : Kept w part best₀ v best b := by
  cases h with
  | taken h => exact .taken (h.trans hle)
  | same h => exact .same h

/-- The power is read as an axis is swept. -/
theorem Sees.read_power {I J : Watch → Prop} {mv : FP32} (hpart : part ≠ .polar)
    (h : Sees (Sweeping part dirRightUpClock I) tr)
    (hstep : ∀ w, I w → 0 ≤ mv → J { w with best := better w.best ⟨mv / 1000, w.angle, part⟩ }) :
    Sees (Sweeping part dirRightUpClock J) (tr ++ [.got .beaconRxpowerMv mv]) := by
  refine h.concat _ fun w hw hok => ?_
  obtain ⟨w₁, hstands, hI, rfl⟩ := hw
  obtain ⟨hmv, heq⟩ := Watch.step_power hok
  refine ⟨{ w₁ with best := better w₁.best ⟨mv / 1000, w₁.angle, part⟩ }, hstands,
    hstep w₁ hI hmv, ?_⟩
  have hsweep : (w₁.running part dirRightUpClock).sweep = some part := by
    rw [Watch.sweep, Watch.running, hstands]
    cases part with
    | position => rfl
    | cabrage => rfl
    | polar => exact absurd rfl hpart
  rw [heq, Watch.sampled, hsweep]
  rfl

/-- The routine replaces its best when the onlooker does. -/
theorem Agrees.better {p p0 : FP32} {best : Option Sample} (h : Agrees p best) (hp0 : 0 ≤ p0)
    (place : AntennaPart → FP32) :
    better best ⟨p0, place, part⟩ =
      if appGe p0 p 0 then some ⟨p0, place, part⟩ else best := by
  have hge : appGe p0 p 0 = true ↔ p ≤ p0 := by
    rw [appGe, decide_eq_true_iff, sub_nonneg]
  cases best with
  | none => exact (if_pos (hge.mpr (h.trans hp0))).symm
  | some b =>
      have hany : (some b).any (fun b => decide (p0 < b.p)) = decide (p0 < p) := by
        rw [← show b.p = p from h]
        rfl
      rw [Track.better, hany]
      by_cases hle : p ≤ p0
      · rw [if_pos (hge.mpr hle), if_neg (by simpa using hle)]
      · rw [if_neg (mt hge.mp hle), if_pos (by simpa using hle)]

/-- One round of a sweep, for the best of the routine and for the onlooker's. -/
theorem Kept.round {w₀ : Watch} {best₀ best : Best} {v p0 : FP32} {B : Option Sample}
    (h : Kept w₀ part best₀ v best B) (hagrees : Agrees best.p B) (hp0 : 0 ≤ p0) :
    ∃ b, Track.better B ⟨p0, (w₀.at part v).angle, part⟩ = some b ∧
      Kept w₀ part best₀ v (if appGe p0 best.p 0 then ⟨p0, v⟩ else best) (some b) ∧
      b.p = (if appGe p0 best.p 0 then (⟨p0, v⟩ : Best) else best).p := by
  rw [hagrees.better hp0]
  by_cases hge : appGe p0 best.p 0 = true
  · rw [if_pos hge, if_pos hge]
    exact ⟨_, rfl, .taken (le_refl v), rfl⟩
  · rw [if_neg hge, if_neg hge]
    cases B with
    | none =>
        refine absurd ?_ hge
        rw [appGe, decide_eq_true_iff, sub_nonneg]
        exact hagrees.trans hp0
    | some b => exact ⟨b, rfl, h, hagrees⟩

/-- **An axis that was swept up** has the best power, and where it was. -/
theorem post_scanUp_sees (fuel : Nat) (bound : FP32) (best₀ : Best) (hpart : part ≠ .polar)
    (h : Sees (fun w => Stands w ∧ Agrees best₀.p w.best ∧ R w) tr) :
    Script.Post (scanUp fuel part bound best₀) tr (fun ret _ => ret = .FAIL) fun r tr =>
      Sees (fun w => Stands w ∧ ∃ w₀ b, R w₀ ∧ w = w₀.swept part r.1 (some b) ∧
        Kept w₀ part best₀ r.1 r.2 (some b) ∧ b.p = r.2.p) tr := by
  -- `w` is `w₀` but for the angle that is read next, and the best
  refine post_leg_sees fuel (I := fun best w => ∃ w₀ B, R w₀ ∧
    (∀ v, w.passed part dirRightUpClock v = w₀.swept part v B) ∧
    Kept w₀ part best₀ (w.angle part) best B ∧ Agrees best.p B) (fun best tr hi => ?_)
    (h.imp fun w hw => ?_)
  · unfold appCurrDegreeGetFp appPowerGet
    rw [Script.post_get_bind]
    intro v
    rw [Script.post_bind, Script.post_get_bind]
    intro mv
    have hread : Sees (Sweeping part dirRightUpClock fun w => ∃ w₀ B, R w₀ ∧
        w = w₀.swept part v B ∧ Kept w₀ part best₀ v best B ∧ Agrees best.p B)
        (tr ++ [.got (.degree part) v]) := by
      refine hi.read_running fun w hw hmoves => ?_
      obtain ⟨w₀, B, hR, hpass, hkept, hagrees⟩ := hw
      have hup : w.angle part ≤ v ∧ v - w.angle part < 0.01 := by
        simpa [moves, dirLeftDownAnticlock, dirRightUpClock] using hmoves
      exact ⟨w₀, B, hR, hpass v, hkept.mono hup.1, hagrees⟩
    have hpower : Sees (Sweeping part dirRightUpClock fun w => ∃ w₀ b, R w₀ ∧
        w = w₀.swept part v (some b) ∧
        Kept w₀ part best₀ v (if appGe (mv / 1000) best.p 0 then ⟨mv / 1000, v⟩ else best)
          (some b) ∧
        b.p = (if appGe (mv / 1000) best.p 0 then (⟨mv / 1000, v⟩ : Best) else best).p)
        (tr ++ [.got (.degree part) v] ++ [.got .beaconRxpowerMv mv]) := by
      refine hread.read_power hpart fun w hw hmv => ?_
      obtain ⟨w₀, B, hR, rfl, hkept, hagrees⟩ := hw
      obtain ⟨b, hb, hkept, hp⟩ :=
        hkept.round hagrees (div_nonneg hmv (by norm_num : (0 : FP32) ≤ 1000))
      refine ⟨w₀, b, hR, ?_, hkept, hp⟩
      rw [← hb]
      rfl
    rw [Script.post_pure]
    dsimp only
    by_cases hgo : appGe bound v acceptenceDomain = true
    · rw [if_pos hgo]
      refine hpower.imp fun w hw => ?_
      obtain ⟨_, hstands, ⟨w₀, b, hR, rfl, hkept, hp⟩, hrun⟩ := hw
      refine ⟨w₀.swept part v (some b), hstands,
        ⟨w₀, some b, hR, fun v' => w₀.swept_passed v v' _, ?_, hp⟩, hrun⟩
      rw [Watch.swept_angle]
      exact hkept
    · rw [if_neg hgo]
      exact hpower
  · obtain ⟨hstands, hagrees, hR⟩ := hw
    exact ⟨hstands, w, w.best, hR, fun v => rfl, .same rfl, hagrees⟩

/-- What a sweep of an axis leaves: it ended at `last`, and the axis stands at `fin`. -/
structure Scanned (w₀ : Watch) (part : AntennaPart) (best₀ best : Best) (b : Sample)
    (last fin : FP32) (w : Watch) : Prop where
  seen : w = (w₀.swept part last (some b)).at part fin
  kept : Kept w₀ part best₀ last best (some b)
  power : b.p = best.p
  back : best.degree < last → |fin - best.degree| ≤ 0.01
  stay : last ≤ best.degree → fin = last

theorem Kept.of_at {w₀ : Watch} {best₀ best : Best} {x last : FP32} {b : Option Sample}
    (h : Kept (w₀.at part x) part best₀ last best b) : Kept w₀ part best₀ last best b := by
  cases h with
  | taken h =>
      rw [Watch.at_at]
      exact .taken h
  | same h => exact .same h

theorem Watch.at_swept (w₀ : Watch) (x last : FP32) (b : Option Sample) :
    (w₀.at part x).swept part last b = w₀.swept part last b := by
  have hat := w₀.at_at part x last
  rw [Watch.swept, Watch.passed, hat]
  rfl

/-- **An axis that was scanned.** -/
theorem post_scanAxis_sees (fuel : Nat) (lo hi : FP32) (best₀ : Best) (hpart : part ≠ .polar)
    (h : Sees (fun w => Stands w ∧ Agrees best₀.p w.best ∧ R w) tr) :
    Script.Post (scanAxis fuel part lo hi best₀) tr (fun ret _ => ret = .FAIL) fun best tr =>
      Sees (fun w => Stands w ∧ ∃ w₀ b last fin, R w₀ ∧
        Scanned w₀ part best₀ best b last fin w) tr := by
  unfold scanAxis
  refine (post_driveDown_sees fuel lo h).seq fun x tr hdown => ?_
  refine (post_scanUp_sees fuel hi best₀ hpart (R := fun w => ∃ w₀, R w₀ ∧ w = w₀.at part x)
    (hdown.imp fun w hw => ?_)).seq fun r tr hup => ?_
  · obtain ⟨hstands, w₀, ⟨hagrees, hR⟩, rfl, -⟩ := hw
    exact ⟨hstands, hagrees, w₀, hR, rfl⟩
  obtain ⟨last, best⟩ := r
  dsimp only
  have hge : appGe best.degree last 0 = true ↔ last ≤ best.degree := by
    rw [appGe, decide_eq_true_iff, sub_nonneg]
  by_cases hback : last ≤ best.degree
  · rw [if_neg (by rw [hge.mpr hback]; decide)]
    refine (Script.post_pure best).mpr (hup.imp fun w hw => ?_)
    obtain ⟨hstands, _, b, ⟨w₀, hR, rfl⟩, rfl, hkept, hp⟩ := hw
    refine ⟨hstands, w₀, b, last, last, hR, ?_, hkept.of_at, hp, fun hlt => ?_, fun _ => rfl⟩
    · rw [Watch.at_swept]
      exact w₀.swept_at.symm
    · exact absurd hback (not_le_of_gt hlt)
  · rw [if_pos (by rw [Bool.not_eq_true', ← Bool.not_eq_true]; exact mt hge.mp hback),
      Script.post_bind]
    refine (post_driveDown_sees fuel best.degree hup).mono fun fin tr hfin => ?_
    refine (Script.post_pure best).mpr (hfin.imp fun w hw => ?_)
    obtain ⟨hstands, _, ⟨_, b, ⟨w₀, hR, rfl⟩, rfl, hkept, hp⟩, rfl, habove⟩ := hw
    rw [Watch.at_swept] at habove ⊢
    rw [Watch.swept_angle] at habove
    exact ⟨hstands, w₀, b, last, fin, hR, rfl, hkept.of_at, hp, habove,
      fun hle => absurd hle hback⟩

end

/-! ### The scan -/

/-- A sweep without a best before has its own best, and is back on it. -/
theorem Scanned.taken {w₀ w : Watch} {part : AntennaPart} {best₀ best : Best} {b : Sample}
    {last fin : FP32} (h : Scanned w₀ part best₀ best b last fin w)
    (hb : b = ⟨best.p, (w₀.at part best.degree).angle, part⟩) (hle : best.degree ≤ last) :
    |w.angle part - b.place part| ≤ 0.01 := by
  have hfin : w.angle part = fin := by
    rw [h.seen]
    exact Function.update_self ..
  have hplace : b.place part = best.degree := by
    rw [hb]
    exact Function.update_self ..
  rw [hfin, hplace]
  by_cases hlt : best.degree < last
  · exact h.back hlt
  · have heq : last = best.degree := le_antisymm (not_lt.mp hlt) hle
    rw [h.stay heq.le, heq, sub_self, abs_zero]
    norm_num

/-- The elevation has been swept, then the azimuth. -/
def CrossScanned (w : Watch) : Prop :=
  ∃ az el bestEl bEl lastEl finEl wEl bestAz bAz lastAz finAz,
    Scanned (.init az el) .cabrage ⟨-1, el⟩ bestEl bEl lastEl finEl wEl ∧
      Scanned wEl .position ⟨bestEl.p, az⟩ bestAz bAz lastAz finAz w

theorem post_crossScan_sees (fuel : Nat) (limit : SoftLimit) (delta_Az delta_El : FP32) :
    Script.Post (crossScan fuel limit delta_Az delta_El) [] (fun ret _ => ret = .FAIL)
      fun _ tr => Sees CrossScanned tr := by
  unfold crossScan appCurrDegreeGetFp appPowerGet
  rw [Script.post_get_bind]
  intro az0
  rw [Script.post_get_bind]
  intro el0
  rw [Script.post_bind, Script.post_get_bind]
  intro mv
  rw [Script.post_pure]
  dsimp only
  have hinit : Sees (fun w => w = .init az0 el0)
      [.got (.degree .position) az0, .got (.degree .cabrage) el0] :=
    ⟨az0, el0, [], rfl, fun _ => rfl⟩
  have hpower : Sees (fun w => Stands w ∧ Agrees (-1) w.best ∧ w = .init az0 el0)
      ([.got (.degree .position) az0, .got (.degree .cabrage) el0] ++
        [.got .beaconRxpowerMv mv]) := by
    refine hinit.concat _ fun w hw hok => ?_
    subst hw
    rw [(Watch.step_power hok).2]
    refine ⟨rfl, ?_, rfl⟩
    show (-1 : FP32) ≤ 0
    norm_num
  refine (post_scanAxis_sees fuel _ _ ⟨-1, el0⟩ (by decide) hpower).seq fun bestEl tr hel => ?_
  refine (post_scanAxis_sees fuel _ _ ⟨bestEl.p, az0⟩ (by decide) (R := fun w =>
    ∃ b last fin, Scanned (.init az0 el0) .cabrage ⟨-1, el0⟩ bestEl b last fin w)
    (hel.imp fun w hw => ?_)).seq
    fun bestAz tr haz => (Script.post_pure _).mpr (haz.imp fun w hw => ?_)
  · obtain ⟨hstands, _, b, last, fin, rfl, hscanned⟩ := hw
    refine ⟨hstands, ?_, b, last, fin, hscanned⟩
    rw [hscanned.seen]
    exact hscanned.power
  · obtain ⟨-, wEl, bAz, lastAz, finAz, ⟨bEl, lastEl, finEl, hscanEl⟩, hscanAz⟩ := hw
    exact ⟨az0, el0, bestEl, bEl, lastEl, finEl, wEl, bestAz, bAz, lastAz, finAz, hscanEl, hscanAz⟩

/-- The best of the elevation sweep is a sample of it, and the scan stands on it. -/
theorem Scanned.first {az el : FP32} {best : Best} {b : Sample} {last fin : FP32} {w : Watch}
    (h : Scanned (.init az el) .cabrage ⟨-1, el⟩ best b last fin w) :
    |w.angle .cabrage - b.place .cabrage| ≤ 0.01 ∧ b.place .position = az ∧ b.sweep = .cabrage := by
  have hkept := h.kept
  generalize hb : some b = B at hkept
  cases hkept with
  | taken hle =>
      have hb := Option.some.inj hb
      refine ⟨h.taken hb hle, ?_, ?_⟩
      · rw [hb]
        rfl
      · rw [hb]
  | same _ => exact absurd hb (Option.some_ne_none b)

/-- **Where the scan ends.** -/
theorem CrossScanned.endsOnBest_iff {w : Watch} (h : CrossScanned w) :
    w.EndsOnBest ↔ w.SweptToBest := by
  obtain ⟨az, el, bestEl, bEl, lastEl, finEl, wEl, bestAz, bAz, lastAz, finAz, hel, haz⟩ := h
  obtain ⟨hcab, hpos, hsweep⟩ := hel.first
  have hbest : w.best = some bAz := by rw [haz.seen]; rfl
  have hangle : w.angle .cabrage = wEl.angle .cabrage := by rw [haz.seen]; rfl
  have hfin : w.angle .position = finAz := by rw [haz.seen]; rfl
  have hstart : w.start = az := by rw [haz.seen, hel.seen]; rfl
  have htop : w.top = lastAz := by rw [haz.seen]; rfl
  have hbEl : wEl.best = some bEl := by rw [hel.seen]; rfl
  have hkept := haz.kept
  generalize hb : some bAz = B at hkept
  cases hkept with
  | taken hle =>
      have hb := Option.some.inj hb
      refine iff_of_true ⟨bAz, hbest, haz.taken hb hle, ?_⟩ fun b hwb => Or.inl ?_
      · have hplace : bAz.place .cabrage = wEl.angle .cabrage := by rw [hb]; rfl
        rw [hangle, hplace, sub_self, abs_zero]
        norm_num
      · rw [← Option.some.inj (hbest.symm.trans hwb), hb]
  | same hsame =>
      have hb : bAz = bEl := Option.some.inj (hb.trans hbEl)
      subst hb
      subst hsame
      have hends : w.EndsOnBest ↔ |finAz - az| ≤ 0.01 := by
        refine ⟨fun hw => ?_, fun hw => ⟨bAz, hbest, ?_, ?_⟩⟩
        · obtain ⟨b, hwb, hazb, -⟩ := hw
          rwa [← Option.some.inj (hbest.symm.trans hwb), hpos, hfin] at hazb
        · rwa [hfin, hpos]
        · rwa [hangle]
      have hswept : w.SweptToBest ↔ az - 0.01 ≤ lastAz := by
        refine ⟨fun hw => ?_, fun hw b hwb => Or.inr ?_⟩
        · have hor := hw bAz hbest
          rw [hsweep, hstart, htop] at hor
          exact hor.resolve_left (by decide)
        · rwa [hstart, htop]
      rw [hends, hswept]
      by_cases hlt : az < lastAz
      · exact iff_of_true (haz.back hlt) (by linarith)
      · have hstay : finAz = lastAz := haz.stay (not_lt.mp hlt)
        rw [hstay, abs_le]
        exact ⟨fun hw => by linarith [hw.1], fun hw => ⟨by linarith, by linarith⟩⟩

/--
**`cross_scan` ends on the best point** of an antenna that behaves, exactly if that point was
found in the azimuth sweep or the azimuth sweep got back to where it started.
-/
theorem crossScan_endsOnBest_iff {env : Env} {fuel : Nat} {limit : SoftLimit}
    {delta_Az delta_El : FP32} {tr : Trace}
    (h : (Routine.crossScan limit delta_Az delta_El).returns env fuel = some (.SUCC, tr)) :
    ∃ az el evs, tr = .got (.degree .position) az :: .got (.degree .cabrage) el :: evs ∧
      ((Watch.seen az el evs).ok = true →
        ((Watch.seen az el evs).EndsOnBest ↔ (Watch.seen az el evs).SweptToBest)) := by
  obtain ⟨⟨r, tr'⟩, hexec, heq⟩ := Option.map_eq_some_iff.mp h
  obtain ⟨hret, rfl⟩ := Prod.mk.injEq .. ▸ heq
  have hpost := (post_crossScan_sees fuel limit delta_Az delta_El).exec env hexec
  cases r with
  | inl ret =>
      have hfail : ret = .FAIL := hpost
      rw [hfail] at hret
      cases hret
  | inr ret =>
      obtain ⟨az, el, evs, htr, hsees⟩ := hpost
      exact ⟨az, el, evs, htr, fun hok => (hsees hok).endsOnBest_iff⟩

/-! ### A start by the soft limit -/

/-- The values are read in turn, each at its place in the trace, and all goes well. -/
def replayEnv (values : List FP32) : Env :=
  { value := fun tr _ => values.getD tr.length 0
    answer := fun _ _ => .SUCC }

/-- Azimuth from 110 to 260 and elevation from 5 to 85 degrees. -/
def wideLimit : SoftLimit := ⟨⟨110, 5, -90⟩, ⟨260, 85, 90⟩⟩

/-- What an event has read. -/
def valueOf : Event Src FP32 MotorCmd Ret → FP32
  | .got _ v => v
  | .sent .. => 0

/-- Both axes are swept around where they stand, and each is driven back to its best sample. -/
def homing : Trace :=
  [.got .beaconRxpowerMv 1000,
    .sent (.start .cabrage 1) .SUCC, .got (.degree .cabrage) 44.992, .got (.degree .cabrage) 44.984,
    .sent (.stop .cabrage 1) .SUCC,
    .sent (.start .cabrage 2) .SUCC, .got (.degree .cabrage) 44.984, .got .beaconRxpowerMv 1000,
    .got (.degree .cabrage) 44.993, .got .beaconRxpowerMv 1500,
    .got (.degree .cabrage) 45.002, .got .beaconRxpowerMv 3000,
    .got (.degree .cabrage) 45.011, .got .beaconRxpowerMv 2000, .sent (.stop .cabrage 2) .SUCC,
    .sent (.start .cabrage 1) .SUCC, .got (.degree .cabrage) 45.005, .sent (.stop .cabrage 1) .SUCC,
    .sent (.start .position 1) .SUCC, .got (.degree .position) 179.992,
    .got (.degree .position) 179.984, .sent (.stop .position 1) .SUCC,
    .sent (.start .position 2) .SUCC, .got (.degree .position) 179.984, .got .beaconRxpowerMv 2500,
    .got (.degree .position) 179.993, .got .beaconRxpowerMv 4000,
    .got (.degree .position) 180.002, .got .beaconRxpowerMv 3000,
    .got (.degree .position) 180.011, .got .beaconRxpowerMv 2000, .sent (.stop .position 2) .SUCC,
    .sent (.start .position 1) .SUCC, .got (.degree .position) 180.003,
    .got (.degree .position) 179.996, .sent (.stop .position 1) .SUCC]

/-- The azimuth starts 0.98 degree from its limit, and is driven 0.02 degree down. -/
def byLimit : Trace :=
  [.got .beaconRxpowerMv 1000,
    .sent (.start .cabrage 1) .SUCC, .got (.degree .cabrage) 45, .sent (.stop .cabrage 1) .SUCC,
    .sent (.start .cabrage 2) .SUCC, .got (.degree .cabrage) 45, .got .beaconRxpowerMv 5000,
    .sent (.stop .cabrage 2) .SUCC,
    .sent (.start .position 1) .SUCC, .got (.degree .position) 259.0101,
    .got (.degree .position) 259.0002, .sent (.stop .position 1) .SUCC,
    .sent (.start .position 2) .SUCC, .got (.degree .position) 259.0002,
    .got .beaconRxpowerMv 1000, .sent (.stop .position 2) .SUCC]

theorem seen_inj {az az' el el' : FP32} {evs evs' : Trace}
    (h : (.got (.degree .position) az :: .got (.degree .cabrage) el :: evs : Trace) =
      .got (.degree .position) az' :: .got (.degree .cabrage) el' :: evs') :
    az = az' ∧ el = el' ∧ evs = evs' := by
  obtain ⟨haz, hrest⟩ := List.cons.inj h
  obtain ⟨hel, hevs⟩ := List.cons.inj hrest
  exact ⟨(Event.got.inj haz).2, (Event.got.inj hel).2, hevs⟩

/-- A scan that gets back to a sample of the azimuth sweep. -/
theorem crossScan_endsOnBest_homing : (Watch.seen 180 45 homing).EndsOnBest := by
  have hreturns : (Routine.crossScan wideLimit 0.02 0.02).returns
      (replayEnv ([180, 45] ++ homing.map valueOf)) 5 =
      some (.SUCC, .got (.degree .position) 180 :: .got (.degree .cabrage) 45 :: homing) := by
    decide +kernel
  obtain ⟨az, el, evs, heq, hiff⟩ := crossScan_endsOnBest_iff hreturns
  obtain ⟨rfl, rfl, rfl⟩ := seen_inj heq
  have hok : (Watch.seen 180 45 homing).ok = true := by decide +kernel
  refine (hiff hok).mpr fun b hb => Or.inl ?_
  have hsweep : (Watch.seen 180 45 homing).best.map Sample.sweep = some .position := by
    decide +kernel
  rw [hb] at hsweep
  exact Option.some.inj hsweep

/-- Started by its limit, the scan does not get back to its best sample. -/
theorem not_endsOnBest_byLimit :
    ¬ ∀ (env : Env) (fuel : Nat) (limit : SoftLimit) (delta_Az delta_El : FP32) (tr : Trace),
      (Routine.crossScan limit delta_Az delta_El).returns env fuel = some (.SUCC, tr) →
      ∃ az el evs, tr = .got (.degree .position) az :: .got (.degree .cabrage) el :: evs ∧
        (limit.start.position ≤ az ∧ az ≤ limit.stop.position →
          limit.start.cabrage ≤ el ∧ el ≤ limit.stop.cabrage →
          (Watch.seen az el evs).ok = true → (Watch.seen az el evs).EndsOnBest) := by
  intro h
  have hreturns : (Routine.crossScan wideLimit 0.02 0).returns
      (replayEnv ([259.02, 45] ++ byLimit.map valueOf)) 4 =
      some (.SUCC, .got (.degree .position) 259.02 :: .got (.degree .cabrage) 45 :: byLimit) := by
    decide +kernel
  obtain ⟨az, el, evs, heq, hends⟩ := h _ _ _ _ _ _ hreturns
  obtain ⟨rfl, rfl, rfl⟩ := seen_inj heq
  have hok : (Watch.seen 259.02 45 byLimit).ok = true := by decide +kernel
  obtain ⟨b, hb, hclose, -⟩ := hends (by decide +kernel) (by decide +kernel) hok
  have hplace : (Watch.seen 259.02 45 byLimit).best.map (·.place .position) = some 259.02 := by
    decide +kernel
  have hangle : (Watch.seen 259.02 45 byLimit).angle .position = 259.0002 := by decide +kernel
  rw [hb] at hplace
  have hb259 : b.place .position = 259.02 := Option.some.inj hplace
  rw [hangle, hb259] at hclose
  norm_num [abs_le] at hclose

end SwiftAcu.Track
