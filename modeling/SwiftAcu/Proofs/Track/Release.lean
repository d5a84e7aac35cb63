/-
Which searches leave a motor running.

A scan drives one axis at a time, and gives it a stop on every way out.  `adapt_target_angle`
and `APP_Gradient_Track` drive several, and go away over the first motor command that fails
twice, whatever the other axes do.  That is the only way in which a search leaves an axis
running.
-/
import SwiftAcu.Proofs.Track.Owed

namespace SwiftAcu.Track

/-! ### What may be owed on the way -/

/-- At most the axes of `s` are owed a stop. -/
def OwedIn (s : AntennaPart → Prop) (tr : Trace) : Prop := ∀ part, Owed tr part → s part

/-- Nothing is owed, or an axis has been given up that is owed nothing. -/
def Accounted (tr : Trace) : Prop := Released tr ∨ ∃ part, GaveUp tr part ∧ ¬ Owed tr part

section
variable {ε : Type} {tr : Trace} {s : AntennaPart → Prop} {E : ε → Trace → Prop}

theorem released_iff : Released tr ↔ OwedIn (fun _ => False) tr := Iff.rfl

theorem OwedIn.mono {t : AntennaPart → Prop} (h : OwedIn s tr) (hst : ∀ part, s part → t part) :
    OwedIn t tr := fun part howed => hst part (h part howed)

theorem OwedIn.got (h : OwedIn s tr) (src : Src) (v : FP32) :
    OwedIn s (tr ++ [.got src v]) :=
  fun part howed => h part ((owed_got src v).mp howed)

theorem Accounted.of_gaveUp {part : AntennaPart} (h : OwedIn s tr) (hpart : ¬ s part)
    (hgave : GaveUp tr part) : Accounted tr :=
  Or.inr ⟨part, hgave, fun howed => hpart (h part howed)⟩

/-! ### The rules of the parts -/

/-- A command is tried twice. -/
theorem postRun_twice {Q : Ret → Trace → Prop} {F : Trace → Prop} (c : MotorCmd)
    (hfirst : Q .SUCC (tr ++ [.sent c .SUCC]))
    (hsecond : Q .SUCC (tr ++ [.sent c .FAIL] ++ [.sent c .SUCC]))
    (hfail : Q .FAIL (tr ++ [.sent c .FAIL] ++ [.sent c .FAIL])) :
    Script.PostRun (twice c : Search ε Ret) tr E Q F := by
  unfold twice
  rw [Script.postRun_give_bind]
  intro ret
  cases ret with
  | SUCC => exact hfirst
  | FAIL =>
      rw [if_pos rfl, Script.postRun_give_bind]
      intro ret
      cases ret with
      | SUCC => exact hsecond
      | FAIL => exact hfail

theorem post_twice {Q : Ret → Trace → Prop} (c : MotorCmd)
    (hfirst : Q .SUCC (tr ++ [.sent c .SUCC]))
    (hsecond : Q .SUCC (tr ++ [.sent c .FAIL] ++ [.sent c .SUCC]))
    (hfail : Q .FAIL (tr ++ [.sent c .FAIL] ++ [.sent c .FAIL])) :
    Script.Post (twice c : Search ε Ret) tr E Q :=
  Script.post_iff.mpr (postRun_twice c hfirst hsecond hfail)

/-- What a start leaves owed. -/
theorem post_motorStart (h : OwedIn s tr) (part : AntennaPart) (dir : UInt8) :
    Script.Post (appMotorStart part dir : Search ε Ret) tr E fun ret tr =>
      if ret = .FAIL then OwedIn s tr ∧ GaveUp tr part
      else OwedIn (fun q => q = part ∨ s q) tr := by
  refine post_twice _ ?_ ?_ ?_
  · intro q howed
    exact ((owed_start_succ part dir).mp howed).imp_right (h q)
  · intro q howed
    obtain rfl | howed := (owed_start_succ part dir).mp howed
    · exact Or.inl rfl
    · exact Or.inr (h q ((owed_start_fail part dir).mp howed))
  · refine ⟨fun q howed => ?_, tr, .start part dir, rfl, by simp⟩
    exact h q ((owed_start_fail part dir).mp ((owed_start_fail part dir).mp howed))

/-- What a stop leaves owed. -/
theorem post_motorEnd (h : OwedIn s tr) (part : AntennaPart) (dir : UInt8) :
    Script.Post (appMotorEnd part dir : Search ε Ret) tr E fun ret tr =>
      OwedIn (fun q => q ≠ part ∧ s q) tr ∧ (ret = .FAIL → GaveUp tr part) := by
  have hstop {tr : Trace} (h : OwedIn s tr) (ret : Ret) :
      OwedIn (fun q => q ≠ part ∧ s q) (tr ++ [.sent (.stop part dir) ret]) := by
    intro q howed
    obtain ⟨hq, howed⟩ := (owed_stop part dir ret).mp howed
    exact ⟨hq, h q howed⟩
  have hsame {ret : Ret} : OwedIn s (tr ++ [.sent (.stop part dir) ret]) :=
    (hstop h ret).mono fun _ hq => hq.2
  refine post_twice _ ⟨hstop h _, fun hret => by cases hret⟩
    ⟨hstop hsame _, fun hret => by cases hret⟩
    ⟨hstop hsame _, fun _ => ⟨tr, .stop part dir, rfl, by simp⟩⟩

theorem postRun_orFail {c : Search Ret Ret} {E : Ret → Trace → Prop} {Q : Unit → Trace → Prop}
    {F : Trace → Prop}
    (h : Script.PostRun c tr E (fun ret tr => if ret = .FAIL then E .FAIL tr else Q () tr) F) :
    Script.PostRun (orFail c) tr E Q F := by
  unfold orFail
  refine h.seq fun ret tr hret => ?_
  cases ret with
  | SUCC => exact hret
  | FAIL => exact hret

theorem post_orFail {c : Search Ret Ret} {E : Ret → Trace → Prop} {Q : Unit → Trace → Prop}
    (h : Script.Post c tr E fun ret tr => if ret = .FAIL then E .FAIL tr else Q () tr) :
    Script.Post (orFail c) tr E Q :=
  Script.post_iff.mpr (postRun_orFail (Script.post_iff.mp h))

theorem post_powerGet (h : OwedIn s tr) :
    Script.Post (appPowerGet : Search ε FP32) tr E fun _ tr => OwedIn s tr := by
  unfold appPowerGet
  rw [Script.post_get_bind]
  exact fun mv => h.got _ mv

theorem post_powerAg (samp_count : FP32) (n : Nat) (power_ag : FP32) (h : OwedIn s tr) :
    Script.Post (powerAg samp_count n power_ag : Search ε FP32) tr E fun _ tr => OwedIn s tr := by
  induction n generalizing tr power_ag with
  | zero => exact h
  | succ n ih =>
      unfold powerAg
      rw [Script.post_get_bind]
      exact fun v => ih _ (h.got _ v)

theorem post_pointGet {power : Search ε FP32} (h : OwedIn s tr)
    (hpower : ∀ tr, OwedIn s tr → Script.Post power tr E fun _ tr => OwedIn s tr) :
    Script.Post (pointGet power) tr E fun _ tr => OwedIn s tr := by
  unfold pointGet appCurrDegreeGetFp
  rw [Script.post_get_bind]
  intro az
  rw [Script.post_get_bind]
  intro el
  rw [Script.post_bind]
  exact hpower _ ((h.got _ az).got _ el)

end

/-! ### The scans -/

section
variable {tr : Trace} (fuel : Nat) (part : AntennaPart)

/-- An axis that is started, watched in a loop and stopped is given a stop on every way. -/
theorem post_leg {α β : Type} {dir : UInt8} {body : α → Search Ret (α ⊕ β)}
    (hbody : ∀ a tr, OwedIn (fun q => q = part) tr →
      Script.Post (body a) tr (fun _ tr => Released tr) fun _ tr => OwedIn (fun q => q = part) tr)
    (a : α) (h : Released tr) :
    Script.Post (do
        orFail (appMotorStart part dir)
        let last ← Script.loop body fuel a
        orFail (appMotorEnd part dir)
        return last : Search Ret β) tr (fun _ tr => Released tr) fun _ tr => Released tr := by
  have hend {tr : Trace} (last : β) (h : OwedIn (fun q => q = part) tr) :
      Script.Post (do
          orFail (appMotorEnd part dir)
          return last : Search Ret β) tr (fun _ tr => Released tr) fun _ tr => Released tr := by
    rw [Script.post_bind]
    refine post_orFail ((post_motorEnd h part dir).mono ?_)
    intro ret tr hstop
    have hrel : Released tr := fun q howed => (hstop.1 q howed).1 (hstop.1 q howed).2
    split
    · exact hrel
    · exact hrel
  rw [Script.post_bind]
  refine post_orFail ((post_motorStart h part dir).mono ?_)
  intro ret tr hstart
  by_cases hret : ret = .FAIL
  · rw [if_pos hret] at hstart ⊢
    exact hstart.1
  · rw [if_neg hret] at hstart ⊢
    have howed : OwedIn (fun q => q = part) tr := hstart.mono fun q hq => hq.resolve_right id
    refine (Script.post_loop (fun _ tr => OwedIn (fun q => q = part) tr)
      (Q := fun _ tr => OwedIn (fun q => q = part) tr) (fun a tr hi => ?_) fuel howed).seq
      fun last tr hlast => hend last hlast
    refine (hbody a tr hi).mono fun r tr hr => ?_
    cases r with
    | inl a => exact hr
    | inr last => exact hr

theorem post_driveDown (bound : FP32) (h : Released tr) :
    Script.Post (driveDown fuel part bound) tr (fun _ tr => Released tr)
      fun _ tr => Released tr := by
  refine post_leg fuel part (fun _ tr hi => ?_) () h
  unfold appCurrDegreeGetFp
  rw [Script.post_get_bind]
  intro degree
  exact hi.got _ degree

theorem post_scanUp (bound : FP32) (best : Best) (h : Released tr) :
    Script.Post (scanUp fuel part bound best) tr (fun _ tr => Released tr)
      fun _ tr => Released tr := by
  refine post_leg fuel part (fun best tr hi => ?_) best h
  unfold appCurrDegreeGetFp
  rw [Script.post_get_bind]
  intro degree
  exact (post_powerGet (hi.got _ degree)).seq fun _ _ hp => hp

theorem post_scanAxis (lo hi : FP32) (best : Best) (h : Released tr) :
    Script.Post (scanAxis fuel part lo hi best) tr (fun _ tr => Released tr)
      fun _ tr => Released tr := by
  unfold scanAxis
  refine (post_driveDown fuel part lo h).seq fun _ tr hdown => ?_
  refine (post_scanUp fuel part hi best hdown).seq fun last tr hup => ?_
  obtain ⟨last, best⟩ := last
  dsimp only
  split
  · exact (post_driveDown fuel part best.degree hup).seq fun _ _ hback => hback
  · exact hup

/-- **`cross_scan` never leaves a motor running.** -/
theorem post_crossScan (limit : SoftLimit) (delta_Az delta_El : FP32) (h : Released tr) :
    Script.Post (crossScan fuel limit delta_Az delta_El) tr (fun _ tr => Released tr)
      fun _ tr => Released tr := by
  unfold crossScan appCurrDegreeGetFp
  rw [Script.post_get_bind]
  intro az0
  rw [Script.post_get_bind]
  intro el0
  refine (post_powerGet (((released_iff.mp h).got _ az0).got _ el0)).seq fun _ tr hread => ?_
  dsimp only
  refine (post_scanAxis fuel .cabrage _ _ _ hread).seq fun best tr hel => ?_
  exact (post_scanAxis fuel .position _ _ _ hel).seq fun _ _ haz => haz

/-- **`pl_scan` never leaves a motor running.** -/
theorem post_plScan (limit : SoftLimit) (h : Released tr) :
    Script.Post (plScan fuel limit) tr (fun _ tr => Released tr) fun _ tr => Released tr := by
  unfold plScan appCurrDegreeGetFp
  rw [Script.post_get_bind]
  intro pl0
  dsimp only
  refine (post_powerAg 30 30 0 ((released_iff.mp h).got _ pl0)).seq fun _ tr hpower => ?_
  refine (post_driveDown fuel .polar _ hpower).seq fun _ tr hdown => ?_
  refine (post_scanUp fuel .polar _ _ hdown).seq fun last tr hup => ?_
  obtain ⟨last, best⟩ := last
  dsimp only
  exact (post_driveDown fuel .polar _ hup).seq fun _ _ hback => hback

end

/-! ### adapt_target_angle -/

section
variable {ε : Type} {tr : Trace} {s : AntennaPart → Prop}

theorem post_targetDir {E : ε → Trace → Prop} (h : OwedIn s tr) (part : AntennaPart)
    (obj : AnyFP32) : Script.Post (targetDir part obj : Search ε UInt8) tr E fun _ tr => OwedIn s tr := by
  unfold targetDir appCurrDegreeGetFp
  rw [Script.post_get_bind]
  exact fun degree => h.got _ degree

/-- An axis is started, or the search gives it up. -/
theorem post_adaptStart (h : OwedIn s tr) {part : AntennaPart} (hpart : ¬ s part)
    (flag : AntennaPart → UInt8) (dir : UInt8) :
    Script.Post (adaptStart flag part dir) tr (fun ret tr => ret = .FAIL ∧ Accounted tr)
      fun _ tr => OwedIn (fun q => (q = part ∧ flag part = 0) ∨ s q) tr := by
  unfold adaptStart
  split
  · next hflag =>
      refine post_orFail ((post_motorStart h part dir).mono ?_)
      intro ret tr hstart
      by_cases hret : ret = .FAIL
      · rw [if_pos hret] at hstart ⊢
        exact ⟨rfl, .of_gaveUp hstart.1 hpart hstart.2⟩
      · rw [if_neg hret] at hstart ⊢
        exact hstart.mono fun q hq => hq.imp_left fun hq => ⟨hq, hflag⟩
  · exact h.mono fun q hq => Or.inr hq

/-- An axis at its target is stopped, or the search gives it up. -/
theorem post_adaptAxis (tar : AntennaPart → AnyFP32) (dir : AntennaPart → UInt8) (part : AntennaPart)
    {flag : AntennaPart → UInt8} (h : OwedIn (fun q => flag q = 0) tr) :
    Script.Post (adaptAxis tar dir part flag) tr (fun ret tr => ret = .FAIL ∧ Accounted tr)
      fun flag tr => OwedIn (fun q => flag q = 0) tr := by
  unfold adaptAxis appCurrDegreeGetFp
  split
  · rw [Script.post_get_bind]
    intro degree
    have hread : OwedIn (fun q => flag q = 0) (tr ++ [.got (.degree part) degree]) := h.got _ degree
    split
    · rw [Script.post_bind]
      refine post_orFail ((post_motorEnd hread part _).mono ?_)
      intro ret tr hstop
      by_cases hret : ret = .FAIL
      · rw [if_pos hret]
        exact ⟨rfl, .of_gaveUp hstop.1 (fun hq => hq.1 rfl) (hstop.2 hret)⟩
      · rw [if_neg hret]
        refine hstop.1.mono fun q hq => ?_
        rw [Function.update_of_ne hq.1]
        exact hq.2
    · exact hread
  · exact h

theorem post_adaptRound (tar : AntennaPart → AnyFP32) (dir : AntennaPart → UInt8)
    {flag : AntennaPart → UInt8} (h : OwedIn (fun q => flag q = 0) tr) :
    Script.Post (adaptRound tar dir flag) tr (fun ret tr => ret = .FAIL ∧ Accounted tr)
      fun r tr =>
        match r with
        | .inl flag => OwedIn (fun q => flag q = 0) tr
        | .inr _ => Released tr := by
  unfold adaptRound
  split
  · refine (post_adaptAxis tar dir .position h).seq fun flag tr h => ?_
    refine (post_adaptAxis tar dir .cabrage h).seq fun flag tr h => ?_
    exact (post_adaptAxis tar dir .polar h).seq fun flag tr h => h
  · next hnone =>
      obtain ⟨hposition, hrest⟩ := not_or.mp hnone
      obtain ⟨hcabrage, hpolar⟩ := not_or.mp hrest
      intro part howed
      cases part with
      | position => exact hposition (h _ howed)
      | cabrage => exact hcabrage (h _ howed)
      | polar => exact hpolar (h _ howed)

/-- **`adapt_target_angle`** succeeds with nothing owed, or fails over an axis that it gives
up. -/
theorem post_adaptTargetAngle (fuel : Nat) (limit : SoftLimit) (tar : AntennaPart → AnyFP32)
    (stop_f : AntennaPart → UInt8) (h : Released tr) :
    Script.Post (adaptTargetAngle fuel limit tar stop_f) tr
      (fun ret tr => ret = .FAIL ∧ Accounted tr) fun ret tr => ret = .SUCC ∧ Released tr := by
  unfold adaptTargetAngle
  rw [Script.post_exitIf_bind]
  refine ⟨fun _ => ⟨rfl, Or.inl h⟩, fun _ => ?_⟩
  rw [Script.post_exitIf_bind]
  refine ⟨fun _ => ⟨rfl, Or.inl h⟩, fun _ => ?_⟩
  rw [Script.post_exitIf_bind]
  refine ⟨fun _ => ⟨rfl, Or.inl h⟩, fun _ => ?_⟩
  refine (post_targetDir (released_iff.mp h) .position _).seq fun az tr h => ?_
  refine (post_targetDir h .cabrage _).seq fun el tr h => ?_
  refine (post_targetDir h .polar _).seq fun pol tr h => ?_
  dsimp only
  refine (post_adaptStart h id stop_f az).seq fun _ tr h => ?_
  refine (post_adaptStart h (by simp) stop_f el).seq fun _ tr h => ?_
  refine (post_adaptStart h (by simp) stop_f pol).seq fun _ tr h => ?_
  have hstarted : OwedIn (fun q => stop_f q = 0) tr := by
    refine h.mono fun q hq => ?_
    obtain ⟨rfl, hq⟩ | ⟨rfl, hq⟩ | ⟨rfl, hq⟩ | hq := hq
    · exact hq
    · exact hq
    · exact hq
    · exact hq.elim
  refine (Script.post_loop (fun flag tr => OwedIn (fun q => flag q = 0) tr)
    (Q := fun _ tr => Released tr) (fun flag tr hi => ?_) fuel hstarted).seq
    fun _ tr hrel => ⟨rfl, hrel⟩
  refine (post_adaptRound tar _ hi).mono fun r tr hr => ?_
  cases r with
  | inl flag => exact hr
  | inr u => exact hr

end

/-! ### APP_Gradient_Track -/

section
variable {tr : Trace}

/-- What holds when `APP_Gradient_Track` returns. -/
def GradientLeft (ret : GradientRet) (tr : Trace) : Prop :=
  (ret.1 = .SUCC → Released tr) ∧ Accounted tr

theorem post_gradientMove (azDir elDir : UInt8) (azFirst : Bool) (h : Released tr) :
    Script.Post (gradientMove azDir elDir azFirst) tr GradientLeft fun _ tr => Released tr := by
  unfold gradientMove
  refine (post_motorStart h .position azDir).seq fun ret tr haz => ?_
  rw [Script.post_exitIf_bind]
  refine ⟨fun hret => ?_, fun hret => ?_⟩
  · rw [if_pos hret] at haz
    exact ⟨fun hs => (by cases hs), Or.inl haz.1⟩
  rw [if_neg hret] at haz
  refine (post_motorStart haz .cabrage elDir).seq fun ret tr hel => ?_
  rw [Script.post_exitIf_bind]
  refine ⟨fun hret => ?_, fun hret => ?_⟩
  · rw [if_pos hret] at hel
    exact ⟨fun hs => (by cases hs), .of_gaveUp hel.1 (by simp) hel.2⟩
  rw [if_neg hret] at hel
  split
  · refine (post_motorEnd hel .position azDir).seq fun _ tr hstop => ?_
    refine (post_motorEnd hstop.1 .cabrage elDir).seq fun _ tr hstop' => ?_
    intro part howed
    obtain ⟨hcab, hpos, rfl | rfl | hno⟩ := hstop'.1 part howed
    · exact hcab rfl
    · exact hpos rfl
    · exact hno
  · refine (post_motorEnd hel .cabrage elDir).seq fun _ tr hstop => ?_
    refine (post_motorEnd hstop.1 .position azDir).seq fun _ tr hstop' => ?_
    intro part howed
    obtain ⟨hpos, hcab, rfl | rfl | hno⟩ := hstop'.1 part howed
    · exact hcab rfl
    · exact hpos rfl
    · exact hno

theorem post_gradientRound (fuel : Nat) (fpu : Fpu) (limit : SoftLimit) (s : GradientSta)
    (h : Released tr) :
    Script.Post (gradientRound fuel fpu limit s) tr GradientLeft fun _ tr => Released tr := by
  unfold gradientRound
  split
  · dsimp only
    rw [Script.post_bind, Script.post_call]
    refine (post_adaptTargetAngle fuel limit _ _ h).imp (fun ret tr hfail => ?_)
      fun ret tr hsucc => ?_
    · rw [Script.post_exitIf_bind]
      exact ⟨fun _ => ⟨fun hs => (by cases hs), hfail.2⟩, fun hret => absurd hfail.1 hret⟩
    · rw [Script.post_exitIf_bind]
      refine ⟨fun hret => ?_, fun _ => ?_⟩
      · rw [hsucc.1] at hret
        cases hret
      refine (post_pointGet (released_iff.mp hsucc.2) fun tr hi => post_powerAg 20 20 0 hi).seq
        fun new tr h => ?_
      rw [Script.post_exitIf_bind]
      exact ⟨fun _ => ⟨fun _ => h, Or.inl h⟩, fun _ => h⟩
  · exact h

/-- **`APP_Gradient_Track`** succeeds with nothing owed, or fails over an axis that it gives
up. -/
theorem post_appGradientTrack (fuel : Nat) (fpu : Fpu) (limit : SoftLimit) (h : Released tr) :
    Script.Post (appGradientTrack fuel fpu limit) tr GradientLeft GradientLeft := by
  have hpurs {tr : Trace} (h : OwedIn (fun _ => False) tr) :
      Script.Post (appPowerAgGet4Purs : Search GradientRet FP32) tr GradientLeft
        fun _ tr => OwedIn (fun _ => False) tr := post_powerAg 20 20 0 h
  unfold appGradientTrack
  refine (post_pointGet (released_iff.mp h) fun tr hi => post_powerGet hi).seq fun oldI tr h => ?_
  refine (post_gradientMove _ _ true h).seq fun _ tr h => ?_
  refine (post_pointGet (released_iff.mp h) fun tr hi => hpurs hi).seq fun old tr h => ?_
  refine (post_gradientMove _ _ false h).seq fun _ tr h => ?_
  refine (post_pointGet (released_iff.mp h) fun tr hi => hpurs hi).seq fun new tr h => ?_
  dsimp only
  refine (Script.post_loop (fun _ tr => Released tr) (Q := fun _ tr => Released tr)
    (fun s tr hi => ?_) fuel h).seq fun _ tr h => ?_
  · refine (post_gradientRound fuel fpu limit s hi).mono fun r tr hr => ?_
    cases r with
    | inl s => exact hr
    | inr u => exact hr
  unfold appCurrDegreeGetFp
  rw [Script.post_get_bind]
  intro elc
  rw [Script.post_get_bind]
  intro azc
  refine (hpurs (((released_iff.mp h).got _ elc).got _ azc)).seq fun pc tr h => ?_
  exact ⟨fun _ => h, Or.inl h⟩

end

end SwiftAcu.Track
