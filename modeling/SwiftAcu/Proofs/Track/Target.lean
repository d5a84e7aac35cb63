/-
What `adapt_target_angle` does to each axis.

The events of one axis are its readings and its commands.  An axis that is not to be
left alone has been read, started, polled until it is at its target and stopped, in this
order; `Stage` is how far it has come.  Each part of the routine moves one axis one stage
on and leaves the events of the others as they are, so the stages of all three axes are
the invariant of the loop.
-/
import SwiftAcu.Proofs.Track.Release

namespace SwiftAcu.Track

open FloatingPoint

/-! ### The events of an axis -/

/-- The event is a reading of the axis, or a command to it. -/
def concerns (part : AntennaPart) : Event Src FP32 MotorCmd Ret → Bool
  | .got (.degree q) _ => q = part
  | .got .beaconRxpowerMv _ => false
  | .sent c _ => c.part = part

def axisEvents (part : AntennaPart) (tr : Trace) : Trace := tr.filter (concerns part)

theorem axisEvents_concat (part : AntennaPart) (tr : Trace) (e : Event Src FP32 MotorCmd Ret) :
    axisEvents part (tr ++ [e]) =
      if concerns part e then axisEvents part tr ++ [e] else axisEvents part tr := by
  rw [axisEvents, List.filter_append, List.filter_singleton]
  cases concerns part e with
  | true => rfl
  | false => exact List.append_nil _

/-- The direction of a target as seen from the first reading. -/
def dirOf (obj : AnyFP32) (v : FP32) : UInt8 :=
  if obj ≤ v then dirLeftDownAnticlock else dirRightUpClock

/-- Driven in a direction, the axis is at its target, or beyond. -/
def Reached (dir : UInt8) (obj : AnyFP32) (v : FP32) : Prop :=
  if dir = dirLeftDownAnticlock then v ≤ obj + (0.01 : FP32) else obj - (0.01 : FP32) ≤ v

theorem arrived_iff (dir : UInt8) (v : FP32) (obj : AnyFP32) :
    arrived dir v obj = true ↔ Reached dir obj v := by
  unfold arrived Reached appLe
  split
  · rw [decide_eq_true_iff]
    exact Value.finite_sub_le_iff v 0.01 obj
  · rw [decide_eq_true_iff]
    exact Value.sub_finite_le_iff v 0.01 obj

/-- A command that was answered, at the second try at the latest. -/
def Tried (c : MotorCmd) (evs : Trace) : Prop :=
  evs = [.sent c .SUCC] ∨ evs = [.sent c .FAIL, .sent c .SUCC]

/-- Read, started in a direction, and polled without being at the target. -/
def Running (part : AntennaPart) (obj : AnyFP32) (dir : UInt8) (evs : Trace) : Prop :=
  ∃ (v : FP32) (starts : Trace) (polls : List FP32),
    dir = dirOf obj v ∧ Tried (.start part dir) starts ∧
    (∀ w ∈ polls, ¬Reached dir obj w) ∧
    evs = .got (.degree part) v :: starts ++ polls.map (.got (.degree part))

/-- Running until a reading is at the target, and stopped there. -/
def Driven (part : AntennaPart) (obj : AnyFP32) (evs : Trace) : Prop :=
  ∃ dir running v stops, Running part obj dir running ∧ Reached dir obj v ∧
    Tried (.stop part dir) stops ∧ evs = running ++ [.got (.degree part) v] ++ stops

/-! ### The stages -/

/-- How far an axis has come. -/
inductive Stage where
  | fresh
  | read (dir : UInt8)
  | running (dir : UInt8)
  | driven

/-- What the events of an axis are at a stage. -/
def Stage.Holds (part : AntennaPart) (obj : AnyFP32) (evs : Trace) : Stage → Prop
  | fresh => evs = []
  | read dir => ∃ v, dir = dirOf obj v ∧ evs = [.got (.degree part) v]
  | running dir => Running part obj dir evs
  | driven => Driven part obj evs

/-- The target is inside the soft limits; of the polarization only if it is driven. -/
structure InLimits (limit : SoftLimit) (tar : AntennaPart → AnyFP32) (stop_f : AntennaPart → UInt8) : Prop where
  position : limit.start.position ≤ tar .position ∧ tar .position ≤ limit.stop.position
  cabrage : limit.start.cabrage ≤ tar .cabrage ∧ tar .cabrage ≤ limit.stop.cabrage
  polar : stop_f .polar = 0 → limit.start.polar ≤ tar .polar ∧ tar .polar ≤ limit.stop.polar

/-- Every start is for a target inside the limits, of an axis that is to be driven, and in the
direction of its target at its first reading. -/
def StartsRight (limit : SoftLimit) (tar : AntennaPart → AnyFP32) (stop_f : AntennaPart → UInt8) (tr : Trace) :
    Prop :=
  ∀ part dir ret, .sent (.start part dir) ret ∈ tr →
    InLimits limit tar stop_f ∧ stop_f part = 0 ∧
      ∃ v, (axisEvents part tr).head? = some (.got (.degree part) v) ∧
        dir = dirOf (tar part) v

section
variable {limit : SoftLimit} {tar : AntennaPart → AnyFP32} {stop_f : AntennaPart → UInt8} {tr : Trace}
  {stage : AntennaPart → Stage} {part : AntennaPart} {e : Event Src FP32 MotorCmd Ret}

/-- The stages of the axes, and the starts so far. -/
structure Staged (limit : SoftLimit) (tar : AntennaPart → AnyFP32) (stop_f : AntennaPart → UInt8)
    (stage : AntennaPart → Stage) (tr : Trace) : Prop where
  holds : ∀ part, (stage part).Holds part (tar part) (axisEvents part tr)
  starts : StartsRight limit tar stop_f tr

theorem head?_axisEvents_concat {v : Event Src FP32 MotorCmd Ret}
    (h : (axisEvents part tr).head? = some v) : (axisEvents part (tr ++ [e])).head? = some v := by
  rw [axisEvents_concat]
  split
  · rw [List.head?_append, h]
    rfl
  · exact h

/-- An event that is no start. -/
theorem StartsRight.concat (h : StartsRight limit tar stop_f tr)
    (he : ∀ part dir ret, e ≠ .sent (.start part dir) ret) :
    StartsRight limit tar stop_f (tr ++ [e]) := by
  intro part dir ret hmem
  obtain hmem | hmem := List.mem_append.mp hmem
  · obtain ⟨hlim, hflag, v, hhead, hdir⟩ := h part dir ret hmem
    exact ⟨hlim, hflag, v, head?_axisEvents_concat hhead, hdir⟩
  · exact absurd (List.mem_singleton.mp hmem).symm (he part dir ret)

/-- A start of an axis that has been read. -/
theorem StartsRight.start (h : StartsRight limit tar stop_f tr) {dir : UInt8} {v : FP32}
    (hlim : InLimits limit tar stop_f) (hflag : stop_f part = 0)
    (hhead : (axisEvents part tr).head? = some (.got (.degree part) v))
    (hdir : dir = dirOf (tar part) v) (ret : Ret) :
    StartsRight limit tar stop_f (tr ++ [.sent (.start part dir) ret]) := by
  intro part' dir' ret' hmem
  obtain hmem | hmem := List.mem_append.mp hmem
  · obtain ⟨hlim, hflag, w, hhead, hdir⟩ := h part' dir' ret' hmem
    exact ⟨hlim, hflag, w, head?_axisEvents_concat hhead, hdir⟩
  · obtain ⟨rfl, rfl⟩ : part' = part ∧ dir' = dir := by
      simpa using (Event.sent.inj (List.mem_singleton.mp hmem)).1
    exact ⟨hlim, hflag, v, head?_axisEvents_concat hhead, hdir⟩

/-- One axis goes on, and the others stay as they are. -/
theorem holds_update (h : ∀ q, (stage q).Holds q (tar q) (axisEvents q tr))
    (new : Stage) {tr' : Trace} (hpart : new.Holds part (tar part) (axisEvents part tr'))
    (hother : ∀ q, q ≠ part → axisEvents q tr' = axisEvents q tr) :
    ∀ q, (Function.update stage part new q).Holds q (tar q) (axisEvents q tr') := by
  intro q
  by_cases hq : q = part
  · subst hq
    rwa [Function.update_self]
  · rw [Function.update_of_ne hq, hother q hq]
    exact h q

theorem axisEvents_got_self (v : FP32) :
    axisEvents part (tr ++ [.got (.degree part) v]) =
      axisEvents part tr ++ [.got (.degree part) v] := by
  rw [axisEvents_concat, if_pos (by simp [concerns])]

theorem axisEvents_got_other {q : AntennaPart} (h : q ≠ part) (v : FP32) :
    axisEvents q (tr ++ [.got (.degree part) v]) = axisEvents q tr := by
  rw [axisEvents_concat, if_neg (by simpa [concerns] using h.symm)]

theorem axisEvents_sent_self {c : MotorCmd} (h : c.part = part) (ret : Ret) :
    axisEvents part (tr ++ [.sent c ret]) = axisEvents part tr ++ [.sent c ret] := by
  rw [axisEvents_concat, if_pos (by simpa [concerns] using h)]

theorem axisEvents_sent_other {q : AntennaPart} {c : MotorCmd} (h : q ≠ c.part) (ret : Ret) :
    axisEvents q (tr ++ [.sent c ret]) = axisEvents q tr := by
  rw [axisEvents_concat, if_neg (by simpa [concerns] using h.symm)]

/-! ### The parts of the routine -/

variable {ε : Type} {E : ε → Trace → Prop} {F : Trace → Prop}

/-- The first reading of an axis. -/
theorem postRun_targetDir (h : Staged limit tar stop_f stage tr) (hfresh : stage part = .fresh) :
    Script.PostRun (targetDir part (tar part) : Search ε UInt8) tr E
      (fun dir tr => Staged limit tar stop_f (Function.update stage part (.read dir)) tr) F := by
  unfold targetDir appCurrDegreeGetFp
  rw [Script.postRun_get_bind]
  intro v
  have hevs : axisEvents part tr = [] := by
    have hholds := h.holds part
    rwa [hfresh] at hholds
  refine ⟨holds_update h.holds _ ⟨v, ?_, ?_⟩ fun q hq => axisEvents_got_other hq v, ?_⟩
  · unfold dirOf appGe
    simp only [decide_eq_true_iff, Value.zero_le_finite_sub]
  · rw [axisEvents_got_self, hevs]
    rfl
  · exact h.starts.concat fun _ _ _ he => by cases he

/-- A command to an axis, tried twice: `P` is what every try keeps. -/
theorem postRun_twice_axis (part : AntennaPart) {c : MotorCmd} (hc : c.part = part) {P : Trace → Prop}
    (hP : ∀ tr ret, P tr → P (tr ++ [.sent c ret])) (h : P tr) :
    Script.PostRun (twice c : Search ε Ret) tr E (fun ret tr' => P tr' ∧
      (∀ q, q ≠ part → axisEvents q tr' = axisEvents q tr) ∧
      (ret ≠ .FAIL → ∃ evs, Tried c evs ∧ axisEvents part tr' = axisEvents part tr ++ evs)) F := by
  subst hc
  have hself : ∀ tr ret, axisEvents c.part (tr ++ [.sent c ret]) =
      axisEvents c.part tr ++ [.sent c ret] := fun tr ret => axisEvents_sent_self rfl ret
  have hother : ∀ tr ret q, q ≠ c.part → axisEvents q (tr ++ [.sent c ret]) = axisEvents q tr :=
    fun tr ret q hq => axisEvents_sent_other hq ret
  have htwice := hP _ .FAIL h
  refine postRun_twice c ⟨hP _ _ h, hother tr .SUCC, fun _ => ?_⟩
    ⟨hP _ _ htwice, fun q hq => ?_, fun _ => ?_⟩
    ⟨hP _ _ htwice, fun q hq => ?_, fun hret => absurd rfl hret⟩
  · exact ⟨[.sent c .SUCC], Or.inl rfl, hself tr .SUCC⟩
  · rw [hother _ _ q hq, hother _ _ q hq]
  · refine ⟨[.sent c .FAIL, .sent c .SUCC], Or.inr rfl, ?_⟩
    rw [hself, hself, List.append_assoc]
    rfl
  · rw [hother _ _ q hq, hother _ _ q hq]

/-- The start of an axis that is to be driven. -/
theorem postRun_adaptStart (h : Staged limit tar stop_f stage tr) {dir : UInt8}
    (hlim : stop_f part = 0 → InLimits limit tar stop_f) (hread : stage part = .read dir) :
    Script.PostRun (adaptStart stop_f part dir) tr
      (fun ret tr => ret = .FAIL ∧ StartsRight limit tar stop_f tr)
      (fun _ tr => Staged limit tar stop_f (Function.update stage part
        (if stop_f part = 0 then .running dir else .read dir)) tr) F := by
  unfold adaptStart
  by_cases hflag : stop_f part = 0
  · rw [if_pos hflag]
    simp only [if_pos hflag]
    obtain ⟨v, hdir, hevs⟩ : ∃ v, dir = dirOf (tar part) v ∧
        axisEvents part tr = [.got (.degree part) v] := by
      have hholds := h.holds part
      rwa [hread] at hholds
    refine postRun_orFail ((postRun_twice_axis part (c := .start part dir) rfl
      (P := fun tr => StartsRight limit tar stop_f tr ∧
        (axisEvents part tr).head? = some (.got (.degree part) v))
      (fun tr ret hkeep => ⟨hkeep.1.start (hlim hflag) hflag hkeep.2 hdir ret,
        head?_axisEvents_concat hkeep.2⟩) ⟨h.starts, by rw [hevs]; rfl⟩).mono
      fun ret tr' hret => ?_)
    obtain ⟨⟨hstarts, -⟩, hother, htried⟩ := hret
    by_cases hfail : ret = .FAIL
    · rw [if_pos hfail]
      exact ⟨rfl, hstarts⟩
    · rw [if_neg hfail]
      obtain ⟨evs, hevs', heq⟩ := htried hfail
      refine ⟨holds_update h.holds _ ⟨v, evs, [], hdir, hevs', ?_, ?_⟩ hother, hstarts⟩
      · exact fun w hw => absurd hw List.not_mem_nil
      · rw [heq, hevs, List.map_nil, List.append_nil]
        rfl
  · rw [if_neg hflag]
    simp only [if_neg hflag, ← hread, Function.update_eq_self]
    exact h

/-- A running axis is polled once more. -/
theorem Running.poll {obj : AnyFP32} {dir : UInt8} {evs : Trace} (h : Running part obj dir evs)
    {w : FP32} (hw : ¬Reached dir obj w) :
    Running part obj dir (evs ++ [.got (.degree part) w]) := by
  obtain ⟨v, starts, polls, hdir, htried, hpolls, rfl⟩ := h
  refine ⟨v, starts, polls ++ [w], hdir, htried, fun u hu => ?_, ?_⟩
  · obtain hu | hu := List.mem_append.mp hu
    · exact hpolls u hu
    · rw [List.mem_singleton.mp hu]
      exact hw
  · rw [List.map_append, ← List.append_assoc]
    rfl

/-- The look at a running axis: it goes on, or has been driven to its target. -/
theorem postRun_adaptAxis {flag : AntennaPart → UInt8} {dir : AntennaPart → UInt8}
    (h : Staged limit tar stop_f stage tr) (hrun : flag part = 0 → stage part = .running (dir part)) :
    Script.PostRun (adaptAxis tar dir part flag) tr
      (fun ret tr => ret = .FAIL ∧ StartsRight limit tar stop_f tr)
      (fun flag' tr => (flag' = flag ∧ Staged limit tar stop_f stage tr) ∨
        flag part = 0 ∧ flag' = Function.update flag part 1 ∧
          Staged limit tar stop_f (Function.update stage part .driven) tr) F := by
  unfold adaptAxis appCurrDegreeGetFp
  by_cases hflag : flag part = 0
  · rw [if_pos hflag, Script.postRun_get_bind]
    intro w
    have hrunning : Running part (tar part) (dir part) (axisEvents part tr) := by
      have hholds := h.holds part
      rwa [hrun hflag] at hholds
    have hstarts : StartsRight limit tar stop_f (tr ++ [.got (.degree part) w]) :=
      h.starts.concat fun _ _ _ he => by cases he
    have hself : axisEvents part (tr ++ [.got (.degree part) w]) =
        axisEvents part tr ++ [.got (.degree part) w] := axisEvents_got_self w
    by_cases harr : arrived (dir part) w (tar part) = true
    · rw [if_pos harr, Script.postRun_bind]
      have hreached := (arrived_iff _ _ _).mp harr
      refine postRun_orFail ((postRun_twice_axis part (c := .stop part (dir part)) rfl
        (P := StartsRight limit tar stop_f)
        (fun tr ret hkeep => hkeep.concat fun _ _ _ he => by cases he) hstarts).mono
        fun ret tr' hret => ?_)
      obtain ⟨hstarts', hother, htried⟩ := hret
      by_cases hfail : ret = .FAIL
      · rw [if_pos hfail]
        exact ⟨rfl, hstarts'⟩
      · rw [if_neg hfail]
        obtain ⟨evs, hevs, heq⟩ := htried hfail
        refine Or.inr ⟨hflag, rfl, holds_update h.holds _ ?_ fun q hq => ?_, hstarts'⟩
        · exact ⟨_, _, w, evs, hrunning, hreached, hevs, by rw [heq, hself]⟩
        · rw [hother q hq, axisEvents_got_other hq]
    · rw [if_neg harr]
      refine Or.inl ⟨rfl, fun q => ?_, hstarts⟩
      by_cases hq : q = part
      · subst hq
        rw [hrun hflag, hself]
        exact hrunning.poll (mt (arrived_iff _ _ _).mpr harr)
      · rw [axisEvents_got_other hq]
        exact h.holds q
  · rw [if_neg hflag]
    exact Or.inl ⟨rfl, h⟩

/-! ### The routine -/

/-- The stage of an axis in the loop. -/
def loopStage (stop_f : AntennaPart → UInt8) (dir flag : AntennaPart → UInt8)
    (part : AntennaPart) : Stage :=
  if stop_f part = 0 then if flag part = 0 then .running (dir part) else .driven
  else .read (dir part)

theorem loopStage_start (stop_f dir : AntennaPart → UInt8) (part : AntennaPart) :
    loopStage stop_f dir stop_f part =
      if stop_f part = 0 then .running (dir part) else .read (dir part) := by
  unfold loopStage
  split
  · rfl
  · rfl

/-- The axes in the loop; an axis that was to be left alone is. -/
structure Polling (limit : SoftLimit) (tar : AntennaPart → AnyFP32) (stop_f dir flag : AntennaPart → UInt8)
    (tr : Trace) : Prop where
  staged : Staged limit tar stop_f (loopStage stop_f dir flag) tr
  left : ∀ part, flag part = 0 → stop_f part = 0

theorem postRun_polling {flag : AntennaPart → UInt8} {dir : AntennaPart → UInt8}
    (part : AntennaPart) (h : Polling limit tar stop_f dir flag tr) :
    Script.PostRun (adaptAxis tar dir part flag) tr
      (fun ret tr => ret = .FAIL ∧ StartsRight limit tar stop_f tr)
      (fun flag tr => Polling limit tar stop_f dir flag tr) F := by
  have hrun : flag part = 0 → loopStage stop_f dir flag part = .running (dir part) := fun hflag => by
    rw [loopStage, if_pos (h.left part hflag), if_pos hflag]
  refine (postRun_adaptAxis h.staged hrun).mono fun flag' tr' hret => ?_
  obtain ⟨rfl, hstaged⟩ | ⟨hflag, rfl, hstaged⟩ := hret
  · exact ⟨hstaged, h.left⟩
  · have hstage : Function.update (loopStage stop_f dir flag) part .driven =
        loopStage stop_f dir (Function.update flag part 1) := by
      funext q
      by_cases hq : q = part
      · subst hq
        rw [Function.update_self, loopStage, if_pos (h.left q hflag), Function.update_self,
          if_neg (by decide)]
      · rw [Function.update_of_ne hq, loopStage, loopStage, Function.update_of_ne hq]
    refine ⟨hstage ▸ hstaged, fun q hq => ?_⟩
    by_cases hpart : q = part
    · exact hpart ▸ h.left part hflag
    · rw [Function.update_of_ne hpart] at hq
      exact h.left q hq

/-- What `adapt_target_angle` has done when it succeeds. -/
def Adapted (limit : SoftLimit) (tar : AntennaPart → AnyFP32) (stop_f : AntennaPart → UInt8) (tr : Trace) :
    Prop :=
  StartsRight limit tar stop_f tr ∧ ∀ part, if stop_f part = 0 then
    Driven part (tar part) (axisEvents part tr)
    else ∃ v, axisEvents part tr = [.got (.degree part) v]

/-- The loop ends with every axis driven or left alone. -/
theorem Polling.adapted {flag : AntennaPart → UInt8} {dir : AntennaPart → UInt8}
    (h : Polling limit tar stop_f dir flag tr)
    (hend : ¬(flag .position = 0 ∨ flag .cabrage = 0 ∨ flag .polar = 0)) :
    Adapted limit tar stop_f tr := by
  refine ⟨h.staged.starts, fun part => ?_⟩
  have hne : flag part ≠ 0 := by
    rw [not_or, not_or] at hend
    cases part with
    | position => exact hend.1
    | cabrage => exact hend.2.1
    | polar => exact hend.2.2
  have hholds := h.staged.holds part
  unfold loopStage at hholds
  by_cases hflag : stop_f part = 0
  · rw [if_pos hflag, if_neg hne] at hholds
    rw [if_pos hflag]
    exact hholds
  · rw [if_neg hflag] at hholds
    obtain ⟨v, -, hevs⟩ := hholds
    rw [if_neg hflag]
    exact ⟨v, hevs⟩

/-- **The loop drives every axis.** -/
theorem postRun_adaptLoop {flag : AntennaPart → UInt8} {dir : AntennaPart → UInt8} (fuel : Nat)
    (h : Polling limit tar stop_f dir flag tr) :
    Script.PostRun (Script.loop (adaptRound tar dir) fuel flag) tr
      (fun ret tr => ret = .FAIL ∧ StartsRight limit tar stop_f tr)
      (fun _ tr => Adapted limit tar stop_f tr) (StartsRight limit tar stop_f) := by
  refine Script.postRun_loop (fun flag tr => Polling limit tar stop_f dir flag tr)
    (fun flag tr hi => ?_) (fun _ _ hi => hi.staged.starts) fuel h
  unfold adaptRound
  by_cases hgo : flag .position = 0 ∨ flag .cabrage = 0 ∨ flag .polar = 0
  · rw [if_pos hgo]
    refine (postRun_polling .position hi).seq fun flag tr hi => ?_
    refine (postRun_polling .cabrage hi).seq fun flag tr hi => ?_
    exact (postRun_polling .polar hi).seq fun flag tr hi => hi
  · rw [if_neg hgo]
    exact hi.adapted hgo

/-- What `adapt_target_angle` is to do, however the angles read and the motor commands are
answered: the starts are right, also while it is still running; if it fails nothing more is
asked, and if it succeeds every axis was driven to its target or left alone. -/
def Adapts (limit : SoftLimit) (tar : AntennaPart → AnyFP32) (stop_f : AntennaPart → UInt8) :
    Prop :=
  ∀ fuel, Script.PostRun (adaptTargetAngle fuel limit tar stop_f) []
    (fun ret tr => ret = .FAIL ∧ StartsRight limit tar stop_f tr)
    (fun ret tr => ret = .SUCC ∧ Adapted limit tar stop_f tr) (StartsRight limit tar stop_f)

/-- A target that is tested is beyond a limit. -/
def Refused (limit : SoftLimit) (tar : AntennaPart → AnyFP32) (stop_f : AntennaPart → UInt8) :
    Prop :=
  (stop_f .polar = 0 ∧ (tar .polar < limit.start.polar ∨ limit.stop.polar < tar .polar)) ∨
    (tar .position < limit.start.position ∨ limit.stop.position < tar .position) ∨
    (tar .cabrage < limit.start.cabrage ∨ limit.stop.cabrage < tar .cabrage)

/-- The targets that are tested are numbers. -/
structure Numbers (tar : AntennaPart → AnyFP32) (stop_f : AntennaPart → UInt8) : Prop where
  position : tar .position ≠ .nan
  cabrage : tar .cabrage ≠ .nan
  polar : stop_f .polar = 0 → tar .polar ≠ .nan

/-- A target that is a number and not beyond a limit is inside. -/
theorem between_iff_number (lo hi : FP32) (obj : AnyFP32) :
    lo ≤ obj ∧ obj ≤ hi ↔ ¬(obj < lo ∨ hi < obj) ∧ obj ≠ .nan := by
  rw [Value.le_iff, Value.le_iff, not_or]
  constructor
  · rintro ⟨⟨hlo, -, hnan⟩, hhi, -⟩
    exact ⟨⟨hlo, hhi⟩, hnan⟩
  · rintro ⟨⟨hlo, hhi⟩, hnan⟩
    exact ⟨⟨hlo, nofun, hnan⟩, hhi, hnan, nofun⟩

/-- What is not refused is inside the limits as far as it is a number. -/
theorem inLimits_iff_numbers (h : ¬ Refused limit tar stop_f) :
    InLimits limit tar stop_f ↔ Numbers tar stop_f := by
  unfold Refused at h
  rw [not_or, not_or, not_and] at h
  obtain ⟨hpolar, hposition, hcabrage⟩ := h
  constructor
  · intro hlim
    exact ⟨((between_iff_number _ _ _).mp hlim.position).2, ((between_iff_number _ _ _).mp hlim.cabrage).2,
      fun hflag => ((between_iff_number _ _ _).mp (hlim.polar hflag)).2⟩
  · intro hnum
    exact ⟨(between_iff_number _ _ _).mpr ⟨hposition, hnum.position⟩,
      (between_iff_number _ _ _).mpr ⟨hcabrage, hnum.cabrage⟩,
      fun hflag => (between_iff_number _ _ _).mpr ⟨hpolar hflag, hnum.polar hflag⟩⟩

/-- Where a start would be right, the routine does what it is to do. -/
theorem adapts_of_inLimits
    (hlim : ¬ Refused limit tar stop_f → ∀ part, stop_f part = 0 → InLimits limit tar stop_f) :
    Adapts limit tar stop_f := by
  intro fuel
  have hnone : StartsRight limit tar stop_f [] := fun _ _ _ hmem => absurd hmem List.not_mem_nil
  unfold adaptTargetAngle
  rw [Script.postRun_exitIf_bind]
  refine ⟨fun _ => ⟨rfl, hnone⟩, fun hpolar => ?_⟩
  rw [Script.postRun_exitIf_bind]
  refine ⟨fun _ => ⟨rfl, hnone⟩, fun hposition => ?_⟩
  rw [Script.postRun_exitIf_bind]
  refine ⟨fun _ => ⟨rfl, hnone⟩, fun hcabrage => ?_⟩
  replace hlim := hlim fun hrefused => hrefused.elim hpolar fun hrefused =>
    hrefused.elim hposition hcabrage
  have hfresh : Staged limit tar stop_f (fun _ => .fresh) [] := ⟨fun _ => rfl, hnone⟩
  refine (postRun_targetDir hfresh rfl).seq fun az tr h => ?_
  refine (postRun_targetDir h rfl).seq fun el tr h => ?_
  refine (postRun_targetDir h rfl).seq fun pol tr h => ?_
  dsimp only
  refine (postRun_adaptStart h (hlim _) rfl).seq fun _ tr h => ?_
  refine (postRun_adaptStart h (hlim _) rfl).seq fun _ tr h => ?_
  refine (postRun_adaptStart h (hlim _) rfl).seq fun _ tr h => ?_
  refine (postRun_adaptLoop fuel ⟨?_, fun _ hflag => hflag⟩).seq
    fun _ tr hadapted => ⟨rfl, hadapted⟩
  convert h using 1
  funext q
  rw [loopStage_start]
  cases q with
  | position => rfl
  | cabrage => rfl
  | polar => rfl

theorem PostRun.targetDir {obj : AnyFP32} {Q : UInt8 → Trace → Prop}
    (h : Script.PostRun (targetDir part obj) tr E Q F) : ∃ dir tr, Q dir tr := ⟨_, _, h 0⟩

/-- The start of an axis may succeed at once. -/
theorem PostRun.adaptStart {dir : UInt8} {E : Ret → Trace → Prop} {Q : Unit → Trace → Prop}
    (h : Script.PostRun (adaptStart stop_f part dir) tr E Q F) :
    ∃ evs, Q () (tr ++ evs) ∧ (stop_f part = 0 → .sent (.start part dir) .SUCC ∈ evs) := by
  unfold Track.adaptStart at h
  split at h
  · exact ⟨[.sent (.start part dir) .SUCC], h .SUCC, fun _ => List.mem_singleton.mpr rfl⟩
  · next hflag => exact ⟨[], (List.append_nil tr).symm ▸ h, fun hzero => absurd hzero hflag⟩

/-- Every axis that is to be driven may be started. -/
theorem Adapts.starts (h : Adapts limit tar stop_f) (hpass : ¬ Refused limit tar stop_f) :
    ∃ tr, StartsRight limit tar stop_f tr ∧
      ∀ part, stop_f part = 0 → ∃ dir, .sent (.start part dir) .SUCC ∈ tr := by
  unfold Refused at hpass
  rw [not_or, not_or] at hpass
  obtain ⟨hpolar, hposition, hcabrage⟩ := hpass
  have hrun := h 0
  unfold adaptTargetAngle at hrun
  replace hrun := ((Script.postRun_exitIf_bind _ _).mp hrun).2 hpolar
  replace hrun := ((Script.postRun_exitIf_bind _ _).mp hrun).2 hposition
  replace hrun := ((Script.postRun_exitIf_bind _ _).mp hrun).2 hcabrage
  obtain ⟨_, _, hrun⟩ := PostRun.targetDir ((Script.postRun_bind _ _).mp hrun)
  obtain ⟨_, _, hrun⟩ := PostRun.targetDir ((Script.postRun_bind _ _).mp hrun)
  obtain ⟨_, _, hrun⟩ := PostRun.targetDir ((Script.postRun_bind _ _).mp hrun)
  obtain ⟨az, hrun, haz⟩ := PostRun.adaptStart ((Script.postRun_bind _ _).mp hrun)
  obtain ⟨el, hrun, hel⟩ := PostRun.adaptStart ((Script.postRun_bind _ _).mp hrun)
  obtain ⟨pol, hrun, hpol⟩ := PostRun.adaptStart ((Script.postRun_bind _ _).mp hrun)
  refine ⟨_, hrun, fun part hflag => ?_⟩
  cases part with
  | position =>
      exact ⟨_, List.mem_append_left _ (List.mem_append_left _
        (List.mem_append_right _ (haz hflag)))⟩
  | cabrage => exact ⟨_, List.mem_append_left _ (List.mem_append_right _ (hel hflag))⟩
  | polar => exact ⟨_, List.mem_append_right _ (hpol hflag)⟩

/-- A start to what is no number is not right. -/
theorem Adapts.numbers (h : Adapts limit tar stop_f) (hpass : ¬ Refused limit tar stop_f)
    (hflag : stop_f part = 0) : Numbers tar stop_f := by
  obtain ⟨tr, hright, hstarts⟩ := h.starts hpass
  obtain ⟨dir, hmem⟩ := hstarts part hflag
  exact (inLimits_iff_numbers hpass).mp (hright part dir .SUCC hmem).1

/--
**`adapt_target_angle` does what it is to do** exactly if a target is refused, no axis is to be
driven, or the targets that are tested are numbers: what is not a number is beyond no limit.
-/
theorem adaptTargetAngle_adapts_iff (limit : SoftLimit) (tar : AntennaPart → AnyFP32)
    (stop_f : AntennaPart → UInt8) : Adapts limit tar stop_f ↔
      Refused limit tar stop_f ∨ (∀ part, stop_f part ≠ 0) ∨ Numbers tar stop_f := by
  constructor
  · intro h
    by_contra hnot
    rw [not_or, not_or, not_forall] at hnot
    obtain ⟨hpass, ⟨part, hflag⟩, hnan⟩ := hnot
    exact hnan (h.numbers hpass (not_not.mp hflag))
  · intro h
    refine adapts_of_inLimits fun hpass part hflag => ?_
    obtain hrefused | hleft | hnum := h
    · exact absurd hrefused hpass
    · exact absurd hflag (hleft part)
    · exact (inLimits_iff_numbers hpass).mpr hnum

end

/-- Azimuth and elevation as a search hands them over that has divided by zero. -/
def nanTargets (part : AntennaPart) : AnyFP32 := if part = .polar then 0 else .nan

/-- Only the polarization is left alone. -/
def polarLeft (part : AntennaPart) : UInt8 := if part = .polar then 1 else 0

theorem not_adapts_nan : ¬ Adapts ⟨⟨110, 5, -90⟩, ⟨260, 85, 90⟩⟩ nanTargets polarLeft := by
  intro h
  have hpass : ¬ Refused ⟨⟨110, 5, -90⟩, ⟨260, 85, 90⟩⟩ nanTargets polarLeft := by
    unfold Refused
    decide
  have hflag : polarLeft .position = 0 := rfl
  exact (h.numbers hpass hflag).position rfl

end SwiftAcu.Track
