/-
Which motors the driving task leaves running.

A move ends at its label from four places: the third pass is over, a start fails twice, a
stop fails twice, or the flag is off.  The first is behind a round in which all motors are
at rest; the others do not look at the axes that still run.
-/
import SwiftAcu.Proofs.Goto.Step

namespace SwiftAcu.Goto

/-! ### The statement -/

/-- When the task comes to its end no axis that it has started is without a stop since. -/
def LeavesNone (w : Watch) : Action → Prop
  | .task ret => (w.step (.task ret)).sta.pc = .gotoEnd →
      ∀ part, (w.step (.task ret)).owed part = false
  | _ => True

/--
No second try of a command fails while another axis waits for a stop, and the task does not
find its flag off while any axis does.
-/
def NotStranded (w : Watch) : Action → Prop
  | .task ret =>
    match w.sta.pc with
    | .start part true => (driveStart ret part w.sta).1 = .FAIL →
        ∀ q, q ≠ part → w.owed q = false
    | .stop part _ true => ret = .FAIL → ∀ q, q ≠ part → w.owed q = false
    | .round => ¬ w.sta.locals.AtRest → w.sta.taskRunFlag 2 = 0 → ∀ q, w.owed q = false
    | _ => True
  | _ => True

instance decidableNotStranded (w : Watch) (a : Action) : Decidable (NotStranded w a) := by
  unfold NotStranded
  split
  · split
    · infer_instance
    · infer_instance
    · infer_instance
    · infer_instance
  · infer_instance

/-! ### What the task knows of its motors -/

/-- What is known where the task is. -/
def Watch.At (w : Watch) : Prop :=
  match w.sta.pc with
  | .wait | .gotoBegin | .gotoEnd => ∀ part, w.owed part = false
  | .pause => w.sta.locals.AtRest
  | .aim part | .start part _ => ∀ q, part.index ≤ q.index → w.sta.locals.motorRunFlag q = 0
  | _ => True

/-- Where nothing is known of the motors. -/
def Pc.Open : Pc → Prop
  | .watch _ | .stop .. | .guard _ | .round => True
  | _ => False

/-- Where a move can come to its end. -/
def Pc.MayEnd : Pc → Prop
  | .start _ true | .stop _ _ true | .round => True
  | _ => False

/-- An axis that waits for a stop runs, as far as the task knows. -/
structure Watch.Known (w : Watch) : Prop where
  runs : ∀ part, w.owed part = true → w.sta.locals.motorRunFlag part ≠ 0
  here : w.At

theorem Watch.Known.not_owed {w : Watch} (h : w.Known) {part : AntennaPart}
    (hrun : w.sta.locals.motorRunFlag part = 0) : w.owed part = false :=
  Bool.eq_false_iff.mpr fun howed => h.runs part howed hrun

theorem atRest_iff (l : Locals) : l.AtRest ↔ ∀ part, l.motorRunFlag part = 0 := by
  constructor
  · rintro ⟨hposition, hcabrage, hpolar⟩ part
    cases part with
    | position => exact hposition
    | cabrage => exact hcabrage
    | polar => exact hpolar
  · intro h
    exact ⟨h _, h _, h _⟩

/-- What others do takes stops off, and leaves the task where it is. -/
theorem Watch.Known.frame {w w' : Watch} (h : w.Known) (hpc : w'.sta.pc = w.sta.pc)
    (hlocals : w'.sta.locals = w.sta.locals) (howed : ∀ part, w'.owed part = true → w.owed part = true) :
    w'.Known := by
  have hoff {part : AntennaPart} (hno : w.owed part = false) : w'.owed part = false :=
    Bool.eq_false_iff.mpr fun hyes => absurd (howed part hyes) (by simp [hno])
  refine ⟨fun part hyes => ?_, ?_⟩
  · rw [hlocals]
    exact h.runs part (howed part hyes)
  · have hhere := h.here
    unfold Watch.At at hhere ⊢
    rw [hpc, hlocals]
    split
    · next hat => rw [hat] at hhere; exact fun part => hoff (hhere part)
    · next hat => rw [hat] at hhere; exact fun part => hoff (hhere part)
    · next hat => rw [hat] at hhere; exact fun part => hoff (hhere part)
    · next hat => rw [hat] at hhere; exact hhere
    · next hat => rw [hat] at hhere; exact hhere
    · next hat => rw [hat] at hhere; exact hhere
    · trivial

/-- Where the task goes after an axis is started the next ones do not run. -/
theorem at_afterStart {w : Watch} (part : AntennaPart) (hpc : w.sta.pc = afterStart part)
    (h : ∀ q, part.index < q.index → w.sta.locals.motorRunFlag q = 0) : w.At := by
  unfold Watch.At
  rw [hpc]
  cases part with
  | position => exact fun q hq => h q (lt_of_lt_of_le (by decide) hq)
  | cabrage => exact fun q hq => h q (lt_of_lt_of_le (by decide) hq)
  | polar => trivial

theorem Pc.Open.ne {pc : Pc} (h : pc.Open) : pc ≠ .gotoEnd := by
  intro heq
  rw [heq] at h
  exact h

theorem at_of_open {w : Watch} (h : w.sta.pc.Open) : w.At := by
  unfold Watch.At
  cases hpc : w.sta.pc with
  | watch part => trivial
  | stop part reason again => trivial
  | guard part => trivial
  | round => trivial
  | wait => rw [hpc] at h; exact h.elim
  | gotoBegin => rw [hpc] at h; exact h.elim
  | aim part => rw [hpc] at h; exact h.elim
  | start part again => rw [hpc] at h; exact h.elim
  | pause => rw [hpc] at h; exact h.elim
  | gotoEnd => rw [hpc] at h; exact h.elim

theorem open_afterWatch (part : AntennaPart) : (afterWatch part).Open := by
  cases part with
  | position => trivial
  | cabrage => trivial
  | polar => trivial

theorem open_afterStop (part : AntennaPart) (s : Sta) (reason : StopReason) :
    (afterStop s part reason).Open := by
  obtain hnext | hnext | hnext := afterStop_cases part s reason
  · rw [hnext]
    trivial
  · rw [hnext]
    trivial
  · rw [hnext]
    exact open_afterWatch part

theorem afterStart_ne (part : AntennaPart) : afterStart part ≠ .gotoEnd := by
  cases part with
  | position => exact fun h => by cases h
  | cabrage => exact fun h => by cases h
  | polar => exact fun h => by cases h

/-! ### One step of the task -/

section
variable {w : Watch} (ret : Ret)

/-- A step that does not come to the end. -/
theorem leavesNone_of_ne (hne : (w.step (.task ret)).sta.pc ≠ .gotoEnd) :
    LeavesNone w (.task ret) := fun hend => absurd hend hne

/-- A step to where nothing is known has only to keep what runs. -/
theorem known_of_open (hopen : (w.step (.task ret)).sta.pc.Open)
    (hruns : ∀ q, (w.step (.task ret)).owed q = true →
      (w.step (.task ret)).sta.locals.motorRunFlag q ≠ 0) :
    LeavesNone w (.task ret) ∧ (w.step (.task ret)).Known :=
  ⟨leavesNone_of_ne ret hopen.ne, hruns, at_of_open hopen⟩

/-- A step after which no axis waits for a stop. -/
theorem known_of_none (hnone : ∀ q, (w.step (.task ret)).owed q = false)
    (hat : (w.step (.task ret)).At) :
    LeavesNone w (.task ret) ∧ (w.step (.task ret)).Known :=
  ⟨fun _ => hnone, fun q hyes => absurd hyes (by simp [hnone]), hat⟩

theorem notStranded_of_not_mayEnd (h : ¬ w.sta.pc.MayEnd) : NotStranded w (.task ret) := by
  unfold NotStranded
  dsimp only
  split
  · next part hpc => rw [hpc] at h; exact absurd trivial h
  · next part reason hpc => rw [hpc] at h; exact absurd trivial h
  · next hpc => rw [hpc] at h; exact absurd trivial h
  · trivial

/-- A step that goes right, under a condition that holds. -/
theorem iff_of_known (hboth : LeavesNone w (.task ret) ∧ (w.step (.task ret)).Known)
    (hcond : NotStranded w (.task ret)) :
    (LeavesNone w (.task ret) ↔ NotStranded w (.task ret)) ∧
      (NotStranded w (.task ret) → (w.step (.task ret)).Known) :=
  ⟨iff_of_true hboth.1 hcond, fun _ => hboth.2⟩

/-- A step that comes to the end. -/
theorem iff_of_end (hend : (w.step (.task ret)).sta.pc = .gotoEnd)
    (hcond : NotStranded w (.task ret) ↔ ∀ q, (w.step (.task ret)).owed q = false) :
    (LeavesNone w (.task ret) ↔ NotStranded w (.task ret)) ∧
      (NotStranded w (.task ret) → (w.step (.task ret)).Known) := by
  refine ⟨⟨fun hl => hcond.mpr (hl hend), fun hc _ => hcond.mp hc⟩, fun hc => ?_⟩
  have hat : (w.step (.task ret)).At := by
    unfold Watch.At
    rw [hend]
    exact hcond.mp hc
  exact (known_of_none ret (hcond.mp hc) hat).2

variable (h : w.Known)
include h

theorem known_wait (hpc : w.sta.pc = .wait) :
    LeavesNone w (.task ret) ∧ (w.step (.task ret)).Known := by
  have hhere := h.here
  unfold Watch.At at hhere
  rw [hpc] at hhere
  have howed : (w.step (.task ret)).owed = w.owed := by simp only [Watch.step, Watch.owes, hpc]
  have hnone (part : AntennaPart) : (w.step (.task ret)).owed part = false := by
    rw [howed]
    exact hhere part
  refine known_of_none ret hnone ?_
  unfold Watch.At
  by_cases hflag : w.sta.taskRunFlag 2 = 1
  · have hnext : (w.step (.task ret)).sta.pc = .gotoBegin := by
      simp only [Watch.step, step, taskAntennaRecordGoto, hpc, if_pos hflag]
    rw [hnext]
    exact hnone
  · have hnext : (w.step (.task ret)).sta.pc = .wait := by
      simp only [Watch.step, step, taskAntennaRecordGoto, hpc, if_neg hflag]
    rw [hnext]
    exact hnone

theorem known_gotoBegin (hpc : w.sta.pc = .gotoBegin) :
    LeavesNone w (.task ret) ∧ (w.step (.task ret)).Known := by
  have hhere := h.here
  unfold Watch.At at hhere
  rw [hpc] at hhere
  obtain ⟨aim, devWorkSta, heq⟩ := begins_eq w.sta
  have hsta : (w.step (.task ret)).sta = begins w.sta := by
    simp only [Watch.step, step, taskAntennaRecordGoto, hpc]
  have howed : (w.step (.task ret)).owed = w.owed := by simp only [Watch.step, Watch.owes, hpc]
  have hnone (part : AntennaPart) : (w.step (.task ret)).owed part = false := by
    rw [howed]
    exact hhere part
  rw [heq] at hsta
  refine known_of_none ret hnone ?_
  unfold Watch.At
  rw [hsta]
  exact fun _ _ => rfl

theorem known_aim {part : AntennaPart} (hpc : w.sta.pc = .aim part) :
    LeavesNone w (.task ret) ∧ (w.step (.task ret)).Known := by
  have hhere := h.here
  unfold Watch.At at hhere
  rw [hpc] at hhere
  obtain ⟨dir, motorRunFlag, pc, heq, hnext⟩ := aims_eq part w.sta
  have hsta : (w.step (.task ret)).sta = aims part w.sta := by
    simp only [Watch.step, step, taskAntennaRecordGoto, hpc]
  have howed : (w.step (.task ret)).owed = w.owed := by simp only [Watch.step, Watch.owes, hpc]
  rw [heq] at hsta
  have hrun : motorRunFlag = w.sta.locals.motorRunFlag := by
    obtain ⟨-, hrun⟩ | ⟨-, hrun | hrun⟩ := hnext
    · exact hrun
    · exact hrun
    · rw [hrun, ← hhere part (le_refl _), Function.update_eq_self]
  subst hrun
  refine ⟨leavesNone_of_ne ret ?_, ?_, ?_⟩
  · rw [hsta]
    obtain ⟨rfl, -⟩ | ⟨rfl, -⟩ := hnext
    · exact fun hend => by cases hend
    · exact afterStart_ne part
  · rw [howed, hsta]
    exact h.runs
  · obtain ⟨rfl, -⟩ | ⟨rfl, -⟩ := hnext
    · unfold Watch.At
      rw [hsta]
      exact hhere
    · refine at_afterStart part (by rw [hsta]) fun q hq => ?_
      rw [hsta]
      exact hhere q (le_of_lt hq)

theorem known_start {part : AntennaPart} {again : Bool} (hpc : w.sta.pc = .start part again) :
    (LeavesNone w (.task ret) ↔ NotStranded w (.task ret)) ∧
      (NotStranded w (.task ret) → (w.step (.task ret)).Known) := by
  have hhere := h.here
  unfold Watch.At at hhere
  rw [hpc] at hhere
  obtain ⟨motorMove, heq⟩ := starts_eq ret part w.sta again
  have hsta : (w.step (.task ret)).sta = starts ret part again w.sta := by
    simp only [Watch.step, step, taskAntennaRecordGoto, hpc]
  have howed : (w.step (.task ret)).owed =
      if (driveStart ret part w.sta).1 = .SUCC then Function.update w.owed part true
      else w.owed := by simp only [Watch.step, Watch.owes, hpc]
  rw [heq] at hsta
  by_cases hsucc : (driveStart ret part w.sta).1 = .SUCC
  · -- the start is taken
    rw [if_pos hsucc] at hsta howed
    have hcond : NotStranded w (.task ret) := by
      unfold NotStranded
      dsimp only
      rw [hpc]
      cases again with
      | true => exact fun hfail => absurd (hsucc.symm.trans hfail) (by decide)
      | false => trivial
    refine iff_of_known ret ⟨leavesNone_of_ne ret ?_, fun q hyes => ?_, ?_⟩ hcond
    · rw [hsta]
      exact afterStart_ne part
    · rw [hsta]
      change Function.update w.sta.locals.motorRunFlag part 1 q ≠ 0
      by_cases hq : q = part
      · subst hq
        rw [Function.update_self]
        decide
      · rw [howed, Function.update_of_ne hq] at hyes
        rw [Function.update_of_ne hq]
        exact h.runs q hyes
    · refine at_afterStart part (by rw [hsta]) fun q hq => ?_
      rw [hsta]
      change Function.update w.sta.locals.motorRunFlag part 1 q = 0
      rw [Function.update_of_ne (fun heq => by rw [heq] at hq; exact lt_irrefl _ hq)]
      exact hhere q (le_of_lt hq)
  · -- it is not
    rw [if_neg hsucc] at hsta howed
    have hfail : (driveStart ret part w.sta).1 = .FAIL := by
      cases hret : (driveStart ret part w.sta).1 with
      | SUCC => exact absurd hret hsucc
      | FAIL => rfl
    cases again with
    | false =>
        have hcond : NotStranded w (.task ret) :=
          notStranded_of_not_mayEnd ret (by rw [hpc]; exact id)
        refine iff_of_known ret ⟨leavesNone_of_ne ret ?_, ?_, ?_⟩ hcond
        · rw [hsta]
          exact fun hend => by cases hend
        · rw [howed, hsta]
          exact h.runs
        · unfold Watch.At
          rw [hsta]
          exact hhere
    | true =>
        refine iff_of_end ret (by rw [hsta]; rfl) ?_
        rw [howed]
        unfold NotStranded
        dsimp only
        rw [hpc]
        refine ⟨fun hothers q => ?_, fun hnone _ q _ => hnone q⟩
        by_cases hq : q = part
        · exact h.not_owed (hhere q (by rw [hq]))
        · exact hothers hfail q hq

theorem known_stop {part : AntennaPart} {reason : StopReason} {again : Bool}
    (hpc : w.sta.pc = .stop part reason again) :
    (LeavesNone w (.task ret) ↔ NotStranded w (.task ret)) ∧
      (NotStranded w (.task ret) → (w.step (.task ret)).Known) := by
  obtain ⟨motorMove, heq, -⟩ := stops_eq ret part w.sta reason again
  have hsta : (w.step (.task ret)).sta = stops ret part reason again w.sta := by
    simp only [Watch.step, step, taskAntennaRecordGoto, hpc]
  have howed : (w.step (.task ret)).owed = Function.update w.owed part false := by
    simp only [Watch.step, Watch.owes, hpc]
  have hothers {q : AntennaPart} (hyes : (w.step (.task ret)).owed q = true) :
      q ≠ part ∧ w.owed q = true := by
    rw [howed] at hyes
    exact owed_of_update hyes
  rw [heq] at hsta
  cases ret with
  | SUCC =>
      rw [if_pos rfl] at hsta
      have hcond : NotStranded w (.task .SUCC) := by
        unfold NotStranded
        dsimp only
        rw [hpc]
        cases again with
        | true => exact fun hfail => by cases hfail
        | false => trivial
      refine iff_of_known _ (known_of_open _ ?_ fun q hyes => ?_) hcond
      · rw [hsta]
        exact open_afterStop part w.sta reason
      · obtain ⟨hq, hyes⟩ := hothers hyes
        rw [hsta]
        change Function.update w.sta.locals.motorRunFlag part 0 q ≠ 0
        rw [Function.update_of_ne hq]
        exact h.runs q hyes
  | FAIL =>
      rw [if_neg (by decide)] at hsta
      cases again with
      | false =>
          have hcond : NotStranded w (.task .FAIL) :=
            notStranded_of_not_mayEnd _ (by rw [hpc]; exact id)
          refine iff_of_known _ (known_of_open _ ?_ fun q hyes => ?_) hcond
          · rw [hsta]
            trivial
          · obtain ⟨-, hyes⟩ := hothers hyes
            rw [hsta]
            exact h.runs q hyes
      | true =>
          refine iff_of_end _ (by rw [hsta]; rfl) ?_
          unfold NotStranded
          dsimp only
          rw [hpc, howed]
          refine ⟨fun hc q => ?_, fun hnone _ q hq => ?_⟩
          · by_cases hq : q = part
            · rw [hq, Function.update_self]
            · rw [Function.update_of_ne hq]
              exact hc rfl q hq
          · have hno := hnone q
            rwa [Function.update_of_ne hq] at hno

theorem known_watch {part : AntennaPart} (hpc : w.sta.pc = .watch part) :
    LeavesNone w (.task ret) ∧ (w.step (.task ret)).Known := by
  obtain ⟨cmpDir, pc, heq, hnext⟩ := watches_eq part w.sta
  have hsta : (w.step (.task ret)).sta = watches part w.sta := by
    simp only [Watch.step, step, taskAntennaRecordGoto, hpc]
  have howed : (w.step (.task ret)).owed = w.owed := by simp only [Watch.step, Watch.owes, hpc]
  rw [heq] at hsta
  have hopen : pc.Open := by
    obtain rfl | rfl | rfl | rfl := hnext
    · trivial
    · trivial
    · trivial
    · exact open_afterWatch part
  refine known_of_open ret (by rw [hsta]; exact hopen) ?_
  rw [howed, hsta]
  exact h.runs

theorem known_guard {part : AntennaPart} (hpc : w.sta.pc = .guard part) :
    LeavesNone w (.task ret) ∧ (w.step (.task ret)).Known := by
  obtain ⟨errCnt, old, pc, heq, hnext⟩ := guards_eq part w.sta
  have hsta : (w.step (.task ret)).sta = guards part w.sta := by
    simp only [Watch.step, step, taskAntennaRecordGoto, hpc]
  have howed : (w.step (.task ret)).owed = w.owed := by simp only [Watch.step, Watch.owes, hpc]
  rw [heq] at hsta
  have hopen : pc.Open := by
    obtain rfl | rfl := hnext
    · trivial
    · exact open_afterWatch part
  refine known_of_open ret (by rw [hsta]; exact hopen) ?_
  rw [howed, hsta]
  exact h.runs

theorem known_round (hpc : w.sta.pc = .round) :
    (LeavesNone w (.task ret) ↔ NotStranded w (.task ret)) ∧
      (NotStranded w (.task ret) → (w.step (.task ret)).Known) := by
  have hsta : (w.step (.task ret)).sta = rounds w.sta := by
    simp only [Watch.step, step, taskAntennaRecordGoto, hpc]
  have howed : (w.step (.task ret)).owed = w.owed := by simp only [Watch.step, Watch.owes, hpc]
  have hcond : NotStranded w (.task ret) ↔
      (¬ w.sta.locals.AtRest → w.sta.taskRunFlag 2 = 0 → ∀ q, w.owed q = false) := by
    unfold NotStranded
    dsimp only
    rw [hpc]
  unfold rounds at hsta
  by_cases hrest : w.sta.locals.AtRest
  · rw [if_pos hrest] at hsta
    refine iff_of_known ret ⟨leavesNone_of_ne ret ?_, ?_, ?_⟩
      (hcond.mpr fun hno => absurd hrest hno)
    · rw [hsta]
      exact fun hend => by cases hend
    · rw [howed, hsta]
      exact h.runs
    · unfold Watch.At
      rw [hsta]
      exact hrest
  rw [if_neg hrest] at hsta
  by_cases hflag : w.sta.taskRunFlag 2 = 0
  · rw [if_pos hflag] at hsta
    refine iff_of_end ret (by rw [hsta]) ?_
    rw [howed]
    exact hcond.trans ⟨fun hc => hc hrest hflag, fun hc _ _ => hc⟩
  · rw [if_neg hflag] at hsta
    refine iff_of_known ret (known_of_open ret (by rw [hsta]; trivial) ?_)
      (hcond.mpr fun _ hoff => absurd hoff hflag)
    rw [howed, hsta]
    exact h.runs

theorem known_pause (hpc : w.sta.pc = .pause) :
    LeavesNone w (.task ret) ∧ (w.step (.task ret)).Known := by
  have hhere := h.here
  unfold Watch.At at hhere
  rw [hpc] at hhere
  have hrest := (atRest_iff _).mp hhere
  have hsta : (w.step (.task ret)).sta = pauses w.sta := by
    simp only [Watch.step, step, taskAntennaRecordGoto, hpc]
  have howed : (w.step (.task ret)).owed = w.owed := by simp only [Watch.step, Watch.owes, hpc]
  have hnone (q : AntennaPart) : (w.step (.task ret)).owed q = false := by
    rw [howed]
    exact h.not_owed (hrest q)
  unfold pauses at hsta
  refine known_of_none ret hnone ?_
  unfold Watch.At
  rw [hsta]
  dsimp only
  by_cases hi : w.sta.locals.i + 1 < 3
  · rw [if_pos hi]
    exact fun q _ => hrest q
  · rw [if_neg hi]
    exact hnone

theorem known_gotoEnd (hpc : w.sta.pc = .gotoEnd) :
    LeavesNone w (.task ret) ∧ (w.step (.task ret)).Known := by
  have hhere := h.here
  unfold Watch.At at hhere
  rw [hpc] at hhere
  obtain ⟨seekSatMode, devWorkSta, heq⟩ := ends_eq w.sta
  have hsta : (w.step (.task ret)).sta = ends w.sta := by
    simp only [Watch.step, step, taskAntennaRecordGoto, hpc]
  have howed : (w.step (.task ret)).owed = w.owed := by simp only [Watch.step, Watch.owes, hpc]
  have hnone (q : AntennaPart) : (w.step (.task ret)).owed q = false := by
    rw [howed]
    exact hhere q
  rw [heq] at hsta
  refine known_of_none ret hnone ?_
  unfold Watch.At
  rw [hsta]
  exact hnone

/-- **A step of the task** leaves nothing at its end exactly under the condition, and goes on
knowing its motors. -/
theorem leavesNone_iff :
    (LeavesNone w (.task ret) ↔ NotStranded w (.task ret)) ∧
      (NotStranded w (.task ret) → (w.step (.task ret)).Known) := by
  have hfree (hboth : LeavesNone w (.task ret) ∧ (w.step (.task ret)).Known)
      (hpc : ¬ w.sta.pc.MayEnd) :
      (LeavesNone w (.task ret) ↔ NotStranded w (.task ret)) ∧
        (NotStranded w (.task ret) → (w.step (.task ret)).Known) :=
    iff_of_known ret hboth (notStranded_of_not_mayEnd ret hpc)
  cases hpc : w.sta.pc with
  | wait => exact hfree (known_wait ret h hpc) (by rw [hpc]; exact id)
  | gotoBegin => exact hfree (known_gotoBegin ret h hpc) (by rw [hpc]; exact id)
  | aim part => exact hfree (known_aim ret h hpc) (by rw [hpc]; exact id)
  | start part again => exact known_start ret h hpc
  | watch part => exact hfree (known_watch ret h hpc) (by rw [hpc]; exact id)
  | stop part reason again => exact known_stop ret h hpc
  | guard part => exact hfree (known_guard ret h hpc) (by rw [hpc]; exact id)
  | round => exact known_round ret h hpc
  | pause => exact hfree (known_pause ret h hpc) (by rw [hpc]; exact id)
  | gotoEnd => exact hfree (known_gotoEnd ret h hpc) (by rw [hpc]; exact id)

end

/-! ### Runs -/

/-- What other tasks do leaves the task knowing its motors. -/
theorem known_others {w : Watch} (h : w.Known) {a : Action} (ha : ∀ ret, a ≠ .task ret) :
    (w.step a).Known := by
  cases a with
  | task ret => exact absurd rfl (ha ret)
  | modeSel front mode =>
      obtain ⟨sel, hstep⟩ := step_modeSel w front mode
      exact h.frame (by rw [hstep]) (by rw [hstep]) fun _ hyes => hyes
  | modeSelStep front ret =>
      obtain ⟨taskRunFlag, motorMove, devWorkSta, seekSatMode, sel, hstep, -, -⟩ :=
        step_modeSelStep w front ret
      exact h.frame (by rw [hstep]) (by rw [hstep]) fun _ hyes => owes_modeSelStep w front ret hyes
  | driveEnd antenna_part ret =>
      refine h.frame rfl rfl fun part hyes => ?_
      cases hid : AntennaPart.ofId antenna_part with
      | none =>
          have howed : (w.step (.driveEnd antenna_part ret)).owed = w.owed := by
            simp only [Watch.step, Watch.owes, hid]
          rwa [howed] at hyes
      | some part' =>
          have howed : (w.step (.driveEnd antenna_part ret)).owed =
              Function.update w.owed part' false := by simp only [Watch.step, Watch.owes, hid]
          rw [howed] at hyes
          exact (owed_of_update hyes).2
  | del =>
      obtain ⟨taskRunFlag, heq, -⟩ := taskDel_eq 2 w.sta
      have hstep : (w.step .del).sta = { w.sta with taskRunFlag } := heq
      exact h.frame (by rw [hstep]) (by rw [hstep]) fun _ hyes => hyes
  | measure antenna => exact h.frame rfl rfl fun _ hyes => hyes
  | create => exact h.frame rfl rfl fun _ hyes => hyes
  | drive part direction ret => exact h.frame rfl rfl fun _ hyes => hyes
  | others satelliteTrack gradientTrack seekSatMode devWorkSta elecCoderNum aim aimHand softLimit =>
      exact h.frame rfl rfl fun _ hyes => hyes

theorem known_boot (s : Sta) : (Watch.boot s).Known := by
  have hnone (part : AntennaPart) : (Watch.boot s).owed part = false := rfl
  exact ⟨fun part hyes => absurd hyes (by simp [hnone]), hnone⟩

/-- **The task leaves no motor running** in exactly the runs in which it is not stranded. -/
theorem allSteps_leavesNone_iff (s : Sta) (as : List Action) :
    Runs.AllSteps Watch.step LeavesNone (.boot s) as ↔
      Runs.AllSteps Watch.step NotStranded (.boot s) as := by
  have hiff (w : Watch) (a : Action) (h : w.Known) :
      (LeavesNone w a ↔ NotStranded w a) ∧ (NotStranded w a → (w.step a).Known) := by
    by_cases ha : ∃ ret, a = .task ret
    · obtain ⟨ret, rfl⟩ := ha
      exact leavesNone_iff ret h
    · have hno : ∀ ret, a ≠ .task ret := fun ret heq => ha ⟨ret, heq⟩
      refine ⟨?_, fun _ => known_others h hno⟩
      cases a with
      | task ret => exact absurd rfl (hno ret)
      | measure antenna => exact Iff.rfl
      | modeSel front mode => exact Iff.rfl
      | modeSelStep front ret => exact Iff.rfl
      | create => exact Iff.rfl
      | del => exact Iff.rfl
      | drive part direction ret => exact Iff.rfl
      | driveEnd part ret => exact Iff.rfl
      | others satelliteTrack gradientTrack seekSatMode devWorkSta elecCoderNum aim aimHand
          softLimit => exact Iff.rfl
  exact Runs.allSteps_iff_of_inv (fun w a _ h => (hiff w a h).1)
    (fun w a _ h hq => (hiff w a h).2 hq) (known_boot s)

end SwiftAcu.Goto
