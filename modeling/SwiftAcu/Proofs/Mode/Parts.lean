/-
What a part of a mode command does to the tasks.

A part deletes a task, creates one, or leaves them alone.  The parts that are left of a
command keep a shape: what ends a command stands last, and what it creates is of the mode it
selects.  A task that a command is past, it has deleted or spared.
-/
import SwiftAcu.Acu.ModeRun

namespace SwiftAcu.Mode

variable [SoftFloat]

/-! ### The shape of a command -/

/-- Behind the part nothing stands in its program. -/
def Part.ends : Part → Bool
  | .findRecord _ | .setCurrSatParam _ | .setFreq _ | .setHistory _ | .setAim _ => true
  | .returnMode _ | .returnCreate | .returnFail => true
  | _ => false

/-- The part is one of a command that selects `mode`. -/
def Part.Fine (mode : UInt8) : Part → Prop
  | .taskCreate t => t.isTracking = true → t.mode = mode
  | .setMode m => m = 0x00
  | .returnMode m => m = mode
  | .findRecord _ | .setCurrSatParam _ | .setFreq _ | .setHistory _ | .setAim _ => mode = 0x04
  | .returnCreate => mode = 0x04
  | _ => True

/-- What may be left of a command that selects `mode`. -/
def Shape (mode : UInt8) : List Part → Prop
  | [] => True
  | p :: rest => p.Fine mode ∧ (p.ends = true → rest = []) ∧ Shape mode rest

section
variable {mode : UInt8} {p : Part} {rest : List Part}

omit [SoftFloat] in
theorem Shape.cons (hfine : p.Fine mode) (hends : p.ends = false) (hrest : Shape mode rest) :
    Shape mode (p :: rest) :=
  ⟨hfine, fun hyes => absurd (hends.symm.trans hyes) (by decide), hrest⟩

omit [SoftFloat] in
theorem Shape.last (hfine : p.Fine mode) : Shape mode [p] := ⟨hfine, fun _ => rfl, trivial⟩

end

section
variable {front : Front} {env : Env} {s : Sta} {p : Part} {mode : UInt8} {rest : List Part}

/-- A part that is followed by nothing of its own, or by what ends the command. -/
theorem shape_exec (h : Shape mode (p :: rest)) :
    Shape mode ((p.exec front env s.begin).2 ++ rest) := by
  obtain ⟨hfine, hends, hrest⟩ := h
  cases p with
  | taskDelIfRun t => exact hrest
  | endMode m t code =>
      dsimp only [Part.exec]
      split
      · exact .cons trivial rfl (.cons trivial rfl hrest)
      · exact hrest
  | leaveMode =>
      dsimp only [Part.exec]
      split
      · exact .cons trivial rfl (.cons rfl rfl (.cons trivial rfl hrest))
      · exact hrest
  | oneTaskDel ts =>
      cases ts with
      | nil => exact hrest
      | cons t ts =>
          dsimp only [Part.exec]
          split
          · exact hrest
          · exact .cons trivial rfl hrest
  | allDriveEnd again =>
      dsimp only [Part.exec]
      split
      · exact .cons trivial rfl hrest
      · exact hrest
  | findRecord id =>
      rw [hends rfl]
      dsimp only [Part.exec]
      split
      · exact .last trivial
      · exact .last hfine
  | setCurrSatParam r =>
      rw [hends rfl]
      dsimp only [Part.exec]
      split
      · exact .last trivial
      · exact .last hfine
  | setFreq r =>
      rw [hends rfl]
      dsimp only [Part.exec]
      split
      · exact .last trivial
      · exact .last hfine
  | setHistory r =>
      rw [hends rfl]
      exact .last hfine
  | setAim r =>
      rw [hends rfl]
      exact .cons trivial rfl (.cons trivial rfl (.cons trivial rfl (.last hfine)))
  | _ => exact hrest

/-! ### The tasks -/

variable {t : TaskId} (pc : TaskId → Pc)

omit [SoftFloat] in
theorem kernel_taskDel (ht : t.isTracking = true) (u : TaskId) :
    (s.begin.taskDel u).kernel pc t = if t = u then .dormant else pc t := by
  show Mode.kernel pc (.taskDel u) t = _
  cases u <;> cases t <;> simp_all [Mode.kernel, TaskId.isTracking]

omit [SoftFloat] in
theorem kernel_taskCreate (ht : t.isTracking = true) (u : TaskId) :
    (s.begin.taskCreate u).kernel pc t = if t = u then .created else pc t := by
  show Mode.kernel pc (.taskCreate u) t = _
  cases u <;> cases t <;> simp_all [Mode.kernel, TaskId.isTracking]

omit [SoftFloat] in
theorem kernel_taskDelIfRun (ht : t.isTracking = true) (u : TaskId) :
    (s.begin.taskDelIfRun u).kernel pc t =
      if t = u ∧ 0 < s.taskRunFlag t then .dormant else pc t := by
  have hflag : s.begin.taskRunFlag = s.taskRunFlag := rfl
  unfold Cmd.taskDelIfRun
  rw [hflag]
  by_cases htu : t = u
  · subst htu
    by_cases hrun : 0 < s.taskRunFlag t
    · rw [if_pos hrun, if_pos ⟨rfl, hrun⟩, kernel_taskDel pc ht, if_pos rfl]
    · rw [if_neg hrun, if_neg (fun h => hrun h.2)]
      rfl
  · have hnot : ¬ (t = u ∧ 0 < s.taskRunFlag t) := fun h => htu h.1
    rw [if_neg hnot]
    split
    · rw [kernel_taskDel pc ht, if_neg htu]
    · rfl

/-- **A part leaves a tracking task where it is, deletes it, or creates it.** -/
theorem kernel_exec (front : Front) (env : Env) (s : Sta) (p : Part) (ht : t.isTracking = true) :
    (p.exec front env s.begin).1.kernel pc t = pc t ∨
      (p.exec front env s.begin).1.kernel pc t = .dormant ∨ p.creates t = true := by
  cases p with
  | taskDelIfRun u =>
      dsimp only [Part.exec]
      rw [kernel_taskDelIfRun pc ht]
      split
      · exact Or.inr (Or.inl rfl)
      · exact Or.inl rfl
  | taskCreate u =>
      dsimp only [Part.exec]
      rw [kernel_taskCreate pc ht]
      by_cases htu : t = u
      · exact Or.inr (Or.inr (decide_eq_true htu))
      · rw [if_neg htu]
        exact Or.inl rfl
  | oneTaskDel us =>
      cases us with
      | nil => exact Or.inl rfl
      | cons u us =>
          dsimp only [Part.exec]
          split
          · rw [kernel_taskDel pc ht]
            split
            · exact Or.inr (Or.inl rfl)
            · exact Or.inl rfl
          · exact Or.inl rfl
  | setCurrSatParam r =>
      dsimp only [Part.exec]
      split
      · exact Or.inl rfl
      · exact Or.inl rfl
  | returnCreate =>
      dsimp only [Part.exec]
      rw [kernel_taskCreate pc ht, if_neg (by rintro rfl; simp [TaskId.isTracking] at ht)]
      exact Or.inl rfl
  | _ => exact Or.inl rfl

/-- **A task that a command is past, it has spared or deleted.** -/
theorem spares_or_dormant (front : Front) (env : Env) (ht : t.isTracking = true)
    (hconcerns : p.concerns t = true)
    (hpast : ∀ q ∈ (p.exec front env s.begin).2, q.concerns t = false)
    (hret : p.ret = none) :
    s.spares t p = true ∨ (p.exec front env s.begin).1.kernel pc t = .dormant := by
  cases p with
  | taskDelIfRun u =>
      have htu : t = u := of_decide_eq_true hconcerns
      dsimp only [Part.exec]
      rw [kernel_taskDelIfRun pc ht]
      by_cases hrun : 0 < s.taskRunFlag t
      · exact Or.inr (if_pos ⟨htu, hrun⟩)
      · left
        simp [Sta.spares, htu, htu ▸ hrun]
  | endMode mode u code =>
      have htu : t = u := of_decide_eq_true hconcerns
      left
      by_cases hmode : s.seekSatMode = mode
      · have hmem : Part.taskDelIfRun u ∈
            (Part.exec front env s.begin (.endMode mode u code)).2 := by
          dsimp only [Part.exec]
          rw [if_pos (show s.begin.seekSatMode = mode from hmode)]
          exact List.mem_cons_self
        exact absurd (hpast _ hmem) (by simp [Part.concerns, htu])
      · simp [Sta.spares, htu, hmode]
  | findRecord id =>
      dsimp only [Part.exec] at hpast
      split at hpast
      · exact absurd (hpast _ List.mem_cons_self) (by simp [Part.concerns])
      · exact absurd (hpast _ List.mem_cons_self) (by simp [Part.concerns])
  | setCurrSatParam r =>
      dsimp only [Part.exec] at hpast
      split at hpast
      · exact absurd (hpast _ List.mem_cons_self) (by simp [Part.concerns])
      · exact absurd (hpast _ List.mem_cons_self) (by simp [Part.concerns])
  | setFreq r =>
      dsimp only [Part.exec] at hpast
      split at hpast
      · exact absurd (hpast _ List.mem_cons_self) (by simp [Part.concerns])
      · exact absurd (hpast _ List.mem_cons_self) (by simp [Part.concerns])
  | setHistory r => exact absurd (hpast _ List.mem_cons_self) (by simp [Part.concerns])
  | setAim r => exact Or.inl rfl
  | returnFail => cases hret
  | _ => cases hconcerns

/-! ### The mode -/

/-- A part sets the mode to that of its command, or to the idle one, if at all. -/
theorem seekSatMode_exec (front : Front) (env : Env) (s : Sta) (h : p.Fine mode) :
    (p.exec front env s.begin).1.seekSatMode = s.seekSatMode ∨
      (p.exec front env s.begin).1.seekSatMode = 0x00 ∨
      (p.exec front env s.begin).1.seekSatMode = mode := by
  cases p with
  | taskDelIfRun t =>
      left
      dsimp only [Part.exec]
      unfold Cmd.taskDelIfRun
      split
      · rfl
      · rfl
  | oneTaskDel ts =>
      left
      cases ts with
      | nil => rfl
      | cons t ts =>
          dsimp only [Part.exec]
          split
          · rfl
          · rfl
  | setMode m => exact Or.inr (Or.inl h)
  | returnMode m => exact Or.inr (Or.inr h)
  | setCurrSatParam r =>
      left
      dsimp only [Part.exec]
      split
      · rfl
      · rfl
  | setAim r => exact Or.inr (Or.inr h.symm)
  | _ => exact Or.inl rfl

end

end SwiftAcu.Mode
