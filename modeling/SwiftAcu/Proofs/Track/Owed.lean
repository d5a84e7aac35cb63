/-
The axes that a search owes a stop.

An axis is owed a stop from a start that succeeds to the next stop that is given, whether
that is answered or not.  A search that ends with nothing owed is released.
-/
import SwiftAcu.Acu.Track

namespace SwiftAcu.Track

/-- The axis of a command. -/
def MotorCmd.part : MotorCmd → AntennaPart
  | .start part _ => part
  | .stop part _ => part

/-- The axis was started, and no stop of it has been given since. -/
def Owed (tr : Trace) (part : AntennaPart) : Prop :=
  ∃ pre post dir, tr = pre ++ .sent (.start part dir) .SUCC :: post ∧
    ∀ dir' ret, .sent (.stop part dir') ret ∉ post

/-- Every axis that was started has been given a stop since. -/
def Released (tr : Trace) : Prop := ∀ part, ¬ Owed tr part

/-- The last command failed, and failed again. -/
def GaveUp (tr : Trace) (part : AntennaPart) : Prop :=
  ∃ pre c, c.part = part ∧ tr = pre ++ [.sent c .FAIL, .sent c .FAIL]

/-- No other axis is owed a stop when a search ends with a command that failed twice. -/
def NotStranded (tr : Trace) : Prop :=
  ∀ pre c, tr = pre ++ [.sent c .FAIL, .sent c .FAIL] → ∀ part, part ≠ c.part → ¬ Owed pre part

/-! ### One event more -/

section
variable {tr : Trace} {part : AntennaPart}

theorem not_owed_nil (part : AntennaPart) : ¬ Owed [] part := by
  rintro ⟨pre, post, dir, heq, -⟩
  exact absurd heq.symm (by simp)

/-- What is owed after one event more. -/
theorem owed_concat (e : Event Src FP32 MotorCmd Ret) :
    Owed (tr ++ [e]) part ↔ (∃ dir, e = .sent (.start part dir) .SUCC) ∨
      Owed tr part ∧ ∀ dir ret, e ≠ .sent (.stop part dir) ret := by
  constructor
  · rintro ⟨pre, post, dir, heq, hpost⟩
    obtain rfl | ⟨post', last, rfl⟩ := List.eq_nil_or_concat post
    · obtain ⟨-, hlast⟩ := List.append_inj' heq rfl
      exact Or.inl ⟨dir, by simpa using hlast⟩
    · rw [List.concat_eq_append] at hpost heq
      rw [← List.cons_append, ← List.append_assoc] at heq
      obtain ⟨htr, hlast⟩ := List.append_inj' heq rfl
      obtain rfl : e = last := by simpa using hlast
      refine Or.inr ⟨⟨pre, post', dir, htr, fun dir' ret hmem => ?_⟩, fun dir' ret he => ?_⟩
      · exact hpost dir' ret (List.mem_append_left _ hmem)
      · exact hpost dir' ret (List.mem_append_right _ (by simp [he]))
  · rintro (⟨dir, rfl⟩ | ⟨⟨pre, post, dir, rfl, hpost⟩, he⟩)
    · exact ⟨tr, [], dir, rfl, fun _ _ => List.not_mem_nil⟩
    · refine ⟨pre, post ++ [e], dir, by simp, fun dir' ret hmem => ?_⟩
      obtain hmem | hmem := List.mem_append.mp hmem
      · exact hpost dir' ret hmem
      · exact he dir' ret (List.mem_singleton.mp hmem).symm

@[simp] theorem owed_got (s : Src) (v : FP32) : Owed (tr ++ [.got s v]) part ↔ Owed tr part := by
  simp [owed_concat]

@[simp] theorem owed_start_fail (part' : AntennaPart) (dir : UInt8) :
    Owed (tr ++ [.sent (.start part' dir) .FAIL]) part ↔ Owed tr part := by
  simp [owed_concat]

@[simp] theorem owed_start_succ (part' : AntennaPart) (dir : UInt8) :
    Owed (tr ++ [.sent (.start part' dir) .SUCC]) part ↔ part = part' ∨ Owed tr part := by
  simp [owed_concat, eq_comm]

@[simp] theorem owed_stop (part' : AntennaPart) (dir : UInt8) (ret : Ret) :
    Owed (tr ++ [.sent (.stop part' dir) ret]) part ↔ part ≠ part' ∧ Owed tr part := by
  simp [owed_concat, and_comm, eq_comm]

/-- A command that fails changes nothing for the other axes. -/
theorem owed_fail (c : MotorCmd) (h : part ≠ c.part) :
    Owed (tr ++ [.sent c .FAIL]) part ↔ Owed tr part := by
  cases c with
  | start part' dir => exact owed_start_fail part' dir
  | stop part' dir =>
      rw [owed_stop]
      exact and_iff_right h

theorem owed_fail_twice (c : MotorCmd) (h : part ≠ c.part) :
    Owed (tr ++ [.sent c .FAIL, .sent c .FAIL]) part ↔ Owed tr part := by
  have hsplit : tr ++ [.sent c .FAIL, .sent c .FAIL] =
      tr ++ [.sent c .FAIL] ++ [.sent c .FAIL] := by simp
  rw [hsplit, owed_fail c h, owed_fail c h]

end

/-- **A search that ends released, or gives up an axis that it does not owe a stop,** is released
exactly if it is not stranded. -/
theorem released_iff_notStranded {tr : Trace}
    (h : Released tr ∨ ∃ part, GaveUp tr part ∧ ¬ Owed tr part) :
    Released tr ↔ NotStranded tr := by
  constructor
  · rintro hrel pre c rfl part hpart howed
    exact hrel part ((owed_fail_twice c hpart).mpr howed)
  · intro hns
    obtain hrel | ⟨part, ⟨pre, c, hc, rfl⟩, hno⟩ := h
    · exact hrel
    · intro part' howed
      by_cases hpart : part' = part
      · subst hpart
        exact hno howed
      · rw [← hc] at hpart
        exact hns pre c rfl part' hpart ((owed_fail_twice c hpart).mp howed)

end SwiftAcu.Track
