/-
When the historical maximum survives.

After a save the EEPROM holds the pointer that was passed, and the RAM the number it
leads to.  Nothing else touches either, so after any run of operations both are still
what the last save made of them, and they are the maximum that was meant exactly when
the pointer happens to be that number.
-/
import Mathlib.Tactic.NormNum
import SwiftAcu.Acu.HistoryMax
import SwiftAcu.Proofs.Param.Codec
import SwiftAcu.Proofs.Param.Layout

namespace SwiftAcu.HistoryMax

section
variable [SoftFloat]

/-- The stored maximum and the one in RAM are the maximum that was meant. -/
def Kept (c : Call) (t : Tracker) : Prop :=
  historyMaxMvRead t.dev.eeprom = c.value ∧ t.historyMaxMv = c.value

/-- The pointer is the number it leads to, and that is the maximum that was meant. -/
def Call.Meets (c : Call) : Prop := (signed32 c.pointer.toNat : FP32) = c.value ∧ c.pointee = c.value

/-- What is left of a save. -/
def Holds (c : Call) (t : Tracker) : Prop :=
  historyMaxMvRead t.dev.eeprom = (signed32 c.pointer.toNat : FP32) ∧ t.historyMaxMv = c.pointee

omit [SoftFloat] in
theorem Holds.kept_iff {c : Call} {t : Tracker} (h : Holds c t) : Kept c t ↔ c.Meets := by
  rw [Kept, h.1, h.2, Call.Meets]

omit [SoftFloat] in
/-- What is read after a save is the pointer. -/
theorem historyMaxMvRead_save (p : UInt32) (m : Eeprom) :
    historyMaxMvRead (historyMaxMvSave p m) = (signed32 p.toNat : FP32) := by
  have hat := at_paramRead m 0x000C (Nat.le_of_eq (length_be32 p.toNat))
  rw [historyMaxMvRead, historyMaxMvSave, wordSave, ofBe32sAt, ofBe32At_of_at hat p.toNat_lt]

/-- The other parameters of a selection lie elsewhere. -/
theorem historyMaxMvRead_satCurrIdSave (id : UInt8) (m : Eeprom) :
    historyMaxMvRead (satCurrIdSave id m) = historyMaxMvRead m :=
  Param.frame (y := .historyMaxMv) (x := .satCurrId) (Param.readsIn_read .historyMaxMv)
    (by decide) id m

theorem historyMaxMvRead_currSatParamSave (p : SatParam) (m : Eeprom) :
    historyMaxMvRead (currSatParamSave p m) = historyMaxMvRead m :=
  Param.frame (y := .historyMaxMv) (x := .currSatParam) (Param.readsIn_read .historyMaxMv)
    (by decide) p m

/-! ### One operation -/

/-- A selection stores the pointer, or nothing. -/
theorem historyMaxMvRead_selSat (stack : SatParam) (beacon : Ret) (pbuff : List UInt8)
    (d : Device) :
    historyMaxMvRead (pcSelSat stack beacon pbuff d).2.eeprom =
      match (pcSelSat stack beacon pbuff d).1 with
      | .SUCC => (signed32 (0 : UInt32).toNat : FP32)
      | .FAIL => historyMaxMvRead d.eeprom := by
  unfold pcSelSat selSat
  by_cases hlen : pbuff.length ≠ 1
  · rw [if_pos hlen]
  rw [if_neg hlen]
  dsimp only
  by_cases hid : pbuff.getD 0 0 ≠ d.satList.idAt (pbuff.getD 0 0)
  · rw [if_pos hid]
  rw [if_neg hid]
  cases beacon with
  | FAIL => exact historyMaxMvRead_satCurrIdSave _ _
  | SUCC =>
      dsimp only
      rw [historyMaxMvRead_currSatParamSave, historyMaxMvRead_save]

/-- **What one operation leaves**: what its save left, or what was there. -/
theorem step_holds (nul : FP32) (t : Tracker) (op : Op) :
    (∀ c, call nul t op = some c → Holds c (step nul t op)) ∧
      (call nul t op = none → ∀ c, Holds c t → Holds c (step nul t op)) := by
  cases op with
  | trackStart p_save agc_max =>
      by_cases hup : t.historyMaxMv / 1000 < agc_max
      · simp only [call, step, if_pos hup]
        refine ⟨fun c hc => ?_, fun hc => absurd hc (by simp)⟩
        rw [← Option.some.inj hc]
        exact ⟨historyMaxMvRead_save p_save _, rfl⟩
      · simp only [call, step, if_neg hup]
        exact ⟨fun c hc => absurd hc (by simp), fun _ c hc => hc⟩
  | selSat stack beacon pbuff =>
      have hread := historyMaxMvRead_selSat stack beacon pbuff t.dev
      simp only [call, step]
      rcases hres : pcSelSat stack beacon pbuff t.dev with ⟨ret, dev⟩
      rw [hres] at hread
      cases ret with
      | SUCC =>
          refine ⟨fun c hc => ?_, fun hc => absurd hc (by simp)⟩
          rw [← Option.some.inj hc]
          exact ⟨hread, rfl⟩
      | FAIL => exact ⟨fun c hc => absurd hc (by simp), fun _ c hc => ⟨hread.trans hc.1, hc.2⟩⟩

/-! ### Runs -/

/-- What the last save left is there at the end of the run.  Induction on the operations. -/
theorem run_holds (nul : FP32) (ops : List Op) :
    ∀ (t : Tracker) (last : Option Call), (∀ c, last = some c → Holds c t) →
      ∀ c, (run nul t last ops).2 = some c → Holds c (run nul t last ops).1 := by
  induction ops with
  | nil =>
      intro t last h c hc
      exact h c hc
  | cons op ops ih =>
      intro t last h
      show ∀ c, (run nul (step nul t op) ((call nul t op).or last) ops).2 = some c → _
      refine ih (step nul t op) _ fun c hc => ?_
      cases hcall : call nul t op with
      | none =>
          rw [hcall] at hc
          exact (step_holds nul t op).2 hcall c (h c hc)
      | some c' =>
          rw [hcall] at hc
          have hsame : c' = c := Option.some.inj hc
          exact (step_holds nul t op).1 c (hsame ▸ hcall)

/--
**When the maximum survives.**  After any run of tracking and selections the maximum that
was last saved is stored and in RAM exactly if the pointer of that save is that number.
-/
theorem maximum_kept_iff (nul : FP32) (t : Tracker) (ops : List Op) (c : Call)
    (h : (run nul t none ops).2 = some c) : Kept c (run nul t none ops).1 ↔ c.Meets :=
  (run_holds nul ops t none (fun _ hc => absurd hc (by simp)) c h).kept_iff

end

section
attribute [local instance] SoftFloat.single

/-- A device with the satellite 1 in its list. -/
def listed : Device where
  eeprom := fun _ => 0
  satList := ⟨1, fun i => if i = 0 then 1 else 0⟩
  recordList := ⟨0, fun _ => 0⟩
  currSatParam := ⟨0, Vector.replicate 16 0, 69, 0, 0, 0⟩
  antennaParam := ⟨0, 0, 0, 0, 0, 2⟩
  allElecCoderMap := ⟨⟨0, 0, 0⟩, ⟨0, 0, 0⟩, ⟨0, 0, 0⟩, 0⟩
  agcOutputRange := 0

/-- A controller that has seen no beacon. -/
def idle : Tracker := ⟨listed, 0, 0⟩

/-- The selection of satellite 1. -/
def selectOne : Op := .selSat listed.currSatParam .SUCC [1]

/-- With 0 at address 0 a selection clears the maximum. -/
theorem maximum_kept_cleared : Kept (selCall 0) (run 0 idle none [selectOne]).1 :=
  (maximum_kept_iff 0 idle [selectOne] (selCall 0) rfl).mpr ⟨by decide, rfl⟩

/-- A level of 12 V is saved from the stack; a satellite is selected, and at address 0 stands the
initial stack pointer, as a number 2^-63. -/
theorem not_kept :
    ¬Kept (trackCall 0x2001FF00 12) (run 0 idle none [.trackStart 0x2001FF00 12]).1 ∧
      ¬Kept (selCall (1 / 2 ^ 63)) (run (1 / 2 ^ 63) idle none [selectOne]).1 := by
  constructor
  · have hholds := (step_holds 0 idle (.trackStart 0x2001FF00 12)).1 (trackCall 0x2001FF00 12)
      (if_pos (by norm_num [idle]))
    have hpointer : signed32 (trackCall 0x2001FF00 12).pointer.toNat = 0x2001FF00 := by decide
    refine mt hholds.kept_iff.mp ?_
    rintro ⟨hc, -⟩
    rw [hpointer] at hc
    exact absurd hc (by norm_num [trackCall])
  · have hholds := (step_holds (1 / 2 ^ 63) idle selectOne).1 (selCall (1 / 2 ^ 63)) rfl
    refine mt hholds.kept_iff.mp ?_
    rintro ⟨-, hc⟩
    exact absurd hc (by norm_num [selCall])

end

end SwiftAcu.HistoryMax
