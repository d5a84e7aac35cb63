/-
The soft limits and a start.

A limit is computed twice from one word, when it is adjusted and when the device starts.
Of an axis that is measured the two come out alike, but for the word 0, which a start
takes for no limit at all.  Of an axis that is not measured nothing is computed, and the
limit is moved by three degrees from where it was, which at a start is zero.  A factory
reset sets another azimuth limit than a start does.
-/
import SwiftAcu.Lib.Runs
import SwiftAcu.Proofs.Degree.Live
import SwiftAcu.Proofs.Param.Codec
import SwiftAcu.Proofs.Param.Layout

namespace SwiftAcu

open Param

/-! ### The six limits -/

/-- A limit: the axis, and the last digit of `antenna_limit_part`. -/
structure LimitKey where
  part : AntennaPart
  limit : Bool
  deriving DecidableEq

namespace LimitKey

def code (k : LimitKey) : UInt8 := limitPart k.part k.limit

/-- Azimuth and elevation start at their first limit, the polarisation at its second. -/
def isStart (k : LimitKey) : Bool := decide (k.part = .polar) == k.limit

/-- The limit of `APP_PARAM_Init` if nothing is stored. -/
def default : LimitKey → FP32
  | ⟨.position, false⟩ => 110
  | ⟨.position, true⟩ => 260
  | ⟨.cabrage, false⟩ => 5
  | ⟨.cabrage, true⟩ => 85
  | ⟨.polar, false⟩ => 90
  | ⟨.polar, true⟩ => -90

/-- Three degrees inside the hard limit at `degree`. -/
def inside (k : LimitKey) (degree : FP32) : FP32 :=
  if k.isStart then (⌈degree + 3⌉ : Int) else (⌊degree - 3⌋ : Int)

/-- The limit adjusted at an encoder's `data`, from the one that was there. -/
def adjusted (g : Gauge) (k : LimitKey) (data : UInt32) (limit : FP32) : FP32 :=
  k.inside (limitDegree g k.part.index data limit)

/-- The limit of a start that finds `data` stored. -/
def boot (g : Gauge) (k : LimitKey) (data : UInt32) : FP32 :=
  if data = 0 then k.default else k.adjusted g data 0

end LimitKey

/-- The soft limit at a key. -/
def SoftLimit.get (l : SoftLimit) : LimitKey → FP32
  | ⟨.position, false⟩ => l.start.position
  | ⟨.position, true⟩ => l.stop.position
  | ⟨.cabrage, false⟩ => l.start.cabrage
  | ⟨.cabrage, true⟩ => l.stop.cabrage
  | ⟨.polar, false⟩ => l.stop.polar
  | ⟨.polar, true⟩ => l.start.polar

theorem SoftLimit.ext_get {l l' : SoftLimit} (h : ∀ k, l.get k = l'.get k) : l = l' := by
  obtain ⟨⟨_, _, _⟩, ⟨_, _, _⟩⟩ := l
  obtain ⟨⟨_, _, _⟩, ⟨_, _, _⟩⟩ := l'
  have hposition := h ⟨.position, false⟩
  have hposition' := h ⟨.position, true⟩
  have hcabrage := h ⟨.cabrage, false⟩
  have hcabrage' := h ⟨.cabrage, true⟩
  have hpolar' := h ⟨.polar, false⟩
  have hpolar := h ⟨.polar, true⟩
  simp only [SoftLimit.get] at hposition hposition' hcabrage hcabrage' hpolar hpolar'
  rw [hposition, hposition', hcabrage, hcabrage', hpolar, hpolar']

/-- The encoder of the axis is looked at. -/
def Gauge.Measures (g : Gauge) : AntennaPart → Prop
  | .position => g.position.linked = true
  | .cabrage => g.cabrage.linked = true
  | .polar => g.elecCoderNum = 3 ∧ g.polar.linked = true

instance (g : Gauge) (part : AntennaPart) : Decidable (g.Measures part) := by
  cases part
  · exact inferInstanceAs (Decidable (_ = _))
  · exact inferInstanceAs (Decidable (_ = _))
  · exact inferInstanceAs (Decidable (_ ∧ _))

/-! ### The statement -/

/-- The soft limits are those a start would compute. -/
def Survives (g : Gauge) (s : Limits) : Prop := s.softLimit = softLimitInit g s.eeprom

/--
Of an axis that is measured, the encoder does not read 0, or the limit there is the
default.  Of one that is not, the limit moved from where it is is the one a start moves
from zero, or the default if the encoder reads 0.  The factory is not reset.
-/
def LimitKept (g : Gauge) (s : Limits) : LimitCmd → Prop
  | .factoryReset => False
  | .adjust part data => ∀ k : LimitKey, part = k.code →
      if g.Measures k.part then data ≠ 0 ∨ k.adjusted g 0 0 = k.default
      else k.inside (s.softLimit.get k) = if data = 0 then k.default else k.inside 0

/-! ### What an axis computes -/

theorem limitDegree_measured {g : Gauge} {part : AntennaPart} (h : g.Measures part)
    (data : UInt32) (limit limit' : FP32) :
    limitDegree g part.index data limit = limitDegree g part.index data limit' := by
  cases part with
  | position => exact (adjust_position g _ _ h).trans (adjust_position g _ _ h).symm
  | cabrage => exact (adjust_cabrage g _ _ h).trans (adjust_cabrage g _ _ h).symm
  | polar => exact (adjust_polar g _ _ h.2 h.1).trans (adjust_polar g _ _ h.2 h.1).symm

theorem limitDegree_unmeasured {g : Gauge} {part : AntennaPart} (h : ¬ g.Measures part)
    (data : UInt32) (limit : FP32) : limitDegree g part.index data limit = limit := by
  cases part <;> simp_all [limitDegree, locallAntennaAdjustDegreeDataGet, Gauge.Measures,
    AntennaPart.index]

/-- **An adjusted limit is the one of a start** exactly under the condition on its axis. -/
theorem adjusted_eq_boot_iff (g : Gauge) (k : LimitKey) (data : UInt32) (limit : FP32) :
    k.adjusted g data limit = k.boot g data ↔
      if g.Measures k.part then data ≠ 0 ∨ k.adjusted g 0 0 = k.default
      else k.inside limit = if data = 0 then k.default else k.inside 0 := by
  unfold LimitKey.boot LimitKey.adjusted
  by_cases hmeasures : g.Measures k.part
  · rw [if_pos hmeasures, limitDegree_measured hmeasures data limit 0]
    by_cases hdata : data = 0
    · simp [hdata]
    · simp [hdata]
  · rw [if_neg hmeasures]
    simp only [limitDegree_unmeasured hmeasures]

/-! ### The commands -/

theorem hardWareLimitRead_save [SoftFloat] (k k' : LimitKey) (data : UInt32) (m : Eeprom) :
    hardWareLimitRead k'.part.id k'.code (hardWareLimitSave k.part.id k.code data m) =
      if k' = k then data else hardWareLimitRead k'.part.id k'.code m := by
  by_cases heq : k' = k
  · subst heq
    rw [if_pos rfl]
    exact uint32_of_at (at_paramRead m _ (by simp))
  · rw [if_neg heq]
    have hne : hardWareLimit k.part k.limit ≠ hardWareLimit k'.part k'.limit := by
      intro h
      obtain ⟨part, limit⟩ := k
      obtain ⟨part', limit'⟩ := k'
      simp only [hardWareLimit.injEq] at h
      exact heq (by rw [h.1, h.2])
    exact read_save_of_ne hne data m

/-- A limit of a start is computed from its own word. -/
theorem softLimitInit_get (g : Gauge) (m : Eeprom) (k : LimitKey) :
    (softLimitInit g m).get k = k.boot g (hardWareLimitRead k.part.id k.code m) := by
  obtain ⟨part, limit⟩ := k
  cases part <;> cases limit <;> rfl

/-- The command for a limit saves its word and sets its soft limit. -/
theorem adjust_code (g : Gauge) (k : LimitKey) (data : UInt32) (s : Limits) :
    (antennaHargWareLimitAdjust g k.code data s).2.eeprom =
        hardWareLimitSave k.part.id k.code data s.eeprom ∧
      ∀ k', (antennaHargWareLimitAdjust g k.code data s).2.softLimit.get k' =
        if k' = k then k.adjusted g data (s.softLimit.get k) else s.softLimit.get k' := by
  obtain ⟨part, limit⟩ := k
  cases part <;> cases limit <;>
    exact ⟨rfl, fun ⟨part', limit'⟩ => by cases part' <;> cases limit' <;> rfl⟩

/-- Any other command fails. -/
theorem adjust_of_not_code {part : UInt8} (h : ∀ k : LimitKey, part ≠ k.code) (g : Gauge)
    (data : UInt32) (s : Limits) : (antennaHargWareLimitAdjust g part data s).2 = s := by
  have h10 : part ≠ 0x10 := h ⟨.position, false⟩
  have h11 : part ≠ 0x11 := h ⟨.position, true⟩
  have h20 : part ≠ 0x20 := h ⟨.cabrage, false⟩
  have h21 : part ≠ 0x21 := h ⟨.cabrage, true⟩
  have h30 : part ≠ 0x30 := h ⟨.polar, false⟩
  have h31 : part ≠ 0x31 := h ⟨.polar, true⟩
  unfold antennaHargWareLimitAdjust
  dsimp only
  rw [if_neg h10, if_neg h11, if_neg h20, if_neg h21, if_neg h30, if_neg h31]

theorem code_injective {k k' : LimitKey} (h : k.code = k'.code) : k = k' := by
  obtain ⟨part, limit⟩ := k
  obtain ⟨part', limit'⟩ := k'
  cases part <;> cases limit <;> cases part' <;> cases limit' <;>
    first | rfl | exact absurd h (by decide)

/-! ### One step -/

theorem survives_adjust_iff [SoftFloat] (g : Gauge) (k : LimitKey) (data : UInt32) {s : Limits}
    (h : Survives g s) :
    Survives g (limitStep g s (.adjust k.code data)) ↔
      k.adjusted g data (s.softLimit.get k) = k.boot g data := by
  obtain ⟨heeprom, hget⟩ := adjust_code g k data s
  have hboot (k' : LimitKey) :
      (softLimitInit g (limitStep g s (.adjust k.code data)).eeprom).get k' =
        if k' = k then k.boot g data else s.softLimit.get k' := by
    rw [softLimitInit_get, limitStep, heeprom, hardWareLimitRead_save]
    by_cases heq : k' = k
    · rw [if_pos heq, if_pos heq, heq]
    · rw [if_neg heq, if_neg heq, ← softLimitInit_get, ← h]
  constructor
  · intro hnext
    have hsame := congrArg (SoftLimit.get · k) hnext
    rwa [hboot, if_pos rfl, limitStep, hget, if_pos rfl] at hsame
  · intro hsame
    refine SoftLimit.ext_get fun k' => ?_
    rw [hboot, limitStep, hget, hsame]

/-- A factory reset leaves the azimuth at 100 degrees, and a start puts it at 110. -/
theorem not_survives_factoryReset [SoftFloat] (g : Gauge) (s : Limits) :
    ¬ Survives g (limitStep g s .factoryReset) := by
  intro h
  have hstart := congrArg (SoftLimit.get · ⟨.position, false⟩) h
  rw [softLimitInit_get] at hstart
  have hread : hardWareLimitRead 1 0x10 (limitStep g s .factoryReset).eeprom = 0 := by
    have hsave (k : LimitKey) (hne : ⟨.position, false⟩ ≠ k) (m : Eeprom) :
        hardWareLimitRead 1 0x10 (hardWareLimitSave k.part.id k.code 0 m) =
          hardWareLimitRead 1 0x10 m :=
      (hardWareLimitRead_save k ⟨.position, false⟩ 0 m).trans (if_neg hne)
    calc hardWareLimitRead 1 0x10 (limitStep g s .factoryReset).eeprom
        = hardWareLimitRead 1 0x10 (hardWareLimitSave 1 0x10 0 s.eeprom) :=
          (hsave ⟨.polar, true⟩ (by decide) _).trans <|
            (hsave ⟨.polar, false⟩ (by decide) _).trans <|
            (hsave ⟨.cabrage, true⟩ (by decide) _).trans <|
            (hsave ⟨.cabrage, false⟩ (by decide) _).trans <|
            hsave ⟨.position, true⟩ (by decide) _
      _ = 0 := (hardWareLimitRead_save ⟨.position, false⟩ ⟨.position, false⟩ 0 s.eeprom).trans
          (if_pos rfl)
  have hboot : LimitKey.boot g ⟨.position, false⟩ (hardWareLimitRead 1 0x10
      (limitStep g s .factoryReset).eeprom) = 110 := by
    rw [hread]
    rfl
  have hlimits : (100 : FP32) = 110 := hstart.trans hboot
  norm_num at hlimits

/-- **One command** keeps the limits a start computes exactly under its condition. -/
theorem survives_limitStep_iff [SoftFloat] (g : Gauge) {s : Limits} (a : LimitCmd)
    (h : Survives g s) :
    Survives g (limitStep g s a) ↔ LimitKept g s a := by
  cases a with
  | factoryReset => exact iff_of_false (not_survives_factoryReset g s) id
  | adjust part data =>
      by_cases hcode : ∃ k : LimitKey, part = k.code
      · obtain ⟨k, rfl⟩ := hcode
        rw [survives_adjust_iff g k data h, adjusted_eq_boot_iff]
        constructor
        · intro hkept k' hk'
          rw [← code_injective hk']
          exact hkept
        · intro hkept
          exact hkept k rfl
      · have hno (k : LimitKey) : part ≠ k.code := fun hk => hcode ⟨k, hk⟩
        rw [limitStep, adjust_of_not_code hno]
        exact iff_of_true h fun k hk => absurd hk (hno k)

/-- **The soft limits survive a start** throughout exactly the runs of such commands. -/
theorem limits_survive_iff [SoftFloat] (g : Gauge) (m : Eeprom) (cmds : List LimitCmd) :
    Runs.AllStates (limitStep g) (Survives g) ⟨softLimitInit g m, m⟩ cmds ↔
      Runs.AllSteps (limitStep g) (LimitKept g) ⟨softLimitInit g m, m⟩ cmds := by
  have hstart : Survives g ⟨softLimitInit g m, m⟩ := rfl
  exact Runs.allStates_iff (fun _ a h => survives_limitStep_iff g a h) hstart cmds

section
attribute [local instance] SoftFloat.single

/-- The factory is reset behind a start with a blank EEPROM. -/
theorem not_survives_reset :
    ¬ Runs.AllStates (limitStep turnedGauge) (Survives turnedGauge)
      ⟨softLimitInit turnedGauge fun _ => 0, fun _ => 0⟩ [.factoryReset] := by
  intro h
  exact not_survives_factoryReset turnedGauge _ (h [.factoryReset] [] rfl)

end

end SwiftAcu
