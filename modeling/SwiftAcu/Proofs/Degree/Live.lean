/-
The measured angles against the adjusted ones.

Where an axis is measured at all the two functions compute the same, but for an elevation
encoder that counts the other way: its angle is what a local variable held before.  So is
that of an axis whose encoder does not answer.  Nothing that may be held there is the same
as one fixed angle, which is why these are exactly the cases in which the functions differ.
-/
import SwiftAcu.Acu.Degree

namespace SwiftAcu

/-- All three encoders answer. -/
def Gauge.AllLinked (g : Gauge) : Prop :=
  g.position.linked = true ∧ g.cabrage.linked = true ∧ g.polar.linked = true

/-- The measured angles are the adjusted ones of the same encoders. -/
def MeasuresAdjusted (g : Gauge) (now : Degrees) : Prop :=
  ∀ limit, now.position = locallAntennaAdjustDegreeDataGet 1 g g.position.degree limit ∧
    now.cabrage = locallAntennaAdjustDegreeDataGet 2 g g.cabrage.degree limit ∧
    now.polar = locallAntennaAdjustDegreeDataGet 3 g g.polar.degree limit

/-- The axes whose encoders do not answer keep their angles. -/
def KeepsUnlinked (g : Gauge) (old now : Degrees) : Prop :=
  (g.position.linked = false → now.position = old.position) ∧
    (g.cabrage.linked = false → now.cabrage = old.cabrage) ∧
    (g.polar.linked = false → now.polar = old.polar)

/-- Whatever the local variables hold, the live angles are right. -/
def LiveAgrees (g : Gauge) (old : Degrees) : Prop :=
  ∀ stack, (g.AllLinked ∧ g.elecCoderNum = 3 →
      MeasuresAdjusted g (locallAntennaRealDegreeDataGet stack g)) ∧
    KeepsUnlinked g old (locallAntennaRealDegreeDataGet stack g)

/-! ### What is adjusted -/

section
variable (g : Gauge) (degree limit : FP32)

theorem adjust_position (h : g.position.linked = true) :
    locallAntennaAdjustDegreeDataGet 1 g degree limit =
      positionCorrect (mappedDegree g.map.position g.position degree) := by
  simp [locallAntennaAdjustDegreeDataGet, h]

theorem adjust_cabrage (h : g.cabrage.linked = true) :
    locallAntennaAdjustDegreeDataGet 2 g degree limit =
      cabrageCorrect (mappedDegree g.map.cabrage g.cabrage degree) := by
  simp [locallAntennaAdjustDegreeDataGet, h]

theorem adjust_polar (h : g.polar.linked = true) (hnum : g.elecCoderNum = 3) :
    locallAntennaAdjustDegreeDataGet 3 g degree limit =
      polarShift g.map.satPolarType (
        polarCorrect (mappedDegree g.map.polar g.polar degree)) := by
  simp [locallAntennaAdjustDegreeDataGet, h, hnum]

end

/-! ### What is measured -/

section
variable {stack : Degrees} {g : Gauge}

theorem real_position (h : g.position.linked = true) :
    (locallAntennaRealDegreeDataGet stack g).position =
      positionCorrect (mappedDegree g.map.position g.position g.position.degree) := by
  simp [locallAntennaRealDegreeDataGet, h]

theorem real_cabrage (h : g.cabrage.linked = true)
    (hmode : g.map.cabrage.elecCoderCountMode = g.cabrage.countMode) :
    (locallAntennaRealDegreeDataGet stack g).cabrage =
      cabrageCorrect (mappedDegree g.map.cabrage g.cabrage g.cabrage.degree) := by
  simp [locallAntennaRealDegreeDataGet, mappedDegree, h, hmode]

theorem real_polar (h : g.polar.linked = true) (hnum : g.elecCoderNum = 3) :
    (locallAntennaRealDegreeDataGet stack g).polar =
      polarShift g.map.satPolarType (
        polarCorrect (mappedDegree g.map.polar g.polar g.polar.degree)) := by
  simp [locallAntennaRealDegreeDataGet, h, hnum]

/-- An elevation encoder that counts the other way is not looked at. -/
theorem real_cabrage_of_mode (h : g.cabrage.linked = true)
    (hmode : g.map.cabrage.elecCoderCountMode ≠ g.cabrage.countMode) :
    (locallAntennaRealDegreeDataGet stack g).cabrage = cabrageCorrect stack.cabrage := by
  simp [locallAntennaRealDegreeDataGet, h, hmode]

theorem real_position_unlinked (h : g.position.linked = false) :
    (locallAntennaRealDegreeDataGet stack g).position = stack.position := by
  simp [locallAntennaRealDegreeDataGet, h]

theorem real_cabrage_unlinked (h : g.cabrage.linked = false) :
    (locallAntennaRealDegreeDataGet stack g).cabrage = stack.cabrage := by
  simp [locallAntennaRealDegreeDataGet, h]

theorem real_polar_unlinked (h : g.polar.linked = false) :
    (locallAntennaRealDegreeDataGet stack g).polar =
      polarShift g.map.satPolarType stack.polar := by
  simp [locallAntennaRealDegreeDataGet, h]

end

/-! ### What a local variable holds shows -/

theorem cabrageCorrect_one : cabrageCorrect 1 = 1 := by norm_num [cabrageCorrect]

theorem cabrageCorrect_two : cabrageCorrect 2 = 2 := by norm_num [cabrageCorrect]

theorem polarShift_injective (satPolarType : UInt8) :
    Function.Injective (polarShift satPolarType) := by
  intro x y h
  unfold polarShift at h
  split at h
  · exact sub_left_injective h
  · split at h
    · exact add_left_injective 90 h
    · exact h

theorem linked_of_liveAgrees {g : Gauge} {old : Degrees} (h : LiveAgrees g old) :
    g.AllLinked := by
  refine ⟨?_, ?_, ?_⟩
  · by_contra hnot
    have hunlinked := Bool.eq_false_iff.mpr hnot
    have hkept (x : FP32) : x = old.position :=
      (real_position_unlinked hunlinked).symm.trans ((h ⟨x, 0, 0⟩).2.1 hunlinked)
    exact absurd ((hkept 0).trans (hkept 1).symm) (by norm_num)
  · by_contra hnot
    have hunlinked := Bool.eq_false_iff.mpr hnot
    have hkept (x : FP32) : x = old.cabrage :=
      (real_cabrage_unlinked hunlinked).symm.trans ((h ⟨0, x, 0⟩).2.2.1 hunlinked)
    exact absurd ((hkept 0).trans (hkept 1).symm) (by norm_num)
  · by_contra hnot
    have hunlinked := Bool.eq_false_iff.mpr hnot
    have hkept (x : FP32) : polarShift g.map.satPolarType x = old.polar :=
      (real_polar_unlinked hunlinked).symm.trans ((h ⟨0, 0, x⟩).2.2.2 hunlinked)
    have hsame := polarShift_injective _ ((hkept 0).trans (hkept 1).symm)
    exact absurd hsame (by norm_num)

theorem mode_of_measuresAdjusted {g : Gauge} (hlinked : g.cabrage.linked = true)
    (h : ∀ stack, MeasuresAdjusted g (locallAntennaRealDegreeDataGet stack g)) :
    g.map.cabrage.elecCoderCountMode = g.cabrage.countMode := by
  by_contra hmode
  have hsame (x : FP32) : cabrageCorrect x =
      locallAntennaAdjustDegreeDataGet 2 g g.cabrage.degree 0 :=
    (real_cabrage_of_mode hlinked hmode).symm.trans (h ⟨0, x, 0⟩ 0).2.1
  have hone := (hsame 1).trans (hsame 2).symm
  rw [cabrageCorrect_one, cabrageCorrect_two] at hone
  exact absurd hone (by norm_num)

/-- **The live angles are right** exactly if every encoder answers and, where the polarisation
has one, the elevation encoder counts as it did. -/
theorem liveAgrees_iff (g : Gauge) (old : Degrees) :
    LiveAgrees g old ↔ g.AllLinked ∧
      (g.elecCoderNum = 3 → g.map.cabrage.elecCoderCountMode = g.cabrage.countMode) := by
  constructor
  · intro h
    have hlinked := linked_of_liveAgrees h
    refine ⟨hlinked, fun hnum => ?_⟩
    exact mode_of_measuresAdjusted hlinked.2.1 fun stack => (h stack).1 ⟨hlinked, hnum⟩
  · rintro ⟨⟨hposition, hcabrage, hpolar⟩, hmode⟩ stack
    refine ⟨?_, ?_, ?_, ?_⟩
    · rintro ⟨-, hnum⟩ limit
      rw [adjust_position g _ _ hposition, adjust_cabrage g _ _ hcabrage,
        adjust_polar g _ _ hpolar hnum]
      exact ⟨real_position hposition, real_cabrage hcabrage (hmode hnum), real_polar hpolar hnum⟩
    · intro hunlinked
      exact absurd hposition (by simp [hunlinked])
    · intro hunlinked
      exact absurd hcabrage (by simp [hunlinked])
    · intro hunlinked
      exact absurd hpolar (by simp [hunlinked])

/-- Calibrated counting clockwise at elevation 40, counting anticlockwise now. -/
def turnedGauge : Gauge :=
  { position := ⟨true, 180, 0xE1⟩
    cabrage := ⟨true, 50, 0xE2⟩
    polar := ⟨true, 10, 0xE1⟩
    bitNum := fun _ => 17
    map := ⟨⟨180, 180, 0xE1⟩, ⟨40, 50, 0xE1⟩, ⟨10, 10, 0xE1⟩, 0⟩
    elecCoderNum := 3 }

/-- The elevation is 40 degrees, and measured as whatever a local variable holds. -/
theorem not_liveAgrees_turnedGauge : ¬ LiveAgrees turnedGauge ⟨180, 40, 10⟩ := by
  intro h
  have hmeasured := ((h ⟨0, 7, 0⟩).1 ⟨⟨rfl, rfl, rfl⟩, rfl⟩ 0).2.1
  exact absurd hmeasured (by decide +kernel)

end SwiftAcu
