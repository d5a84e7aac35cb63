/-
Elevation and the zero of its encoder.

The degrees of two elevations differ by the elevations' difference, or by one turn less
or more where the encoder's zero lies between them.  One turn more is taken off again.
One turn less comes out below the horizon, and is cut to it.
-/
import SwiftAcu.Proofs.Degree.Calibration

namespace SwiftAcu

/-- What an encoder mounted at `c` reads at elevation `e`: `(e + c) mod 360`. -/
def encoderReading (e c : FP32) : FP32 := Int.fract ((e + c) / fullTurn) * fullTurn

/-- An elevation of the dish. -/
def IsElevation (e : FP32) : Prop := 0 ≤ e ∧ e ≤ 90

/-- The encoder's zero does not lie between the elevation of the calibration and a higher one. -/
def ZeroBelow (e e0 c : FP32) : Prop := e + c < fullTurn ∨ fullTurn ≤ e0 + c

/-! ### Readings -/

section
variable {e e0 c : FP32}

theorem encoderReading_eq_once (he : IsElevation e) (hc : c ∈ Set.Ico 0 fullTurn) :
    encoderReading e c = Turn.once fullTurn (e + c) := by
  have hmem : e + c ∈ Set.Ico (-fullTurn) (fullTurn + fullTurn) := by
    obtain ⟨hlow, hhigh⟩ := he
    obtain ⟨hc, hc'⟩ := hc
    exact ⟨by linarith, by linarith⟩
  rw [Turn.once_eq_toIcoMod fullTurn_pos hmem, toIcoMod_eq_fract_mul]
  rfl

theorem encoderReading_of_lt (he : IsElevation e) (hc : c ∈ Set.Ico 0 fullTurn)
    (h : e + c < fullTurn) : encoderReading e c = e + c := by
  rw [encoderReading_eq_once he hc]
  exact Turn.once_of_mem ⟨add_nonneg he.1 hc.1, h⟩

theorem encoderReading_of_ge (he : IsElevation e) (hc : c ∈ Set.Ico 0 fullTurn)
    (h : fullTurn ≤ e + c) : encoderReading e c = e + c - fullTurn := by
  rw [encoderReading_eq_once he hc]
  exact Turn.once_of_le fullTurn_pos h

/-! ### The three differences -/

theorem IsElevation.mem (he : IsElevation e) : e ∈ Set.Ico 0 fullTurn := by
  obtain ⟨hlow, hhigh⟩ := he
  exact ⟨hlow, by linarith⟩

/-- Where one reading alone has passed the zero, the elevations lie on its two sides. -/
theorem lt_of_passed (h : fullTurn ≤ e + c) (h0 : e0 + c < fullTurn) : e0 < e := by
  linarith

/-- **What is computed**: the elevation, unless the zero lies between. -/
theorem cabrageCorrect_reading (he : IsElevation e) (he0 : IsElevation e0)
    (hc : c ∈ Set.Ico 0 fullTurn) :
    cabrageCorrect (e0 + (encoderReading e c - encoderReading e0 c)) =
      if fullTurn ≤ e + c ∧ e0 + c < fullTurn then 0 else e := by
  rcases lt_or_ge (e + c) fullTurn with hlt | hge
  · rw [encoderReading_of_lt he hc hlt, if_neg fun h => hlt.not_ge h.1]
    rcases lt_or_ge (e0 + c) fullTurn with hlt0 | hge0
    · have hsame : e0 + (e + c - (e0 + c)) = e := by ring
      rw [encoderReading_of_lt he0 hc hlt0, hsame]
      exact cabrageCorrect_of_mem he.mem
    · have hturn : e0 + (e + c - (e0 + c - fullTurn)) = e + fullTurn := by ring
      have hhigh : fullTurn ≤ e + fullTurn := by linarith [he.1]
      rw [encoderReading_of_ge he0 hc hge0, hturn, cabrageCorrect,
        if_neg (fullTurn_pos.le.trans hhigh).not_gt, if_pos hhigh, add_sub_cancel_right]
  · rw [encoderReading_of_ge he hc hge]
    rcases lt_or_ge (e0 + c) fullTurn with hlt0 | hge0
    · have hturn : e0 + (e + c - fullTurn - (e0 + c)) = e - fullTurn := by ring
      have hneg : e - fullTurn < 0 := by linarith [he.mem.2]
      rw [encoderReading_of_lt he0 hc hlt0, hturn, if_pos ⟨hge, hlt0⟩, cabrageCorrect, if_pos hneg]
    · have hsame : e0 + (e + c - fullTurn - (e0 + c - fullTurn)) = e := by ring
      rw [encoderReading_of_ge he0 hc hge0, hsame, if_neg fun h => hge0.not_gt h.2]
      exact cabrageCorrect_of_mem he.mem

end

/-- **Elevation is measured as it is** exactly if the encoder's zero does not lie between it and
a lower elevation at which the antenna was calibrated. -/
theorem elevation_iff (g : Gauge) (limit : FP32) {e e0 c : FP32} (he : IsElevation e)
    (he0 : IsElevation e0) (hc : c ∈ Set.Ico 0 fullTurn)
    (hmap : g.map.cabrage = ⟨e0, encoderReading e0 c, g.cabrage.countMode⟩) :
    locallAntennaAdjustDegreeDataGet 2 g (encoderReading e c) limit = e ↔
      if g.cabrage.linked then ZeroBelow e e0 c else limit = e := by
  by_cases hlinked : g.cabrage.linked = true
  · rw [if_pos hlinked, adjust_cabrage g _ _ hlinked]
    simp only [mappedDegree, hmap, if_true]
    rw [cabrageCorrect_reading he he0 hc]
    by_cases hpassed : fullTurn ≤ e + c ∧ e0 + c < fullTurn
    · rw [if_pos hpassed]
      have hraised : 0 < e := he0.1.trans_lt (lt_of_passed hpassed.1 hpassed.2)
      refine iff_of_false hraised.ne ?_
      rintro (hlt | hge)
      · exact hlt.not_ge hpassed.1
      · exact hge.not_gt hpassed.2
    · rw [if_neg hpassed]
      refine iff_of_true rfl ?_
      rcases lt_or_ge (e + c) fullTurn with hlt | hge
      · exact Or.inl hlt
      · exact Or.inr (not_lt.mp fun hlt0 => hpassed ⟨hge, hlt0⟩)
  · rw [if_neg hlinked]
    simp [locallAntennaAdjustDegreeDataGet, hlinked]

/-- The encoder reads 0 at an elevation of 20 degrees, and the antenna was calibrated at 10. -/
def mountedAt340 : Gauge :=
  { position := ⟨true, 180, 0xE1⟩
    cabrage := ⟨true, 20, 0xE1⟩
    polar := ⟨true, 10, 0xE1⟩
    bitNum := fun _ => 17
    map := ⟨⟨180, 180, 0xE1⟩, ⟨10, 350, 0xE1⟩, ⟨10, 10, 0xE1⟩, 0⟩
    elecCoderNum := 3 }

theorem map_mountedAt340 : mountedAt340.map.cabrage = ⟨10, encoderReading 10 340, 0xE1⟩ := by
  have hreading : encoderReading 10 340 = 350 := by
    rw [encoderReading_of_lt ⟨by norm_num, by norm_num⟩ ⟨by norm_num, by norm_num⟩ (by norm_num)]
    norm_num
  rw [hreading]
  rfl

/-- The same, calibrated at 25 degrees. -/
def calibratedAt25 : Gauge :=
  { mountedAt340 with map := { mountedAt340.map with cabrage := ⟨25, 5, 0xE1⟩ } }

/-- A dish at 15 degrees is measured, though the zero lies between the two elevations. -/
theorem elevation_calibratedAt25 :
    locallAntennaAdjustDegreeDataGet 2 calibratedAt25 (encoderReading 15 340) 0 = 15 := by
  have he : IsElevation 15 := ⟨by norm_num, by norm_num⟩
  have he0 : IsElevation 25 := ⟨by norm_num, by norm_num⟩
  have hbelow : ZeroBelow 15 25 340 := Or.inl (by norm_num)
  have hmap : calibratedAt25.map.cabrage = ⟨25, encoderReading 25 340, 0xE1⟩ := by
    rw [encoderReading_of_ge ⟨by norm_num, by norm_num⟩ ⟨by norm_num, by norm_num⟩ (by norm_num)]
    norm_num [calibratedAt25]
  exact (elevation_iff calibratedAt25 0 he he0 ⟨by norm_num, by norm_num⟩ hmap).mpr hbelow

/-- A dish at 40 degrees is reported at 0. -/
theorem elevation_lost :
    mountedAt340.map.cabrage = ⟨10, encoderReading 10 340, mountedAt340.cabrage.countMode⟩ ∧
      locallAntennaAdjustDegreeDataGet 2 mountedAt340 (encoderReading 40 340) 0 = 0 ∧
      locallAntennaAdjustDegreeDataGet 2 mountedAt340 (encoderReading 40 340) 0 ≠ 40 := by
  refine ⟨map_mountedAt340, ?_⟩
  have hreading : encoderReading 40 340 = 20 := by
    rw [encoderReading_of_ge ⟨by norm_num, by norm_num⟩ ⟨by norm_num, by norm_num⟩ (by norm_num)]
    norm_num
  rw [hreading]
  decide +kernel

end SwiftAcu
