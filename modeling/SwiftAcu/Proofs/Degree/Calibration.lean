/-
The calibration of the antenna.

`APP_PCCOMM_AntennaParamAdjustSet` takes down which degrees of the encoders go with the
angles aimed at.  As long as an encoder keeps its degree nothing is added to them, and
the shift of a vertical polarisation is undone.  A turn of the azimuth encoder across
its zero is off by one turn at most, either way, and one turn is put right.
-/
import Mathlib.Tactic.Linarith
import SwiftAcu.Lib.Turn
import SwiftAcu.Proofs.Degree.Live

namespace SwiftAcu

/-- A full turn, in degrees. -/
abbrev fullTurn : FP32 := 360

theorem fullTurn_pos : 0 < fullTurn := by norm_num

/-- `y` is in the first turn, whole turns off `x`. -/
def IsAzimuth (x y : FP32) : Prop := y ∈ Set.Ico 0 fullTurn ∧ ∃ z : Int, x = y + z • fullTurn

/-- What the angles are computed from, with the map of the device. -/
def Encoders.gauge (e : Encoders) (bitNum : Fin 3 → UInt8) (d : Device) : Gauge :=
  { position := e.position
    cabrage := e.cabrage
    polar := e.polar
    bitNum
    map := d.allElecCoderMap
    elecCoderNum := d.antennaParam.elecCoderNum }

/-- All three encoders answer. -/
def Encoders.AllLinked (e : Encoders) : Prop :=
  e.position.linked = true ∧ e.cabrage.linked = true ∧ e.polar.linked = true

/-! ### Corrections that change nothing -/

theorem positionCorrect_of_mem {x : FP32} (h : x ∈ Set.Ico 0 fullTurn) :
    positionCorrect x = x := Turn.once_of_mem h

theorem cabrageCorrect_of_mem {x : FP32} (h : x ∈ Set.Ico 0 fullTurn) :
    cabrageCorrect x = x := by
  rw [cabrageCorrect, if_neg h.1.not_gt, if_neg h.2.not_ge]

theorem polarCorrect_of_mem {x : FP32} (h : x ∈ Set.Ioo (-180) 180) : polarCorrect x = x := by
  rw [polarCorrect, if_neg h.1.not_ge, if_neg h.2.not_ge]

/-- **The azimuth is right** while the mapped degree is at most one turn off. -/
theorem isAzimuth_positionCorrect {x : FP32} (h : x ∈ Set.Ico (-fullTurn) (fullTurn + fullTurn)) :
    IsAzimuth x (positionCorrect x) :=
  ⟨(Turn.once_mem_iff fullTurn_pos).mpr h, Turn.exists_once_eq fullTurn x⟩

/-- There is one azimuth. -/
theorem IsAzimuth.unique {x y y' : FP32} (h : IsAzimuth x y) (h' : IsAzimuth x y') : y' = y := by
  obtain ⟨hmem, z, hz⟩ := h
  obtain ⟨hmem', z', hz'⟩ := h'
  exact (Turn.eq_of_mem fullTurn_pos hmem' hz').trans (Turn.eq_of_mem fullTurn_pos hmem hz).symm

/-! ### Polarisation -/

/-- The shift undoes what the calibration took off or added. -/
theorem polarShift_polarDegree (polar_type : UInt8) (aim : FP32) :
    polarShift (polarDegree polar_type aim).2 (polarDegree polar_type aim).1 = aim := by
  unfold polarDegree polarShift
  split
  · split
    · simp
    · simp
  · simp

theorem polarDegree_mem (polar_type : UInt8) {aim : FP32} (h : aim ∈ Set.Ioo (-90) 90) :
    (polarDegree polar_type aim).1 ∈ Set.Ioo (-180) 180 := by
  obtain ⟨hlow, hhigh⟩ := h
  unfold polarDegree
  split
  · split
    · exact ⟨by dsimp only; linarith, by dsimp only; linarith⟩
    · exact ⟨by dsimp only; linarith, by dsimp only; linarith⟩
  · exact ⟨by dsimp only; linarith, by dsimp only; linarith⟩

/-! ### The map the calibration leaves -/

section
variable {e : Encoders} {d : Device}

/-- With three encoders that answer, the calibration succeeds and maps all three. -/
theorem antennaParamAdjustSet_map [SoftFloat] (hlinked : e.AllLinked)
    (hnum : d.antennaParam.elecCoderNum = 3) :
    (antennaParamAdjustSet e d).2.allElecCoderMap =
      { position := ⟨e.aimPosition, e.position.degree, e.position.countMode⟩
        cabrage := ⟨e.aimCabrage, e.cabrage.degree, e.cabrage.countMode⟩
        polar := ⟨(polarDegree d.currSatParam.polarType e.aimPolar).1, e.polar.degree,
          e.polar.countMode⟩
        satPolarType := (polarDegree d.currSatParam.polarType e.aimPolar).2 } := by
  obtain ⟨hposition, hcabrage, hpolar⟩ := hlinked
  simp [antennaParamAdjustSet, hposition, hcabrage, hpolar, hnum, clearRecords]

theorem antennaParamAdjustSet_elecCoderNum [SoftFloat] (e : Encoders) (d : Device) :
    (antennaParamAdjustSet e d).2.antennaParam = d.antennaParam := by
  unfold antennaParamAdjustSet
  split
  · rfl
  split
  · rfl
  split
  · rfl
  · rfl

end

/-- An encoder that has not turned is mapped to the angle of the map. -/
theorem mappedDegree_self (degree : FP32) (e : Encoder) :
    mappedDegree ⟨degree, e.degree, e.countMode⟩ e e.degree = degree := by
  simp [mappedDegree]

section
variable {e : Encoders} {d : Device} (bitNum : Fin 3 → UInt8) (stack : Degrees)

theorem calibrated_polar [SoftFloat] (hlinked : e.AllLinked)
    (hnum : d.antennaParam.elecCoderNum = 3) (hpolar : e.aimPolar ∈ Set.Ioo (-90) 90) :
    (locallAntennaRealDegreeDataGet stack
      (e.gauge bitNum (antennaParamAdjustSet e d).2)).polar = e.aimPolar := by
  rw [real_polar hlinked.2.2 (by rw [Encoders.gauge, antennaParamAdjustSet_elecCoderNum, hnum])]
  simp only [Encoders.gauge, antennaParamAdjustSet_map hlinked hnum, mappedDegree_self]
  rw [polarCorrect_of_mem (polarDegree_mem _ hpolar), polarShift_polarDegree]

theorem calibrated_cabrage [SoftFloat] (hlinked : e.AllLinked)
    (hnum : d.antennaParam.elecCoderNum = 3) (hcabrage : e.aimCabrage ∈ Set.Ico 0 fullTurn) :
    (locallAntennaRealDegreeDataGet stack
      (e.gauge bitNum (antennaParamAdjustSet e d).2)).cabrage = e.aimCabrage := by
  have hmode : (e.gauge bitNum (antennaParamAdjustSet e d).2).map.cabrage.elecCoderCountMode =
      (e.gauge bitNum (antennaParamAdjustSet e d).2).cabrage.countMode := by
    simp only [Encoders.gauge, antennaParamAdjustSet_map hlinked hnum]
  rw [real_cabrage hlinked.2.1 hmode]
  simp only [Encoders.gauge, antennaParamAdjustSet_map hlinked hnum, mappedDegree_self]
  exact cabrageCorrect_of_mem hcabrage

/-- The azimuth is the one of the map plus what the encoder has turned, put right by one turn. -/
theorem calibrated_position [SoftFloat] (hlinked : e.AllLinked)
    (hnum : d.antennaParam.elecCoderNum = 3) (degree : FP32) :
    (locallAntennaRealDegreeDataGet stack
      { e.gauge bitNum (antennaParamAdjustSet e d).2 with
        position := { e.position with degree } }).position =
      positionCorrect (e.aimPosition + (degree - e.position.degree)) := by
  rw [real_position hlinked.1]
  simp only [Encoders.gauge, antennaParamAdjustSet_map hlinked hnum, mappedDegree, if_true]

end

/-- **The calibration law.**  The angles aimed at are what is measured next, and the azimuth
follows its encoder from there. -/
theorem calibration_law [SoftFloat] (e : Encoders) (d : Device) (bitNum : Fin 3 → UInt8)
    (hlinked : e.AllLinked) (hnum : d.antennaParam.elecCoderNum = 3)
    (hposition : e.aimPosition ∈ Set.Ico 0 fullTurn) (hcabrage : e.aimCabrage ∈ Set.Ico 0 fullTurn)
    (hpolar : e.aimPolar ∈ Set.Ioo (-90) 90) :
    (∀ stack, locallAntennaRealDegreeDataGet stack
        (e.gauge bitNum (antennaParamAdjustSet e d).2) =
          ⟨e.aimPosition, e.aimCabrage, e.aimPolar⟩) ∧
      (e.position.degree ∈ Set.Ico 0 fullTurn → ∀ stack, ∀ degree ∈ Set.Ico 0 fullTurn,
        ∀ azimuth, azimuth = (locallAntennaRealDegreeDataGet stack
            { e.gauge bitNum (antennaParamAdjustSet e d).2 with
              position := { e.position with degree } }).position ↔
          IsAzimuth (e.aimPosition + (degree - e.position.degree)) azimuth) := by
  constructor
  · intro stack
    have hnone : e.aimPosition + (e.position.degree - e.position.degree) = e.aimPosition := by simp
    have hazimuth := calibrated_position bitNum stack hlinked hnum e.position.degree
    rw [hnone, positionCorrect_of_mem hposition] at hazimuth
    have hparts (x : Degrees) : x = ⟨x.position, x.cabrage, x.polar⟩ := rfl
    rw [hparts (locallAntennaRealDegreeDataGet _ _),
      calibrated_cabrage bitNum stack hlinked hnum hcabrage,
      calibrated_polar bitNum stack hlinked hnum hpolar]
    exact congrArg (Degrees.mk · e.aimCabrage e.aimPolar) hazimuth
  · intro hdegree stack degree hlater azimuth
    rw [calibrated_position bitNum stack hlinked hnum degree]
    have hwithin : e.aimPosition + (degree - e.position.degree) ∈
        Set.Ico (-fullTurn) (fullTurn + fullTurn) := by
      obtain ⟨haim, haim'⟩ := hposition
      obtain ⟨hdegree, hdegree'⟩ := hdegree
      obtain ⟨hlater, hlater'⟩ := hlater
      exact ⟨by linarith, by linarith⟩
    have hright := isAzimuth_positionCorrect hwithin
    exact ⟨fun h => by rw [h]; exact hright, fun h => hright.unique h⟩

section
attribute [local instance] SoftFloat.single

/-- Vertical polarisation, three encoders. -/
def verticalDevice : Device :=
  { eeprom := fun _ => 0
    satList := ⟨0, fun _ => 0⟩
    recordList := ⟨0, fun _ => 0⟩
    currSatParam := ⟨0, Vector.replicate 16 0, 0x45, 110, 12000000, 0x59⟩
    antennaParam := ⟨0, 0, 1, 10000000, 0, 3⟩
    allElecCoderMap := ⟨⟨0, 0, 0⟩, ⟨0, 0, 0⟩, ⟨0, 0, 0⟩, 0⟩
    agcOutputRange := 0 }

/-- The azimuth encoder is ten degrees in front of its zero. -/
def nearZero : Encoders :=
  { position := ⟨true, 350, 0xE1⟩
    cabrage := ⟨true, 20, 0xE1⟩
    polar := ⟨true, 5, 0xE2⟩
    aimPosition := 90
    aimCabrage := 35
    aimPolar := -20
    stack := ⟨⟨0, 0, 0⟩, ⟨0, 0, 0⟩, ⟨0, 0, 0⟩, 0⟩ }

/-- It turns twenty degrees across its zero, and the azimuth is 110. -/
theorem calibration_law_nearZero :
    (∀ stack, locallAntennaRealDegreeDataGet stack
        (nearZero.gauge (fun _ => 17) (antennaParamAdjustSet nearZero verticalDevice).2) =
          ⟨90, 35, -20⟩) ∧
      ∀ stack, 110 = (locallAntennaRealDegreeDataGet stack
        { nearZero.gauge (fun _ => 17) (antennaParamAdjustSet nearZero verticalDevice).2 with
          position := { nearZero.position with degree := 10 } }).position := by
  have hlaw := calibration_law nearZero verticalDevice (fun _ => 17) ⟨rfl, rfl, rfl⟩ rfl
    (by norm_num [nearZero]) (by norm_num [nearZero]) (by norm_num [nearZero])
  refine ⟨hlaw.1, fun stack => ?_⟩
  refine (hlaw.2 (by norm_num [nearZero]) stack 10 (by norm_num) 110).mpr ⟨by norm_num, -1, ?_⟩
  norm_num [nearZero]

end

end SwiftAcu
