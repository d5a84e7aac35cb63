/-
The position both front ends select.

They agree on which source a flag selects and disagree on what its angles are divided
by.  A quotient by two different numbers is the same only of zero, so that is when the
two positions are the same.  The explicit selection of the position entered by hand
divides by neither, which makes the PC's automatic selection of it another position.
-/
import Mathlib.Tactic.NormNum
import SwiftAcu.Acu.LogRun
import SwiftAcu.Acu.Position

namespace SwiftAcu

/-- The position in use after a front end selected a source. -/
def Front.selected (f : Front) (pbuff : List UInt8) (s : Station) : LocalPositionParam :=
  (f.localParamSrcSelSet 1 pbuff s).2.localPosition

/-- Nothing but the source flag tells the positions apart. -/
def SamePlace (l l' : LocalPositionParam) : Prop := { l with dataSrcFlag := l'.dataSrcFlag } = l'

/-- Neither the receiver nor the position entered by hand is selected. -/
def Automatic (pbuff : List UInt8) : Prop := pbuff.getD 0 0 ≠ 0x01 ∧ pbuff.getD 0 0 ≠ 0x02

/-- Only the position entered by hand is valid. -/
def OnlyHandValid (s : Station) : Prop := s.gpsData.valid ≠ 0x41 ∧ 0 < s.handValid

instance (s : Station) : Decidable (OnlyHandValid s) := inferInstanceAs (Decidable (_ ∧ _))

/--
Both front ends leave the same position, and an automatic selection that falls to the
position entered by hand leaves the one its explicit selection does.
-/
def SelectsAlike (pbuff : List UInt8) (s : Station) : Prop :=
  Front.pc.selected pbuff s = Front.oled.selected pbuff s ∧
    (Automatic pbuff → OnlyHandValid s →
      ∀ f : Front, SamePlace (f.selected pbuff s) (f.selected [0x01] s))

/-- The angles of the selected source are zero. -/
def SourceZero (src : UInt8) (s : Station) : Prop :=
  if src = 0x02 ∨ ¬ OnlyHandValid s then s.gpsData.lon = 0 ∧ s.gpsData.lat = 0
  else s.hand.lon = 0 ∧ s.hand.lat = 0

/-! ### Dividing by another number -/

theorem div_eq_div_iff_zero {x a b : FP32} (h : a ≠ b) : x / a = x / b ↔ x = 0 := by
  have hinv : a⁻¹ ≠ b⁻¹ := fun heq => h (inv_injective heq)
  rw [div_eq_mul_inv, div_eq_mul_inv, mul_eq_mul_left_iff]
  exact or_iff_right hinv

theorem word_div_eq_div_iff {x : UInt32} {a b : FP32} (h : a ≠ b) :
    (x.toNat : FP32) / a = (x.toNat : FP32) / b ↔ x = 0 := by
  rw [div_eq_div_iff_zero h, Nat.cast_eq_zero]
  exact ⟨fun hx => UInt32.toNat_inj.mp hx, fun hx => by rw [hx]; rfl⟩

theorem gpsPosition_unit_iff (g : GpsData) {a b : FP32} (h : a ≠ b) (src : UInt8) :
    gpsPosition g a src = gpsPosition g b src ↔ g.lon = 0 ∧ g.lat = 0 := by
  simp [gpsPosition, word_div_eq_div_iff h]

theorem handPosition_unit_iff (s : Station) {a b : FP32} (h : a ≠ b) (src : UInt8) :
    handPosition s a src = handPosition s b src ↔ s.hand.lon = 0 ∧ s.hand.lat = 0 := by
  simp [handPosition, div_eq_div_iff_zero h]

theorem samePlace_handPosition_iff (s : Station) {a b : FP32} (h : a ≠ b) (src src' : UInt8) :
    SamePlace (handPosition s a src) (handPosition s b src') ↔
      s.hand.lon = 0 ∧ s.hand.lat = 0 := by
  simp [SamePlace, handPosition, div_eq_div_iff_zero h]

/-! ### The selections -/

/-- **Two selections with other units** leave the same position of zero angles only. -/
theorem selectedPosition_unit_iff {u v : SrcUnits} (hgps : u.gps ≠ v.gps)
    (hauto : u.autoGps ≠ v.autoGps) (hhand : u.autoHand ≠ v.autoHand)
    (hnone : u.autoNone ≠ v.autoNone) (src : UInt8) (s : Station) :
    selectedPosition u src s = selectedPosition v src s ↔ src = 0x01 ∨ SourceZero src s := by
  unfold selectedPosition SourceZero OnlyHandValid
  by_cases htwo : src = 0x02
  · subst htwo
    simpa using gpsPosition_unit_iff s.gpsData hgps 0x02
  by_cases hone : src = 0x01
  · simp [hone]
  by_cases hvalid : s.gpsData.valid = 0x41
  · simpa [htwo, hone, hvalid] using gpsPosition_unit_iff s.gpsData hauto src
  by_cases hentered : 0 < s.handValid
  · simpa [htwo, hone, hvalid, hentered] using handPosition_unit_iff s hhand src
  · simpa [htwo, hone, hvalid, hentered] using gpsPosition_unit_iff s.gpsData hnone src

theorem pc_selected (pbuff : List UInt8) (s : Station) :
    Front.pc.selected pbuff s =
      selectedPosition ⟨1000, 1000, 1000, 1000⟩ (pbuff.getD 0 0) s := rfl

theorem oled_selected (pbuff : List UInt8) (s : Station) :
    Front.oled.selected pbuff s = selectedPosition ⟨100, 1, 1, 100⟩ (pbuff.getD 0 0) s := rfl

theorem selected_hand (f : Front) (s : Station) :
    f.selected [0x01] s = handPosition s 1 0x01 := by
  cases f <;> rfl

/-- Where the position entered by hand is selected automatically, the units of that branch count. -/
theorem selectedPosition_of_onlyHandValid (u : SrcUnits) {pbuff : List UInt8} {s : Station}
    (hauto : Automatic pbuff) (h : OnlyHandValid s) :
    selectedPosition u (pbuff.getD 0 0) s = handPosition s u.autoHand (pbuff.getD 0 0) := by
  unfold selectedPosition
  rw [if_neg hauto.2, if_neg hauto.1, if_neg h.1, if_pos h.2]

theorem sourceZero_of_onlyHandValid {pbuff : List UInt8} {s : Station} (hauto : Automatic pbuff)
    (h : OnlyHandValid s) :
    SourceZero (pbuff.getD 0 0) s ↔ s.hand.lon = 0 ∧ s.hand.lat = 0 := by
  unfold SourceZero
  rw [if_neg (by rintro (htwo | hnot) <;> [exact hauto.2 htwo; exact hnot h])]

/-- **The front ends select alike** exactly the position entered by hand, and angles of zero. -/
theorem selectsAlike_iff (pbuff : List UInt8) (s : Station) :
    SelectsAlike pbuff s ↔ pbuff.getD 0 0 = 0x01 ∨ SourceZero (pbuff.getD 0 0) s := by
  have hfronts : Front.pc.selected pbuff s = Front.oled.selected pbuff s ↔
      pbuff.getD 0 0 = 0x01 ∨ SourceZero (pbuff.getD 0 0) s := by
    rw [pc_selected, oled_selected]
    exact selectedPosition_unit_iff (by norm_num) (by norm_num) (by norm_num) (by norm_num) _ s
  refine ⟨fun h => hfronts.mp h.1, fun h => ⟨hfronts.mpr h, ?_⟩⟩
  intro hauto honly f
  have hzero : s.hand.lon = 0 ∧ s.hand.lat = 0 :=
    (sourceZero_of_onlyHandValid hauto honly).mp (h.resolve_left hauto.1)
  rw [selected_hand]
  cases f with
  | pc =>
      rw [pc_selected, selectedPosition_of_onlyHandValid _ hauto honly]
      exact (samePlace_handPosition_iff s (by norm_num) _ _).mpr hzero
  | oled =>
      rw [oled_selected, selectedPosition_of_onlyHandValid _ hauto honly]
      rfl

/-! ### The receiver in use -/

/-- A device whose EEPROM is blank. -/
def blankDevInfo [SoftFloat] : DevInfo :=
  { device := paramInit fun _ => 0
    board := AppLog.bootBoard
    localPosition := ⟨0, 0, 0, 0, 0, 0, 0⟩
    sysDateTime := ⟨0, 0, 0, 0, 0, 0⟩
    srcFlag := 0
    aim := ⟨0, 0, 0⟩
    softLimit := ⟨⟨110, 5, -90⟩, ⟨260, 85, 90⟩⟩
    netWork := ⟨0, 0, 0⟩
    currSta := ⟨⟨0, 0, 0⟩, 0, 0, 0, 0, 0, fun _ => 0, fun _ => 0, fun _ => 0⟩
    aimAtSatLimitMv := 1000
    acuVersion := ⟨Vector.replicate 16 0x20, Vector.replicate 16 0x20⟩
    pduVersion := ⟨Vector.replicate 16 0x20, Vector.replicate 16 0x20⟩
    answers := fun _ => true
    pduAnswer := none }

section
attribute [local instance] SoftFloat.single

/-- The receiver is valid at 116.0 degrees east and 40.0 degrees north. -/
def receiving : Station :=
  { blankDevInfo with
    gpsData := ⟨0x45, 116000, 0x4E, 40000, 50, 0x41⟩
    hand := ⟨0, 0, 0, 0, 0⟩
    handValid := 0 }

/-- The receiver is selected: the front panel leaves a longitude of 1160 degrees. -/
theorem not_selectsAlike_receiving : ¬ SelectsAlike [0x02] receiving := by
  intro h
  have hlon : (Front.pc.selected [0x02] receiving).lon =
      (Front.oled.selected [0x02] receiving).lon := by rw [h.1]
  have hunits : (116000 : FP32) / 1000 = 116000 / 100 := hlon
  norm_num at hunits

end

end SwiftAcu
