/-
The slots of satellites and antenna records.

Both arrays count their places from 0 and their ids from 1; the id of a place is at the
same time what marks its slot in the EEPROM as used.
-/
import SwiftAcu.Lib.Slots
import SwiftAcu.Proofs.Param.Layout

namespace SwiftAcu

/-- The id of slot `i`. -/
def slotLabel (i : Nat) : UInt8 := UInt8.ofNat (i + 1)

theorem toNat_slotLabel {i : Nat} (hi : i < 255) : (slotLabel i).toNat = i + 1 := by
  simp only [slotLabel, UInt8.toNat_ofNat']
  omega

theorem labels_slotLabel {n : Nat} (hn : n ≤ 255) : Slots.Labels n slotLabel := by
  constructor
  · intro i hi heq
    have := toNat_slotLabel (i := i) (by omega)
    rw [heq] at this
    exact absurd this (by simp)
  · intro i hi j hj heq
    have := toNat_slotLabel (i := i) (by omega)
    rw [heq, toNat_slotLabel (by omega)] at this
    omega

/-- An id that is not 0 is the id of its place. -/
theorem slotLabel_pred {id : UInt8} (h : id ≠ 0) : slotLabel (id.toNat - 1) = id := by
  have hpos : id.toNat ≠ 0 := fun h0 => h (UInt8.toNat_inj.mp h0)
  have hlt := id.toNat_lt
  refine UInt8.toNat_inj.mp ?_
  rw [toNat_slotLabel (by omega)]
  omega

/-- The slot of place `i`. -/
def SlotId.ofPlace {n i : Nat} (hn : n ≤ 255) (hi : i < n) : SlotId n where
  id := slotLabel i
  pos := by
    rw [toNat_slotLabel (by omega)]
    exact Nat.succ_pos i
  le := by
    rw [toNat_slotLabel (by omega)]
    exact hi

end SwiftAcu
