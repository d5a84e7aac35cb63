/-
The bytes of the two kinds of record.

A data record and an info slot both start with `0xBC` and end with `0xCB`, so
neither can read as blank flash.  The lemmas here give their lengths, the bytes the
scan and the walk look at, and what reading a stored info slot returns.
-/
import SwiftAcu.Acu.Log
import SwiftAcu.Proofs.Flash

namespace SwiftAcu.AppLog

open NorFlash

/-! ### Sub-sectors -/

/-- The address after the 4096-byte sub-sector of `x`. -/
def sectorEnd (x : Nat) : Nat := (x / 4096 + 1) * 4096

theorem subSector_eq {a : Nat} (h : a < 2 ^ 32) : subSector a = a / 4096 * 4096 := by
  have hmask : 0xFFFFF000 = (2 ^ 20 - 1) <<< 12 := by decide
  have hdiv : a / 4096 * 4096 = (a >>> 12) <<< 12 := by
    rw [Nat.shiftRight_eq_div_pow, Nat.shiftLeft_eq]
  rw [subSector, hmask, hdiv]
  refine Nat.eq_of_testBit_eq fun i => ?_
  rw [Nat.testBit_and, Nat.testBit_shiftLeft, Nat.testBit_shiftLeft, Nat.testBit_shiftRight,
    Nat.testBit_two_pow_sub_one]
  by_cases hlo : 12 ≤ i
  · rw [Nat.add_sub_cancel' hlo]
    by_cases hhi : i - 12 < 20
    · simp [hlo, hhi]
    · have hbit : a.testBit i = false :=
        Nat.testBit_lt_two_pow (Nat.lt_of_lt_of_le h (Nat.pow_le_pow_right (by decide) (by omega)))
      simp [hbit]
  · simp [hlo]

/-- The masks compare sub-sectors. -/
theorem subSector_ne_iff {a b : Nat} (ha : a < 2 ^ 32) (hb : b < 2 ^ 32) :
    subSector a ≠ subSector b ↔ a / 4096 ≠ b / 4096 := by
  rw [subSector_eq ha, subSector_eq hb]
  omega

/-! ### Data records -/

@[simp] theorem length_record (log_size index : Nat) (now : SysDateTime) (buff : List UInt8)
    (prevAddr prevSize : Nat) :
    (record log_size index now buff prevAddr prevSize).length = buff.length + 26 := by
  simp [record, recordBody]
  omega

/-! ### Info slots -/

@[simp] theorem length_infoRecord (info : LogInfo) : (infoRecord info).length = 30 := rfl

theorem infoRecord_head (info : LogInfo) (h : 0 < (infoRecord info).length) :
    (infoRecord info)[0] = 0xBC := rfl

theorem infoRecord_tail (info : LogInfo) (h : 29 < (infoRecord info).length) :
    (infoRecord info)[29] = 0xCB := rfl

/-- Four bytes stored high byte first are read back as one number. -/
theorem b3Read4ByteData_of_stores {c : FlashChip} {a v : Nat} (hlim : a + 4 ≤ 2 ^ 24)
    (hv : v < 2 ^ 32) (h : Stores c.mem a (be32 v)) : c.b3Read4ByteData a = v := by
  have h0 := h 0 (by simp)
  have h1 := h 1 (by simp)
  have h2 := h 2 (by simp)
  have h3 := h 3 (by simp)
  rw [Nat.add_zero] at h0
  unfold FlashChip.b3Read4ByteData FlashChip.b3ReadDataByte
  rw [FlashChip.addr24_of_lt (by omega), FlashChip.addr24_of_lt (by omega),
    FlashChip.addr24_of_lt (by omega), FlashChip.addr24_of_lt (by omega), h0, h1, h2, h3]
  exact ofBe32_be32 hv rfl

/-- The seven numbers of an info slot fit their fields. -/
structure LogInfo.Fits (info : LogInfo) : Prop where
  total : info.logTotalNum < 2 ^ 32
  addr : info.currlogAddr < 2 ^ 32
  size : info.currlogSize < 2 ^ 32
  index : info.currlogIndex < 2 ^ 32
  beforeAddr : info.beforelogAddr < 2 ^ 32
  beforeIndex : info.beforelogIndex < 2 ^ 32
  beforeSize : info.beforelogSize < 2 ^ 32

/-- **Reading a stored slot returns what was stored**, with the slot's own address. -/
theorem readInfoSlot_of_stores {c : FlashChip} {a : Nat} {info : LogInfo}
    (hlim : a + 30 ≤ 2 ^ 24) (hfits : LogInfo.Fits info) (h : Stores c.mem a (infoRecord info)) :
    readInfoSlot c a = { info with logSysAddr := a } := by
  simp only [infoRecord, stores_append, List.length_append, List.length_singleton,
    length_be32] at h
  obtain ⟨⟨⟨⟨⟨⟨⟨⟨-, htotal⟩, hindex⟩, haddr⟩, hsize⟩, hbindex⟩, hbaddr⟩, hbsize⟩, -⟩ := h
  unfold readInfoSlot
  rw [b3Read4ByteData_of_stores (by omega) hfits.total htotal,
    b3Read4ByteData_of_stores (by omega) hfits.index hindex,
    b3Read4ByteData_of_stores (by omega) hfits.addr haddr,
    b3Read4ByteData_of_stores (by omega) hfits.size hsize,
    b3Read4ByteData_of_stores (by omega) hfits.beforeIndex hbindex,
    b3Read4ByteData_of_stores (by omega) hfits.beforeAddr hbaddr,
    b3Read4ByteData_of_stores (by omega) hfits.beforeSize hbsize]

end SwiftAcu.AppLog
