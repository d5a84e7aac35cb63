/-
Which numbers survive a byte buffer.

Both encoders store the bytes of a field at cells 0, 1, … in the order that `save_mode` asks
for.  A decoder is right where it reads these cells and no other.  The one of 32 bits does so
with the high byte first.  With the low byte first both decoders start one cell behind the
field, and end before its first cell; and the one of 16 bits reads four cells with the high byte
first, so that what it returns is in the two cells behind the field.  What such a decoder returns
is the number that was stored only where the cells it reads happen to hold the bytes that it
should have read.
-/
import SwiftAcu.Acu.Tool
import SwiftAcu.Proofs.Param.Codec

namespace SwiftAcu.Tool

variable {save_mode : UInt8}

/-! ### What the cells of a loop add up to -/

theorem toNat_shift_add (data : UInt32) (b : UInt8) :
    ((data <<< 8) + b.toUInt32).toNat = (data.toNat * 2 ^ 8 + b.toNat) % 2 ^ 32 := by
  simp [UInt32.toNat_add, UInt32.toNat_shiftLeft, Nat.shiftLeft_eq]

theorem toNat_gather_two (buff : Bytebuff) (i j : Nat) :
    (gather buff [i, j]).toNat = (buff i).toNat * 2 ^ 8 + (buff j).toNat := by
  have hi := (buff i).toNat_lt
  have hj := (buff j).toNat_lt
  simp only [gather, List.foldl_cons, List.foldl_nil, toNat_shift_add, UInt32.toNat_zero]
  omega

theorem toNat_gather_four (buff : Bytebuff) (i j k l : Nat) :
    (gather buff [i, j, k, l]).toNat = ofBe32 (buff i) (buff j) (buff k) (buff l) := by
  have hi := (buff i).toNat_lt
  have hj := (buff j).toNat_lt
  have hk := (buff k).toNat_lt
  have hl := (buff l).toNat_lt
  simp only [gather, List.foldl_cons, List.foldl_nil, toNat_shift_add, UInt32.toNat_zero,
    ofBe32_eq]
  omega

/-- Sixteen bits hold two cells … -/
theorem toNat_half_two (buff : Bytebuff) (i j : Nat) :
    (gather buff [i, j]).toUInt16.toNat = (buff i).toNat * 2 ^ 8 + (buff j).toNat := by
  have hi := (buff i).toNat_lt
  have hj := (buff j).toNat_lt
  rw [UInt32.toNat_toUInt16, toNat_gather_two]
  omega

/-- … and of four cells the last two. -/
theorem toNat_half_four (buff : Bytebuff) (i j k l : Nat) :
    (gather buff [i, j, k, l]).toUInt16.toNat = (buff k).toNat * 2 ^ 8 + (buff l).toNat := by
  have hk := (buff k).toNat_lt
  have hl := (buff l).toNat_lt
  rw [UInt32.toNat_toUInt16, toNat_gather_four, ofBe32_eq]
  omega

/-! ### The bytes of a number -/

theorem int32Data2Bytebuff_high (h : save_mode ≠ 0) (data : UInt32) (buff : Bytebuff) :
    int32Data2Bytebuff data buff save_mode = Memory.write buff 0 (be32 data.toNat) := by
  rw [int32Data2Bytebuff, if_pos h]
  rfl

theorem int32Data2Bytebuff_low (data : UInt32) (buff : Bytebuff) :
    int32Data2Bytebuff data buff 0 = Memory.write buff 0 (be32 data.toNat).reverse := rfl

/-- The four bytes of a number. -/
theorem exists_bytes (data : UInt32) :
    ∃ b3 b2 b1 b0, be32 data.toNat = [b3, b2, b1, b0] ∧ ofBe32 b3 b2 b1 b0 = data.toNat :=
  ⟨_, _, _, _, rfl, ofBe32_be32 data.toNat_lt rfl⟩

/-- Four bytes of one number. -/
theorem ofBe32_inj {a b c d a' b' c' d' : UInt8} :
    ofBe32 a b c d = ofBe32 a' b' c' d' ↔ a = a' ∧ b = b' ∧ c = c' ∧ d = d' := by
  constructor
  · intro h
    have hbytes := be32_ofBe32 a b c d
    rw [h, be32_ofBe32] at hbytes
    simpa [eq_comm] using hbytes
  · rintro ⟨rfl, rfl, rfl, rfl⟩
    rfl

/-- The two bytes of a half-word. -/
theorem exists_halves (data : UInt16) :
    ∃ b1 b0, ((data &&& 0xFF00) >>> 8).toUInt8 = b1 ∧ (data &&& 0x00FF).toUInt8 = b0 ∧
      data.toNat = b1.toNat * 2 ^ 8 + b0.toNat := by
  refine ⟨_, _, rfl, rfl, ?_⟩
  rw [toNat_highByte, toNat_lowByte]
  omega

/-- A half-word that is made of two bytes has these two. -/
theorem halves_of_toNat {data : UInt16} {a b : UInt8}
    (h : data.toNat = a.toNat * 2 ^ 8 + b.toNat) :
    ((data &&& 0xFF00) >>> 8).toUInt8 = a ∧ (data &&& 0x00FF).toUInt8 = b := by
  have ha := a.toNat_lt
  have hb := b.toNat_lt
  refine ⟨UInt8.toNat_inj.mp ?_, UInt8.toNat_inj.mp ?_⟩
  · rw [toNat_highByte]
    omega
  · rw [toNat_lowByte]
    omega

/-! ### Decoding what was encoded -/

section
variable (x : UInt32) (y : UInt16) (buff : Bytebuff)

/-- With the high byte first 32 bits come back as they were. -/
theorem int32_high (h : save_mode ≠ 0) :
    bytebuff2Int32Data (int32Data2Bytebuff x buff save_mode) save_mode = x := by
  obtain ⟨b3, b2, b1, b0, hbytes, hx⟩ := exists_bytes x
  refine UInt32.toNat_inj.mp ?_
  rw [bytebuff2Int32Data, bytebuff2Int32Cells, if_pos h, int32Data2Bytebuff_high h, hbytes]
  rw [show up 4 = [0, 1, 2, 3] from rfl, toNat_gather_four]
  exact hx

/-- With the low byte first they do if all five cells hold one byte. -/
theorem int32_low :
    bytebuff2Int32Data (int32Data2Bytebuff x buff 0) 0 = x ↔
      x.toNat = 0x01010101 * (buff 4).toNat := by
  obtain ⟨b3, b2, b1, b0, hbytes, hx⟩ := exists_bytes x
  have hread : (bytebuff2Int32Data (int32Data2Bytebuff x buff 0) 0).toNat =
      ofBe32 (buff 4) b3 b2 b1 := by
    rw [int32Data2Bytebuff_low, hbytes]
    exact toNat_gather_four _ 4 3 2 1
  have hsame : 0x01010101 * (buff 4).toNat = ofBe32 (buff 4) (buff 4) (buff 4) (buff 4) := by
    rw [ofBe32_eq]
    omega
  rw [← UInt32.toNat_inj, hread, ← hx, hsame, ofBe32_inj, ofBe32_inj]
  constructor
  · rintro ⟨rfl, rfl, rfl, rfl⟩
    exact ⟨rfl, rfl, rfl, rfl⟩
  · rintro ⟨rfl, rfl, rfl, rfl⟩
    exact ⟨rfl, rfl, rfl, rfl⟩

/-- Sixteen bits come back, with the high byte first, if the cells behind the field hold them
too. -/
theorem int16_high (h : save_mode ≠ 0) :
    bytebuff2Int16Data (int16Data2Bytebuff y buff save_mode) save_mode = y ↔
      y.toNat = (buff 2).toNat * 2 ^ 8 + (buff 3).toNat := by
  have hread : (bytebuff2Int16Data (int16Data2Bytebuff y buff save_mode) save_mode).toNat =
      (buff 2).toNat * 2 ^ 8 + (buff 3).toNat := by
    rw [bytebuff2Int16Data, bytebuff2Int16Cells, if_pos h, int16Data2Bytebuff, if_pos h]
    exact toNat_half_four _ 0 1 2 3
  rw [← UInt16.toNat_inj, hread, eq_comm]

/-- With the low byte first they do if both bytes are the one behind the field. -/
theorem int16_low :
    bytebuff2Int16Data (int16Data2Bytebuff y buff 0) 0 = y ↔
      y.toNat = 0x0101 * (buff 2).toNat := by
  obtain ⟨b1, b0, hhigh, hlow, hy⟩ := exists_halves y
  have hread : (bytebuff2Int16Data (int16Data2Bytebuff y buff 0) 0).toNat =
      (buff 2).toNat * 2 ^ 8 + b1.toNat := by
    rw [← hhigh]
    exact toNat_half_two _ 2 1
  have h0 := b0.toNat_lt
  have h1 := b1.toNat_lt
  have h2 := (buff 2).toNat_lt
  rw [← UInt16.toNat_inj, hread, hy]
  omega

end

/-! ### Encoding what was decoded -/

section
variable (buff : Bytebuff)

theorem keeps_int32_high (h : save_mode ≠ 0) :
    int32Data2Bytebuff (bytebuff2Int32Data buff save_mode) buff save_mode = buff := by
  have hword : (bytebuff2Int32Data buff save_mode).toNat =
      ofBe32 (buff 0) (buff 1) (buff 2) (buff 3) := by
    rw [bytebuff2Int32Data, bytebuff2Int32Cells, if_pos h]
    exact toNat_gather_four buff 0 1 2 3
  rw [int32Data2Bytebuff_high h, hword, be32_ofBe32, Memory.write_eq_self_iff]
  rfl

theorem keeps_int32_low :
    int32Data2Bytebuff (bytebuff2Int32Data buff 0) buff 0 = buff ↔ ∀ i < 4, buff i = buff 4 := by
  have hword : (bytebuff2Int32Data buff 0).toNat = ofBe32 (buff 4) (buff 3) (buff 2) (buff 1) :=
    toNat_gather_four buff 4 3 2 1
  have hcells : Memory.read buff 0 4 = [buff 0, buff 1, buff 2, buff 3] := rfl
  rw [int32Data2Bytebuff_low, hword, be32_ofBe32, Memory.write_eq_self_iff]
  show Memory.read buff 0 4 = [buff 1, buff 2, buff 3, buff 4] ↔ _
  rw [hcells]
  constructor
  · intro h
    obtain ⟨h0, h1, h2, h3, -⟩ : buff 0 = buff 1 ∧ buff 1 = buff 2 ∧ buff 2 = buff 3 ∧
        buff 3 = buff 4 ∧ True := by simpa using h
    intro i hi
    match i, hi with
    | 0, _ => rw [h0, h1, h2, h3]
    | 1, _ => rw [h1, h2, h3]
    | 2, _ => rw [h2, h3]
    | 3, _ => exact h3
  · intro h
    rw [h 0 (by omega), h 1 (by omega), h 2 (by omega), h 3 (by omega)]

theorem keeps_int16_high (h : save_mode ≠ 0) :
    int16Data2Bytebuff (bytebuff2Int16Data buff save_mode) buff save_mode = buff ↔
      buff 0 = buff 2 ∧ buff 1 = buff 3 := by
  have hword : (bytebuff2Int16Data buff save_mode).toNat =
      (buff 2).toNat * 2 ^ 8 + (buff 3).toNat := by
    rw [bytebuff2Int16Data, bytebuff2Int16Cells, if_pos h]
    exact toNat_half_four buff 0 1 2 3
  obtain ⟨hhigh, hlow⟩ := halves_of_toNat hword
  rw [int16Data2Bytebuff, if_pos h, hhigh, hlow, Memory.write_eq_self_iff]
  show [buff 0, buff 1] = [buff 2, buff 3] ↔ _
  simp

theorem keeps_int16_low :
    int16Data2Bytebuff (bytebuff2Int16Data buff 0) buff 0 = buff ↔
      buff 0 = buff 1 ∧ buff 1 = buff 2 := by
  have hword : (bytebuff2Int16Data buff 0).toNat = (buff 2).toNat * 2 ^ 8 + (buff 1).toNat :=
    toNat_half_two buff 2 1
  obtain ⟨hhigh, hlow⟩ := halves_of_toNat hword
  show Memory.write buff 0 [(bytebuff2Int16Data buff 0 &&& 0x00FF).toUInt8,
    ((bytebuff2Int16Data buff 0 &&& 0xFF00) >>> 8).toUInt8] = buff ↔ _
  rw [hhigh, hlow, Memory.write_eq_self_iff]
  show [buff 0, buff 1] = [buff 1, buff 2] ↔ _
  simp

end

/-! ### All four routines -/

/-- A number of 32 bits that was encoded is decoded, and from the four cells of the field. -/
def ReturnsInt32 (x : UInt32) (buff : Bytebuff) (save_mode : UInt8) : Prop :=
  bytebuff2Int32Data (int32Data2Bytebuff x buff save_mode) save_mode = x ∧
    ∀ i ∈ bytebuff2Int32Cells save_mode, i < 4

/-- A number of 16 bits that was encoded is decoded, and from the two cells of the field. -/
def ReturnsInt16 (y : UInt16) (buff : Bytebuff) (save_mode : UInt8) : Prop :=
  bytebuff2Int16Data (int16Data2Bytebuff y buff save_mode) save_mode = y ∧
    ∀ i ∈ bytebuff2Int16Cells save_mode, i < 2

/-- A field of 32 bits that is decoded is encoded as it was. -/
def KeepsInt32 (buff : Bytebuff) (save_mode : UInt8) : Prop :=
  int32Data2Bytebuff (bytebuff2Int32Data buff save_mode) buff save_mode = buff

/-- A field of 16 bits that is decoded is encoded as it was. -/
def KeepsInt16 (buff : Bytebuff) (save_mode : UInt8) : Prop :=
  int16Data2Bytebuff (bytebuff2Int16Data buff save_mode) buff save_mode = buff

/-- With the low byte first the decoder leaves the field, whatever is in it. -/
theorem returnsInt32_iff (x : UInt32) (buff : Bytebuff) :
    ReturnsInt32 x buff save_mode ↔ save_mode ≠ 0 := by
  by_cases h : save_mode = 0
  · subst h
    refine iff_of_false (fun hreturns => ?_) (fun hne => hne rfl)
    have hcell : 4 ∈ bytebuff2Int32Cells 0 := by decide
    exact absurd (hreturns.2 4 hcell) (Nat.lt_irrefl 4)
  · refine iff_of_true ⟨int32_high x buff h, fun i hi => ?_⟩ h
    rw [bytebuff2Int32Cells, if_pos h] at hi
    exact List.mem_range.mp hi

/-- The decoder of 16 bits leaves the field in both orders. -/
theorem not_returnsInt16 (y : UInt16) (buff : Bytebuff) : ¬ ReturnsInt16 y buff save_mode := by
  intro hreturns
  have hcell : 2 ∈ bytebuff2Int16Cells save_mode := by
    by_cases h : save_mode = 0
    · rw [h]
      decide
    · rw [bytebuff2Int16Cells, if_pos h]
      decide
  exact absurd (hreturns.2 2 hcell) (Nat.lt_irrefl 2)

/--
**What survives a byte buffer.**  What each routine returns and keeps: all of it with 32 bits and
the high byte first, and otherwise what the cells behind the field allow by chance.
-/
theorem byte_codecs_inverse_iff (x : UInt32) (y : UInt16) (buff : Bytebuff) (save_mode : UInt8) :
    (ReturnsInt32 x buff save_mode ↔ save_mode ≠ 0) ∧
      ¬ ReturnsInt16 y buff save_mode ∧
      (KeepsInt32 buff save_mode ↔ save_mode ≠ 0 ∨ ∀ i < 4, buff i = buff 4) ∧
      (KeepsInt16 buff save_mode ↔
        if save_mode ≠ 0 then buff 0 = buff 2 ∧ buff 1 = buff 3
        else buff 0 = buff 1 ∧ buff 1 = buff 2) ∧
      (bytebuff2Int32Data (int32Data2Bytebuff x buff save_mode) save_mode = x ↔
        save_mode ≠ 0 ∨ x.toNat = 0x01010101 * (buff 4).toNat) ∧
      (bytebuff2Int16Data (int16Data2Bytebuff y buff save_mode) save_mode = y ↔
        if save_mode ≠ 0 then y.toNat = (buff 2).toNat * 2 ^ 8 + (buff 3).toNat
        else y.toNat = 0x0101 * (buff 2).toNat) := by
  refine ⟨returnsInt32_iff x buff, not_returnsInt16 y buff, ?_⟩
  by_cases h : save_mode = 0
  · subst h
    have hlow : ¬ ((0 : UInt8) ≠ 0) := fun hne => hne rfl
    rw [if_neg hlow, if_neg hlow, or_iff_right hlow, or_iff_right hlow]
    exact ⟨keeps_int32_low buff, keeps_int16_low buff, int32_low x buff, int16_low y buff⟩
  · have h' : save_mode ≠ 0 := h
    rw [if_pos h', if_pos h', iff_true_intro (Or.inl h'), iff_true_intro (Or.inl h'), iff_true,
      iff_true]
    exact ⟨keeps_int32_high buff h, keeps_int16_high buff h, int32_high x buff h,
      int16_high y buff h⟩

/-- The numbers 1 and 2 in a buffer of zeros: neither is decoded as it was encoded. -/
theorem byte_codecs_not_inverse :
    bytebuff2Int32Data (int32Data2Bytebuff 1 (fun _ => 0) 0) 0 = 0 ∧
      bytebuff2Int16Data (int16Data2Bytebuff 2 (fun _ => 0) 1) 1 = 0 ∧
      ¬ ∀ x y buff save_mode, ReturnsInt32 x buff save_mode ∧ ReturnsInt16 y buff save_mode ∧
        KeepsInt32 buff save_mode ∧ KeepsInt16 buff save_mode := by
  have hone : bytebuff2Int32Data (int32Data2Bytebuff 1 (fun _ => 0) 0) 0 = 0 := by decide
  refine ⟨hone, by decide, fun hall => ?_⟩
  have hreturns := (hall 1 2 (fun _ => 0) 0).1.1
  rw [hone] at hreturns
  exact absurd hreturns (by decide)

end SwiftAcu.Tool
