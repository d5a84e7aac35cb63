/-
Return codes, byte order and checksums.

The controller is C on a 32-bit microcontroller.  An `INT8U` is a `UInt8`; an
`INT32U` is a natural number, with `u32` written wherever the C arithmetic can
leave 32 bits.  A buffer with its length is a list of bytes.
-/
import Mathlib.Data.List.Basic
import Mathlib.Data.Nat.Bitwise
import Mathlib.Data.UInt
import Mathlib.Tactic.Common

namespace SwiftAcu

/-- `SUCC` and `FAIL` of `bsp.h`. -/
inductive Ret where
  | SUCC
  | FAIL
  deriving DecidableEq, Repr

/-- An `INT32U` result: unsigned arithmetic wraps at 32 bits. -/
def u32 (n : Nat) : Nat := n % 2 ^ 32

/-- The four stores `(data & 0xFF000000)>>24` … `data & 0x000000FF`, high byte first. -/
def be32 (data : Nat) : List UInt8 :=
  [UInt8.ofNat ((data &&& 0xFF000000) >>> 24), UInt8.ofNat ((data &&& 0x00FF0000) >>> 16),
    UInt8.ofNat ((data &&& 0x0000FF00) >>> 8), UInt8.ofNat (data &&& 0x000000FF)]

/-- `(buff[0]<<24) + (buff[1]<<16) + (buff[2]<<8) + buff[3]`. -/
def ofBe32 (b0 b1 b2 b3 : UInt8) : Nat :=
  (b0.toNat <<< 24) + (b1.toNat <<< 16) + (b2.toNat <<< 8) + b3.toNat

/-- `TOOL_CheckSum8BitGet`. -/
def checkSum8BitGet (buff : List UInt8) : UInt8 :=
  buff.foldl (fun checksum b => checksum + b) 0

/-- The fields of `strSysDateTime` that `TOOL_DateTime2Bytebuff` stores. -/
structure SysDateTime where
  year : UInt16
  month : UInt8
  day : UInt8
  hour : UInt8
  min : UInt8
  senc : UInt8
  deriving DecidableEq, Repr

/-- `TOOL_DateTime2Bytebuff` with `buff_len = 7`. -/
def dateTime2Bytebuff (t : SysDateTime) : List UInt8 :=
  [((t.year &&& 0xFF00) >>> 8).toUInt8, (t.year &&& 0x00FF).toUInt8, t.month, t.day, t.hour,
    t.min, t.senc]

/-- `antenna_part`, and the address of an encoder. -/
inductive AntennaPart where
  | position | cabrage | polar
  deriving DecidableEq, Repr

instance decidableForallPart (P : AntennaPart → Prop) [DecidablePred P] :
    Decidable (∀ part, P part) :=
  decidable_of_iff (P .position ∧ P .cabrage ∧ P .polar)
    ⟨fun h part => by cases part with
      | position => exact h.1
      | cabrage => exact h.2.1
      | polar => exact h.2.2, fun h => ⟨h _, h _, h _⟩⟩

-- numerals of the axes and of the alarm bytes, `Fin 3` and `Fin 6`, take these
instance neZero_axes : NeZero (3 : Nat) := ⟨by decide⟩

instance neZero_alarmBytes : NeZero (6 : Nat) := ⟨by decide⟩

def AntennaPart.index : AntennaPart → Fin 3
  | .position => 0
  | .cabrage => 1
  | .polar => 2

def AntennaPart.id : AntennaPart → UInt8
  | .position => 1
  | .cabrage => 2
  | .polar => 3

/-! ### The byte order round trip -/

@[simp] theorem length_be32 (data : Nat) : (be32 data).length = 4 := rfl

@[simp] theorem length_dateTime2Bytebuff (t : SysDateTime) :
    (dateTime2Bytebuff t).length = 7 := rfl

theorem u32_of_lt {n : Nat} (h : n < 2 ^ 32) : u32 n = n := Nat.mod_eq_of_lt h

/-- Masking one byte out and shifting it down is taking that base-256 digit. -/
theorem and_shiftRight_byte (data k : Nat) :
    (data &&& (0xFF <<< k)) >>> k = data / 2 ^ k % 256 := by
  rw [Nat.shiftRight_and_distrib, Nat.shiftLeft_shiftRight, Nat.shiftRight_eq_div_pow]
  exact Nat.and_two_pow_sub_one_eq_mod (data / 2 ^ k) 8

theorem be32_eq (data : Nat) :
    be32 data = [UInt8.ofNat (data / 2 ^ 24 % 256), UInt8.ofNat (data / 2 ^ 16 % 256),
      UInt8.ofNat (data / 2 ^ 8 % 256), UInt8.ofNat (data % 256)] := by
  have h24 : (data &&& 0xFF000000) >>> 24 = data / 2 ^ 24 % 256 := and_shiftRight_byte data 24
  have h16 : (data &&& 0x00FF0000) >>> 16 = data / 2 ^ 16 % 256 := and_shiftRight_byte data 16
  have h8 : (data &&& 0x0000FF00) >>> 8 = data / 2 ^ 8 % 256 := and_shiftRight_byte data 8
  have h0 : data &&& 0x000000FF = data % 256 := Nat.and_two_pow_sub_one_eq_mod data 8
  rw [be32, h24, h16, h8, h0]

theorem ofBe32_eq (b0 b1 b2 b3 : UInt8) :
    ofBe32 b0 b1 b2 b3 = b0.toNat * 2 ^ 24 + b1.toNat * 2 ^ 16 + b2.toNat * 2 ^ 8 + b3.toNat := by
  simp only [ofBe32, Nat.shiftLeft_eq]

/-- What is stored high byte first is read back. -/
theorem ofBe32_be32 {data : Nat} (h : data < 2 ^ 32) {b0 b1 b2 b3 : UInt8}
    (hb : be32 data = [b0, b1, b2, b3]) : ofBe32 b0 b1 b2 b3 = data := by
  simp only [be32_eq, List.cons.injEq, and_true] at hb
  obtain ⟨rfl, rfl, rfl, rfl⟩ := hb
  simp only [ofBe32_eq, UInt8.toNat_ofNat']
  omega

/-- The two bytes of a half-word: the high one … -/
theorem toNat_highByte (num : UInt16) :
    ((num &&& 0xFF00) >>> 8).toUInt8.toNat = num.toNat / 2 ^ 8 := by
  have hlt := num.toNat_lt
  have hbyte : ((num &&& 0xFF00) >>> 8).toUInt8.toNat = num.toNat / 2 ^ 8 % 256 % 256 := by
    rw [UInt16.toNat_toUInt8, UInt16.toNat_shiftRight, UInt16.toNat_and]
    exact congrArg (· % 256) (and_shiftRight_byte num.toNat 8)
  omega

/-- … and the low one. -/
theorem toNat_lowByte (num : UInt16) : (num &&& 0x00FF).toUInt8.toNat = num.toNat % 2 ^ 8 := by
  have hbyte : (num &&& 0x00FF).toUInt8.toNat = num.toNat % 256 % 256 := by
    rw [UInt16.toNat_toUInt8, UInt16.toNat_and]
    exact congrArg (· % 256) (Nat.and_two_pow_sub_one_eq_mod num.toNat 8)
  omega

end SwiftAcu
