/-
What is stored is read back.

A number that fits its four bytes comes back as it was.  An angle comes back as its
thousandths make it; in exact arithmetic that is as it was, if it was whole thousandths.
-/
import Mathlib.Algebra.Order.Ring.Rat
import Mathlib.Tactic.FieldSimp
import SwiftAcu.Acu.Param
import SwiftAcu.Lib.Fields
import SwiftAcu.Proofs.SoftFloat

namespace SwiftAcu

open Fields

/-! ### The fields of a record -/

section
variable {buff : List UInt8} {i : Nat}

theorem ofBe32At_of_at {n : Nat} (h : At buff i (be32 n)) (hn : n < 2 ^ 32) :
    ofBe32At buff i = n := by
  have h1 := At.tail h
  have h2 := At.tail h1
  have h3 := At.tail h2
  rw [ofBe32At, At.head h, At.head h1, At.head h2, At.head h3]
  exact ofBe32_be32 hn rfl

theorem signed32_emod {z : Int} (hlo : -2 ^ 31 ≤ z) (hhi : z < 2 ^ 31) :
    signed32 (z % 2 ^ 32).toNat = z := by
  unfold signed32
  split <;> omega

theorem ofBe32sAt_of_at {z : Int} (h : At buff i (be32s z)) (hlo : -2 ^ 31 ≤ z)
    (hhi : z < 2 ^ 31) : ofBe32sAt buff i = z := by
  rw [ofBe32sAt, ofBe32At_of_at h (by omega), signed32_emod hlo hhi]

theorem nameAt_of_at {name : SatName} (h : At buff i name.toList) : nameAt buff i = name := by
  apply Vector.ext
  intro j hj
  have hj' : j < name.toList.length := by simpa using hj
  simp only [nameAt, Vector.getElem_ofFn]
  rw [h.getD hj', List.getD_eq_getElem _ _ hj']
  simp

/-- A word comes back as it was. -/
theorem uint32_of_at {w : UInt32} (h : At buff i (be32 w.toNat)) :
    UInt32.ofNat (ofBe32At buff i) = w := by
  rw [ofBe32At_of_at h w.toNat_lt, UInt32.ofNat_toNat]

end

theorem ofBe32At_lt (buff : List UInt8) (i : Nat) : ofBe32At buff i < 2 ^ 32 := by
  have h0 := (buff.getD i 0).toNat_lt
  have h1 := (buff.getD (i + 1) 0).toNat_lt
  have h2 := (buff.getD (i + 2) 0).toNat_lt
  have h3 := (buff.getD (i + 3) 0).toNat_lt
  rw [ofBe32At, ofBe32_eq]
  omega

/-- A number that is not negative as an `int` is the same as an `unsigned int`. -/
theorem ofBe32sAt_of_lt {buff : List UInt8} {i : Nat} (h : ofBe32At buff i < 2 ^ 31) :
    ofBe32sAt buff i = ofBe32At buff i := by
  rw [ofBe32sAt, signed32, if_pos h]

/-- What is taken apart into a number and put together again is as it was. -/
theorem be32_ofBe32 (b0 b1 b2 b3 : UInt8) : be32 (ofBe32 b0 b1 b2 b3) = [b0, b1, b2, b3] := by
  have h0 := b0.toNat_lt
  have h1 := b1.toNat_lt
  have h2 := b2.toNat_lt
  have h3 := b3.toNat_lt
  have hbyte {n : Nat} {b : UInt8} (h : n % 256 = b.toNat) : UInt8.ofNat (n % 256) = b := by
    rw [h, UInt8.ofNat_toNat]
  rw [ofBe32_eq, be32_eq, hbyte (b := b0) (by omega), hbyte (b := b1) (by omega),
    hbyte (b := b2) (by omega), hbyte (b := b3) (by omega)]

theorem be32_ofBe32At {buff : List UInt8} {i : Nat} (h : i + 4 ≤ buff.length) :
    be32 (ofBe32At buff i) = slice buff i 4 := by
  rw [ofBe32At, be32_ofBe32, slice_succ (d := 0) (by omega), slice_succ (d := 0) (by omega),
    slice_succ (d := 0) (by omega), slice_one (d := 0) (by omega)]

theorem toList_nameAt {buff : List UInt8} {i : Nat} (h : i + 16 ≤ buff.length) :
    (nameAt buff i).toList = slice buff i 16 := by
  refine List.ext_getElem (by simp [slice]; omega) fun k hk _ => ?_
  have hk : k < 16 := by simpa using hk
  simp only [nameAt, slice, Vector.getElem_toList, Vector.getElem_ofFn, List.getElem_take,
    List.getElem_drop]
  exact List.getD_eq_getElem _ _ (by omega)

/-- What was written to the EEPROM stands at the beginning of what is read. -/
theorem at_paramRead (m : Eeprom) (addr : Int) {bs : List UInt8} {n : Nat} (hn : bs.length ≤ n) :
    At (paramRead (paramSave addr bs m) addr n) 0 bs := by
  refine at_of_prefix (List.prefix_iff_eq_take.mpr (List.ext_getElem (by simp [paramRead, hn]) ?_))
  intro k hk _
  rw [List.getElem_take]
  exact ((Memory.getElem_read _ _ _ _ _).trans (Memory.write_inside hk)).symm

/-! ### Angles -/

section
variable [SoftFloat]

/-- An angle after it has been stored and read. -/
def restored (x : FP32) : FP32 := degreeOf (int32u (thousandths x))

omit [SoftFloat] in
theorem int32u_lt (x : FP32) : int32u x < 2 ^ 32 := Nat.mod_lt _ (by decide)

theorem restored_of_at {buff : List UInt8} {i : Nat} {x : FP32}
    (h : At buff i (be32 (int32u (thousandths x)))) :
    degreeOf (ofBe32At buff i) = restored x := by
  rw [ofBe32At_of_at h (int32u_lt _), restored]

theorem restored_degreeOf {n : Nat} (h : ComesBack n) : restored (degreeOf n) = degreeOf n := by
  rw [restored, h]

/-! ### Satellites -/

/-- **A stored satellite comes back as it was**, but for its longitude. -/
theorem satParamOf_of_at {buff : List UInt8} {id : UInt8} {p : SatParam}
    (h : At buff 0 ([id] ++ satParamBytes p)) :
    satParamOf buff = { p with id, lon := restored p.lon } := by
  simp only [satParamBytes, List.append_assoc] at h
  have hname := h.right (j := 1) rfl
  have hlonFlag := hname.right (j := 17) (by simp)
  have hlonAt := hlonFlag.right (j := 18) rfl
  have hfreq := hlonAt.right (j := 22) rfl
  have hpolarType := hfreq.right (j := 26) rfl
  simp only [satParamOf, h.head, nameAt_of_at hname.left, hlonFlag.head, uint32_of_at hfreq.left,
    hpolarType.head, restored_of_at hlonAt.left]

/-- A satellite whose fields stand in 27 bytes is stored as these bytes, behind its id. -/
theorem satParamBytes_eq_drop {buff : List UInt8} {p : SatParam} (hlen : buff.length = 27)
    (hname : p.name = nameAt buff 1) (hflag : p.lonFlag = buff.getD 17 0)
    (hlon : int32u (thousandths p.lon) = ofBe32At buff 18)
    (hfreq : p.freq = UInt32.ofNat (ofBe32At buff 22)) (hpolar : p.polarType = buff.getD 26 0) :
    satParamBytes p = buff.drop 1 := by
  have hfreq' : p.freq.toNat = ofBe32At buff 22 := by
    rw [hfreq, UInt32.toNat_ofNat', Nat.mod_eq_of_lt (ofBe32At_lt buff 22)]
  rw [satParamBytes, hname, hflag, hlon, hfreq', hpolar, toList_nameAt (by omega),
    be32_ofBe32At (by omega), be32_ofBe32At (by omega), ← slice_one (by omega),
    ← slice_one (by omega), slice_append, slice_append, slice_append, slice_append,
    slice_to_end (by omega)]

/-- **What was read of a satellite is stored as it was**, if its longitude comes back. -/
theorem satParamBytes_satParamOf {buff : List UInt8} (hlen : buff.length = 27)
    (hlon : ComesBack (ofBe32At buff 18)) : satParamBytes (satParamOf buff) = buff.drop 1 :=
  satParamBytes_eq_drop hlen rfl rfl hlon rfl rfl

/-- The current satellite comes back without its id. -/
theorem currSatParamRead_currSatParamSave (p : SatParam) (m : Eeprom) :
    currSatParamRead (currSatParamSave p m) = { p with id := 0x00, lon := restored p.lon } :=
  satParamOf_of_at (at_paramRead m 0x0A20 (by simp))

/-! ### The position -/

/-- **The position entered by hand comes back as it was**, but for its angles. -/
theorem locallHandParamRead_locallHandParamSave (p : HandLocalPositionParam) (m : Eeprom) :
    locallHandParamRead (locallHandParamSave p m) =
      { p with lon := restored p.lon, lat := restored p.lat } := by
  have h : Fields.At (paramRead (locallHandParamSave p m) 0x0031 14) 0
      ([p.lonFlag] ++ be32 (int32u (thousandths p.lon)) ++ [p.latFlag] ++
        be32 (int32u (thousandths p.lat)) ++ be32 p.height.toNat) :=
    at_paramRead m 0x0031 (Nat.le_refl 14)
  simp only [List.append_assoc] at h
  have hlonAt := h.right (j := 1) rfl
  have hlatFlag := hlonAt.right (j := 5) rfl
  have hlatAt := hlatFlag.right (j := 6) rfl
  have hheight := hlatAt.right (j := 10) rfl
  simp only [locallHandParamRead, locallHandParamReadCall, ReadCall.run, h.head,
    restored_of_at hlonAt.left, hlatFlag.head, restored_of_at hlatAt.left, uint32_of_at hheight]

end

/-! ### Exact arithmetic -/

/-- `x` is `n` thousandths. -/
def Thousandths (x : FP32) (n : Int) : Prop := x = (n : FP32) / 1000

instance (x : FP32) (n : Int) : Decidable (Thousandths x n) := inferInstanceAs (Decidable (_ = _))

section
attribute [local instance] SoftFloat.exact

theorem Thousandths.degreeOf_eq {x : FP32} {n : Int} (h : Thousandths x n) : degreeOf n = x :=
  h.symm

theorem Thousandths.int32s {x : FP32} {n : Int} (h : Thousandths x n) :
    int32s (thousandths x) = n := by
  have hx : thousandths x = (n : FP32) := by
    rw [h]
    exact div_mul_cancel₀ _ (by norm_num)
  rw [hx, int32s_intCast]

theorem Thousandths.int32u {x : FP32} {n : Nat} (h : Thousandths x n) (hn : n < 2 ^ 32) :
    int32u (thousandths x) = n := by
  rw [SwiftAcu.int32u, h.int32s, Int.toNat_natCast, u32_of_lt hn]

theorem Thousandths.restored_eq {x : FP32} {n : Nat} (h : Thousandths x n) (hn : n < 2 ^ 32) :
    restored x = x := by
  rw [restored, h.int32u hn, h.degreeOf_eq]

variable {buff : List UInt8} {i : Nat}

/-- An angle comes back as it was, read as an unsigned number … -/
theorem unsigned_of_at {x : FP32} {n : Nat} (hx : Thousandths x n) (hn : n < 2 ^ 32)
    (h : At buff i (be32 (int32u (thousandths x)))) : degreeOf (ofBe32At buff i) = x := by
  rw [restored_of_at h, hx.restored_eq hn]

/-- … or, if it was stored as one, as a signed number. -/
theorem signed_of_at {x : FP32} {z : Int} (hx : Thousandths x z) (hlo : -2 ^ 31 ≤ z)
    (hhi : z < 2 ^ 31) (h : At buff i (be32s (int32s (thousandths x)))) :
    degreeOf (ofBe32sAt buff i) = x := by
  rw [hx.int32s] at h
  rw [ofBe32sAt_of_at h hlo hhi, hx.degreeOf_eq]

/-- A small angle that was stored as an unsigned number can be read as a signed one. -/
theorem signed_of_at_unsigned {x : FP32} {n : Nat} (hx : Thousandths x n) (hn : n < 2 ^ 31)
    (h : At buff i (be32 (int32u (thousandths x)))) : degreeOf (ofBe32sAt buff i) = x := by
  rw [hx.int32u (by omega)] at h
  have hat := ofBe32At_of_at h (by omega)
  rw [ofBe32sAt_of_lt (by omega), hat, hx.degreeOf_eq]

end

end SwiftAcu
