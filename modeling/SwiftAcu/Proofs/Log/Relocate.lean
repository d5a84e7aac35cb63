/-
Two flashes with one contents at two places.

A log keeps addresses in the flash, in the back-pointer of every record and in every
info slot, and a record ends in a checksum over its back-pointer.  Two logs at
different places therefore do not hold the same bytes even when they hold the same
records.  The contents of a log say what each byte is: a byte of its own, a byte of an
address that counts from the base, or a checksum over such an address.  Read at two
bases, one contents gives the two halves of the flash.
-/
import SwiftAcu.Proofs.Log.Record

namespace SwiftAcu.AppLog

open NorFlash

/-- The distance between the two logs. -/
abbrev logShift : Nat := 0x2EE000

/-! ### Bytes -/

/-- What one byte of a log is. -/
inductive LayoutByte where
  | byte (b : UInt8)
  /-- Byte `j` of the address `a`. -/
  | addr (a j : Nat)
  /-- A checksum that comes to `rest` without the bytes of the address `a`. -/
  | sum (rest : UInt8) (a : Nat)

/-- The byte in a log whose addresses are all `base` higher. -/
def LayoutByte.read (base : Nat) : LayoutByte → UInt8
  | .byte b => b
  | .addr a j => (be32 (u32 (a + base))).getD j 0
  | .sum rest a => rest + checkSum8BitGet (be32 (u32 (a + base)))

/-- Bytes of their own. -/
def plainCells (bs : List UInt8) : List LayoutByte := bs.map .byte

/-- The four bytes of an address. -/
def addrCells (a : Nat) : List LayoutByte := [.addr a 0, .addr a 1, .addr a 2, .addr a 3]

theorem read_plainCells (base : Nat) (bs : List UInt8) :
    (plainCells bs).map (LayoutByte.read base) = bs := by
  simp [plainCells, Function.comp_def, LayoutByte.read]

theorem read_addrCells (base a : Nat) :
    (addrCells a).map (LayoutByte.read base) = be32 (u32 (a + base)) := rfl

theorem be32_u32 (v : Nat) : be32 (u32 v) = be32 v := by
  rw [be32_eq, be32_eq, u32]
  have h24 : v % 2 ^ 32 / 2 ^ 24 % 256 = v / 2 ^ 24 % 256 := by omega
  have h16 : v % 2 ^ 32 / 2 ^ 16 % 256 = v / 2 ^ 16 % 256 := by omega
  have h8 : v % 2 ^ 32 / 2 ^ 8 % 256 = v / 2 ^ 8 % 256 := by omega
  have h0 : v % 2 ^ 32 % 256 = v % 256 := by omega
  rw [h24, h16, h8, h0]

theorem foldl_add_eq (bs : List UInt8) (s : UInt8) :
    bs.foldl (fun checksum b => checksum + b) s = s + checkSum8BitGet bs := by
  unfold checkSum8BitGet
  induction bs generalizing s with
  | nil => simp
  | cons b bs ih =>
      rw [List.foldl_cons, List.foldl_cons, ih (s + b), ih (0 + b), UInt8.zero_add, UInt8.add_assoc]

theorem checkSum8BitGet_append (bs cs : List UInt8) :
    checkSum8BitGet (bs ++ cs) = checkSum8BitGet bs + checkSum8BitGet cs := by
  rw [checkSum8BitGet, List.foldl_append, foldl_add_eq]
  rfl

/-! ### The two kinds of record -/

/-- A data record with its back-pointer counted from the base. -/
def recordCells (log_size index : Nat) (now : SysDateTime) (buff : List UInt8)
    (prevAddr prevSize : Nat) : List LayoutByte :=
  let front := [0xBC] ++ be32 log_size ++ be32 index ++ dateTime2Bytebuff now ++ buff
  plainCells front ++ addrCells prevAddr ++ plainCells (be32 prevSize) ++
    [.sum (checkSum8BitGet front + checkSum8BitGet (be32 prevSize)) prevAddr, .byte 0xCB]

/-- An info slot with its addresses counted from the base. -/
def infoCells (info : LogInfo) : List LayoutByte :=
  plainCells ([0xBC] ++ be32 info.logTotalNum ++ be32 info.currlogIndex) ++
    addrCells info.currlogAddr ++
    plainCells (be32 info.currlogSize ++ be32 info.beforelogIndex) ++
    addrCells info.beforelogAddr ++ plainCells (be32 info.beforelogSize ++ [0xCB])

theorem read_recordCells (base log_size index : Nat) (now : SysDateTime) (buff : List UInt8)
    (prevAddr prevSize : Nat) :
    (recordCells log_size index now buff prevAddr prevSize).map (LayoutByte.read base) =
      record log_size index now buff (u32 (prevAddr + base)) prevSize := by
  set front := [0xBC] ++ be32 log_size ++ be32 index ++ dateTime2Bytebuff now ++ buff with hfront
  have hbody : recordBody log_size index now buff (u32 (prevAddr + base)) prevSize =
      front ++ be32 (u32 (prevAddr + base)) ++ be32 prevSize := rfl
  have hsum :
      checkSum8BitGet (recordBody log_size index now buff (u32 (prevAddr + base)) prevSize) =
      checkSum8BitGet front + checkSum8BitGet (be32 prevSize) +
        checkSum8BitGet (be32 (u32 (prevAddr + base))) := by
    rw [hbody, checkSum8BitGet_append, checkSum8BitGet_append, UInt8.add_assoc,
      UInt8.add_comm (checkSum8BitGet (be32 (u32 (prevAddr + base)))), UInt8.add_assoc]
  rw [record, hsum, hbody]
  simp only [recordCells, ← hfront, List.map_append, read_plainCells, read_addrCells]
  rfl

theorem read_infoCells (base : Nat) (info : LogInfo) :
    (infoCells info).map (LayoutByte.read base) =
      infoRecord { info with
        currlogAddr := u32 (info.currlogAddr + base)
        beforelogAddr := u32 (info.beforelogAddr + base) } := by
  simp only [infoCells, List.map_append, read_plainCells, read_addrCells, infoRecord,
    List.append_assoc]

/-- At base 0 the record is the record itself. -/
theorem record_u32 (log_size index : Nat) (now : SysDateTime) (buff : List UInt8)
    (prevAddr prevSize : Nat) :
    record log_size index now buff (u32 prevAddr) prevSize =
      record log_size index now buff prevAddr prevSize := by
  simp only [record, recordBody, be32_u32]

theorem infoRecord_u32 (info : LogInfo) :
    infoRecord { info with
        currlogAddr := u32 info.currlogAddr
        beforelogAddr := u32 info.beforelogAddr } = infoRecord info := by
  simp only [infoRecord, be32_u32]

/-! ### Contents -/

/-- Where both logs are blank a byte is what is programmed; elsewhere it is what that comes to in
the operation log. -/
instance : Cell LayoutByte where
  erased := .byte 0xFF
  prog old new :=
    if old.read 0 = 0xFF ∧ old.read logShift = 0xFF then new
    else .byte (prog (old.read 0) (new.read 0))
  prog_erased _ := if_pos ⟨rfl, rfl⟩

/-- What each byte of a log is, counted from where the log begins. -/
abbrev Contents := Nat → LayoutByte

/-- The bytes of the contents in the operation log. -/
def Contents.opt (L : Contents) : Nat → UInt8 := fun x => (L x).read 0

/-- The bytes of the contents in the warning log. -/
def Contents.warn (L : Contents) : Nat → UInt8 := fun x => (L x).read logShift

/-- No byte counts from the base but in a data record or an info slot, or in what is left of
one. -/
inductive Formatted : Contents → Prop where
  | bytes (m : Nat → UInt8) : Formatted fun x => .byte (m x)
  | record {L : Contents} (h : Formatted L) (a log_size index : Nat) (now : SysDateTime)
      (buff : List UInt8) (prevAddr prevSize : Nat) :
      Formatted (program L a (recordCells log_size index now buff prevAddr prevSize))
  | slot {L : Contents} (h : Formatted L) (a : Nat) (info : LogInfo) :
      Formatted (program L a (infoCells info))
  | erase {L : Contents} (h : Formatted L) (a : Nat) : Formatted (eraseSector 4096 L a)

/-- The operation log in `m` and the warning log in `m'` both hold the contents.  The operation
log has the flash below `logShift`. -/
def Shifted (L : Contents) (m m' : Nat → UInt8) : Prop :=
  ∀ x < logShift, m x = L.opt x ∧ m' (x + logShift) = L.warn x

/-- Programming the cells comes to the same in both logs: at every byte both are blank, or the two
logs are equal and so is what is programmed. -/
def Alike (L : Contents) (a : Nat) (cells : List LayoutByte) : Prop :=
  ∀ i (h : i < cells.length), (L.opt (a + i) = 0xFF ∧ L.warn (a + i) = 0xFF) ∨
    (L.opt (a + i) = L.warn (a + i) ∧ cells[i].read 0 = cells[i].read logShift)

/-- Programmed at `a`, the cells read back in the operation log. -/
def Contents.Verifies (L : Contents) (a : Nat) (cells : List LayoutByte) : Prop :=
  readRange (Contents.opt (program L a cells)) a cells.length = cells.map (LayoutByte.read 0)

instance (L : Contents) (a : Nat) (cells : List LayoutByte) : Decidable (L.Verifies a cells) :=
  inferInstanceAs (Decidable (_ = _))

section
variable {L : Contents} {m m' : Nat → UInt8} {a : Nat} {cells : List LayoutByte}

/-- The distance is a whole number of sub-sectors. -/
theorem shift_div (x : Nat) : (x + logShift) / 4096 = x / 4096 + 750 := by
  rw [logShift]
  omega

theorem opt_eraseSector (L : Contents) (e : Nat) :
    Contents.opt (eraseSector 4096 L e) = eraseSector 4096 L.opt e := by
  funext x
  unfold Contents.opt eraseSector
  split <;> rfl

theorem warn_eraseSector (L : Contents) (e : Nat) :
    Contents.warn (eraseSector 4096 L e) = eraseSector 4096 L.warn e := by
  funext x
  unfold Contents.warn eraseSector
  split <;> rfl

/-- Erasing the same sub-sector in both logs erases it in the contents. -/
theorem Shifted.erase (h : Shifted L m m') (e : Nat) :
    Shifted (eraseSector 4096 L e) (eraseSector 4096 m e) (eraseSector 4096 m' (e + logShift)) := by
  intro x hx
  rw [opt_eraseSector, warn_eraseSector]
  by_cases hsec : x / 4096 = e / 4096
  · have hsec' : (x + logShift) / 4096 = (e + logShift) / 4096 := by
      rw [shift_div, shift_div, hsec]
    rw [erase_inside m hsec, erase_inside m' hsec', erase_inside _ hsec, erase_inside _ hsec]
    exact ⟨rfl, rfl⟩
  · have hsec' : (x + logShift) / 4096 ≠ (e + logShift) / 4096 := by
      rw [shift_div, shift_div]
      omega
    rw [erase_outside m hsec, erase_outside m' hsec', erase_outside _ hsec, erase_outside _ hsec]
    exact h x hx

/-- Programming the two readings of some cells programs the cells. -/
theorem Shifted.program (h : Shifted L m m') (hal : Alike L a cells) :
    Shifted (program L a cells) (program m a (cells.map (LayoutByte.read 0)))
      (program m' (a + logShift) (cells.map (LayoutByte.read logShift))) := by
  intro x hx
  obtain ⟨hm, hm'⟩ := h x hx
  have hlen (base : Nat) : (cells.map (LayoutByte.read base)).length = cells.length :=
    List.length_map ..
  unfold Contents.opt Contents.warn
  by_cases hin : a ≤ x ∧ x < a + cells.length
  · obtain ⟨i, rfl⟩ : ∃ i, x = a + i := ⟨x - a, by omega⟩
    have hi : i < cells.length := by omega
    have hx' : a + i + logShift = a + logShift + i := by omega
    rw [hx'] at hm' ⊢
    rw [program_inside L a hi, program_inside m a ((hlen 0).symm ▸ hi),
      program_inside m' (a + logShift) ((hlen logShift).symm ▸ hi), hm, hm', List.getElem_map,
      List.getElem_map]
    by_cases hblank : L.opt (a + i) = 0xFF ∧ L.warn (a + i) = 0xFF
    · have hcell : prog (L (a + i)) cells[i] = cells[i] := if_pos hblank
      rw [hcell, hblank.1, hblank.2]
      simp only [← erased_eq, prog_erased, and_self]
    · obtain hbad | ⟨heq, hcells⟩ := hal i hi
      · exact absurd hbad hblank
      · have hcell : prog (L (a + i)) cells[i] =
            .byte (prog (L.opt (a + i)) (cells[i].read 0)) := if_neg hblank
        rw [hcell, ← heq, ← hcells]
        exact ⟨rfl, rfl⟩
  · rw [program_outside L (by omega), program_outside m (by rw [hlen]; omega),
      program_outside m' (by rw [hlen]; omega)]
    exact ⟨hm, hm'⟩

/-- What reads back in the contents reads back in the operation log. -/
theorem Shifted.verifies_iff (h : Shifted L m m') (hal : Alike L a cells)
    (hin : a + cells.length ≤ logShift) :
    L.Verifies a cells ↔ Stores (NorFlash.program m a (cells.map (LayoutByte.read 0))) a
      (cells.map (LayoutByte.read 0)) := by
  have hlen : (cells.map (LayoutByte.read 0)).length = cells.length := List.length_map ..
  rw [Contents.Verifies, ← hlen, readRange_eq_iff]
  constructor
  · intro hs
    exact hs.congr fun x hlo hhi => ((h.program hal) x (by omega)).1
  · intro hs
    exact hs.congr fun x hlo hhi => ((h.program hal) x (by omega)).1.symm

/-- Where the two come to the same, either both verify or neither does. -/
theorem Shifted.stores_iff (h : Shifted L m m') (hal : Alike L a cells)
    (hin : a + cells.length ≤ logShift) :
    Stores (NorFlash.program m a (cells.map (LayoutByte.read 0))) a
        (cells.map (LayoutByte.read 0)) ↔
      Stores (NorFlash.program m' (a + logShift) (cells.map (LayoutByte.read logShift)))
        (a + logShift) (cells.map (LayoutByte.read logShift)) := by
  have hlen (base : Nat) : (cells.map (LayoutByte.read base)).length = cells.length :=
    List.length_map ..
  have hbyte : ∀ i (hi : i < cells.length),
      prog (m (a + i)) (cells[i].read 0) = cells[i].read 0 ↔
        prog (m' (a + logShift + i)) (cells[i].read logShift) = cells[i].read logShift := by
    intro i hi
    obtain ⟨hm, hm'⟩ := h (a + i) (by omega)
    rw [show a + i + logShift = a + logShift + i by omega] at hm'
    rw [hm, hm']
    rcases hal i hi with ⟨hopt, hwarn⟩ | ⟨heq, hcells⟩
    · rw [hopt, hwarn, ← erased_eq, prog_erased, prog_erased]
      exact iff_of_true rfl rfl
    · rw [heq, hcells]
  constructor
  · intro hs i hi
    have hi' : i < cells.length := hlen logShift ▸ hi
    have hone := hs i ((hlen 0).symm ▸ hi')
    rw [program_inside m a ((hlen 0).symm ▸ hi'), List.getElem_map] at hone
    rw [program_inside m' _ hi, List.getElem_map]
    exact (hbyte i hi').mp hone
  · intro hs i hi
    have hi' : i < cells.length := hlen 0 ▸ hi
    have hone := hs i ((hlen logShift).symm ▸ hi')
    rw [program_inside m' _ ((hlen logShift).symm ▸ hi'), List.getElem_map] at hone
    rw [program_inside m a hi, List.getElem_map]
    exact (hbyte i hi').mpr hone

end

/-! ### The driver on both logs -/

/-- Two reliable chips, the operation log in the one and the warning log in the other. -/
structure ChipShifted (L : Contents) (c c' : FlashChip) : Prop where
  weak : c.weak = []
  weak' : c'.weak = []
  mem : Shifted L c.mem c'.mem

section
variable {L : Contents} {c c' : FlashChip}

theorem ChipShifted.erase (h : ChipShifted L c c') {e : Nat} (he : e + logShift < 2 ^ 24) :
    ChipShifted (eraseSector 4096 L e) (c.b3SubSectorErase e)
      (c'.b3SubSectorErase (e + logShift)) where
  weak := h.weak
  weak' := h.weak'
  mem := by
    rw [FlashChip.b3SubSectorErase_mem c (by omega), FlashChip.b3SubSectorErase_mem c' he]
    exact h.mem.erase e

/-- **A write returns the same in both** and leaves what it programs in the contents. -/
theorem ChipShifted.write (h : ChipShifted L c c') {a : Nat} {cells : List LayoutByte}
    {bs bs' : List UInt8} (hbs : bs = cells.map (LayoutByte.read 0))
    (hbs' : bs' = cells.map (LayoutByte.read logShift)) (hin : a + cells.length ≤ logShift)
    (hal : Alike L a cells) :
    ((c.b3WriteDataBuff a bs).1 = .SUCC ↔ L.Verifies a cells) ∧
      (c'.b3WriteDataBuff (a + logShift) bs').1 = (c.b3WriteDataBuff a bs).1 ∧
      ChipShifted (program L a cells) (c.b3WriteDataBuff a bs).2
        (c'.b3WriteDataBuff (a + logShift) bs').2 := by
  have hshift : logShift = 3072000 := rfl
  have hlen : bs.length = cells.length := by rw [hbs, List.length_map]
  have hlen' : bs'.length = cells.length := by rw [hbs', List.length_map]
  have hw := FlashChip.b3WriteDataBuff_wrote h.weak a bs (by omega)
  have hw' := FlashChip.b3WriteDataBuff_wrote h.weak' (a + logShift) bs' (by omega)
  have hsucc := FlashChip.b3WriteDataBuff_succ_iff h.weak a bs (by omega)
  have hsucc' := FlashChip.b3WriteDataBuff_succ_iff h.weak' (a + logShift) bs' (by omega)
  have hstores := h.mem.stores_iff hal hin
  rw [← hbs, ← hbs', ← hsucc, ← hsucc'] at hstores
  refine ⟨?_, ?_, ?_⟩
  · rw [hsucc, hbs, h.mem.verifies_iff hal hin]
  · cases hret : (c.b3WriteDataBuff a bs).1 with
    | SUCC => exact hstores.mp hret
    | FAIL =>
        cases hret' : (c'.b3WriteDataBuff (a + logShift) bs').1 with
        | FAIL => rfl
        | SUCC => exact absurd (hret.symm.trans (hstores.mpr hret')) (by decide)
  · exact
      { weak := hw.weak.trans h.weak
        weak' := hw'.weak.trans h.weak'
        mem := by
          rw [hw.mem, hw'.mem, hbs, hbs']
          exact h.mem.program hal }

end

end SwiftAcu.AppLog
