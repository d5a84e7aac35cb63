/-
The N25Q128 serial flash and its driver, `ic_n25q128.c`.

The chip holds 16 MiB behind three address bytes, so an address is taken modulo
`2 ^ 24`.  A page program clears bits only, `old & new`, and wraps inside its page
of 256 bytes; a sub-sector erase sets 4096 aligned bytes to `0xFF`.

Two fields of `FlashChip` are not in the part.  `weak` is the pattern of
programming failures still to come: each page program uses up one entry, and a
bit set in it is a bit that programming fails to clear.  `ops` is the record of
what the chip was told to do, newest first.
-/
import SwiftAcu.Lib.NorFlash
import SwiftAcu.Acu.Basic

namespace SwiftAcu

instance : NorFlash.Cell UInt8 where
  erased := 0xFF
  prog old new := old &&& new
  prog_erased new := by
    apply UInt8.toBitVec_inj.mp
    rw [UInt8.toBitVec_and]
    exact BitVec.allOnes_and

@[simp] theorem erased_eq : (NorFlash.erased : UInt8) = 0xFF := rfl

/-- `SPI_FLASH_SectorSize`. -/
abbrev spiFlashSectorSize : Nat := 4096

/-- `SPI_FLASH_PageSize`. -/
abbrev spiFlashPageSize : Nat := 256

/-- What the chip was told to do. -/
inductive FlashOp where
  | program (addr len : Nat)
  | erase (addr : Nat)
  deriving DecidableEq, Repr

def FlashOp.isErase : FlashOp → Bool
  | .program _ _ => false
  | .erase _ => true

structure FlashChip where
  id : UInt8 × UInt8 × UInt8
  mem : Nat → UInt8
  weak : List (Nat → UInt8)
  ops : List FlashOp

namespace FlashChip

/-- The address the three address bytes of a command carry. -/
def addr24 (addr : Nat) : Nat := addr % 2 ^ 24

/-- The chip's page program: the bytes go round inside the page of `addr`. -/
def pageProgram (m : Nat → UInt8) (addr : Nat) (buff : List UInt8) : Nat → UInt8 := fun x =>
  if x / 256 = addr / 256 then
    match buff[(x % 256 + (256 - addr % 256)) % 256]? with
    | some b => NorFlash.prog (m x) b
    | none => m x
  else m x

/-- The bytes that take effect when the bits of `w` fail to be cleared. -/
def weaken (w : Nat → UInt8) (buff : List UInt8) : List UInt8 :=
  buff.mapIdx fun i b => b ||| w i

/-- `MICRON_FLASH_B3PageWrite`. -/
def b3PageWrite (c : FlashChip) (addr : Nat) (buff : List UInt8) : FlashChip :=
  let buff := buff.take 256          -- if(len > 256) len = 256
  let sent := match c.weak with
    | [] => buff
    | w :: _ => weaken w buff
  { c with
    mem := pageProgram c.mem (addr24 addr) sent
    weak := c.weak.tail
    ops := .program (addr24 addr) buff.length :: c.ops }

/-- `MICRON_FLASH_B3SubSectorErase`. -/
def b3SubSectorErase (c : FlashChip) (addr : Nat) : FlashChip :=
  { c with
    mem := NorFlash.eraseSector spiFlashSectorSize c.mem (addr24 addr)
    ops := .erase (addr24 addr) :: c.ops }

/-- `MICRON_FLASH_B3ReadDataByte`. -/
def b3ReadDataByte (c : FlashChip) (addr : Nat) : UInt8 := c.mem (addr24 addr)

/-- `MICRON_FLASH_B3ReadDataBuff`: the chip counts the address up from the first byte. -/
def b3ReadDataBuff (c : FlashChip) (addr len : Nat) : List UInt8 :=
  (List.range len).map fun i => c.mem (addr24 (addr + i))

/-- `MICRON_FLASH_B3Read4ByteData`. -/
def b3Read4ByteData (c : FlashChip) (addr : Nat) : Nat :=
  ofBe32 (c.b3ReadDataByte addr) (c.b3ReadDataByte (addr + 1)) (c.b3ReadDataByte (addr + 2))
    (c.b3ReadDataByte (addr + 3))

/--
`while(len > SPI_FLASH_PageSize)` of `MICRON_FLASH_B3WriteDataBuff` and the write of
the rest after it.  Every round takes a page off `buff`, so its length is fuel enough.
-/
def writePages : Nat → FlashChip → Nat → List UInt8 → FlashChip
  | 0, c, _, _ => c
  | fuel + 1, c, flash_addr, buff =>
    if spiFlashPageSize < buff.length then
      writePages fuel (c.b3PageWrite flash_addr (buff.take spiFlashPageSize))
        (u32 (flash_addr + spiFlashPageSize)) (buff.drop spiFlashPageSize)
    else if 0 < buff.length then c.b3PageWrite flash_addr buff
    else c

/-- `while(checklen)` of `MICRON_FLASH_B3WriteDataBuff`: read back and compare. -/
def checkPages : Nat → FlashChip → Nat → List UInt8 → Ret
  | 0, _, _, _ => .SUCC
  | fuel + 1, c, flash_addr, src =>
    if src.length = 0 then .SUCC
    else if c.b3ReadDataBuff flash_addr (src.take spiFlashPageSize).length
        ≠ src.take spiFlashPageSize then .FAIL
    else checkPages fuel c (u32 (flash_addr + spiFlashPageSize)) (src.drop spiFlashPageSize)

/-- The programming half of `MICRON_FLASH_B3WriteDataBuff`. -/
def writeBuff (c : FlashChip) (addr : Nat) (buff : List UInt8) : FlashChip :=
  let first := spiFlashPageSize - addr % spiFlashPageSize
  if addr % spiFlashPageSize ≠ 0 ∧ first < buff.length then
    writePages buff.length (c.b3PageWrite addr (buff.take first)) (u32 (addr + first))
      (buff.drop first)
  else writePages buff.length c addr buff

/-- `MICRON_FLASH_B3WriteDataBuff`. -/
def b3WriteDataBuff (c : FlashChip) (addr : Nat) (buff : List UInt8) : Ret × FlashChip :=
  let c := c.writeBuff addr buff
  (checkPages buff.length c addr buff, c)

end FlashChip

end SwiftAcu
