/-
The AT24CM01 and its driver, `hw_eeprom.c`.

The device holds 2^17 bytes.  Bit 1 of the device address selects the upper half of
them and two address bytes the byte in that half.  A page write goes round inside
its page of 256 bytes and is stored at the STOP; a read counts on through the whole
device.

The bus is `busy` from a START to the next STOP, and while it is, every transfer runs
into its timeout; no timeout runs out on a transfer that goes on.  Until the driver has
polled the device after a write, the device is in its write `cycle` and acknowledges
nothing.  `sent` is the record of the page writes that reached the device, newest first,
each with the device's own address of its first byte.
-/
import SwiftAcu.Acu.Basic
import SwiftAcu.Lib.Memory

namespace SwiftAcu

/-- `sEE_PAGESIZE`. -/
abbrev sEEPageSize : Nat := 256

/-- `sEEAddress`, as `HW_EEPROM_Init` sets it. -/
def sEEAddress : UInt8 := 0xA0

structure EepromChip where
  mem : Nat → UInt8
  busy : Bool
  cycle : Bool
  /-- `sEEDataNum`, an `INT8U` that the DMA interrupt clears through `sEEDataWritePointer`. -/
  sEEDataNum : UInt8
  sent : List (Nat × List UInt8)

namespace EepromChip

/-- `dev_addr` of `HW_EEPROM_ReadBuffer` and of `HW_EEPROM_WritePage`. -/
def devAddr (addr : Nat) : UInt8 :=
  if addr &&& 0x10000 ≠ 0 then sEEAddress ||| 0x02 else sEEAddress &&& ~~~0x02

/-- The byte a device address and two address bytes select. -/
def cell (dev_addr high low : UInt8) : Nat :=
  (if dev_addr &&& 0x02 ≠ 0 then 2 ^ 16 else 0) + high.toNat * 256 + low.toNat

/-- `I2C_Send7bitAddress` and the two `I2C_SendData` of an address. -/
def select (dev_addr : UInt8) (addr : Nat) : Nat :=
  cell dev_addr (UInt8.ofNat ((addr &&& 0xFF00) >>> 8)) (UInt8.ofNat addr)

/--
`HW_EEPROM_ReadBuffer`, with the bytes the device sends.  One byte is received by the
processor and more of them by the DMA.
-/
def readBuffer (e : EepromChip) (ReadAddr NumByteToRead : Nat) : Ret × List UInt8 × EepromChip :=
  if e.busy then (.FAIL, [], e)
  else if e.cycle then (.FAIL, [], { e with busy := true })
  else
    let first := select (devAddr ReadAddr) ReadAddr
    if NumByteToRead < 2 then (.SUCC, [e.mem first], e)
    else (.SUCC, (List.range NumByteToRead).map fun i => e.mem ((first + i) % 2 ^ 17), e)

/--
`HW_EEPROM_WritePage` with `NumByteToWrite = &sEEDataNum`, and the DMA interrupt at its end.
The address phase sends `sEEAddress`.  A DMA of no bytes never completes, so there is no
STOP after it.
-/
def writePage (e : EepromChip) (WriteAddr : Nat) (pBuffer : List UInt8) : Ret × EepromChip :=
  if e.busy then (.FAIL, e)
  else if e.cycle then (.FAIL, { e with busy := true })
  else
    let first := select sEEAddress WriteAddr
    let data := pBuffer.take e.sEEDataNum.toNat
    if e.sEEDataNum = 0 then (.SUCC, { e with busy := true })
    else (.SUCC, { e with
      mem := Memory.pageWrite sEEPageSize e.mem first data
      cycle := true
      sEEDataNum := 0
      sent := (first, data) :: e.sent })

/-- `HW_EEPROM_WaitEepromStandbyState`: poll until the device acknowledges again. -/
def waitEepromStandbyState (e : EepromChip) : Ret × EepromChip :=
  if e.busy then (.FAIL, e) else (.SUCC, { e with cycle := false })

/--
`sEEDataNum = num; HW_EEPROM_WritePage(..); while(sEEDataNum > 0) ..;
HW_EEPROM_WaitEepromStandbyState();`, with the value returned if the wait runs out.
Neither call's result is looked at.
-/
def sendPage (e : EepromChip) (WriteAddr : Nat) (pBuffer : List UInt8) (num : UInt8) :
    Option Ret × EepromChip :=
  let e := ({ e with sEEDataNum := num }.writePage WriteAddr pBuffer).2
  if 0 < e.sEEDataNum then (some .FAIL, e)
  else (none, e.waitEepromStandbyState.2)

/-- Go on unless a value was returned. -/
def andThen (r : Option Ret × EepromChip) (k : EepromChip → Option Ret × EepromChip) :
    Option Ret × EepromChip :=
  match r.1 with
  | some ret => (some ret, r.2)
  | none => k r.2

/-- `while(NumOfPage--)` of `HW_EEPROM_WriteBuffer` and the write of `NumOfSingle` bytes after it. -/
def writePages (NumOfSingle : UInt8) : Nat → Nat → List UInt8 → EepromChip → Option Ret × EepromChip
  | 0, WriteAddr, pBuffer, e =>
    if NumOfSingle ≠ 0 then e.sendPage WriteAddr pBuffer NumOfSingle else (none, e)
  | NumOfPage + 1, WriteAddr, pBuffer, e =>
    andThen (e.sendPage WriteAddr pBuffer (UInt8.ofNat sEEPageSize))
      (writePages NumOfSingle NumOfPage (u32 (WriteAddr + sEEPageSize)) (pBuffer.drop sEEPageSize))

/-- `HW_EEPROM_WriteBuffer`.  It returns a value only where a wait runs out. -/
def writeBuffer (e : EepromChip) (WriteAddr : Nat) (pBuffer : List UInt8) (NumByteToWrite : Nat) :
    Option Ret × EepromChip :=
  let Addr := WriteAddr % sEEPageSize
  let count : UInt8 := .ofNat (sEEPageSize - Addr)
  let NumOfPage : UInt8 := .ofNat (NumByteToWrite / sEEPageSize)
  let NumOfSingle : UInt8 := .ofNat (NumByteToWrite % sEEPageSize)
  if Addr = 0 then
    if NumOfPage = 0 then e.sendPage WriteAddr pBuffer NumOfSingle
    else writePages NumOfSingle NumOfPage.toNat WriteAddr pBuffer e
  else if NumOfPage = 0 then
    if count.toNat < NumByteToWrite then
      andThen (e.sendPage WriteAddr pBuffer count) fun e =>
        e.sendPage (u32 (WriteAddr + count.toNat)) (pBuffer.drop count.toNat)
          (.ofNat (NumByteToWrite - count.toNat))
    else e.sendPage WriteAddr pBuffer NumOfSingle
  else
    let NumByteToWrite := NumByteToWrite - count.toNat
    let NumOfPage : UInt8 := .ofNat (NumByteToWrite / sEEPageSize)
    let NumOfSingle : UInt8 := .ofNat (NumByteToWrite % sEEPageSize)
    if count ≠ 0 then
      andThen (e.sendPage WriteAddr pBuffer count)
        (writePages NumOfSingle NumOfPage.toNat (u32 (WriteAddr + count.toNat))
          (pBuffer.drop count.toNat))
    else writePages NumOfSingle NumOfPage.toNat WriteAddr pBuffer e

end EepromChip

end SwiftAcu
