/-
`APP_PARAM_Read` of `app_param_save_read.c` call by call, and the length that
`HW_EEPROM_ReadBuffer` of `hw_eeprom.c` goes by.

A call is handed its length in a variable of the caller.  It notes where the variable is, waits
for the bus, and then looks at it: fewer than two bytes are received by the processor, more of
them by the DMA.  The DMA goes on when the call has returned, and the interrupt at its end ends
the transfer on the bus and writes 0 to the place that was noted last.  It may come at any time,
also while a later call waits for the bus; the bus is free for that call only afterwards.
-/
import SwiftAcu.Acu.Param

namespace SwiftAcu.ParamRead

/-- What happens during a call of `HW_EEPROM_ReadBuffer`. -/
structure Event where
  /-- The interrupt of an earlier transfer comes when the length is set, but not yet looked at. -/
  late : Bool
  /-- A wait runs out. -/
  timeout : Bool
  /-- … which is the one for the STOP behind a single byte: the byte is stored by then. -/
  stop : Bool
  /-- What the length holds when the caller goes on. -/
  left : UInt32

/-- A call, and what it reads. -/
structure Request where
  readAddr : Nat
  /-- `index` of `&Readbuff[index]`. -/
  index : Nat
  /-- The length the caller has set. -/
  asked : Nat
  /-- How many bytes are read. -/
  read : Nat
  deriving DecidableEq

/-- The locals of `APP_PARAM_Read`, its buffer, and the calls it has made. -/
structure Locals where
  readlen : UInt32
  sunLen1 : UInt32
  index : UInt32
  aAddr : UInt16
  readbuff : Nat → UInt8
  calls : List Request

/-- `EEPROM_COMM_err_cnt`, and `link_stat` of `EEPROMInfo`. -/
structure CommStat where
  errCnt : UInt8
  linkStat : UInt8

abbrev commLink : UInt8 := 0

abbrev commUnlink : UInt8 := 1

/-- `*NumByteToRead` when the bus is free. -/
def Event.length (ev : Event) (sun_len1 : UInt32) : UInt32 := if ev.late then 0 else sun_len1

/-- How many bytes a length stands for. -/
def byteNum (NumByteToRead : UInt32) : UInt32 := if NumByteToRead < 2 then 1 else NumByteToRead

/-- The call `HW_EEPROM_ReadBuffer(a_addr, &Readbuff[index], &sun_len1)`. -/
def Locals.request (l : Locals) (ev : Event) : Request :=
  ⟨l.aAddr.toNat, l.index.toNat, l.sunLen1.toNat, (byteNum (ev.length l.sunLen1)).toNat⟩

/-- The bytes of a request, stored at its index. -/
def Request.store (m : Eeprom) (readbuff : Nat → UInt8) (q : Request) : Nat → UInt8 :=
  Memory.write readbuff q.index (Memory.read m q.readAddr q.read)

/-- `HW_EEPROM_ReadBuffer`; the address it is told lies in the lower half of the device. -/
def readBuffer (m : Eeprom) (ev : Event) (l : Locals) : Ret × Locals :=
  let q := l.request ev
  let stored := q.store m l.readbuff
  if ev.timeout then
    (.FAIL, { l with
      sunLen1 := ev.left
      readbuff := if ev.stop ∧ ev.length l.sunLen1 < 2 then stored else l.readbuff
      calls := l.calls ++ [q] })
  else (.SUCC, { l with sunLen1 := ev.left, readbuff := stored, calls := l.calls ++ [q] })

/-- `sun_len1` and `sun_len2`. -/
def sunLen (readlen : UInt32) : UInt32 := if 256 < readlen then 256 else readlen

theorem sunLen_pos_le {readlen : UInt32} (h : readlen ≠ 0) :
    0 < (sunLen readlen).toNat ∧ (sunLen readlen).toNat ≤ readlen.toNat := by
  have hpos : readlen.toNat ≠ 0 := fun hzero => h (UInt32.toNat_inj.mp hzero)
  unfold sunLen
  split
  · rename_i hlt
    exact ⟨by decide, Nat.le_of_lt (UInt32.lt_iff_toNat_lt.mp hlt)⟩
  · exact ⟨Nat.pos_of_ne_zero hpos, Nat.le_refl _⟩

/-- `while( readlen )`; `evs` has what happens during the first call, the second, …. -/
def loop (m : Eeprom) (evs : Nat → Event) (l : Locals) : Ret × Locals :=
  if l.readlen = 0 then (.SUCC, l)
  else
    let sun_len2 := sunLen l.readlen
    match readBuffer m (evs l.calls.length) { l with sunLen1 := sunLen l.readlen } with
    | (.FAIL, l) => (.FAIL, l)
    | (.SUCC, l') =>
      loop m evs { l' with
        aAddr := l.aAddr + sun_len2.toUInt16
        index := l.index + sun_len2
        readlen := l.readlen - sun_len2 }
termination_by l.readlen.toNat
decreasing_by
  have hne : l.readlen ≠ 0 := by assumption
  obtain ⟨hpos, hle⟩ := sunLen_pos_le hne
  rw [UInt32.toNat_sub_of_le _ _ (UInt32.le_iff_toNat_le.mpr hle)]
  omega

/-- `APP_PARAM_Read`; `stack` is what `sun_len1` holds before. -/
def paramRead (m : Eeprom) (evs : Nat → Event) (stack : UInt32) (addr : UInt16)
    (readbuff : Nat → UInt8) (len : UInt16) (s : CommStat) : Ret × Locals × CommStat :=
  match loop m evs ⟨len.toUInt32, stack, 0, addr, readbuff, []⟩ with
  | (.FAIL, l) =>
    let errCnt := s.errCnt + 1
    (.FAIL, l, { errCnt, linkStat := if 10 < errCnt then commUnlink else s.linkStat })
  | (.SUCC, l) => (.SUCC, l, { errCnt := 0, linkStat := commLink })

end SwiftAcu.ParamRead
