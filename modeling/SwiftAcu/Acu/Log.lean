/-
The flash logs, `app_log.c`.

Two logs share the flash.  Each has an info ring of 32-byte slots, one slot for
each save, and a data region where the records follow one another; a record ends
in a pointer to the record before it.  `APP_OptLOG_Save2Flash` and
`APP_WarnLOG_Save2Flash` are the same 170 lines over two sets of addresses, and so
are the two halves of `APP_LOG_Init`, so each is written once over a `LogRegion`.
-/
import SwiftAcu.Acu.Flash

namespace SwiftAcu

/-- The four addresses that place a log in the flash. -/
structure LogRegion where
  infoBegin : Nat
  infoEnd : Nat
  dataBegin : Nat
  dataEnd : Nat
  deriving DecidableEq, Repr

/-- `OPTLOG_INFO_FLASH_ADDR_BEGIN` … `OPTLOG_FLASH_ADDR_END`. -/
def optRegion : LogRegion where
  infoBegin := 0x00000000
  infoEnd := 0x000FA000
  dataBegin := 0x000FA000
  dataEnd := 0x002EE000

/-- `WARNLOG_INFO_FLASH_ADDR_BEGIN` … `WARNLOG_FLASH_ADDR_END`. -/
def warnRegion : LogRegion where
  infoBegin := 0x002EE000
  infoEnd := 0x003E8000
  dataBegin := 0x003E8000
  dataEnd := 0x005DC000

/-- `LOG_SYS_RECORD_SIZE`. -/
abbrev logSysRecordSize : Nat := 32

/-- `strLogInfo`. -/
@[ext] structure LogInfo where
  logSysAddr : Nat
  logTotalNum : Nat
  currlogAddr : Nat
  currlogSize : Nat
  currlogIndex : Nat
  beforelogAddr : Nat
  beforelogIndex : Nat
  beforelogSize : Nat
  deriving DecidableEq, Repr

/-- `COMM_LINK`. -/
abbrev commLink : UInt8 := 0

/-- `COMM_UNLINK`. -/
abbrev commUnlink : UInt8 := 1

namespace AppLog

/-- `addr & 0xFFFFF000`. -/
def subSector (addr : Nat) : Nat := addr &&& 0xFFFFF000

/-! ### Saving one record -/

/--
Where the save first looks for room.  The range test against both ends of the data
region that opens the C function is overwritten in either branch below it; what is
left is the test against the end.
-/
def nextDataAddr (r : LogRegion) (info : LogInfo) : Nat :=
  if info.logTotalNum = 0 then r.dataBegin
  else
    let flash_addr := u32 (info.currlogAddr + info.currlogSize)
    if r.dataEnd ≤ flash_addr then r.dataBegin else flash_addr

/-- The index of the record being saved. -/
def nextIndex (info : LogInfo) : Nat :=
  if info.logTotalNum = 0 then 1 else u32 (info.currlogIndex + 1)

/-- The first record of an empty log is loaded as its own predecessor. -/
def preload (r : LogRegion) (info : LogInfo) (log_size : Nat) : LogInfo :=
  if info.logTotalNum = 0 then
    { info with currlogAddr := r.dataBegin, currlogIndex := 1, currlogSize := log_size }
  else info

/--
Make room at `flash_addr`: erase the next sub-sector when the record ends in it, and
go one sub-sector up when the range is not blank even so.
-/
def reserve (c : FlashChip) (flash_addr log_size : Nat) : Nat × FlashChip :=
  let c := if subSector (u32 (flash_addr + log_size)) ≠ subSector flash_addr then
      c.b3SubSectorErase (u32 (flash_addr + log_size))
    else c
  if (c.b3ReadDataBuff flash_addr log_size).all (· == 0xFF) then (flash_addr, c)
  else
    let flash_addr := u32 (flash_addr + spiFlashSectorSize)
    (flash_addr, c.b3SubSectorErase flash_addr)

/-- A log record up to its checksum. -/
def recordBody (log_size index : Nat) (now : SysDateTime) (buff : List UInt8)
    (prevAddr prevSize : Nat) : List UInt8 :=
  [0xBC] ++ be32 log_size ++ be32 index ++ dateTime2Bytebuff now ++ buff ++ be32 prevAddr ++
    be32 prevSize

/-- A log record as it is programmed. -/
def record (log_size index : Nat) (now : SysDateTime) (buff : List UInt8)
    (prevAddr prevSize : Nat) : List UInt8 :=
  recordBody log_size index now buff prevAddr prevSize ++
    [checkSum8BitGet (recordBody log_size index now buff prevAddr prevSize), 0xCB]

/-- An info slot as it is programmed. -/
def infoRecord (info : LogInfo) : List UInt8 :=
  [0xBC] ++ be32 info.logTotalNum ++ be32 info.currlogIndex ++ be32 info.currlogAddr ++
    be32 info.currlogSize ++ be32 info.beforelogIndex ++ be32 info.beforelogAddr ++
    be32 info.beforelogSize ++ [0xCB]

/-- `OptLogInfo` once the data record is in flash. -/
def advance (r : LogRegion) (info : LogInfo) (flash_addr index log_size : Nat) : LogInfo :=
  let total := u32 (info.logTotalNum + 1)
  let sys := if 1 < total then u32 (info.logSysAddr + logSysRecordSize) else r.infoBegin
  { logSysAddr := if r.infoEnd ≤ sys then r.infoBegin else sys
    logTotalNum := total
    currlogAddr := flash_addr
    currlogSize := log_size
    currlogIndex := index
    beforelogAddr := info.currlogAddr
    beforelogIndex := info.currlogIndex
    beforelogSize := info.currlogSize }

/-- The half of a save that writes the data record. -/
def writeData (r : LogRegion) (info : LogInfo) (c : FlashChip) (now : SysDateTime)
    (buff : List UInt8) : Ret × Nat × FlashChip :=
  let log_size := buff.length + 26
  let room := reserve c (nextDataAddr r info) log_size
  let info := preload r info log_size
  let written := room.2.b3WriteDataBuff room.1
    (record log_size (nextIndex info) now buff info.currlogAddr info.currlogSize)
  (written.1, room.1, written.2)

/-- The half of a save that writes the info slot, with the one retry in the slot after it. -/
def writeInfo (info : LogInfo) (c : FlashChip) : Ret × LogInfo × FlashChip :=
  let flash_addr := info.logSysAddr
  let c := if subSector (u32 (flash_addr + logSysRecordSize)) ≠ subSector flash_addr then
      c.b3SubSectorErase (u32 (flash_addr + logSysRecordSize))
    else c
  match c.b3WriteDataBuff flash_addr (infoRecord info) with
  | (.SUCC, c) => (.SUCC, { info with logSysAddr := flash_addr }, c)
  | (.FAIL, c) =>
    let flash_addr := u32 (flash_addr + logSysRecordSize)
    match c.b3WriteDataBuff flash_addr (infoRecord info) with
    | (.SUCC, c) => (.SUCC, { info with logSysAddr := flash_addr }, c)
    | (.FAIL, c) => (.FAIL, info, c)

/-- The common text of `APP_OptLOG_Save2Flash` and `APP_WarnLOG_Save2Flash`. -/
def save2Flash (r : LogRegion) (commStat : UInt8) (info : LogInfo) (c : FlashChip)
    (now : SysDateTime) (buff : List UInt8) : Ret × LogInfo × FlashChip :=
  if commStat = commUnlink then (.FAIL, info, c)
  else
    let log_size := buff.length + 26
    match writeData r info c now buff with
    | (.FAIL, _, c) => (.FAIL, preload r info log_size, c)
    | (.SUCC, flash_addr, c) =>
      writeInfo (advance r (preload r info log_size) flash_addr (nextIndex info) log_size) c

/-! ### The controller's two logs -/

/-- What the log functions read and write of the device. -/
structure Board where
  /-- `SPIFlashInfo.comm_stat`. -/
  commStat : UInt8
  optLogInfo : LogInfo
  warnLogInfo : LogInfo
  flash : FlashChip

/-- `APP_OptLOG_Save2Flash`. -/
def optLogSave2Flash (b : Board) (now : SysDateTime) (buff : List UInt8) : Ret × Board :=
  let s := save2Flash optRegion b.commStat b.optLogInfo b.flash now buff
  (s.1, { b with optLogInfo := s.2.1, flash := s.2.2 })

/-- `APP_WarnLOG_Save2Flash`. -/
def warnLogSave2Flash (b : Board) (now : SysDateTime) (buff : List UInt8) : Ret × Board :=
  let s := save2Flash warnRegion b.commStat b.warnLogInfo b.flash now buff
  (s.1, { b with warnLogInfo := s.2.1, flash := s.2.2 })

/-! ### Start-up -/

/-- The eight fields `APP_LOG_Init` takes from the slot at `addr`. -/
def readInfoSlot (c : FlashChip) (addr : Nat) : LogInfo where
  logSysAddr := addr
  logTotalNum := c.b3Read4ByteData (addr + 1)
  currlogIndex := c.b3Read4ByteData (addr + 5)
  currlogAddr := c.b3Read4ByteData (addr + 9)
  currlogSize := c.b3Read4ByteData (addr + 13)
  beforelogIndex := c.b3Read4ByteData (addr + 17)
  beforelogAddr := c.b3Read4ByteData (addr + 21)
  beforelogSize := c.b3Read4ByteData (addr + 25)

/-- How the scan of an info ring ends. -/
inductive ScanEnd where
  | done (info : LogInfo)
  | corrupt (info : LogInfo)
  deriving DecidableEq, Repr

/--
The scan of an info ring from the slot at `addr`, with the slots still to come
before the end of the ring.
-/
def scanRing (c : FlashChip) : Nat → Nat → LogInfo → ScanEnd
  | 0, _, info => .done info
  | slots + 1, addr, info =>
    let head := c.b3ReadDataByte addr
    let tail := c.b3ReadDataByte (addr + 29)
    if head = 0xBC ∧ tail = 0xCB then
      scanRing c slots (addr + logSysRecordSize) (readInfoSlot c addr)
    else if head = 0xFF ∧ tail = 0xFF then .done info
    else if head ≠ 0xFF then .corrupt info
    else .done info

/-- `memset(&OptLogInfo,0,sizeof(OptLogInfo))`. -/
def zeroInfo : LogInfo := ⟨0, 0, 0, 0, 0, 0, 0, 0⟩

/-- The defaults of a log without records. -/
def initDefaults (r : LogRegion) (info : LogInfo) : LogInfo :=
  if info.logTotalNum = 0 then
    { info with
      currlogAddr := r.dataBegin
      currlogIndex := 1
      currlogSize := 0
      logSysAddr := r.infoBegin }
  else info

/-- What one half of `APP_LOG_Init` comes to. -/
inductive RingInit where
  | ready (info : LogInfo) (c : FlashChip) (unlink : Bool)
  | softReset (c : FlashChip)

/-- One half of `APP_LOG_Init`: scan the ring, repair a corrupt one, set the defaults. -/
def initRing (r : LogRegion) (c : FlashChip) : RingInit :=
  match scanRing c ((r.infoEnd - r.infoBegin) / logSysRecordSize) r.infoBegin zeroInfo with
  | .done info => .ready (initDefaults r info) c false
  | .corrupt info =>
    match (c.b3SubSectorErase r.infoBegin).b3WriteDataBuff r.infoBegin (infoRecord info) with
    | (.SUCC, c) => .softReset c
    | (.FAIL, c) =>
      match (c.b3SubSectorErase r.infoBegin).b3WriteDataBuff r.infoBegin (infoRecord info) with
      | (.SUCC, c) => .softReset c
      | (.FAIL, c) => .ready (initDefaults r info) c true

/-- What `APP_LOG_Init` comes to: the controller runs, or it has reset itself. -/
inductive Boot where
  | running (b : Board)
  | softReset (c : FlashChip)

/-- `APP_LOG_Init`. -/
def logInit (c : FlashChip) : Boot :=
  let commStat := if c.id = (0x20, 0xBA, 0x18) then commLink else commUnlink
  match initRing optRegion c with
  | .softReset c => .softReset c
  | .ready opt c optUnlink =>
    match initRing warnRegion c with
    | .softReset c => .softReset c
    | .ready warn c warnUnlink =>
      .running
        { commStat := if optUnlink || warnUnlink then commUnlink else commStat
          optLogInfo := opt
          warnLogInfo := warn
          flash := c }

/-! ### Reading one record -/

/-- What `APP_LOG_Read1Log` comes to. -/
inductive Read1Log where
  | fail
  | succ (logbuff : List UInt8) (len : UInt8)
  /-- A byte outside `logbuff[256]` is read or written. -/
  | overrun
  deriving DecidableEq, Repr

/-- `APP_LOG_Read1Log`, called with a `logbuff` of 256 bytes. -/
def read1Log (commStat : UInt8) (info : LogInfo) (c : FlashChip) (logbuff : List UInt8) :
    Read1Log :=
  if commStat = commUnlink then .fail
  else if info.currlogSize = 0 ∨ 1000 < info.currlogSize then .fail
  else if 256 < info.currlogSize then .overrun
  else
    let logbuff := c.b3ReadDataBuff info.currlogAddr info.currlogSize ++
      logbuff.drop info.currlogSize
    if logbuff[0]? ≠ some 0xBC then .fail
    else if info.currlogSize < 2 then .overrun      -- currlog_size-2 wraps
    else if some (checkSum8BitGet (logbuff.take (info.currlogSize - 2))) ≠
        logbuff[info.currlogSize - 2]? then .fail
    else .succ logbuff (UInt8.ofNat info.currlogSize)

end AppLog

end SwiftAcu
