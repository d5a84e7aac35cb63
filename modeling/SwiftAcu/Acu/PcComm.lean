/-
The PC protocol, `app_pccomm.c`.

A datagram is checked and its payload copied over the front of `PCCOMMRxBuff`, which
nobody ever clears.  `APP_PCCOMM_CmdDeal` takes the command id from there, checks the
sender's authority, and calls the handler of the command; the handler reads its
parameters from the same buffer.

What a handler does with the bytes it has read is left to `PcHandlers`; which bytes
it reads, and when, is written out here for every command.  `PCHighAdminID` alone is
dealt with in full, in `Admin`.
-/
import SwiftAcu.Acu.Admin
import SwiftAcu.Lib.Reads

namespace SwiftAcu

/-! ### Commands -/

/-- The commands of `PCCOMMCmdDealTbl`. -/
inductive CmdId where
  | satParamSet | antennaParamSet | antennaParamAdjust | localParamSet | localParamSrcSelSet
  | sysDateTimeSet | sysDateTimeSrcSelSet | satDel | aimAtSatParamSet
  | antennaTurnDirAdjustBeginSet | antennaTurnDirAdjustFinishSet | antennaHardWareLimitSet
  | aimAtSatModeSel | antennaRecord | antennaSigleStepCtr | antennaDegreeCtr | antennaRecordGoto
  | antennaRecordDel | agcRecord | satSel | netWorkSet | pcHighAdmin | factoryReset
  | currSatParamQue | allSaveSatParamQue | antennaParamQue | antennaAdjustParamQue | localParamQue
  | devSysDateTimeQue | netWorkQue | aimAtSatTheoreticalDegreeQue | antennaRecordQue
  | motorSoftLimitQue | aimAtSatParamQue | devStaQue | devAdminQue | currWarnStaQue
  | warnLogQue | operationLogQue | versionQue
  deriving DecidableEq, Repr

/-- `enumCOMMCmdID`. -/
def CmdId.id : CmdId → Nat
  | .satParamSet => 0x0101
  | .antennaParamSet => 0x0102
  | .antennaParamAdjust => 0x0103
  | .localParamSet => 0x0104
  | .localParamSrcSelSet => 0x0105
  | .sysDateTimeSet => 0x0106
  | .sysDateTimeSrcSelSet => 0x0107
  | .satDel => 0x0108
  | .aimAtSatParamSet => 0x010A
  | .antennaTurnDirAdjustBeginSet => 0x010B
  | .antennaTurnDirAdjustFinishSet => 0x010C
  | .antennaHardWareLimitSet => 0x010E
  | .aimAtSatModeSel => 0x0201
  | .antennaRecord => 0x0202
  | .antennaSigleStepCtr => 0x0203
  | .antennaDegreeCtr => 0x0204
  | .antennaRecordGoto => 0x0206
  | .antennaRecordDel => 0x0207
  | .agcRecord => 0x0209
  | .satSel => 0x0211
  | .netWorkSet => 0x0215
  | .pcHighAdmin => pcHighAdminID
  | .factoryReset => 0x0221
  | .currSatParamQue => 0x0801
  | .allSaveSatParamQue => 0x0802
  | .antennaParamQue => 0x0803
  | .antennaAdjustParamQue => 0x0804
  | .localParamQue => 0x0805
  | .devSysDateTimeQue => 0x0806
  | .netWorkQue => 0x0807
  | .aimAtSatTheoreticalDegreeQue => 0x080A
  | .antennaRecordQue => 0x080B
  | .motorSoftLimitQue => 0x080C
  | .aimAtSatParamQue => 0x080E
  | .devStaQue => 0x0810
  | .devAdminQue => 0x0811
  | .currWarnStaQue => 0x0812
  | .warnLogQue => 0x0901
  | .operationLogQue => 0x0902
  | .versionQue => 0x0A01

/-- `PCCOMMCmdDealTbl`. -/
def pccommCmdDealTbl : List CmdId :=
  [.satParamSet, .antennaParamSet, .antennaParamAdjust, .localParamSet, .localParamSrcSelSet,
    .sysDateTimeSet, .sysDateTimeSrcSelSet, .satDel, .aimAtSatParamSet,
    .antennaTurnDirAdjustBeginSet, .antennaTurnDirAdjustFinishSet, .antennaHardWareLimitSet,
    .aimAtSatModeSel, .antennaRecord, .antennaSigleStepCtr, .antennaDegreeCtr, .antennaRecordGoto,
    .antennaRecordDel, .agcRecord, .satSel, .netWorkSet, .pcHighAdmin, .factoryReset,
    .currSatParamQue, .allSaveSatParamQue, .antennaParamQue, .antennaAdjustParamQue,
    .localParamQue, .devSysDateTimeQue, .netWorkQue, .aimAtSatTheoreticalDegreeQue,
    .antennaRecordQue, .motorSoftLimitQue, .aimAtSatParamQue, .devStaQue, .devAdminQue,
    .currWarnStaQue, .warnLogQue, .operationLogQue, .versionQue]

/-- The entry of `PCCOMMCmdDealTbl` for a command id. -/
def findCmd (cmd_id : Nat) : Option CmdId := pccommCmdDealTbl.find? fun c => c.id = cmd_id

/-- A command found is the command asked for. -/
theorem id_of_findCmd {cmd_id : Nat} {c : CmdId} (hc : findCmd cmd_id = some c) : c.id = cmd_id := by
  simpa using List.find?_some hc

namespace PcComm

/-! ### Frames -/

/-- `APP_PCCOMM_RxBuffCheck`. -/
def rxBuffCheck (buff : Nat → UInt8) (len : Nat) : Ret :=
  if buff 0 ≠ 0xBC then .FAIL
  else
    let datalen := (buff 1).toNat
    let len := if datalen + 4 < len then datalen + 4 else len
    if buff (len - 1) ≠ 0xCB then .FAIL
    else if checkSum8BitGet ((List.range (len - 2)).map buff) ≠ buff (len - 2) then .FAIL
    else .SUCC

/--
`APP_PCCOMM_RxBuffRecv` up to its last line: the bytes copied to `PCCOMMRxBuff`.  They
come from a buffer of zeros that the datagram was copied to.
-/
def rxBuffRecv (p : List UInt8) : Option (List UInt8) :=
  if p.length ≤ 255 then
    let buff := fun i => p.getD i 0
    match rxBuffCheck buff p.length with
    | .FAIL => none
    | .SUCC => some ((List.range (buff 1).toNat).map fun i => buff (2 + i))
  else none

/-- `bs` over the memory `m`, from `a` on. -/
def overlay (m : Nat → UInt8) (a : Nat) (bs : List UInt8) : Nat → UInt8 := fun i =>
  if a ≤ i ∧ i < a + bs.length then bs.getD (i - a) 0 else m i

/-- The static data of `app_pccomm.c`, and the datagrams it has sent. -/
structure Buffers where
  /-- `PCCOMMRxBuff`. -/
  rxBuff : Nat → UInt8
  /-- `PCCOMMTxBuff`; the data of a frame starts at its third byte. -/
  txBuff : Nat → UInt8
  /-- `PCCOMMTx.datalen`. -/
  txDatalen : UInt8
  /-- `AntennaDir`. -/
  antennaDir : UInt16
  sent : List (List UInt8)

/-- The data of a frame from its third byte on, with its length. -/
def Buffers.fill (b : Buffers) (data : List UInt8) : Buffers :=
  { b with txBuff := overlay b.txBuff 2 data, txDatalen := UInt8.ofNat data.length }

/-- `APP_PCCOMM_TxBuffSend`.  The checksum is taken over the bytes in front of it. -/
def Buffers.txBuffSend (b : Buffers) : Buffers :=
  let front := [0xBC, b.txDatalen] ++
    (List.range b.txDatalen.toNat).map fun i => b.txBuff (2 + i)
  let frame := front ++ [checkSum8BitGet front, 0xCB]
  { b with txBuff := overlay b.txBuff 0 frame, sent := b.sent ++ [frame] }

/-- The two bytes that answer a command id. -/
def answerId (cmd_id : Nat) : List UInt8 :=
  [UInt8.ofNat (((cmd_id ||| 0x8000) &&& 0xFF00) >>> 8),
    UInt8.ofNat ((cmd_id ||| 0x8000) &&& 0x00FF)]

/-- `APP_PCCOMM_SetResult_Send`. -/
def Buffers.setResultSend (b : Buffers) (cmd_id : Nat) (status : Ret) : Buffers :=
  (b.fill (answerId cmd_id ++ [1, if status = .SUCC then 0 else 1])).txBuffSend

/-! ### What a handler reads -/

/-- The cells a handler can read: the receive buffer, and the halves of `AntennaDir`. -/
inductive Cell where
  | rx (i : Nat)
  | antennaDir (high : Bool)
  deriving DecidableEq, Repr

/-- A handler as far as it reads. -/
abbrev Handler := Reads Cell UInt8

/-- What the cells hold. -/
def Buffers.cells (b : Buffers) : Cell → UInt8
  | .rx i => b.rxBuff i
  | .antennaDir high => if high then (b.antennaDir >>> 8).toUInt8 else b.antennaDir.toUInt8

/-- The `n` bytes `rxbuff[i]` … -/
def rxBytes (i n : Nat) (next : List UInt8 → Handler) : Handler :=
  Reads.cells ((List.range n).map fun j => .rx (i + j)) next

/-- `cmdlen != n` refuses the command. -/
def cmdlenIs (n : UInt8) (next : Handler) : Handler :=
  .read (.rx 2) fun cmdlen => if cmdlen ≠ n then .done else next

/-- The first `n` bytes of `pbuff`. -/
def pbuff (n : Nat) : Handler := rxBytes 3 n fun _ => .done

/-- `while(cmdlen)`: one byte of `pbuff` for each round. -/
def pbuffCmdlen : Handler := .read (.rx 2) fun cmdlen => pbuff cmdlen.toNat

/-- `SAT_MAX_NUM`. -/
abbrev satMaxNum : UInt16 := 100

section
variable {ρ : Type} (s : AcuRest ρ)

/-- `APP_PCCOMM_SatParamSet`: a full list takes no new satellite. -/
def satParamSet : Handler :=
  cmdlenIs 0x1B (.read (.rx 3) fun id =>
    if id = 0x00 ∧ satMaxNum ≤ s.satTotalNum then .done else rxBytes 4 26 fun _ => .done)

/-- `APP_PCCOMM_AntennaParamSet`: type 0 has no offset angle. -/
def antennaParamSet : Handler :=
  .read (.rx 3) fun type =>
    if type = 0x00 then rxBytes 8 7 fun _ => .done else rxBytes 4 11 fun _ => .done

/-- `APP_PCCOMM_SysDateTimeSet`: a valid GPS time (`'A'`) stands. -/
def sysDateTimeSet : Handler := cmdlenIs 7 (if s.gpsValid = 0x41 then .done else pbuff 7)

/-- `APP_PCCOMM_AntennaTurnDirAdjustBegin`. -/
def antennaTurnDirAdjustBegin : Handler :=
  .read (.rx 3) fun antenna_part =>
    if antenna_part ≠ 1 ∧ antenna_part ≠ 2 ∧ antenna_part ≠ 3 then .done
    else .read (.rx 4) fun _ => .done

/-- `APP_PCCOMM_AntennaTurnDirAdjustFinish`: a valid direction is compared with `AntennaDir`. -/
def antennaTurnDirAdjustFinish : Handler :=
  .read (.rx 3) fun _ => .read (.rx 4) fun antenna_dir =>
    if antenna_dir = 0x01 ∨ antenna_dir = 0x02 then
      .read (.antennaDir true) fun _ => .read (.antennaDir false) fun _ => .done
    else .done

/-- `APP_PCCOMM_AntennaSigleStepCtr`. -/
def antennaSigleStepCtr : Handler :=
  if s.seekSatMode ≠ 0x01 then .done else cmdlenIs 2 (pbuff 2)

/-- `APP_PCCOMM_AntennaTurnCtr`. -/
def antennaTurnCtr : Handler :=
  if s.seekSatMode ≠ 0x01 then .done
  else .read (.rx 2) fun cmdlen =>
    if cmdlen = 0 then .done else if cmdlen ≠ 12 then .done else pbuff 12

/-- `APP_PCCOMM_NetWorkSet`: a mask that ends in 255 is refused before the gateway is read. -/
def netWorkSet : Handler :=
  cmdlenIs 12 (rxBytes 3 8 fun ip_mask =>
    if ip_mask.getD 7 0 = 0xFF then .done else rxBytes 11 4 fun _ => .done)

/-- The handler of a command, as far as it reads behind the command id. -/
def handler : CmdId → Handler
  | .satParamSet => satParamSet s
  | .antennaParamSet => antennaParamSet
  | .localParamSet => cmdlenIs 0x0E (pbuff 14)
  | .localParamSrcSelSet => cmdlenIs 1 (pbuff 1)
  | .sysDateTimeSet => sysDateTimeSet s
  | .sysDateTimeSrcSelSet => cmdlenIs 1 (pbuff 1)
  | .satDel => pbuffCmdlen
  | .aimAtSatParamSet => pbuff 4
  | .antennaTurnDirAdjustBeginSet => antennaTurnDirAdjustBegin
  | .antennaTurnDirAdjustFinishSet => antennaTurnDirAdjustFinish
  | .antennaHardWareLimitSet => pbuff 1
  | .aimAtSatModeSel => cmdlenIs 1 (pbuff 1)
  | .antennaRecord => cmdlenIs 0 .done
  | .antennaSigleStepCtr => antennaSigleStepCtr s
  | .antennaDegreeCtr => antennaTurnCtr s
  | .antennaRecordGoto => pbuff 1
  | .antennaRecordDel => pbuffCmdlen
  | .agcRecord => cmdlenIs 0 .done
  | .satSel => cmdlenIs 1 (pbuff 1)
  | .netWorkSet => netWorkSet
  | .pcHighAdmin => cmdlenIs 1 (pbuff 1)
  | .warnLogQue => pbuff 4
  | .operationLogQue => pbuff 4
  | _ => .done

end

/-! ### What a handler does -/

/-- What a handler comes to. -/
structure Answer (ρ : Type) where
  status : Ret
  rest : AcuRest ρ
  /-- Datagrams it has sent itself, put together in `PCCOMMTxBuff`. -/
  sends : List (List UInt8)
  /-- What it has left at the front of `PCCOMMTxBuff`. -/
  scratch : List UInt8
  /-- What it has put in `txbuff` and counted in `txbufflen`; `none` if it returned before. -/
  reply : Option (List UInt8)
  /-- What it has put in `AntennaDir`. -/
  antennaDir : Option UInt16

/-- `(cmd_id & 0xFF00)` is one of the classes that are answered from `PCCOMMTx`. -/
def IsQuery (cmd_id : Nat) : Prop :=
  cmd_id &&& 0xFF00 = 0x0800 ∨ cmd_id &&& 0xFF00 = 0x0A00 ∨ cmd_id &&& 0xFF00 = 0x0900

instance (cmd_id : Nat) : Decidable (IsQuery cmd_id) := inferInstanceAs (Decidable (_ ∨ _ ∨ _))

/-- `(cmd_id & 0xFF00)` is one of the classes that are answered with a result. -/
def IsSet (cmd_id : Nat) : Prop :=
  cmd_id &&& 0xFF00 = 0x0100 ∨ cmd_id &&& 0xFF00 = 0x0200

instance (cmd_id : Nat) : Decidable (IsSet cmd_id) := inferInstanceAs (Decidable (_ ∨ _))

/-- Whether the handler of a query fills its reply. -/
def FillsReply {ρ : Type} (c : CmdId) (s : AcuRest ρ) : Prop :=
  c ≠ .antennaAdjustParamQue ∧ (c = .antennaRecordQue → s.recordsReadable = true)

/--
What the handlers do with what they have read.  A handler sees the whole device and
writes everything but the control of it.  All queries fill their reply but two:
`APP_PCCOMM_AntennaAdjustParamQue` never does, and `APP_PCCOMM_AntennaRecordQue` gives
up at a record that the EEPROM does not answer.
-/
structure PcHandlers (ρ : Type) where
  deal : CmdId → List UInt8 → Acu ρ → Answer ρ
  fills : ∀ c args a, IsQuery c.id → ((deal c args a).reply.isSome ↔ FillsReply c a.rest)

instance {ρ : Type} (c : CmdId) (s : AcuRest ρ) : Decidable (FillsReply c s) :=
  inferInstanceAs (Decidable (_ ∧ (_ → _)))

/-- Handlers that do nothing but fill their replies. -/
instance {ρ : Type} : Inhabited (PcHandlers ρ) where
  default :=
    { deal := fun c _ a =>
        { status := .SUCC
          rest := a.rest
          sends := []
          scratch := []
          reply := if FillsReply c a.rest then some [] else none
          antennaDir := none }
      fills := by
        intro c args a hquery
        dsimp only
        split <;> simp [*] }

/-! ### Dispatch -/

section
variable {ρ : Type}

def setMcuBusy (busy : UInt8) (a : Acu ρ) : Acu ρ :=
  { a with pcCommStat := { a.pcCommStat with mcuBusy := busy } }

/-- A command of class 1 or 2, other than `PCHighAdminID`, from a PC that is not in control. -/
def Refused (cmd_id : Nat) (a : Acu ρ) : Prop :=
  (cmd_id &&& 0x0F00 = 0x0100 ∨ cmd_id &&& 0x0F00 = 0x0200) ∧ cmd_id ≠ pcHighAdminID ∧
    (a.pcCommStat.dstIpAddr ≠ a.devAdmin.pcAdminIpAddr ∨ a.devAdmin.adminSta ≠ 0x01)

instance (cmd_id : Nat) (a : Acu ρ) : Decidable (Refused cmd_id a) :=
  inferInstanceAs (Decidable (_ ∧ _ ∧ _))

/-- The buffers after a handler. -/
def Buffers.after (b : Buffers) (r : Answer ρ) : Buffers :=
  let b := { b with
    txBuff := overlay b.txBuff 0 r.scratch
    antennaDir := r.antennaDir.getD b.antennaDir
    sent := b.sent ++ r.sends }
  match r.reply with
  | some data => b.fill data
  | none => b

/-- `PCCOMMCmdDealTbl[i].APP_PCCOMM_Func_Deal`. -/
def funcDeal (h : PcHandlers ρ) (c : CmdId) (a : Acu ρ) (b : Buffers) : Ret × Acu ρ × Buffers :=
  if c = .pcHighAdmin then
    let s := Admin.pcAdminSet b.rxBuff a
    (s.1, s.2, b)
  else
    let r := h.deal c ((handler a.rest c).values b.cells) a
    (r.status, { a with rest := r.rest }, b.after r)

/-- How a command is answered when its handler has returned. -/
def Buffers.answer (b : Buffers) (cmd_id : Nat) (status : Ret) : Buffers :=
  if IsSet cmd_id then b.setResultSend cmd_id status
  else if IsQuery cmd_id then b.txBuffSend
  else b

/-- `APP_PCCOMM_CmdDeal`. -/
def cmdDeal (h : PcHandlers ρ) (a : Acu ρ) (b : Buffers) : Ret × Acu ρ × Buffers :=
  let cmd_id := cmdIdOf b.rxBuff
  let a := setMcuBusy 1 a
  if Refused cmd_id a then (.FAIL, a, b.setResultSend cmd_id .FAIL)
  else
    match findCmd cmd_id with
    | none => (.FAIL, setMcuBusy 0 a, b)
    | some c =>
      let s := funcDeal h c a b
      (s.1, setMcuBusy 0 s.2.1, s.2.2.answer cmd_id s.1)

/-- `APP_PCCOMM_Deal`. -/
def deal (h : PcHandlers ρ) (a : Acu ρ) (b : Buffers) (p : List UInt8) : Ret × Acu ρ × Buffers :=
  match rxBuffRecv p with
  | none => (.FAIL, a, b)
  | some data => cmdDeal h a { b with rxBuff := overlay b.rxBuff 0 data }

end

end PcComm

end SwiftAcu
