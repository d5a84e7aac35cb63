/-
Requests and their answers: `…_CmdDeal` and `…_Deal` of `app_pccomm.c` and
`app_oledcomm.c`, as far as the transmit buffer is concerned.

A request comes upon the device in some state; what it does to it is not followed here,
so that the device is whatever it is when the next request comes.  What goes on from one
request to the next is the receive buffer, the transmit buffer and the length of the last
reply.  `none` is a query that reads or copies outside a buffer, behind which nothing is
known.
-/
import SwiftAcu.Acu.Query
import SwiftAcu.Lib.Runs

namespace SwiftAcu.Reply

variable [SoftFloat]

/-- One request. -/
structure Request where
  /-- The bytes received. -/
  p : List UInt8
  acu : Acu DevInfo
  /-- What the handler of a command of class 1 or 2 returns. -/
  setStatus : Ret

/-- The buffers of one of the two protocols. -/
structure Link where
  rxbuff : Nat → UInt8
  tx : Tx

/-- The buffers at start-up. -/
def Link.init : Link := ⟨fun _ => 0, Tx.init⟩

/-- What the handler of a set command does for the reply: nothing but return. -/
def setHandled (status : Ret) : Handled := ⟨status, [], none⟩

/-! ### The PC -/

/-- `PCCOMMCmdDealTbl[i].APP_PCCOMM_Func_Deal`. -/
def pcFuncDeal (c : CmdId) (rxbuff : Nat → UInt8) (r : Request) : Option Handled :=
  let d := r.acu.rest.others
  match c with
  | .pcHighAdmin => some (setHandled (Admin.pcAdminSet rxbuff r.acu).1)
  | .currSatParamQue => some (currSatParamQue d)
  | .allSaveSatParamQue => some (pcSaveAllSatParamQue d)
  | .antennaParamQue => some (antennaParamQue d)
  | .antennaAdjustParamQue => some antennaAdjustParamQue
  | .localParamQue => some (localParamQue d)
  | .devSysDateTimeQue => some (devSysDateTimeQue d)
  | .netWorkQue => some (netWorkQue d)
  | .aimAtSatTheoreticalDegreeQue => some (aimAtSatDegreeQue d)
  | .antennaRecordQue => some (pcAntennaRecordQue d)
  | .motorSoftLimitQue => some (motorSoftLimitQue d)
  | .aimAtSatParamQue => some (aimAtSatParamQue d)
  | .devStaQue => some (pcDevStaQue r.acu)
  | .devAdminQue => some (devAdminQue r.acu)
  | .currWarnStaQue => some (devAlarmQue d)
  | .warnLogQue => warnLogQue rxbuff d
  | .operationLogQue => optLogQue rxbuff d
  | .versionQue => some (versionQue d)
  | _ => some (setHandled r.setStatus)

/-- `APP_PCCOMM_CmdDeal`. -/
def pcCmdDeal (rxbuff : Nat → UInt8) (r : Request) (t : Tx) : Option (Ret × Tx) :=
  let cmd_id := cmdIdOf rxbuff
  if PcComm.Refused cmd_id r.acu then some (.FAIL, t.setResultSend cmd_id .FAIL)
  else
    match findCmd cmd_id with
    | none => some (.FAIL, t)
    | some c => (pcFuncDeal c rxbuff r).map fun h => (h.status, t.answer PcComm.IsQuery cmd_id h)

/-! ### The front panel -/

/-- `OLEDCOMMCmdDealTbl`. -/
def oledcommCmdDealTbl : List CmdId :=
  [.localParamSet, .localParamSrcSelSet, .sysDateTimeSet, .sysDateTimeSrcSelSet, .aimAtSatModeSel,
    .antennaRecord, .antennaSigleStepCtr, .antennaRecordGoto, .antennaRecordDel, .agcRecord,
    .satSel, .netWorkSet, .pcHighAdmin,
    .currSatParamQue, .allSaveSatParamQue, .antennaParamQue, .antennaAdjustParamQue,
    .localParamQue, .devSysDateTimeQue, .netWorkQue, .aimAtSatTheoreticalDegreeQue,
    .antennaRecordQue, .motorSoftLimitQue, .devStaQue, .devAdminQue, .currWarnStaQue, .versionQue]

/-- The entry of `OLEDCOMMCmdDealTbl` for a command id. -/
def oledFindCmd (cmd_id : Nat) : Option CmdId := oledcommCmdDealTbl.find? fun c => c.id = cmd_id

/-- The two classes that are answered from `OLEDCOMMTx`. -/
def OledIsQuery (cmd_id : Nat) : Prop := cmd_id &&& 0xFF00 = 0x0800 ∨ cmd_id &&& 0xFF00 = 0x0A00

instance (cmd_id : Nat) : Decidable (OledIsQuery cmd_id) := inferInstanceAs (Decidable (_ ∨ _))

/-- `APP_OLEDCOMM_PCAdminSet`; its three bytes in `txbuff` are counted as two. -/
def oledPcAdminSet (rxbuff : Nat → UInt8) (a : Acu DevInfo) : Handled :=
  let s := Admin.oledPcAdminSet rxbuff a
  match s.2.2 with
  | none => setHandled s.1
  | some txbuff => ⟨s.1, [.store 4 (txbuff.drop 2)], some (txbuff.take 2)⟩

/-- `OLEDCOMMCmdDealTbl[i].APP_OLEDCOMM_Func_Deal`. -/
def oledFuncDeal (c : CmdId) (rxbuff : Nat → UInt8) (r : Request) : Handled :=
  let d := r.acu.rest.others
  match c with
  | .pcHighAdmin => oledPcAdminSet rxbuff r.acu
  | .currSatParamQue => currSatParamQue d
  | .allSaveSatParamQue => oledSaveAllSatParamQue d
  | .antennaParamQue => antennaParamQue d
  | .antennaAdjustParamQue => antennaAdjustParamQue
  | .localParamQue => localParamQue d
  | .devSysDateTimeQue => devSysDateTimeQue d
  | .netWorkQue => netWorkQue d
  | .aimAtSatTheoreticalDegreeQue => aimAtSatDegreeQue d
  | .antennaRecordQue => oledAntennaRecordQue d
  | .motorSoftLimitQue => motorSoftLimitQue d
  | .devStaQue => oledDevStaQue r.acu
  | .devAdminQue => devAdminQue r.acu
  | .currWarnStaQue => devAlarmQue d
  | .versionQue => versionQue d
  | _ => setHandled r.setStatus

/-- `APP_OLEDCOMM_CmdDeal`: nobody is refused. -/
def oledCmdDeal (rxbuff : Nat → UInt8) (r : Request) (t : Tx) : Ret × Tx :=
  let cmd_id := cmdIdOf rxbuff
  match oledFindCmd cmd_id with
  | none => (.FAIL, t)
  | some c =>
    let h := oledFuncDeal c rxbuff r
    (h.status, t.answer OledIsQuery cmd_id h)

/--
`APP_OLEDCOMM_RxBuffRecv`: the bytes copied to `OLEDCOMMRxBuff`.  The UART buffer it takes
the frame from has 64 bytes, so the frame is not measured.
-/
def oledRxBuffRecv (p : List UInt8) : Option (List UInt8) :=
  let buff := fun i => p.getD i 0
  match PcComm.rxBuffCheck buff p.length with
  | .FAIL => none
  | .SUCC => some ((List.range (buff 1).toNat).map fun i => buff (2 + i))

/-! ### Both -/

/-- A protocol: what it receives, the commands it has, and how it deals with one. -/
structure Protocol where
  recv : List UInt8 → Option (List UInt8)
  find : Nat → Option CmdId
  cmdDeal : (Nat → UInt8) → Request → Tx → Option (Ret × Tx)

/-- The PC protocol. -/
def pcComm : Protocol where
  recv := PcComm.rxBuffRecv
  find := findCmd
  cmdDeal := pcCmdDeal

/-- The protocol of the front panel. -/
def oledComm : Protocol where
  recv := oledRxBuffRecv
  find := oledFindCmd
  cmdDeal := fun rxbuff r t => some (oledCmdDeal rxbuff r t)

/-- `…_Deal`. -/
def Protocol.deal (P : Protocol) (l : Link) (r : Request) : Option Link :=
  match P.recv r.p with
  | none => some l
  | some data =>
    let rxbuff := PcComm.overlay l.rxbuff 0 data
    (P.cmdDeal rxbuff r l.tx).map fun s => ⟨rxbuff, s.2⟩

/-- The step of a run; behind an access outside a buffer it stands still. -/
def Protocol.step (P : Protocol) (l : Option Link) (r : Request) : Option Link :=
  l.bind fun l => P.deal l r

/-- The receive buffer behind a reception. -/
def Protocol.received (P : Protocol) (l : Link) (r : Request) : Nat → UInt8 :=
  PcComm.overlay l.rxbuff 0 ((P.recv r.p).getD [])

/-- The command of a request that is accepted and in the table. -/
def Protocol.command (P : Protocol) (l : Link) (r : Request) : Option CmdId :=
  if (P.recv r.p).isSome then P.find (cmdIdOf (P.received l r)) else none

end SwiftAcu.Reply
