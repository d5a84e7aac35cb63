/-
The queries of both protocols: the handlers of the classes 0x08, 0x09 and 0x0A of
`app_pccomm.c` and `app_oledcomm.c`.

Most put some fields of the device in `txbuff`.  Those that send a list put its frames
together at the front of the transmit buffer, over what `txbuff` may hold, and send them
from there; what they leave in `txbuff` ends the list.  Every handler compares the command
id with its own once more, which it has been called for.

`none` is a query of a log that reads or copies outside a buffer.
-/
import SwiftAcu.Acu.DevInfo
import SwiftAcu.Acu.Reply
import SwiftAcu.Acu.Satellite

namespace SwiftAcu.Reply

variable [SoftFloat]

/-! ### Fields -/

/-- The command id of the answer, the number of the bytes behind, and these. -/
def reply (c : CmdId) (fields : List UInt8) : Handled :=
  let txbufflen := UInt8.ofNat (3 + fields.length)
  ⟨.SUCC, [], some (PcComm.answerId c.id ++ [txbufflen - 3] ++ fields)⟩

/-- `(INT32U)(thousandths x)`, high byte first. -/
def degree_int32u (x : FP32) : List UInt8 := be32 (int32u (thousandths x))

/-- `(INT32S)(thousandths x)`, high byte first. -/
def degree_int32s (x : FP32) : List UInt8 := be32s (int32s (thousandths x))

/-- An address, low byte first. -/
def le32 (data : Nat) : List UInt8 :=
  [UInt8.ofNat (data &&& 0x000000FF), UInt8.ofNat ((data &&& 0x0000FF00) >>> 8),
    UInt8.ofNat ((data &&& 0x00FF0000) >>> 16), UInt8.ofNat ((data &&& 0xFF000000) >>> 24)]

/-- `…_CurrSatParamQue`. -/
def currSatParamQue (d : DevInfo) : Handled :=
  reply .currSatParamQue ([d.device.currSatParam.id] ++ satParamBytes d.device.currSatParam)

/-- `…_AntennaParamQue`. -/
def antennaParamQue (d : DevInfo) : Handled :=
  let p := d.device.antennaParam
  reply .antennaParamQue ([p.type] ++ be32 p.offsetAngle.toNat ++ [p.caliber] ++
    be32 p.loFreq.toNat ++ [p.gainRangeFlag, p.elecCoderNum])

/-- `…_AntennaAdjustParamQue`. -/
def antennaAdjustParamQue : Handled := ⟨.SUCC, [], none⟩

/-- The longitude or latitude of `…_LocalParamQue`: the highest byte is shifted by 16, not 24. -/
def localDegree (x : FP32) : List UInt8 :=
  let degree_int32u := int32u (thousandths x)
  [UInt8.ofNat ((degree_int32u &&& 0xFF000000) >>> 16),
    UInt8.ofNat ((degree_int32u &&& 0x00FF0000) >>> 16),
    UInt8.ofNat ((degree_int32u &&& 0x0000FF00) >>> 8), UInt8.ofNat (degree_int32u &&& 0x000000FF)]

/-- `…_LocalParamQue`. -/
def localParamQue (d : DevInfo) : Handled :=
  let p := d.localPosition
  reply .localParamQue ([p.lonFlag] ++ localDegree p.lon ++ [p.latFlag] ++ localDegree p.lat ++
    be32 p.height.toNat ++ [p.dataSrcFlag])

/-- `…_DevSysDateTimeQue`. -/
def devSysDateTimeQue (d : DevInfo) : Handled :=
  reply .devSysDateTimeQue (dateTime2Bytebuff d.sysDateTime ++ [d.srcFlag.toUInt8])

/-- `…_NetWorkQue`. -/
def netWorkQue (d : DevInfo) : Handled :=
  reply .netWorkQue
    (le32 d.netWork.ipAddr.toNat ++ le32 d.netWork.mask.toNat ++ le32 d.netWork.gate.toNat)

/-- `…_AimAtSatDegreeQue`. -/
def aimAtSatDegreeQue (d : DevInfo) : Handled :=
  reply .aimAtSatTheoreticalDegreeQue
    (degree_int32u d.aim.position ++ degree_int32u d.aim.cabrage ++ degree_int32s d.aim.polar)

/-- `…_MotorSoftLimitQue`. -/
def motorSoftLimitQue (d : DevInfo) : Handled :=
  let p := d.softLimit
  reply .motorSoftLimitQue (degree_int32u p.start.position ++ degree_int32u p.stop.position ++
    degree_int32u p.start.cabrage ++ degree_int32u p.stop.cabrage ++
    degree_int32s p.start.polar ++ degree_int32s p.stop.polar)

/-- `APP_PCCOMM_AimAtSatParamQue`. -/
def aimAtSatParamQue (d : DevInfo) : Handled :=
  reply .aimAtSatParamQue (be32 d.aimAtSatLimitMv.toNat)

/-- The fields of `…_DevStaQue` up to `SeekSat_Mode`. -/
def devStaFields (side : Fin 2) (a : Acu DevInfo) : List UInt8 :=
  let p := a.rest.others.currSta
  degree_int32u p.antenna.position ++ degree_int32u p.antenna.cabrage ++
    degree_int32s p.antenna.polar ++ be32 (int32u p.beaconRxpowerMv) ++
    degree_int32s p.beaconRxpowerDb ++
    [p.devMoveSta, a.devAdmin.devAdminSta, a.rest.devWorkSta, p.devAlarmFlag,
      p.devAlarmReflashFlag side, a.rest.seekSatMode]

/-- `APP_PCCOMM_DevStaQue`. -/
def pcDevStaQue (a : Acu DevInfo) : Handled :=
  let p := a.rest.others.currSta
  reply .devStaQue
    (devStaFields 0 a ++ [p.devParamReflashFlag 0] ++ be32 (int32u p.agcMaxMv))

/-- `APP_OLEDCOMM_DevStaQue`. -/
def oledDevStaQue (a : Acu DevInfo) : Handled := reply .devStaQue (devStaFields 1 a)

/-- `…_DevAdminQue`. -/
def devAdminQue (a : Acu DevInfo) : Handled := reply .devAdminQue [a.devAdmin.devAdminSta]

/-- `…_DevAlarmQue`: the length is counted without the three bytes in front. -/
def devAlarmQue (d : DevInfo) : Handled :=
  let codes := alarmStaCodeDeal d.currSta.devAlarmBuff
  ⟨.SUCC, [],
    some (PcComm.answerId CmdId.currWarnStaQue.id ++ [UInt8.ofNat codes.length] ++ codes)⟩

/-- `…_VersionQue`. -/
def versionQue (d : DevInfo) : Handled :=
  let d := pduVersionQue d
  reply .versionQue (d.acuVersion.softver.toList ++ d.acuVersion.hardver.toList ++
    d.pduVersion.softver.toList ++ d.pduVersion.hardver.toList)

/-! ### Satellites -/

/-- The device as the satellite queries see it: a slot that cannot be read is passed over. -/
def satsAnswering (d : DevInfo) : Device :=
  let l := d.device.satList
  let satId := fun i => if d.answers (satParamAddr (l.satId i)) then l.satId i else 0
  { d.device with satList := { l with satId } }

/-- `APP_PCCOMM_SaveAllSatParamQue`. -/
def pcSaveAllSatParamQue (d : DevInfo) : Handled :=
  let r := saveAllSatParamQue CmdId.allSaveSatParamQue.id (satsAnswering d)
  ⟨.SUCC, Emit.bursts r.1, some r.2⟩

/-- One round of `APP_OLEDCOMM_SaveAllSatParamQue`: every frame is sent at once. -/
def oledSatQueStep (cmd_id : Nat) (d : Device) (q : SatQue) (i : Nat) : SatQue :=
  if q.stopped = true ∨ d.satList.satId i = 0 then q
  else
    match satParamRead (d.satList.satId i) d.eeprom with
    | none => q
    | some p =>
      let q' := { q with
        satNum := q.satNum + 1
        satTotalNum := q.satTotalNum + 1
        sent := q.sent ++ [satFrame cmd_id p] }
      { q' with stopped := d.satList.total.toNat ≤ q'.satTotalNum.toNat }

/-- `APP_OLEDCOMM_SaveAllSatParamQue`. -/
def oledSaveAllSatParamQue (d : DevInfo) : Handled :=
  let cmd_id := CmdId.allSaveSatParamQue.id
  let q := (List.range satMax).foldl (oledSatQueStep cmd_id (satsAnswering d)) ⟨[], 0, 0, [], false⟩
  ⟨.SUCC, Emit.bursts q.sent, some (satQueEnd cmd_id)⟩

/-! ### Antenna records -/

/-- The frame of one record: its time, its satellite and the received voltage. -/
def recordFrame (readbuff : List UInt8) : List UInt8 :=
  let front := [0xBC, 0x29] ++ PcComm.answerId CmdId.antennaRecordQue.id ++ [0x26] ++
    readbuff.take 34 ++ (readbuff.drop 46).take 4
  front ++ [checkSum8BitGet front, 0xCB]

/-- `record_ID`. -/
def recordIds (d : DevInfo) : List UInt8 :=
  (List.range antennaRecordMax).map d.device.recordList.recordId

/-- The loop over `record_ID`: the frames, and whether it came to its end. -/
def recordQueLoop (d : DevInfo) : List UInt8 → List (List UInt8) × Bool
  | [] => ([], true)
  | id :: ids =>
    if 0 < id ∧ id ≤ 10 then
      if d.answers (antennaRecordAddr id) then
        let r := recordQueLoop d ids
        (recordFrame (antennaRecordRead id d.device.eeprom) :: r.1, r.2)
      else ([], false)
    else recordQueLoop d ids

/-- What ends the list of records: `n` bytes of `0xFF`. -/
def recordQueEnd (n : Nat) : List UInt8 :=
  PcComm.answerId CmdId.antennaRecordQue.id ++ [UInt8.ofNat n] ++ List.replicate n 0xFF

/-- `APP_PCCOMM_AntennaRecordQue`: all frames are sent at once, when all have been read. -/
def pcAntennaRecordQue (d : DevInfo) : Handled :=
  let r := recordQueLoop d (recordIds d)
  if r.2 then ⟨.SUCC, Emit.burst r.1.flatten, some (recordQueEnd 0x26)⟩
  else ⟨.FAIL, [.store 0 r.1.flatten], none⟩

/-- `APP_OLEDCOMM_AntennaRecordQue`: every frame is sent when it has been read. -/
def oledAntennaRecordQue (d : DevInfo) : Handled :=
  let r := recordQueLoop d (recordIds d)
  if r.2 then ⟨.SUCC, Emit.bursts r.1, some (recordQueEnd 0x22)⟩
  else ⟨.FAIL, Emit.bursts r.1, none⟩

/-! ### Logs -/

/-- `que_log_num`. -/
def queLogNum (rxbuff : Nat → UInt8) : Nat := ofBe32 (rxbuff 3) (rxbuff 4) (rxbuff 5) (rxbuff 6)

/-- The common end of the two log queries. -/
def logReply (c : CmdId) (datagrams : List (List UInt8)) : Handled :=
  ⟨.SUCC, Emit.bursts datagrams, some (PcComm.answerId c.id ++ [32] ++ List.replicate 32 0xFF)⟩

/-- `APP_PCCOMM_OptLogQue`. -/
def optLogQue (rxbuff : Nat → UInt8) (d : DevInfo) : Option Handled :=
  (AppLog.optLogQue d.board (queLogNum rxbuff)).map (logReply .operationLogQue)

/-- `APP_PCCOMM_WarnLogQue`. -/
def warnLogQue (rxbuff : Nat → UInt8) (d : DevInfo) : Option Handled :=
  (AppLog.warnLogQue d.board (queLogNum rxbuff)).map (logReply .warnLogQue)

end SwiftAcu.Reply
