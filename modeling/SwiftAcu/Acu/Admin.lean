/-
Who controls the antenna.

The device is controlled by itself, by one PC, or by the PDU.  A PC asks for control
and the front panel grants or refuses it; the PDU takes control without asking.  The
state is kept twice, in `dev_admin_sta` and in `DevAdmin.admin_sta`, next to the
addresses of the PC in control and of the PC that asks, and four functions in four
files write it: `APP_PCCOMM_PCAdminSet`, `APP_OLEDCOMM_PCAdminSet`,
`APP_PDUCOMM_PDUDevStaQue` and `APP_MONITOR_PC_Admin_Timeout_Deal`.  A fifth,
`APP_MONITOR_DevHWSta`, takes control back from a PDU that no longer answers.

No other function writes these fields.  What else the device consists of is `ρ`.
-/
import SwiftAcu.Acu.Basic

namespace SwiftAcu

/-! ### The device -/

/-- `strDevAdmin`, with the `dev_admin_sta` of `strACUCurrSta` in front. -/
structure DevAdmin where
  devAdminSta : UInt8
  adminSta : UInt8
  modeSta : UInt8
  stopFlag : UInt8
  pcAdminDealSta : UInt8
  pcAdminIpAddr : Nat
  pcAdminAskIpAddr : Nat
  pcAdminLinkCnt : Nat
  deriving DecidableEq, Repr

/-- The fields of `strPCCommStat` the protocol uses. -/
structure PcCommStat where
  mcuBusy : UInt8
  dstIpAddr : Nat
  deriving DecidableEq, Repr

/-- The device less its control: fields that are read or written here, and the others. -/
structure AcuRest (ρ : Type) where
  /-- `SeekSatParam.SeekSat_Mode`. -/
  seekSatMode : UInt8
  devWorkSta : UInt8
  antennaPositionSta : UInt8
  antennaCabrageSta : UInt8
  antennaPolarSta : UInt8
  /-- `PDUommStat`. -/
  pduCommStat : UInt8
  pduLinkStat : UInt8
  /-- `GPSData.valid`. -/
  gpsValid : UInt8
  /-- `SATList.Sat_Total_num`. -/
  satTotalNum : UInt16
  /-- The EEPROM answers the reads of all listed antenna records. -/
  recordsReadable : Bool
  /-- The codes given to `APP_OptLOG_SaveCode`, newest first. -/
  optLog : List Nat
  others : ρ
  deriving DecidableEq

/-- `ACUDevInfo`. -/
structure Acu (ρ : Type) where
  devAdmin : DevAdmin
  pcCommStat : PcCommStat
  rest : AcuRest ρ
  deriving DecidableEq

/-- `PCHighAdminID`. -/
abbrev pcHighAdminID : Nat := 0x021A

abbrev logOptPduAdminEnable : Nat := 0x022121
abbrev logOptPduAdminDisable : Nat := 0x022122
abbrev logOptPcAskForAdmin : Nat := 0x022131
abbrev logOptOledPerminPcAdmin : Nat := 0x022132
abbrev logOptOledRefusePcAdmin : Nat := 0x022133
abbrev logOptOledCancelPcAdmin : Nat := 0x022134
abbrev logOptTimeoutAcuRefusPcAdmin : Nat := 0x022135
abbrev logOptTimeoutAcuCancelPcAdmin : Nat := 0x022136
abbrev logOptTimeoutPcCancelPcAdmin : Nat := 0x022137
abbrev logOptTimeoutPcCancelPcAdminAsk : Nat := 0x022138

/-- `(buff[0]<<8)+buff[1]`, the command id in front of a command. -/
def cmdIdOf (buff : Nat → UInt8) : Nat := ((buff 0).toNat <<< 8) + (buff 1).toNat

namespace Admin

variable {ρ : Type}

/-- `APP_OptLOG_SaveCode` for each of the codes. -/
def saveCodes (codes : List Nat) (s : AcuRest ρ) : AcuRest ρ :=
  { s with optLog := codes ++ s.optLog }

/-! ### The PC -/

/--
`switch( curr_admin_sta )` of `APP_PCCOMM_PCAdminSet`, for a command from `dst`: the
status, the new control and the log codes.
-/
def pcAdminSwitch (dst : Nat) (admin_switch : UInt8) (d : DevAdmin) : Ret × DevAdmin × List Nat :=
  if d.devAdminSta = 0x02 then
    if 0 < admin_switch then (.FAIL, d, []) else (.SUCC, d, [])
  else if d.devAdminSta = 0x01 then
    if 1 ≤ admin_switch then
      if dst = d.pcAdminIpAddr then (.SUCC, d, []) else (.FAIL, d, [])
    else if dst = d.pcAdminIpAddr then
      (.SUCC,
        { d with devAdminSta := 0x00, adminSta := 0, pcAdminDealSta := 0, pcAdminIpAddr := 0 },
        [logOptTimeoutPcCancelPcAdmin])
    else (.SUCC, d, [])
  else if d.devAdminSta = 0x00 then
    if 0 < admin_switch then
      let d := { d with pcAdminDealSta := 0x01 }
      if d.pcAdminAskIpAddr ≠ 0 then (.FAIL, d, [])
      else
        (.SUCC, { d with pcAdminAskIpAddr := dst, devAdminSta := 0x11, adminSta := 0x11 },
          [logOptPcAskForAdmin])
    else (.SUCC, d, [])
  else if d.devAdminSta = 0x11 then
    if 1 ≤ admin_switch then
      if dst ≠ d.pcAdminAskIpAddr then (.FAIL, d, []) else (.SUCC, d, [])
    else if dst = d.pcAdminAskIpAddr then
      (.SUCC,
        { d with
          devAdminSta := 0x00
          adminSta := 0
          pcAdminDealSta := 0
          pcAdminIpAddr := 0
          pcAdminAskIpAddr := 0 },
        [logOptTimeoutPcCancelPcAdminAsk])
    else (.SUCC, d, [])
  else (.SUCC, d, [])

/-- `APP_PCCOMM_PCAdminSet`. -/
def pcAdminSet (rxbuff : Nat → UInt8) (a : Acu ρ) : Ret × Acu ρ :=
  if cmdIdOf rxbuff ≠ pcHighAdminID ∨ rxbuff 2 ≠ 1 then (.FAIL, a)
  else
    let s := pcAdminSwitch a.pcCommStat.dstIpAddr (rxbuff 3) a.devAdmin
    (s.1, { a with devAdmin := s.2.1, rest := saveCodes s.2.2 a.rest })

/-- The front of `udpecho_thread`: note the sender, and count what the PC in control sends. -/
def udpRecv (src : Nat) (a : Acu ρ) : Acu ρ :=
  let a := { a with pcCommStat := { a.pcCommStat with dstIpAddr := src } }
  if a.devAdmin.adminSta = 0x01 then
    if a.pcCommStat.dstIpAddr = a.devAdmin.pcAdminIpAddr then
      { a with devAdmin :=
          { a.devAdmin with pcAdminLinkCnt := u32 (a.devAdmin.pcAdminLinkCnt + 1) } }
    else a
  else a

/-! ### The front panel -/

/-- `if( admin_switch > 0 )` of `APP_OLEDCOMM_PCAdminSet`. -/
def oledAdminSwitch (admin_switch : UInt8) (d : DevAdmin) : DevAdmin × List Nat :=
  if 0 < admin_switch then
    ({ d with
        adminSta := 0x01
        devAdminSta := 0x01
        pcAdminIpAddr := d.pcAdminAskIpAddr
        pcAdminAskIpAddr := 0 },
      [logOptOledPerminPcAdmin])
  else
    ({ d with
        adminSta := 0x00
        devAdminSta := 0x00
        pcAdminIpAddr := 0x00
        pcAdminAskIpAddr := 0x00 },
      if d.devAdminSta = 0x11 then [logOptOledRefusePcAdmin]
      else if d.devAdminSta = 0x01 then [logOptOledCancelPcAdmin]
      else [])

/--
`APP_OLEDCOMM_PCAdminSet`, with the three bytes at the front of `txbuff` where it
answers.  `index` is 1 when the answer is put together, so the 0 for success goes
under the command id and the length byte is `2 - 3`.
-/
def oledPcAdminSet (rxbuff : Nat → UInt8) (a : Acu ρ) : Ret × Acu ρ × Option (List UInt8) :=
  if cmdIdOf rxbuff ≠ pcHighAdminID ∨ rxbuff 2 ≠ 1 then (.FAIL, a, none)
  else
    let s := oledAdminSwitch (rxbuff 3) a.devAdmin
    (.SUCC, { a with devAdmin := s.1, rest := saveCodes s.2 a.rest }, some [0x82, 0x1A, 0xFF])

/-! ### The PDU -/

/-- `if( revbuff[5] > 0x00 )` of `APP_PDUCOMM_PDUDevStaQue`. -/
def pduAdminSwitch (local_sta : UInt8) (a : Acu ρ) : Acu ρ :=
  if 0x00 < local_sta then
    if a.devAdmin.devAdminSta ≠ 0x02 then
      { a with
        devAdmin :=
          { a.devAdmin with
            devAdminSta := 0x02
            adminSta := 0x02
            modeSta := 0x02
            pcAdminIpAddr := 0x00
            pcAdminLinkCnt := 0
            pcAdminAskIpAddr := 0 }
        rest := saveCodes [logOptPduAdminEnable] { a.rest with seekSatMode := 0x01 } }
    else a
  else
    if a.devAdmin.devAdminSta = 0x02 then
      { a with
        devAdmin :=
          { a.devAdmin with
            devAdminSta := 0x00
            adminSta := 0x00
            modeSta := 0x00
            pcAdminIpAddr := 0x00
            pcAdminLinkCnt := 0
            pcAdminAskIpAddr := 0 }
        rest :=
          saveCodes [logOptPduAdminDisable]
            { a.rest with seekSatMode := 0x00, devWorkSta := 0x00 } }
    else a

/-- `COMM_LINK` and `COMM_UNLINK` of the PDU. -/
def setPduLink (stat : UInt8) (a : Acu ρ) : Acu ρ :=
  { a with rest := { a.rest with pduCommStat := stat, pduLinkStat := stat } }

/-- `APP_PDUCOMM_PDUDevStaQue`; `none` is a PDU that does not answer in 100 ms. -/
def pduDevStaQue (reply : Option (Nat → UInt8)) (a : Acu ρ) : Ret × Acu ρ :=
  match reply with
  | none => (.FAIL, setPduLink 1 a)
  | some revbuff =>
    let a := setPduLink 0 a
    if revbuff 2 ≠ 0x8C ∨ revbuff 3 ≠ 0x02 then (.FAIL, a)
    else
      let a := pduAdminSwitch (revbuff 5) a
      (.SUCC,
        { a with
          devAdmin := { a.devAdmin with stopFlag := revbuff 6 }
          rest :=
            { a.rest with
              antennaPositionSta := revbuff 7
              antennaCabrageSta := revbuff 8
              antennaPolarSta := revbuff 9 } })

/-- The PDU branch of `APP_MONITOR_DevHWSta`: an unlinked PDU loses control. -/
def pduUnlinkDeal (a : Acu ρ) : Acu ρ :=
  if a.rest.pduLinkStat = 1 then
    if a.devAdmin.devAdminSta = 0x02 ∨ a.devAdmin.adminSta = 0x02 then
      { a with devAdmin :=
          { a.devAdmin with devAdminSta := 0x00, adminSta := 0x00, modeSta := 0x00 } }
    else a
  else a

/-! ### The monitor -/

/-- The static counters of `APP_MONITOR_PC_Admin_Timeout_Deal`. -/
structure AdminTimer where
  pcAdminWaitTimeoutCnt : Nat
  pcAdminOldLinkCnt : Nat
  pcAdminUnlinkCnt : Nat
  deriving DecidableEq, Repr

/-- Control after either timeout. -/
def timedOut (d : DevAdmin) : DevAdmin :=
  { d with
    devAdminSta := 0x00
    adminSta := 0x00
    pcAdminLinkCnt := 0
    pcAdminDealSta := 0
    pcAdminIpAddr := 0
    pcAdminAskIpAddr := 0 }

/-- `APP_MONITOR_PC_Admin_Timeout_Deal`: the new control, the counters and the log codes. -/
def pcAdminTimeoutDeal (period_ms : Nat) (d : DevAdmin) (t : AdminTimer) :
    DevAdmin × AdminTimer × List Nat :=
  if d.devAdminSta = 0x01 then
    if t.pcAdminOldLinkCnt ≠ d.pcAdminLinkCnt then
      (d, { t with pcAdminUnlinkCnt := 0, pcAdminOldLinkCnt := d.pcAdminLinkCnt }, [])
    else
      let t := { t with pcAdminUnlinkCnt := u32 (t.pcAdminUnlinkCnt + 1) }
      if 15000 < u32 (t.pcAdminUnlinkCnt * period_ms) then
        (timedOut d, { t with pcAdminUnlinkCnt := 0 }, [logOptTimeoutAcuCancelPcAdmin])
      else (d, t, [])
  else
    let t := { t with pcAdminUnlinkCnt := 0, pcAdminOldLinkCnt := 0 }
    if d.devAdminSta = 0x11 then
      let t := { t with pcAdminWaitTimeoutCnt := u32 (t.pcAdminWaitTimeoutCnt + 1) }
      if 300000 < u32 (t.pcAdminWaitTimeoutCnt * period_ms) then
        (timedOut d, { t with pcAdminWaitTimeoutCnt := 0 }, [logOptTimeoutAcuRefusPcAdmin])
      else (d, t, [])
    else (d, { t with pcAdminWaitTimeoutCnt := 0 }, [])

end Admin

end SwiftAcu
