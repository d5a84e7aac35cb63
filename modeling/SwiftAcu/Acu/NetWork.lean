/-
The network settings: `APP_PCCOMM_NetWorkSet` of `app_pccomm.c` and `APP_OLEDCOMM_NetWorkSet`
of `app_oledcomm.c`.

An address is kept as it comes, its first octet lowest.  The configuration is kept in
`ACUDevInfo` and in the EEPROM, and given to the network interface; the EEPROM is written only
when it changes.
-/
import SwiftAcu.Acu.PcComm
import SwiftAcu.Acu.Position

namespace SwiftAcu

/-- The parts of the device that the network settings reach. -/
structure NetDevice where
  /-- `DeviceInfo.NetWork`. -/
  netWork : NetWork
  eeprom : Eeprom
  /-- What `LWIP_NetworkConfigChange` gave to `xnetif` last. -/
  netif : NetWork
  /-- The codes and the bytes given to `APP_OptLOG_Save`, newest first. -/
  optLog : List (Nat × List UInt8)

/-- The address at `pbuff[i]` … -/
def addressAt (pbuff : List UInt8) (i : Nat) : UInt32 :=
  (pbuff.getD i 0).toUInt32 + ((pbuff.getD (i + 1) 0).toUInt32 <<< 8) +
    ((pbuff.getD (i + 2) 0).toUInt32 <<< 16) + ((pbuff.getD (i + 3) 0).toUInt32 <<< 24)

/-- `ip`, `mask` and `gate`, as both commands take them out of the command. -/
def netWorkAt (pbuff : List UInt8) : NetWork :=
  { ipAddr := addressAt pbuff 0, mask := addressAt pbuff 4, gate := addressAt pbuff 8 }

/-- The codes of a front end for the log. -/
structure NetWorkCodes where
  ipAddr : Nat
  mask : Nat
  gate : Nat

/-- `LOG_OPT_NETWORK_…_SET_BY_PC`. -/
def netWorkSetByPc : NetWorkCodes := ⟨0x021601, 0x021602, 0x021603⟩

/-- `LOG_OPT_NETWORK_…_SET_BY_OLED`. -/
def netWorkSetByOled : NetWorkCodes := ⟨0x021611, 0x021612, 0x021613⟩

/-- The end of both commands: what is new is kept and logged. -/
def useNetWork (codes : NetWorkCodes) (pbuff : List UInt8) (d : NetDevice) : NetDevice :=
  let n := netWorkAt pbuff
  if n.ipAddr ≠ d.netWork.ipAddr ∨ n.mask ≠ d.netWork.mask ∨ n.gate ≠ d.netWork.gate then
    let d :=
      if n.ipAddr ≠ d.netWork.ipAddr then
        { d with
          netWork := { d.netWork with ipAddr := n.ipAddr }
          optLog := (codes.ipAddr, pbuff.take 4) :: d.optLog }
      else d
    let d :=
      if n.mask ≠ d.netWork.mask then
        { d with
          netWork := { d.netWork with mask := n.mask }
          optLog := (codes.mask, (pbuff.drop 4).take 4) :: d.optLog }
      else d
    let d :=
      if n.gate ≠ d.netWork.gate then
        { d with
          netWork := { d.netWork with gate := n.gate }
          optLog := (codes.gate, (pbuff.drop 8).take 4) :: d.optLog }
      else d
    { d with eeprom := netWorkSave d.netWork d.eeprom, netif := d.netWork }
  else d

/-- `APP_PCCOMM_NetWorkSet`. -/
def pcNetWorkSet (cmd_id : Nat) (cmdlen : UInt8) (pbuff : List UInt8) (d : NetDevice) :
    Ret × NetDevice :=
  if cmd_id ≠ CmdId.netWorkSet.id ∨ cmdlen ≠ 12 then (.FAIL, d)
  else
    let n := netWorkAt pbuff
    if n.mask &&& 0xFF000000 = 0xFF000000 then (.FAIL, d)
    else if n.ipAddr &&& 0x00FFFFFF ≠ n.gate &&& 0x00FFFFFF then (.FAIL, d)
    else (.SUCC, useNetWork netWorkSetByPc pbuff d)

/-- `APP_OLEDCOMM_NetWorkSet`: the length and the gateway are not looked at. -/
def oledNetWorkSet (cmd_id : Nat) (pbuff : List UInt8) (d : NetDevice) : Ret × NetDevice :=
  if cmd_id ≠ CmdId.netWorkSet.id then (.FAIL, d)
  else
    let n := netWorkAt pbuff
    if n.mask &&& 0xFF000000 = 0xFF000000 then (.FAIL, d)
    else (.SUCC, useNetWork netWorkSetByOled pbuff d)

/-- `…_NetWorkSet` of a front end, for a setting of 12 bytes. -/
def Front.netWorkSet (front : Front) (pbuff : List UInt8) (d : NetDevice) : Ret × NetDevice :=
  match front with
  | .pc => pcNetWorkSet CmdId.netWorkSet.id 12 pbuff d
  | .oled => oledNetWorkSet CmdId.netWorkSet.id pbuff d

/-- The device, and whether a setting was accepted. -/
structure NetWatch where
  dev : NetDevice
  wasSet : Bool

/-- A setting by a front end, watched. -/
def NetWatch.step (w : NetWatch) (c : Front × List UInt8) : NetWatch :=
  let r := c.1.netWorkSet c.2 w.dev
  { dev := r.2, wasSet := if r.1 = .SUCC then true else w.wasSet }

end SwiftAcu
