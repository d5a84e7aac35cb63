/-
The four parties to the control of the antenna, one event at a time.

An event is a datagram from some PC, a command of the front panel, a poll of the PDU,
a tick of the monitor, or the monitor's check of the PDU link.  A run starts with
nobody in control; everything else is arbitrary.
-/
import SwiftAcu.Acu.PcComm
import SwiftAcu.Lib.Control

namespace SwiftAcu.Admin

open PcComm

/-- The device, the buffers of the PC protocol and the counters of the monitor. -/
structure Sys (ρ : Type) where
  acu : Acu ρ
  buffers : Buffers
  timer : AdminTimer

/-- What can happen. -/
inductive Event where
  /-- A datagram from the PC at `src`. -/
  | datagram (src : Nat) (p : List UInt8)
  /-- `APP_OLEDCOMM_PCAdminSet` on a front-panel frame. -/
  | oled (rxbuff : Nat → UInt8)
  /-- `APP_PDUCOMM_PDUDevStaQue` with the reply of the PDU. -/
  | pdu (reply : Option (Nat → UInt8))
  /-- `APP_MONITOR_PC_Admin_Timeout_Deal`. -/
  | tick (period_ms : Nat)
  /-- The PDU branch of `APP_MONITOR_DevHWSta`. -/
  | pduUnlink

section
variable {ρ : Type} (h : PcHandlers ρ)

/-- One event. -/
def step (s : Sys ρ) : Event → Sys ρ
  | .datagram src p =>
    let r := deal h (udpRecv src s.acu) s.buffers p
    { s with acu := r.2.1, buffers := r.2.2 }
  | .oled rxbuff => { s with acu := (oledPcAdminSet rxbuff s.acu).2.1 }
  | .pdu reply => { s with acu := (pduDevStaQue reply s.acu).2 }
  | .tick period_ms =>
    let r := pcAdminTimeoutDeal period_ms s.acu.devAdmin s.timer
    { s with
      acu := { s.acu with devAdmin := r.1, rest := saveCodes r.2.2 s.acu.rest }
      timer := r.2.1 }
  | .pduUnlink => { s with acu := pduUnlinkDeal s.acu }

/-- Nobody in control. -/
structure Sys.Idle (s : Sys ρ) : Prop where
  dev : s.acu.devAdmin.devAdminSta = 0x00
  admin : s.acu.devAdmin.adminSta = 0x00
  ip : s.acu.devAdmin.pcAdminIpAddr = 0
  ask : s.acu.devAdmin.pcAdminAskIpAddr = 0

/-- A PC has an address. -/
def Event.Addressed : Event → Prop
  | .datagram src _ => src ≠ 0
  | _ => True

/-- The command a datagram has executed: its id is in the table and it was not refused. -/
def executed (s : Sys ρ) : Event → Option CmdId
  | .datagram src p =>
    match rxBuffRecv p with
    | none => none
    | some data =>
      let cmd_id := cmdIdOf (overlay s.buffers.rxBuff 0 data)
      if Refused cmd_id (udpRecv src s.acu) then none else findCmd cmd_id
  | _ => none

/-- The receive buffer a datagram leaves for its handler. -/
def received (s : Sys ρ) (p : List UInt8) : Nat → UInt8 :=
  overlay s.buffers.rxBuff 0 ((rxBuffRecv p).getD [])

end

end SwiftAcu.Admin
