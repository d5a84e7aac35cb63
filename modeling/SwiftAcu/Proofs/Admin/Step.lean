/-
One event, as an operation of the control protocol.

The five fields that say who controls the antenna are redundant, and this module
says how: `Consistent` is what every event keeps, and a consistent `DevAdmin` is one
of the states of `Control`.  Each of the functions that write them is then one
operation on it, and nothing behind this module looks at the fields again.
-/
import SwiftAcu.Acu.AdminRun

namespace SwiftAcu.Admin

open PcComm

/-! ### Consistent control -/

/-- The five fields agree. -/
structure Consistent (d : DevAdmin) : Prop where
  same : d.devAdminSta = d.adminSta
  range : d.devAdminSta = 0x00 ∨ d.devAdminSta = 0x01 ∨ d.devAdminSta = 0x02 ∨
    d.devAdminSta = 0x11
  ask : d.pcAdminAskIpAddr ≠ 0 ↔ d.devAdminSta = 0x11
  ip : d.pcAdminIpAddr ≠ 0 → d.devAdminSta = 0x01

/-- Who controls the antenna. -/
def control (d : DevAdmin) : Control Nat :=
  if d.devAdminSta = 0x11 then .asked d.pcAdminAskIpAddr
  else if d.devAdminSta = 0x01 then
    .held (if d.pcAdminIpAddr = 0 then none else some d.pcAdminIpAddr)
  else if d.devAdminSta = 0x02 then .seized
  else .free

section
variable {d : DevAdmin}

/-- A consistent `DevAdmin` is one of four. -/
theorem Consistent.cases (h : Consistent d) :
    (d.devAdminSta = 0x00 ∧ d.adminSta = 0x00 ∧ d.pcAdminAskIpAddr = 0 ∧ d.pcAdminIpAddr = 0) ∨
    (d.devAdminSta = 0x01 ∧ d.adminSta = 0x01 ∧ d.pcAdminAskIpAddr = 0) ∨
    (d.devAdminSta = 0x02 ∧ d.adminSta = 0x02 ∧ d.pcAdminAskIpAddr = 0 ∧ d.pcAdminIpAddr = 0) ∨
    (d.devAdminSta = 0x11 ∧ d.adminSta = 0x11 ∧ d.pcAdminAskIpAddr ≠ 0 ∧ d.pcAdminIpAddr = 0) := by
  obtain ⟨hsame, hrange, hask, hip⟩ := h
  have hnoip : d.devAdminSta ≠ 0x01 → d.pcAdminIpAddr = 0 := by
    intro hne
    by_contra hc
    exact hne (hip hc)
  have hnoask : d.devAdminSta ≠ 0x11 → d.pcAdminAskIpAddr = 0 := by
    intro hne
    by_contra hc
    exact hne (hask.mp hc)
  rcases hrange with hdev | hdev | hdev | hdev
  · have hne : d.devAdminSta ≠ 0x11 ∧ d.devAdminSta ≠ 0x01 := by rw [hdev]; decide
    exact Or.inl ⟨hdev, hsame ▸ hdev, hnoask hne.1, hnoip hne.2⟩
  · have hne : d.devAdminSta ≠ 0x11 := by rw [hdev]; decide
    exact Or.inr (Or.inl ⟨hdev, hsame ▸ hdev, hnoask hne⟩)
  · have hne : d.devAdminSta ≠ 0x11 ∧ d.devAdminSta ≠ 0x01 := by rw [hdev]; decide
    exact Or.inr (Or.inr (Or.inl ⟨hdev, hsame ▸ hdev, hnoask hne.1, hnoip hne.2⟩))
  · have hne : d.devAdminSta ≠ 0x01 := by rw [hdev]; decide
    exact Or.inr (Or.inr (Or.inr ⟨hdev, hsame ▸ hdev, hask.mpr hdev, hnoip hne⟩))

theorem control_eq_free (h : Consistent d) : control d = .free ↔ d.devAdminSta = 0x00 := by
  rcases h.cases with ⟨hdev, -⟩ | ⟨hdev, -⟩ | ⟨hdev, -⟩ | ⟨hdev, -⟩ <;> simp [control, hdev]

theorem control_eq_asked (h : Consistent d) (a : Nat) :
    control d = .asked a ↔ d.devAdminSta = 0x11 ∧ d.pcAdminAskIpAddr = a := by
  rcases h.cases with ⟨hdev, -⟩ | ⟨hdev, -⟩ | ⟨hdev, -⟩ | ⟨hdev, -⟩ <;> simp [control, hdev]

theorem control_eq_held (h : Consistent d) (a : Nat) (ha : a ≠ 0) :
    control d = .held (some a) ↔ d.adminSta = 0x01 ∧ d.pcAdminIpAddr = a := by
  rw [← h.same]
  rcases h.cases with ⟨hdev, -⟩ | ⟨hdev, -⟩ | ⟨hdev, -⟩ | ⟨hdev, -⟩
  · simp [control, hdev]
  · simp only [control, hdev]
    by_cases hip : d.pcAdminIpAddr = 0
    · simp [hip, ha.symm]
    · simp [hip]
  · simp [control, hdev]
  · simp [control, hdev]

theorem control_eq_held_none (h : Consistent d) :
    control d = .held none ↔ d.adminSta = 0x01 ∧ d.pcAdminIpAddr = 0 := by
  rw [← h.same]
  rcases h.cases with ⟨hdev, -⟩ | ⟨hdev, -⟩ | ⟨hdev, -⟩ | ⟨hdev, -⟩ <;> simp [control, hdev]

/-! ### The functions on `DevAdmin` -/

/-- What a PC does with the switch. -/
def pcOp (dst : Nat) (admin_switch : UInt8) : ControlOp Nat :=
  if 0 < admin_switch then .request dst else .release dst

theorem uint8_pos_iff (b : UInt8) : 1 ≤ b ↔ 0 < b := by
  rw [UInt8.le_iff_toNat_le, UInt8.lt_iff_toNat_lt]
  exact Iff.rfl

/-- **`APP_PCCOMM_PCAdminSet` is a request or a release.** -/
theorem pcAdminSwitch_spec (h : Consistent d) {dst : Nat} (hdst : dst ≠ 0) (admin_switch : UInt8) :
    Consistent (pcAdminSwitch dst admin_switch d).2.1 ∧
      control (pcAdminSwitch dst admin_switch d).2.1 =
        (control d).step (pcOp dst admin_switch) := by
  unfold pcAdminSwitch pcOp
  simp only [uint8_pos_iff]
  rcases h.cases with ⟨hdev, hadm, hask, hip⟩ | ⟨hdev, hadm, hask⟩ | ⟨hdev, hadm, hask, hip⟩ |
    ⟨hdev, hadm, hask, hip⟩
  · -- The device is in control.
    by_cases hsw : 0 < admin_switch
    · simp [hdev, hask, hip, hsw, control, Control.step]
      constructor <;> simp [hdst]
    · simpa [hdev, hsw, control, Control.step] using h
  · -- A PC is in control, or nobody is.
    by_cases hsw : 0 < admin_switch
    · by_cases heq : dst = d.pcAdminIpAddr
      · simpa [hdev, hsw, heq, control, Control.step] using h
      · simpa [hdev, hsw, heq, control, Control.step] using h
    · by_cases heq : dst = d.pcAdminIpAddr
      · have hip : d.pcAdminIpAddr ≠ 0 := heq ▸ hdst
        simp [hdev, hsw, heq, control, Control.step, hip]
        constructor <;> simp [hask]
      · by_cases hip : d.pcAdminIpAddr = 0
        · simpa [hdev, hsw, hip, hdst, control, Control.step] using h
        · simpa [hdev, hsw, heq, hip, control, Control.step] using h
  · -- The PDU is in control.
    by_cases hsw : 0 < admin_switch
    · simpa [hdev, hsw, control, Control.step] using h
    · simpa [hdev, hsw, control, Control.step] using h
  · -- A PC has asked.
    by_cases hsw : 0 < admin_switch
    · by_cases heq : dst = d.pcAdminAskIpAddr
      · simpa [hdev, hsw, heq, control, Control.step] using h
      · simpa [hdev, hsw, heq, control, Control.step] using h
    · by_cases heq : dst = d.pcAdminAskIpAddr
      · simp [hdev, hsw, heq, control, Control.step]
        constructor <;> simp
      · simpa [hdev, hsw, heq, control, Control.step] using h

/-- **`APP_OLEDCOMM_PCAdminSet` grants or revokes.** -/
theorem oledAdminSwitch_spec (h : Consistent d) (admin_switch : UInt8) :
    Consistent (oledAdminSwitch admin_switch d).1 ∧
      control (oledAdminSwitch admin_switch d).1 =
        (control d).step (if 0 < admin_switch then .grant else .revoke) := by
  unfold oledAdminSwitch
  by_cases hsw : 0 < admin_switch
  · constructor
    · constructor <;> simp [hsw]
    · rcases h.cases with ⟨hdev, -, hask, -⟩ | ⟨hdev, -, hask⟩ | ⟨hdev, -, hask, -⟩ |
        ⟨hdev, -, hask, -⟩
      all_goals simp [hsw, hdev, hask, control, Control.step]
  · constructor
    · constructor <;> simp [hsw]
    · rcases h.cases with ⟨hdev, -⟩ | ⟨hdev, -⟩ | ⟨hdev, -⟩ | ⟨hdev, -⟩
      all_goals simp [hsw, hdev, control, Control.step]

/-- **Either timeout is an expiry.** -/
theorem timedOut_spec (d : DevAdmin) : Consistent (timedOut d) ∧ control (timedOut d) = .free := by
  constructor
  · constructor <;> simp [timedOut]
  · simp [timedOut, control]

/-- One of the two timeouts is up at this tick. -/
def TimesOut (period_ms : Nat) (d : DevAdmin) (t : AdminTimer) : Prop :=
  (d.devAdminSta = 0x01 ∧ t.pcAdminOldLinkCnt = d.pcAdminLinkCnt ∧
    15000 < u32 (u32 (t.pcAdminUnlinkCnt + 1) * period_ms)) ∨
  (d.devAdminSta = 0x11 ∧ 300000 < u32 (u32 (t.pcAdminWaitTimeoutCnt + 1) * period_ms))

instance (period_ms : Nat) (d : DevAdmin) (t : AdminTimer) : Decidable (TimesOut period_ms d t) :=
  inferInstanceAs (Decidable (_ ∨ _))

/-- **A tick changes control only by a timeout.** -/
theorem pcAdminTimeoutDeal_admin (period_ms : Nat) (d : DevAdmin) (t : AdminTimer) :
    (pcAdminTimeoutDeal period_ms d t).1 = if TimesOut period_ms d t then timedOut d else d := by
  unfold pcAdminTimeoutDeal TimesOut
  by_cases hpc : d.devAdminSta = 0x01
  · by_cases hlink : t.pcAdminOldLinkCnt = d.pcAdminLinkCnt
    · by_cases hout : 15000 < u32 (u32 (t.pcAdminUnlinkCnt + 1) * period_ms)
      · simp [hpc, hlink, hout]
      · simp [hpc, hlink, hout]
    · simp [hpc, hlink]
  · by_cases hask : d.devAdminSta = 0x11
    · by_cases hout : 300000 < u32 (u32 (t.pcAdminWaitTimeoutCnt + 1) * period_ms)
      · simp [hask, hout]
      · simp [hask, hout]
    · simp [hpc, hask]

theorem TimesOut.expires {period_ms : Nat} {t : AdminTimer} (hout : TimesOut period_ms d t) :
    (control d).step .expire = .free := by
  rcases hout with ⟨hdev, -⟩ | ⟨hdev, -⟩
  · simp [control, hdev, Control.step]
  · simp [control, hdev, Control.step]

end

/-! ### The functions on the device -/

section
variable {ρ : Type} {a : Acu ρ}

theorem udpRecv_spec (h : Consistent a.devAdmin) (src : Nat) :
    Consistent (udpRecv src a).devAdmin ∧
      control (udpRecv src a).devAdmin = control a.devAdmin ∧
      (udpRecv src a).pcCommStat.dstIpAddr = src := by
  unfold udpRecv
  dsimp only
  split
  · split
    · exact ⟨⟨h.same, h.range, h.ask, h.ip⟩, rfl, rfl⟩
    · exact ⟨h, rfl, rfl⟩
  · exact ⟨h, rfl, rfl⟩

/-- **`APP_PDUCOMM_PDUDevStaQue` seizes control or gives it back.** -/
theorem pduAdminSwitch_spec (h : Consistent a.devAdmin) (local_sta : UInt8) :
    Consistent (pduAdminSwitch local_sta a).devAdmin ∧
      control (pduAdminSwitch local_sta a).devAdmin =
        (control a.devAdmin).step (if 0 < local_sta then .seize else .giveBack) := by
  unfold pduAdminSwitch
  by_cases hsta : 0 < local_sta
  · by_cases hdev : a.devAdmin.devAdminSta = 0x02
    · simpa [hsta, hdev, control, Control.step] using h
    · constructor
      · constructor <;> simp [hsta, hdev]
      · simp only [hsta, hdev, if_true, ne_eq, not_false_eq_true]
        cases control a.devAdmin <;> simp [control, Control.step]
  · rcases h.cases with ⟨hdev, -⟩ | ⟨hdev, -⟩ | ⟨hdev, -⟩ | ⟨hdev, -⟩
    · simpa [hsta, hdev, control, Control.step] using h
    · simpa [hsta, hdev, control, Control.step] using h
    · constructor
      · constructor <;> simp [hsta, hdev]
      · simp [hsta, hdev, control, Control.step]
    · simpa [hsta, hdev, control, Control.step] using h

/-- **An unlinked PDU gives control back.** -/
theorem pduUnlinkDeal_spec (h : Consistent a.devAdmin) :
    Consistent (pduUnlinkDeal a).devAdmin ∧
      control (pduUnlinkDeal a).devAdmin =
        (control a.devAdmin).after (if a.rest.pduLinkStat = 1 then some .giveBack else none) := by
  unfold pduUnlinkDeal
  by_cases hlink : a.rest.pduLinkStat = 1
  · simp only [hlink, if_true, Control.after]
    rcases h.cases with ⟨hdev, hadm, -⟩ | ⟨hdev, hadm, -⟩ | ⟨hdev, hadm, hask, hip⟩ | ⟨hdev, hadm, -⟩
    · simpa [hdev, hadm, control, Control.step] using h
    · simpa [hdev, hadm, control, Control.step] using h
    · constructor
      · constructor <;> simp [hdev, hask, hip]
      · simp [hdev, control, Control.step]
    · simpa [hdev, hadm, control, Control.step] using h
  · simpa [hlink, Control.after] using h

/-- **`APP_OLEDCOMM_PCAdminSet` touches control only as its switch does.** -/
theorem oledPcAdminSet_devAdmin (rxbuff : Nat → UInt8) (a : Acu ρ) :
    (oledPcAdminSet rxbuff a).2.1.devAdmin =
      if cmdIdOf rxbuff ≠ pcHighAdminID ∨ rxbuff 2 ≠ 1 then a.devAdmin
      else (oledAdminSwitch (rxbuff 3) a.devAdmin).1 := by
  unfold oledPcAdminSet
  split <;> rfl

end

/-! ### Events -/

section
variable {ρ : Type} {h : PcHandlers ρ} {s : Sys ρ}

/-- What an event does to the control of the antenna, in terms of who holds it. -/
def op (s : Sys ρ) : Event → Option (ControlOp Nat)
  | .datagram src p =>
    if executed s (.datagram src p) = some .pcHighAdmin ∧ received s p 2 = 1 then
      some (pcOp src (received s p 3))
    else none
  | .oled rxbuff =>
    if cmdIdOf rxbuff ≠ pcHighAdminID ∨ rxbuff 2 ≠ 1 then none
    else some (if 0 < rxbuff 3 then .grant else .revoke)
  | .pdu none => none
  | .pdu (some revbuff) =>
    if revbuff 2 ≠ 0x8C ∨ revbuff 3 ≠ 0x02 then none
    else some (if 0 < revbuff 5 then .seize else .giveBack)
  | .tick period_ms => if TimesOut period_ms s.acu.devAdmin s.timer then some .expire else none
  | .pduUnlink => if s.acu.rest.pduLinkStat = 1 then some .giveBack else none

@[simp] theorem refused_setMcuBusy (cmd_id : Nat) (busy : UInt8) (a : Acu ρ) :
    Refused cmd_id (setMcuBusy busy a) ↔ Refused cmd_id a := Iff.rfl

/--
**A datagram changes control only as `PCHighAdminID`**, and then as the switch of
`APP_PCCOMM_PCAdminSet` says.  No other handler gets at the control of the device.
-/
theorem step_datagram_devAdmin (h : PcHandlers ρ) (s : Sys ρ) (src : Nat) (p : List UInt8) :
    (step h s (.datagram src p)).acu.devAdmin =
      if executed s (.datagram src p) = some .pcHighAdmin ∧ received s p 2 = 1 then
        (pcAdminSwitch src (received s p 3) (udpRecv src s.acu).devAdmin).2.1
      else (udpRecv src s.acu).devAdmin := by
  have hdst : (udpRecv src s.acu).pcCommStat.dstIpAddr = src := by
    unfold udpRecv
    grind
  obtain hrecv | ⟨data, hrecv⟩ := Option.eq_none_or_eq_some (rxBuffRecv p)
  · simp [step, executed, deal, hrecv]
  · simp only [step, executed, received, deal, hrecv, Option.getD_some]
    generalize overlay s.buffers.rxBuff 0 data = rx
    unfold cmdDeal
    simp only [refused_setMcuBusy]
    by_cases href : Refused (cmdIdOf rx) (udpRecv src s.acu)
    · simp [href, setMcuBusy]
    · simp only [href, if_false]
      obtain hfind | ⟨c, hfind⟩ := Option.eq_none_or_eq_some (findCmd (cmdIdOf rx))
      · simp [hfind, setMcuBusy]
      · simp only [hfind]
        by_cases hc : c = .pcHighAdmin
        · subst hc
          have hid : cmdIdOf rx = pcHighAdminID := (id_of_findCmd hfind).symm
          by_cases hlen : rx 2 = 1
          · simp [funcDeal, pcAdminSet, hid, hlen, setMcuBusy, hdst]
          · simp [funcDeal, pcAdminSet, hid, hlen, setMcuBusy]
        · simp [funcDeal, hc, setMcuBusy]

/-- **Every event is one operation on control**, or none. -/
theorem step_follows (hcons : Consistent s.acu.devAdmin) {e : Event} (he : e.Addressed) :
    Consistent (step h s e).acu.devAdmin ∧
      control (step h s e).acu.devAdmin = (control s.acu.devAdmin).after (op s e) := by
  cases e with
  | datagram src p =>
      obtain ⟨hrecv, hsame, -⟩ := udpRecv_spec hcons src
      rw [step_datagram_devAdmin, op]
      split
      · have hpc := pcAdminSwitch_spec hrecv he (received s p 3)
        exact ⟨hpc.1, hpc.2.trans (by rw [hsame]; rfl)⟩
      · exact ⟨hrecv, hsame⟩
  | oled rxbuff =>
      rw [step, oledPcAdminSet_devAdmin, op]
      split
      · exact ⟨hcons, rfl⟩
      · exact oledAdminSwitch_spec hcons (rxbuff 3)
  | pdu reply =>
      cases reply with
      | none => exact ⟨hcons, rfl⟩
      | some revbuff =>
          rw [step, pduDevStaQue, op]
          dsimp only
          split
          · exact ⟨hcons, rfl⟩
          · have hpdu := pduAdminSwitch_spec (a := setPduLink 0 s.acu) hcons (revbuff 5)
            exact ⟨⟨hpdu.1.same, hpdu.1.range, hpdu.1.ask, hpdu.1.ip⟩, hpdu.2⟩
  | tick period_ms =>
      rw [step, op]
      dsimp only
      rw [pcAdminTimeoutDeal_admin]
      split
      case isTrue hout => exact ⟨(timedOut_spec _).1, (timedOut_spec _).2.trans hout.expires.symm⟩
      case isFalse => exact ⟨hcons, rfl⟩
  | pduUnlink => exact pduUnlinkDeal_spec hcons

end

end SwiftAcu.Admin
