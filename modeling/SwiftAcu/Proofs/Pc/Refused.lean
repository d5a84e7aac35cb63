/-
What a command that is not carried out leaves behind.

`APP_PCCOMM_CmdDeal` notes in `mcu_busy` that it is at work, and takes the note back
on its way out, after a handler as well as behind the table.  A command refused for
lack of authority is answered and returned from in between: the note stays until the
next command that is not refused.  Nothing else of the device changes on either way.
-/
import SwiftAcu.Acu.AdminRun
import SwiftAcu.Proofs.Admin.Runs

namespace SwiftAcu.PcComm

section
variable {ρ : Type} (h : PcHandlers ρ) (a : Acu ρ) (b : Buffers)

/-- Refused, or in no entry of the table. -/
def Denied : Prop := Refused (cmdIdOf b.rxBuff) a ∨ findCmd (cmdIdOf b.rxBuff) = none

/-- A denied command leaves the device as it was, and of the buffers all but the transmitted. -/
def DeniedNoOp : Prop :=
  Denied a b →
    (cmdDeal h a b).2.1 = a ∧ (cmdDeal h a b).2.2.rxBuff = b.rxBuff ∧
      (cmdDeal h a b).2.2.antennaDir = b.antennaDir

/-- A device that was not busy is not busy afterwards. -/
def KeepsIdle : Prop :=
  a.pcCommStat.mcuBusy = 0 → (cmdDeal h a b).2.1.pcCommStat.mcuBusy = 0

/-- `mcu_busy` is, before the command, what the command will leave in it. -/
def BusyFits : Prop :=
  if Refused (cmdIdOf b.rxBuff) a then a.pcCommStat.mcuBusy = 1
  else findCmd (cmdIdOf b.rxBuff) = none → a.pcCommStat.mcuBusy = 0

variable {h a b}

theorem setMcuBusy_eq_iff (busy : UInt8) : setMcuBusy busy a = a ↔ a.pcCommStat.mcuBusy = busy := by
  constructor
  · intro heq
    rw [← heq]
    rfl
  · rintro rfl
    rfl

/-- A refused command is answered, and `mcu_busy` left set. -/
theorem cmdDeal_refused (href : Refused (cmdIdOf b.rxBuff) a) :
    cmdDeal h a b = (.FAIL, setMcuBusy 1 a, b.setResultSend (cmdIdOf b.rxBuff) .FAIL) := by
  have hbusy : Refused (cmdIdOf b.rxBuff) (setMcuBusy 1 a) := href
  simp only [cmdDeal, hbusy, if_true]

theorem cmdDeal_unknown (href : ¬Refused (cmdIdOf b.rxBuff) a)
    (hfind : findCmd (cmdIdOf b.rxBuff) = none) : cmdDeal h a b = (.FAIL, setMcuBusy 0 a, b) := by
  have hbusy : ¬Refused (cmdIdOf b.rxBuff) (setMcuBusy 1 a) := href
  simp only [cmdDeal, hbusy, if_false, hfind]
  rfl

/-- What a command leaves in `mcu_busy`, whatever it is. -/
theorem cmdDeal_mcuBusy :
    (cmdDeal h a b).2.1.pcCommStat.mcuBusy = if Refused (cmdIdOf b.rxBuff) a then 1 else 0 := by
  by_cases href : Refused (cmdIdOf b.rxBuff) a
  · rw [cmdDeal_refused href, if_pos href]
    rfl
  · have hbusy : ¬Refused (cmdIdOf b.rxBuff) (setMcuBusy 1 a) := href
    rw [if_neg href]
    simp only [cmdDeal, hbusy, if_false]
    cases findCmd (cmdIdOf b.rxBuff) with
    | none => rfl
    | some c => rfl

theorem setResultSend_rest (cmd_id : Nat) (status : Ret) :
    (b.setResultSend cmd_id status).rxBuff = b.rxBuff ∧
      (b.setResultSend cmd_id status).antennaDir = b.antennaDir := ⟨rfl, rfl⟩

theorem deniedNoOp_iff : DeniedNoOp h a b ↔ BusyFits a b := by
  unfold DeniedNoOp BusyFits Denied
  by_cases href : Refused (cmdIdOf b.rxBuff) a
  · rw [if_pos href, cmdDeal_refused href, ← setMcuBusy_eq_iff]
    constructor
    · intro hnoop
      exact (hnoop (Or.inl href)).1
    · intro hbusy _
      exact ⟨hbusy, setResultSend_rest _ _⟩
  · rw [if_neg href, or_iff_right href]
    refine imp_congr_right fun hfind => ?_
    rw [cmdDeal_unknown href hfind, ← setMcuBusy_eq_iff]
    exact and_iff_left ⟨rfl, rfl⟩

theorem keepsIdle_iff :
    KeepsIdle h a b ↔ (Refused (cmdIdOf b.rxBuff) a → a.pcCommStat.mcuBusy ≠ 0) := by
  unfold KeepsIdle
  rw [cmdDeal_mcuBusy]
  by_cases href : Refused (cmdIdOf b.rxBuff) a
  · simp [href]
  · simp [href]

/--
**A denied command is a no-op exactly if `mcu_busy` was what it leaves there.**  A
refused one leaves it set, so that no device at rest passes it unchanged.
-/
theorem denied_iff : DeniedNoOp h a b ∧ KeepsIdle h a b ↔ BusyFits a b := by
  rw [deniedNoOp_iff, keepsIdle_iff, and_iff_left_iff_imp]
  intro hfits href
  rw [BusyFits, if_pos href] at hfits
  rw [hfits]
  decide

/-- Buffers that hold the command id of `APP_PCCOMM_SatParamSet`. -/
def satParamSetBuffers : Buffers := ⟨fun i => [0x01, 0x01].getD i 0, fun _ => 0, 0, 0, []⟩

/-- A device at rest that nobody controls, given a command of class 1, stays busy. -/
theorem refused_leaves_busy :
    ¬(DeniedNoOp default Admin.bootSys.acu satParamSetBuffers ∧
      KeepsIdle default Admin.bootSys.acu satParamSetBuffers) := by
  rintro ⟨-, hidle⟩
  exact absurd (hidle rfl) (by decide)

end

/-! ### Over a run -/

section
open Admin

variable {ρ : Type}

/-- The event is no datagram with a command that is refused. -/
def NotRefused (s : Sys ρ) : Event → Prop
  | .datagram src p => ∀ data, rxBuffRecv p = some data →
      ¬Refused (cmdIdOf (overlay s.buffers.rxBuff 0 data)) (udpRecv src s.acu)
  | _ => True

variable (h : PcHandlers ρ)

theorem udpRecv_mcuBusy (src : Nat) (a : Acu ρ) :
    (udpRecv src a).pcCommStat.mcuBusy = a.pcCommStat.mcuBusy := by
  unfold udpRecv
  dsimp only
  split
  · split <;> rfl
  · rfl

theorem pduAdminSwitch_pcCommStat (local_sta : UInt8) (a : Acu ρ) :
    (pduAdminSwitch local_sta a).pcCommStat = a.pcCommStat := by
  unfold pduAdminSwitch
  split
  · split <;> rfl
  · split <;> rfl

theorem step_pcCommStat (s : Sys ρ) (e : Event) (he : ∀ src p, e ≠ .datagram src p) :
    (step h s e).acu.pcCommStat = s.acu.pcCommStat := by
  cases e with
  | datagram src p => exact absurd rfl (he src p)
  | oled rxbuff =>
      simp only [step, oledPcAdminSet]
      split <;> rfl
  | pdu reply =>
      simp only [step, pduDevStaQue]
      cases reply with
      | none => rfl
      | some revbuff =>
          dsimp only
          split
          · rfl
          · exact pduAdminSwitch_pcCommStat _ _
  | tick period_ms => rfl
  | pduUnlink =>
      simp only [step, pduUnlinkDeal]
      split
      · split <;> rfl
      · rfl

/-- One event leaves a device at rest that way unless it is a refused command. -/
theorem step_idle_iff (s : Sys ρ) (e : Event) (hidle : s.acu.pcCommStat.mcuBusy = 0) :
    (step h s e).acu.pcCommStat.mcuBusy = 0 ↔ NotRefused s e := by
  cases e with
  | datagram src p =>
      have hrecv : (udpRecv src s.acu).pcCommStat.mcuBusy = 0 :=
        (udpRecv_mcuBusy src s.acu).trans hidle
      unfold NotRefused
      obtain hp | ⟨data, hp⟩ := Option.eq_none_or_eq_some (rxBuffRecv p)
      · simp only [step, deal, hp]
        exact iff_of_true hrecv (by simp)
      · simp only [step, deal, hp, cmdDeal_mcuBusy, Option.some.injEq, forall_eq']
        simp
  | oled rxbuff => rw [step_pcCommStat h s _ (by simp)]; exact iff_of_true hidle trivial
  | pdu reply => rw [step_pcCommStat h s _ (by simp)]; exact iff_of_true hidle trivial
  | tick period_ms => rw [step_pcCommStat h s _ (by simp)]; exact iff_of_true hidle trivial
  | pduUnlink => rw [step_pcCommStat h s _ (by simp)]; exact iff_of_true hidle trivial

/-- **A run stays at rest exactly as long as nothing is refused in it.** -/
theorem idle_throughout_iff (s : Sys ρ) (hidle : s.acu.pcCommStat.mcuBusy = 0)
    (as : List Event) :
    Runs.AllStates (step h) (fun s => s.acu.pcCommStat.mcuBusy = 0) s as ↔
      Runs.AllSteps (step h) NotRefused s as :=
  Runs.allStates_iff (step_idle_iff h) hidle as

end

end SwiftAcu.PcComm
