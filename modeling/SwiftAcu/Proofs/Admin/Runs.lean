/-
Runs of the four parties.

A run from a device nobody controls follows the control protocol step by step, and
its control fields stay consistent.  What holds of any run of the protocol then holds
of the device.
-/
import SwiftAcu.Proofs.Admin.Step

namespace SwiftAcu.Admin

open PcComm

section
variable {ρ : Type}

/-- Who controls the antenna. -/
def holder (s : Sys ρ) : Control Nat := control s.acu.devAdmin

theorem Sys.Idle.consistent {s : Sys ρ} (h : s.Idle) : Consistent s.acu.devAdmin := by
  constructor <;> simp [h.dev, h.admin, h.ip, h.ask]

theorem Sys.Idle.free {s : Sys ρ} (h : s.Idle) : holder s = .free := by
  simp [holder, control, h.dev]

section
variable (h : PcHandlers ρ) {s₀ : Sys ρ} {as : List Event}

/-- **A run follows the protocol**, and stays consistent. -/
theorem follows_run (hidle : s₀.Idle) (haddr : ∀ e ∈ as, e.Addressed) :
    Consistent (Control.At (step h) s₀ as).acu.devAdmin ∧
      Past.Through (Control.Follows (step h) s₀ holder op) [] as := by
  induction as using List.reverseRecOn with
  | nil => exact ⟨hidle.consistent, trivial⟩
  | append_singleton as e ih =>
      obtain ⟨hcons, hthrough⟩ := ih fun f hf => haddr f (by simp [hf])
      obtain ⟨hcons', hfollows⟩ := step_follows (h := h) hcons (haddr e (by simp))
      rw [Past.through_concat, List.nil_append, Control.Follows, Control.At.concat]
      exact ⟨hcons', hthrough, hfollows⟩

end

/--
**The control fields are consistent in every state of every run.**  The two states
agree and are one of the four, the address that asks is set exactly while somebody
asks, and the address in control only while a PC is in control.
-/
theorem control_consistent (h : PcHandlers ρ) {s₀ : Sys ρ} (hidle : s₀.Idle) {as : List Event}
    (haddr : ∀ e ∈ as, e.Addressed) :
    Consistent (Runs.run (step h) s₀ as).acu.devAdmin :=
  (follows_run h hidle haddr).1

end

/-! ### A device to run -/

/-- A device as the start-up code leaves it. -/
def bootSys : Sys Unit where
  acu :=
    { devAdmin := ⟨0, 0, 0, 0, 0, 0, 0, 0⟩
      pcCommStat := ⟨0, 0⟩
      rest := ⟨0, 0, 0, 0, 0, 0, 0, 0, 0, true, [], ()⟩ }
  buffers := ⟨fun _ => 0, fun _ => 0, 0, 0, []⟩
  timer := ⟨0, 0, 0⟩

theorem bootSys_idle : bootSys.Idle := by
  constructor <;> rfl

/-- The datagram with which a PC asks for control (1) or gives it back (0). -/
def adminDatagram (admin_switch : UInt8) : List UInt8 :=
  [0xBC, 0x04, 0x02, 0x1A, 0x01, admin_switch, 0xDD + admin_switch, 0xCB]

/-- The front-panel frame that grants control (1) or refuses it (0). -/
def adminPanel (admin_switch : UInt8) : Nat → UInt8 := fun i =>
  [0x02, 0x1A, 0x01, admin_switch].getD i 0

/-- A run in which a PC asks, is granted control and asks again. -/
theorem control_consistent_granted :
    Consistent (Runs.run (step default) bootSys
      [.datagram 7 (adminDatagram 1), .oled (adminPanel 1), .datagram 7 (adminDatagram 1)]).acu.devAdmin :=
  control_consistent default bootSys_idle (by simp [Event.Addressed])

end SwiftAcu.Admin
