/-
Only the granted PC controls the antenna.

A handler of class 1 or 2 runs only for the address in `pc_admin_ip_addr`, and that
address got there by a grant of its own request.  This holds of every run.

That a PC is in control whenever the state says so does not.  The front panel can
grant what nobody has asked for, or grant a second time: the state becomes 0x01 and
`pc_admin_ip_addr`, the address of the PC in control, becomes 0.  Where every grant
answers a request, the address is the last one granted.
-/
import SwiftAcu.Proofs.Admin.Runs

namespace SwiftAcu.Admin

open PcComm

/-! ### What runs has authority -/

/-- A handler of class 1 or 2 other than `PCHighAdminID`. -/
def Controls (c : CmdId) : Prop := IsSet c.id ∧ c ≠ .pcHighAdmin

/-- The classes of the table are the classes of the authority check. -/
theorem Controls.checked {c : CmdId} (h : Controls c) :
    (c.id &&& 0x0F00 = 0x0100 ∨ c.id &&& 0x0F00 = 0x0200) ∧ c.id ≠ pcHighAdminID := by
  obtain ⟨hset, hne⟩ := h
  revert hset hne
  cases c <;> decide

section
variable {ρ : Type} {s : Sys ρ} {a : Nat} {p : List UInt8} {c : CmdId}

/-- **What is executed for `a` is executed under the control of `a`.** -/
theorem executed_held (hcons : Consistent s.acu.devAdmin) (ha : a ≠ 0)
    (hexec : executed s (.datagram a p) = some c) (hc : Controls c) : holder s = .held (some a) := by
  obtain ⟨hrecv, hsame, hdst⟩ := udpRecv_spec hcons a
  unfold executed at hexec
  obtain hnone | ⟨data, hdata⟩ := Option.eq_none_or_eq_some (rxBuffRecv p)
  · simp [hnone] at hexec
  · simp only [hdata] at hexec
    by_cases href : Refused (cmdIdOf (overlay s.buffers.rxBuff 0 data)) (udpRecv a s.acu)
    · simp [href] at hexec
    · simp only [href, if_false] at hexec
      have hid := id_of_findCmd hexec
      rw [← hid] at href
      have hauth : (udpRecv a s.acu).pcCommStat.dstIpAddr = (udpRecv a s.acu).devAdmin.pcAdminIpAddr ∧
          (udpRecv a s.acu).devAdmin.adminSta = 0x01 := by
        by_contra hno
        exact href ⟨hc.checked.1, hc.checked.2, not_and_or.mp hno⟩
      rw [hdst] at hauth
      exact hsame.symm.trans ((control_eq_held hrecv a ha).mpr ⟨hauth.2, hauth.1.symm⟩)

end

/-! ### Runs -/

section
variable {ρ : Type} (h : PcHandlers ρ) (s₀ : Sys ρ)

/--
`a` has requested control, the front panel has granted that request, and since then
`a` has not cancelled, nor the panel revoked, nor the PDU taken over, nor a timeout
struck; nor has the panel granted again.
-/
def HasAuthority (a : Nat) : List Event → Prop :=
  Past.Since
    (fun pre e => Control.Granted (step h) s₀ holder op a pre e ∧
      Past.Since (Control.Requested (step h) s₀ holder op a)
        (Control.Stays (step h) s₀ holder (.asked a)) pre)
    (Control.Kept (step h) s₀ op a)

/-- `a` is the PC whose request was the last that was granted. -/
def LastGranted (a : Nat) : List Event → Prop :=
  Past.Since (Control.Granted (step h) s₀ holder op a)
    fun pre e => op (Control.At (step h) s₀ pre) e ≠ some .grant

/--
Only the granted PC controls the antenna: whatever is executed for a PC is executed
under its authority, and a PC in control has the address of the last one granted.
-/
structure OnlyGranted (as : List Event) : Prop where
  executed : ∀ a p c, a ≠ 0 → executed (Control.At (step h) s₀ as) (.datagram a p) = some c →
    Controls c → HasAuthority h s₀ a as
  inControl : (Control.At (step h) s₀ as).acu.devAdmin.adminSta = 0x01 →
    (Control.At (step h) s₀ as).acu.devAdmin.pcAdminIpAddr ≠ 0 ∧
      LastGranted h s₀ (Control.At (step h) s₀ as).acu.devAdmin.pcAdminIpAddr as

/-- A grant answers a request. -/
def GrantAnswers (s : Sys ρ) (e : Event) : Prop :=
  op s e = some .grant → s.acu.devAdmin.devAdminSta = 0x11

instance (s : Sys ρ) (e : Event) : Decidable (GrantAnswers s e) :=
  inferInstanceAs (Decidable (_ → _))

variable {h s₀} {as : List Event}

/-- **What is executed has authority**, in every run. -/
theorem executed_hasAuthority (hidle : s₀.Idle) (haddr : ∀ e ∈ as, e.Addressed) {a : Nat}
    {p : List UInt8} {c : CmdId} (ha : a ≠ 0)
    (hexec : executed (Control.At (step h) s₀ as) (.datagram a p) = some c) (hc : Controls c) :
    HasAuthority h s₀ a as := by
  obtain ⟨hcons, hfollows⟩ := follows_run h hidle haddr
  exact Control.held_since hidle.free hfollows (executed_held hcons ha hexec hc)

theorem HasAuthority.lastGranted {a : Nat} (hauth : HasAuthority h s₀ a as) :
    LastGranted h s₀ a as :=
  hauth.imp (fun _ _ hgranted => hgranted.1) fun _ _ hkept => hkept.2.1

/-- **Where grants answer requests**, a PC in control is the last one granted. -/
theorem inControl_of_grants (hidle : s₀.Idle) (haddr : ∀ e ∈ as, e.Addressed)
    (hgrants : Runs.AllSteps (step h) GrantAnswers s₀ as)
    (hadmin : (Control.At (step h) s₀ as).acu.devAdmin.adminSta = 0x01) :
    (Control.At (step h) s₀ as).acu.devAdmin.pcAdminIpAddr ≠ 0 ∧
      LastGranted h s₀ (Control.At (step h) s₀ as).acu.devAdmin.pcAdminIpAddr as := by
  obtain ⟨hcons, hfollows⟩ := follows_run h hidle haddr
  have hanswered : Past.Through
      (fun pre e => op (Control.At (step h) s₀ pre) e = some .grant →
        ∃ a, Control.Granted (step h) s₀ holder op a pre e) [] as := by
    rw [Past.through_iff_split]
    rintro pre e post rfl
    intro hgrant
    have hasked := ((Runs.allSteps_append s₀ pre (e :: post)).mp hgrants).2.1 hgrant
    have hpre := (follows_run h hidle fun f hf => haddr f (List.mem_append_left _ hf)).1
    exact ⟨_, hgrant, (control_eq_asked hpre _).mpr ⟨hasked, rfl⟩⟩
  have hip : (Control.At (step h) s₀ as).acu.devAdmin.pcAdminIpAddr ≠ 0 := by
    intro hzero
    exact Control.not_held_none hidle.free hfollows hanswered
      ((control_eq_held_none hcons).mpr ⟨hadmin, hzero⟩)
  have hheld := (control_eq_held hcons _ hip).mpr ⟨hadmin, rfl⟩
  have hauth : HasAuthority h s₀ _ as := Control.held_since hidle.free hfollows hheld
  exact ⟨hip, hauth.lastGranted⟩

/-- A grant that answers no request leaves nobody in control. -/
theorem grant_unasked {s : Sys ρ} (hcons : Consistent s.acu.devAdmin) {e : Event} (he : e.Addressed)
    (hgrant : op s e = some .grant) (hsta : s.acu.devAdmin.devAdminSta ≠ 0x11) :
    (step h s e).acu.devAdmin.adminSta = 0x01 ∧ (step h s e).acu.devAdmin.pcAdminIpAddr = 0 := by
  obtain ⟨hcons', hcontrol⟩ := step_follows (h := h) hcons he
  rw [hgrant] at hcontrol
  refine (control_eq_held_none hcons').mp (hcontrol.trans ?_)
  rcases hcons.cases with ⟨hdev, -⟩ | ⟨hdev, -⟩ | ⟨hdev, -⟩ | ⟨hdev, -⟩
  · simp [control, hdev, Control.after, Control.step]
  · simp [control, hdev, Control.after, Control.step]
  · simp [control, hdev, Control.after, Control.step]
  · exact absurd hdev hsta

end

/--
**Only the granted PC controls the antenna, as long as every grant answers a request.**
In every run the states are as they should be exactly if the front panel grants only
what has been asked for.
-/
theorem onlyGranted_iff {ρ : Type} (h : PcHandlers ρ) {s₀ : Sys ρ} (hidle : s₀.Idle)
    {as : List Event} (haddr : ∀ e ∈ as, e.Addressed) :
    (∀ pre post, as = pre ++ post → OnlyGranted h s₀ pre) ↔
      Runs.AllSteps (step h) GrantAnswers s₀ as := by
  constructor
  · intro honly
    rw [Runs.allSteps_iff_split]
    rintro pre e post rfl hgrant
    by_contra hsta
    have hpre := (follows_run h hidle fun f hf => haddr f (List.mem_append_left _ hf)).1
    have hbad := grant_unasked (h := h) hpre (haddr e (by simp)) hgrant hsta
    have hnext := (honly (pre ++ [e]) post (by simp)).inControl
    rw [Control.At.concat] at hnext
    exact (hnext hbad.1).1 hbad.2
  · rintro hgrants pre post rfl
    have hpre : ∀ e ∈ pre, e.Addressed := fun e he => haddr e (by simp [he])
    constructor
    · intro a p c ha hexec hc
      exact executed_hasAuthority hidle hpre ha hexec hc
    · exact inControl_of_grants hidle hpre ((Runs.allSteps_append s₀ pre post).mp hgrants).1

/-- A run in which PC 7 asks and is granted control. -/
theorem onlyGranted_asked :
    OnlyGranted default bootSys [.datagram 7 (adminDatagram 1), .oled (adminPanel 1)] := by
  refine (onlyGranted_iff default bootSys_idle ?_).mpr ?_ _ [] (List.append_nil _).symm
  · simp [Event.Addressed]
  · refine ⟨?_, ?_, trivial⟩
    · decide
    · decide +kernel

/--
Two runs with a grant that answers no request: the first event of all is a grant, and
PC 7, in control after its request, is granted control again.
-/
theorem unasked_grant_owns_nobody :
    ¬OnlyGranted default bootSys [.oled (adminPanel 1)] ∧
      ¬OnlyGranted default bootSys
        [.datagram 7 (adminDatagram 1), .oled (adminPanel 1), .oled (adminPanel 1)] := by
  constructor
  · intro honly
    have hip := (honly.inControl (by decide)).1
    exact absurd hip (by decide)
  · intro honly
    have hip := (honly.inControl (by decide +kernel)).1
    exact absurd hip (by decide +kernel)

end SwiftAcu.Admin
