/-
Whether the channel to the power unit can be lost.

A call that finds the semaphore up comes to an end, whatever the power unit answers, and
releases what it took, on every way but two.  `APP_PDUCOMM_VersionQue` returns from behind an
answer of another kind with the semaphore taken.  From then on nobody gets it: every later
call that takes it waits for good, so that no motor is started or stopped and the power
unit is not asked again.  And an answer longer than the buffer of the caller is written over
the stack, where nothing is certain any more.

What the calls do to the device apart from that is what `Acu/Admin.lean` and
`Acu/Motor.lean` say of them.
-/
import SwiftAcu.Acu.PduComm

namespace SwiftAcu.PduComm

open SemProg Runs

section
variable {ρ : Type} (d : Dev ρ) {reply : Reply} (n : Nat)

/-! ### The calls, with the semaphore up -/

/-- The answer fits into the buffer of the caller. -/
def Fits (size : Nat) (reply : Reply) : Prop := ∀ a ∈ reply, a.bytes.length ≤ size

theorem recvBuff_of_fits {size : Nat} {a : Answer} (h : Fits size (some a)) :
    recvBuff size a = some a.revbuff := if_pos (h a rfl)

theorem recvBuff_of_not_fits {size : Nat} {a : Answer} (h : ¬ Fits size (some a)) :
    recvBuff size a = none := by
  refine if_neg fun hle => h fun a' ha' => ?_
  rw [Option.mem_some_iff] at ha'
  exact ha' ▸ hle

theorem fits_none (size : Nat) : Fits size none := fun _ ha => by cases ha

/-- What a command to a motor comes to. -/
def motorSta (cmd : UInt8) : Reply → Ret
  | none => .FAIL
  | some a => if a.revbuff 2 = 0x84 ∧ a.revbuff 3 = cmd then .SUCC else .FAIL

theorem exec_motorDrive (cmd : UInt8) (data : List UInt8) (h : Fits 32 reply) :
    exec (fun _ => reply) (motorDrive cmd data d) n =
      .ends n (some (motorSta cmd reply, setLinkStat (if reply.isSome then 0 else 1) d)) := by
  unfold motorDrive
  rw [exec_request]
  cases reply with
  | none => rfl
  | some a =>
      dsimp only [motorSta]
      rw [recvBuff_of_fits h]
      dsimp only
      split
      · rfl
      · rfl

theorem exec_motorDrive_overrun (cmd : UInt8) (data : List UInt8) (h : ¬ Fits 32 reply) :
    exec (fun _ => reply) (motorDrive cmd data d) n = .ends n none := by
  unfold motorDrive
  rw [exec_request]
  cases reply with
  | none => exact absurd (fits_none 32) h
  | some a =>
      dsimp only
      rw [recvBuff_of_not_fits h]
      rfl

theorem exec_versionQue_timeout :
    exec (fun _ => none) (versionQue d) (n + 1) = .ends (n + 1) (some (.FAIL, d)) := rfl

theorem exec_versionQue_version {a : Answer} (hfits : Fits 50 (some a))
    (h : IsVersion a.revbuff) :
    exec (fun _ => some a) (versionQue d) (n + 1) =
      .ends (n + 1) (some (.SUCC, { d with
        version := { softver := bytes16 a.revbuff 5, hardver := bytes16 a.revbuff 21 } })) := by
  unfold versionQue
  rw [exec_take, exec_request]
  dsimp only
  rw [recvBuff_of_fits hfits]
  dsimp only
  rw [if_neg h]
  rfl

/-- The way on which the semaphore is not released. -/
theorem exec_versionQue_other {a : Answer} (hfits : Fits 50 (some a))
    (h : ¬ IsVersion a.revbuff) :
    exec (fun _ => some a) (versionQue d) (n + 1) = .ends n (some (.FAIL, d)) := by
  unfold versionQue
  rw [exec_take, exec_request]
  dsimp only
  rw [recvBuff_of_fits hfits]
  dsimp only
  rw [if_pos (not_not.mp h)]
  rfl

theorem exec_versionQue_overrun (h : ¬ Fits 50 reply) :
    exec (fun _ => reply) (versionQue d) (n + 1) = .ends n none := by
  unfold versionQue
  rw [exec_take, exec_request]
  cases reply with
  | none => exact absurd (fits_none 50) h
  | some a =>
      dsimp only
      rw [recvBuff_of_not_fits h]
      rfl

/-- The poll does to the control of the device what `Admin.pduDevStaQue` says. -/
theorem exec_pduDevStaQue (h : Fits 50 reply) :
    exec (fun _ => reply) (pduDevStaQue d) (n + 1) =
      .ends (n + 1) (some ((Admin.pduDevStaQue (reply.map Answer.revbuff) d.acu).1,
        { d with acu := (Admin.pduDevStaQue (reply.map Answer.revbuff) d.acu).2 })) := by
  unfold pduDevStaQue
  rw [exec_take, exec_request]
  cases reply with
  | none => rfl
  | some a =>
      dsimp only [Admin.pduDevStaQue, Option.map_some]
      rw [recvBuff_of_fits h]
      dsimp only
      split
      · rfl
      · rfl

theorem exec_pduDevStaQue_overrun (h : ¬ Fits 50 reply) :
    exec (fun _ => reply) (pduDevStaQue d) (n + 1) = .ends n none := by
  unfold pduDevStaQue
  rw [exec_take, exec_request]
  cases reply with
  | none => exact absurd (fits_none 50) h
  | some a =>
      dsimp only
      rw [recvBuff_of_not_fits h]
      rfl

/-- A start that does not go on to the power unit, in the model without a channel. -/
theorem antennaDriveStart_of_none {antenna_part direction : UInt8}
    (h : d.starts antenna_part direction = none) (pdu : Pdu) (m : Motors) :
    SwiftAcu.antennaDriveStart pdu d.antenna d.softLimit antenna_part direction m = (.FAIL, m) := by
  unfold Dev.starts at h
  unfold SwiftAcu.antennaDriveStart
  cases hid : AntennaPart.ofId antenna_part with
  | none => rfl
  | some part =>
      rw [hid] at h
      dsimp only at h ⊢
      split at h
      · next hdir => rw [if_pos hdir]
      · next hdir =>
        rw [if_neg hdir]
        split at h
        · next hlimit => rw [if_pos hlimit]
        · cases h

theorem antennaDriveStart_of_some {antenna_part direction : UInt8} {part : AntennaPart}
    (h : d.starts antenna_part direction = some part) (pdu : Pdu) (m : Motors) :
    SwiftAcu.antennaDriveStart pdu d.antenna d.softLimit antenna_part direction m =
      exchange pdu part direction m := by
  unfold Dev.starts at h
  unfold SwiftAcu.antennaDriveStart
  cases hid : AntennaPart.ofId antenna_part with
  | none =>
      rw [hid] at h
      cases h
  | some part' =>
      rw [hid] at h
      dsimp only at h ⊢
      split at h
      · cases h
      · next hdir =>
        rw [if_neg hdir]
        split at h
        · cases h
        · next hlimit =>
          rw [if_neg hlimit]
          rw [Option.some.injEq] at h
          rw [h]

/-- A start does to the motors what the `antennaDriveStart` of the model without a channel does. -/
theorem exec_antennaDriveStart (antenna_part direction : UInt8)
    (h : (d.starts antenna_part direction).isSome = true → Fits 32 reply) :
    ∃ d', exec (fun _ => reply) (antennaDriveStart antenna_part direction d) (n + 1) =
        .ends (n + 1) (some ((SwiftAcu.antennaDriveStart (fun _ _ => motorSta 0x01 reply) d.antenna
          d.softLimit antenna_part direction ⟨d.motorMove, []⟩).1, d')) ∧
      d'.motorMove = (SwiftAcu.antennaDriveStart (fun _ _ => motorSta 0x01 reply) d.antenna
          d.softLimit antenna_part direction ⟨d.motorMove, []⟩).2.motorMove := by
  unfold antennaDriveStart
  cases hstarts : d.starts antenna_part direction with
  | none =>
      rw [antennaDriveStart_of_none d hstarts]
      exact ⟨d, rfl, rfl⟩
  | some part =>
      have hfits : Fits 32 reply := h (by rw [hstarts]; rfl)
      rw [antennaDriveStart_of_some d hstarts]
      dsimp only
      rw [exec_take, exec_bind, motorDriveStart, exec_motorDrive _ _ _ _ hfits]
      refine ⟨_, rfl, ?_⟩
      simp only [exchange]
      split <;> rfl

theorem exec_antennaDriveStart_overrun (antenna_part direction : UInt8)
    (hstarts : (d.starts antenna_part direction).isSome = true) (h : ¬ Fits 32 reply) :
    exec (fun _ => reply) (antennaDriveStart antenna_part direction d) (n + 1) = .ends n none := by
  obtain ⟨part, hpart⟩ := Option.isSome_iff_exists.mp hstarts
  unfold antennaDriveStart
  rw [hpart]
  dsimp only
  rw [exec_take, exec_bind, motorDriveStart, exec_motorDrive_overrun _ _ _ _ h]
  rfl

theorem exec_antennaDriveEnd (antenna_part : UInt8)
    (h : (AntennaPart.ofId antenna_part).isSome = true → Fits 32 reply) :
    ∃ d', exec (fun _ => reply) (antennaDriveEnd antenna_part d) (n + 1) =
        .ends (n + 1) (some ((SwiftAcu.antennaDriveEnd (fun _ _ => motorSta 0x02 reply)
          antenna_part ⟨d.motorMove, []⟩).1, d')) ∧
      d'.motorMove = (SwiftAcu.antennaDriveEnd (fun _ _ => motorSta 0x02 reply) antenna_part
          ⟨d.motorMove, []⟩).2.motorMove := by
  unfold antennaDriveEnd SwiftAcu.antennaDriveEnd
  rw [exec_take]
  cases hid : AntennaPart.ofId antenna_part with
  | none => exact ⟨d, rfl, rfl⟩
  | some part =>
      dsimp only
      rw [exec_bind, motorDriveEnd, exec_motorDrive _ _ _ _ (h (by rw [hid]; rfl))]
      refine ⟨_, rfl, ?_⟩
      simp only [exchange]
      split <;> rfl

theorem exec_antennaDriveEnd_overrun (antenna_part : UInt8)
    (hid : (AntennaPart.ofId antenna_part).isSome = true) (h : ¬ Fits 32 reply) :
    exec (fun _ => reply) (antennaDriveEnd antenna_part d) (n + 1) = .ends n none := by
  obtain ⟨part, hpart⟩ := Option.isSome_iff_exists.mp hid
  unfold antennaDriveEnd
  rw [exec_take, hpart]
  dsimp only
  rw [exec_bind, motorDriveEnd, exec_motorDrive_overrun _ _ _ _ h]
  rfl

end

/-! ### One call -/

section
variable {ρ : Type}

/-- The call comes to ask the power unit. -/
def Call.Asks (d : Dev ρ) : Call → Prop
  | .versionQue => True
  | .pduDevStaQue => True
  | .antennaDriveStart antenna_part direction => (d.starts antenna_part direction).isSome = true
  | .antennaDriveEnd antenna_part _ => (AntennaPart.ofId antenna_part).isSome = true

/-- The size of `revbuff`. -/
def Call.size : Call → Nat
  | .versionQue => 50
  | .pduDevStaQue => 50
  | .antennaDriveStart .. => 32
  | .antennaDriveEnd .. => 32

/-- The answer to a call that asks the power unit fits into its buffer, and that to a query for
the version is one. -/
def Event.Answered (d : Dev ρ) (e : Event) : Prop :=
  e.call.Asks d →
    Fits e.call.size e.reply ∧ (e.call = .versionQue → ∀ a ∈ e.reply, IsVersion a.revbuff)

/-- The call releases what it takes, leaves the semaphore at 1 and the stack alone, and nobody
waits. -/
def Kept (s : Sys ρ) (e : Event) : Prop :=
  (e.call.use s.dev).releases (fun _ => e.reply) = (e.call.use s.dev).takes (fun _ => e.reply) ∧
    (step s e).sem = 1 ∧ (step s e).waiting = 0 ∧ (step s e).overrun = false

theorem exec_answered (d : Dev ρ) {e : Event} (h : e.Answered d) (n : Nat) :
    ∃ b, e.exec d (n + 1) = .ends (n + 1) (some b) := by
  obtain ⟨call, reply⟩ := e
  cases call with
  | versionQue =>
      obtain ⟨hfits, hversion⟩ := h trivial
      cases reply with
      | none => exact ⟨_, exec_versionQue_timeout d n⟩
      | some a => exact ⟨_, exec_versionQue_version d n hfits (hversion rfl a rfl)⟩
  | pduDevStaQue => exact ⟨_, exec_pduDevStaQue d n (h trivial).1⟩
  | antennaDriveStart antenna_part direction =>
      obtain ⟨d', hends, -⟩ :=
        exec_antennaDriveStart d n antenna_part direction fun hasks => (h hasks).1
      exact ⟨_, hends⟩
  | antennaDriveEnd antenna_part direction =>
      obtain ⟨d', hends, -⟩ := exec_antennaDriveEnd d n antenna_part fun hasks => (h hasks).1
      exact ⟨_, hends⟩

theorem exec_not_answered (d : Dev ρ) {e : Event} (h : ¬ e.Answered d) (n : Nat) :
    ∃ b, e.exec d (n + 1) = .ends n b := by
  obtain ⟨call, reply⟩ := e
  unfold Event.Answered at h
  obtain ⟨hasks, hnot⟩ := Classical.not_imp.mp h
  by_cases hfits : Fits call.size reply
  · obtain ⟨hcall, hother⟩ := Classical.not_imp.mp fun hversion => hnot ⟨hfits, hversion⟩
    dsimp only at hcall
    subst hcall
    push Not at hother
    obtain ⟨a, ha, hother⟩ := hother
    rw [show reply = some a from ha] at hfits ⊢
    exact ⟨_, exec_versionQue_other d n hfits hother⟩
  · cases call with
    | versionQue => exact ⟨_, exec_versionQue_overrun d n hfits⟩
    | pduDevStaQue => exact ⟨_, exec_pduDevStaQue_overrun d n hfits⟩
    | antennaDriveStart antenna_part direction =>
        exact ⟨_, exec_antennaDriveStart_overrun d n antenna_part direction hasks hfits⟩
    | antennaDriveEnd antenna_part direction =>
        exact ⟨_, exec_antennaDriveEnd_overrun d n antenna_part hasks hfits⟩

/-- The channel is up, and nobody waits for it. -/
structure Sys.Up (s : Sys ρ) : Prop where
  sem : s.sem = 1
  waiting : s.waiting = 0
  overrun : s.overrun = false

theorem step_ends {s : Sys ρ} (h : s.Up) {e : Event} {sem : Nat} {b : Ret} {dev : Dev ρ}
    (hends : e.exec s.dev 1 = .ends sem (some (b, dev))) : step s e = { s with dev, sem } := by
  rw [step, h.overrun, h.sem, hends]
  rfl

theorem step_overrun {s : Sys ρ} (h : s.Up) {e : Event} {sem : Nat}
    (hends : e.exec s.dev 1 = .ends sem none) : step s e = { s with overrun := true } := by
  rw [step, h.overrun, h.sem, hends]
  rfl

/-- One call keeps the channel exactly if it is answered as it should be. -/
theorem kept_iff {s : Sys ρ} (h : s.Up) (e : Event) : Kept s e ↔ e.Answered s.dev := by
  by_cases hans : e.Answered s.dev
  · refine iff_of_true ?_ hans
    obtain ⟨b, hends⟩ := exec_answered s.dev hans 0
    refine ⟨(exec_count_eq_iff _ hends).mp rfl, ?_⟩
    rw [step_ends h hends]
    exact ⟨rfl, h.waiting, h.overrun⟩
  · refine iff_of_false ?_ hans
    rintro ⟨-, hone, -, hover⟩
    obtain ⟨b, hends⟩ := exec_not_answered s.dev hans 0
    cases b with
    | none =>
        rw [step_overrun h hends] at hover
        cases hover
    | some b =>
        rw [step_ends h hends] at hone
        cases hone

/-! ### Runs -/

/--
**The channel is kept exactly as long as** no answer is longer than its buffer, and no query for
the version is answered with something else.
-/
theorem channel_kept_iff {s : Sys ρ} (h : s.Up) (es : List Event) :
    AllSteps step Kept s es ↔ AllSteps step (fun s e => e.Answered s.dev) s es := by
  refine allSteps_iff_of_inv (fun s e _ hup => kept_iff hup e) (fun s e _ hup hans => ?_) h
  obtain ⟨-, hsem, hwaiting, hover⟩ := (kept_iff hup e).mpr hans
  exact ⟨hsem, hwaiting, hover⟩

/-- With the semaphore taken a call waits, or gives up before it takes it. -/
theorem exec_lost (d : Dev ρ) (e : Event) :
    e.exec d 0 = .waits ∨ e.exec d 0 = .ends 0 (some (.FAIL, d)) := by
  obtain ⟨call, reply⟩ := e
  cases call with
  | versionQue => exact Or.inl rfl
  | pduDevStaQue => exact Or.inl rfl
  | antennaDriveStart antenna_part direction =>
      unfold Event.exec Call.use antennaDriveStart
      dsimp only
      cases d.starts antenna_part direction with
      | none => exact Or.inr rfl
      | some part => exact Or.inl rfl
  | antennaDriveEnd antenna_part direction => exact Or.inl rfl

/-- **A channel that is lost stays lost**, and nothing is done to the device through it. -/
theorem lost_for_good {s : Sys ρ} (hsem : s.sem = 0) (es : List Event) :
    (run step s es).sem = 0 ∧ (run step s es).dev = s.dev := by
  have hall : AllSteps step (fun _ _ => True) s es := (allSteps_const s es).mpr fun _ _ => trivial
  refine inv_run (fun t e (hlost : t.sem = 0 ∧ t.dev = s.dev) _ => ?_) ⟨hsem, rfl⟩ hall
  obtain ⟨hzero, hdev⟩ := hlost
  unfold step
  split
  · exact ⟨hzero, hdev⟩
  · rcases exec_lost t.dev e with hwaits | hends
    · rw [hzero, hwaits]
      exact ⟨rfl, hdev⟩
    · rw [hzero, hends]
      exact ⟨rfl, hdev⟩

/-- The device at start-up, behind `APP_PDUCOMM_Init`. -/
def bootSys : Sys Unit where
  dev :=
    { acu :=
        { devAdmin := ⟨0, 0, 0, 0, 0, 0, 0, 0⟩
          pcCommStat := ⟨0, 0⟩
          rest := ⟨0, 0, 0, 0, 0, 0, 0, 0, 0, true, [], ()⟩ }
      antenna := ⟨180, 45, 0⟩
      softLimit := ⟨⟨110, 5, -90⟩, ⟨260, 85, 90⟩⟩
      dirMap := fun _ => ⟨1, 2⟩
      motorMove := fun _ => 0
      version := ⟨Vector.replicate 16 0x20, Vector.replicate 16 0x20⟩ }
  sem := 1
  waiting := 0
  overrun := false

/-- An answer into a buffer of zeros. -/
def answered (bytes : List UInt8) : Reply := some ⟨bytes, fun _ => 0⟩

/-- A start that is answered, a query for the version that is not, and a stop with an answer of
another command. -/
def exchanges : List Event :=
  [⟨.antennaDriveStart 1 2, answered (frameOf [0x84, 0x01, 0x00])⟩, ⟨.versionQue, none⟩,
    ⟨.antennaDriveEnd 1 0, answered (frameOf [0x84, 0x01, 0x00])⟩]

/-- The channel is kept over them. -/
theorem channel_kept_exchanges : AllSteps step Kept bootSys exchanges := by
  refine (channel_kept_iff ⟨rfl, rfl, rfl⟩ _).mpr ⟨fun _ => ⟨?_, fun h => by cases h⟩,
    fun _ => ⟨fits_none 50, fun _ a ha => by cases ha⟩, fun _ => ⟨?_, fun h => by cases h⟩, trivial⟩
  · intro a ha
    rw [← Option.mem_some_iff.mp ha]
    decide
  · intro a ha
    rw [← Option.mem_some_iff.mp ha]
    decide

/-- The answer to a stop. -/
def stopAnswer : Reply := answered (frameOf [0x84, 0x02, 0x00])

/-- Behind such an answer to a query for the version a stop waits for good. -/
theorem version_answer_locks :
    ¬ AllSteps step Kept bootSys [⟨.versionQue, stopAnswer⟩] ∧
      (run step bootSys
        [⟨.versionQue, stopAnswer⟩, ⟨.antennaDriveEnd 1 0, stopAnswer⟩]).waiting = 1 := by
  refine ⟨?_, rfl⟩
  rintro ⟨⟨-, hone, -⟩, -⟩
  exact absurd hone (by decide)

end

end SwiftAcu.PduComm
