/-
What a stop of a motor leaves.

A stop stops its motor or fails, and no other command for a stop takes that back.  A
command for one axis is none for another.
-/
import SwiftAcu.Acu.Motor

namespace SwiftAcu

/-- A stop of the axis was sent and failed. -/
def StopFailed (sent : List DriveCmd) (part : AntennaPart) : Prop :=
  ∃ c ∈ sent, c.part = part ∧ c.direction = 0x00 ∧ c.ret = .FAIL

/-- The motor of the axis is off, or a stop of it failed. -/
def Motors.Stopped (m : Motors) (part : AntennaPart) : Prop :=
  m.motorMove part = 0x00 ∨ StopFailed m.sent part

theorem AntennaPart.ofId_id (part : AntennaPart) : AntennaPart.ofId part.id = some part := by
  cases part
  · rfl
  · rfl
  · rfl

theorem StopFailed.append {sent : List DriveCmd} {part : AntennaPart} (h : StopFailed sent part)
    (more : List DriveCmd) : StopFailed (sent ++ more) part := by
  obtain ⟨c, hc, hcmd⟩ := h
  exact ⟨c, List.mem_append_left _ hc, hcmd⟩

section
variable (pdu : Pdu) (m : Motors) (part part' : AntennaPart)

theorem antennaDriveEnd_id : antennaDriveEnd pdu part.id m = exchange pdu part 0x00 m := by
  rw [antennaDriveEnd, AntennaPart.ofId_id]

/-! ### One stop -/

/-- A stop stops, or fails. -/
theorem stopped_exchange_self : (exchange pdu part 0x00 m).2.Stopped part := by
  unfold exchange
  dsimp only
  by_cases h : pdu part (m.count part) = .SUCC
  · left
    dsimp only
    rw [if_pos h, Function.update_self]
  · right
    have hfail : pdu part (m.count part) = .FAIL := by
      cases hret : pdu part (m.count part) with
      | SUCC => exact absurd hret h
      | FAIL => rfl
    exact ⟨_, List.mem_append_right _ (List.mem_singleton.mpr rfl), rfl, rfl, hfail⟩

/-- What is stopped stays so under a stop of any axis. -/
theorem stopped_exchange {m : Motors} (h : m.Stopped part) :
    (exchange pdu part' 0x00 m).2.Stopped part := by
  obtain hoff | hfailed := h
  · left
    unfold exchange
    dsimp only
    split
    · by_cases hpart : part = part'
      · rw [hpart, Function.update_self]
      · rw [Function.update_of_ne hpart, hoff]
    · exact hoff
  · exact Or.inr (hfailed.append _)

theorem motorMove_exchange_of_ne {part part' : AntennaPart} (h : part ≠ part')
    (direction : UInt8) : (exchange pdu part' direction m).2.motorMove part = m.motorMove part := by
  unfold exchange
  dsimp only
  split
  · exact Function.update_of_ne h ..
  · rfl

/-- A command that is not answered leaves the motor. -/
theorem motorMove_exchange_of_fail {m : Motors} {part : AntennaPart} (direction : UInt8)
    (h : pdu part (m.count part) ≠ .SUCC) :
    (exchange pdu part direction m).2.motorMove = m.motorMove := by
  unfold exchange
  dsimp only
  rw [if_neg h]

theorem motorMove_exchange_of_succ {m : Motors} {part : AntennaPart} (direction : UInt8)
    (h : pdu part (m.count part) = .SUCC) :
    (exchange pdu part direction m).2.motorMove part = direction := by
  unfold exchange
  dsimp only
  rw [if_pos h, Function.update_self]

/-! ### One start -/

section
variable (curr : Degrees) (limit : SoftLimit) {antenna_part : UInt8} (direction : UInt8)

/-- A start that does not succeed leaves the motors. -/
theorem motorMove_driveStart_of_fail
    (h : (antennaDriveStart pdu curr limit antenna_part direction m).1 ≠ .SUCC) :
    (antennaDriveStart pdu curr limit antenna_part direction m).2.motorMove = m.motorMove := by
  revert h
  unfold antennaDriveStart
  intro h
  split
  · rfl
  · split
    · rfl
    · split
      · rfl
      · next part hid hdir hlimit =>
        rw [hid] at h
        dsimp only at h
        rw [if_neg hdir, if_neg hlimit] at h
        exact motorMove_exchange_of_fail pdu direction h

/-- A start is for one axis. -/
theorem motorMove_driveStart_of_ne {part : AntennaPart}
    (h : AntennaPart.ofId antenna_part ≠ some part) :
    (antennaDriveStart pdu curr limit antenna_part direction m).2.motorMove part =
      m.motorMove part := by
  unfold antennaDriveStart
  split
  · rfl
  · split
    · rfl
    · split
      · rfl
      · next part' hid _ _ =>
        have hne : part ≠ part' := fun heq => h (by rw [heq, hid])
        exact motorMove_exchange_of_ne pdu m hne direction

end

/-! ### All of them -/

/-- A stop with its second try is one stop or two. -/
theorem driveEndTwice_cases (part : AntennaPart) :
    (driveEndTwice pdu part m).2 = (exchange pdu part 0x00 m).2 ∨
      (driveEndTwice pdu part m).2 = (exchange pdu part 0x00 (exchange pdu part 0x00 m).2).2 := by
  unfold driveEndTwice
  rw [← antennaDriveEnd_id, ← antennaDriveEnd_id]
  split
  · next m' heq => exact Or.inl (by rw [heq])
  · next m' heq => exact Or.inr (by rw [heq])

theorem stopped_driveEndTwice {m : Motors} (h : m.Stopped part) :
    (driveEndTwice pdu part' m).2.Stopped part := by
  have hone := stopped_exchange pdu part part' h
  obtain heq | heq := driveEndTwice_cases pdu m part'
  · rw [heq]
    exact hone
  · rw [heq]
    exact stopped_exchange pdu part part' hone

theorem stopped_driveEndTwice_self : (driveEndTwice pdu part m).2.Stopped part := by
  obtain heq | heq := driveEndTwice_cases pdu m part
  · rw [heq]
    exact stopped_exchange_self pdu m part
  · rw [heq]
    exact stopped_exchange_self pdu _ part

theorem stopped_allDriveEnd_self : (antennaAllDriveEnd pdu m).2.Stopped part := by
  unfold antennaAllDriveEnd
  dsimp only
  cases part with
  | position =>
      exact stopped_driveEndTwice _ _ _
        (stopped_driveEndTwice _ _ _ (stopped_driveEndTwice_self ..))
  | cabrage => exact stopped_driveEndTwice _ _ _ (stopped_driveEndTwice_self ..)
  | polar => exact stopped_driveEndTwice_self ..

theorem stopped_allDriveEnd {m : Motors} (h : m.Stopped part) :
    (antennaAllDriveEnd pdu m).2.Stopped part := by
  unfold antennaAllDriveEnd
  exact stopped_driveEndTwice _ _ _ (stopped_driveEndTwice _ _ _ (stopped_driveEndTwice _ _ _ h))

end

/-! ### Stops alone -/

/-- Of a motor nothing is changed but that it may be off. -/
def Eased (motorMove motorMove' : AntennaPart → UInt8) : Prop :=
  ∀ part, motorMove' part = 0x00 ∨ motorMove' part = motorMove part

theorem Eased.refl (motorMove : AntennaPart → UInt8) : Eased motorMove motorMove :=
  fun _ => Or.inr rfl

/-- The motors are only stopped. -/
def Motors.Eases (m m' : Motors) : Prop := Eased m.motorMove m'.motorMove

theorem Motors.Eases.refl (m : Motors) : m.Eases m := Eased.refl m.motorMove

theorem Motors.Eases.trans {m m' m'' : Motors} (h : m.Eases m') (h' : m'.Eases m'') :
    m.Eases m'' := by
  intro part
  obtain hoff | hsame := h' part
  · exact Or.inl hoff
  · rw [hsame]
    exact h part

/-- A stop never starts a motor. -/
theorem eases_exchange (pdu : Pdu) (part : AntennaPart) (m : Motors) :
    m.Eases (exchange pdu part 0x00 m).2 := by
  intro part'
  by_cases hpart : part' = part
  · subst hpart
    by_cases hret : pdu part' (m.count part') = .SUCC
    · exact Or.inl (motorMove_exchange_of_succ pdu _ hret)
    · exact Or.inr (congrFun (motorMove_exchange_of_fail pdu _ hret) part')
  · exact Or.inr (motorMove_exchange_of_ne pdu m hpart _)

theorem eases_driveEndTwice (pdu : Pdu) (part : AntennaPart) (m : Motors) :
    m.Eases (driveEndTwice pdu part m).2 := by
  have hone := eases_exchange pdu part m
  obtain heq | heq := driveEndTwice_cases pdu m part
  · rw [heq]
    exact hone
  · rw [heq]
    exact hone.trans (eases_exchange pdu part _)

theorem eases_allDriveEnd (pdu : Pdu) (m : Motors) : m.Eases (antennaAllDriveEnd pdu m).2 :=
  ((eases_driveEndTwice pdu .position m).trans (eases_driveEndTwice pdu .cabrage _)).trans
    (eases_driveEndTwice pdu .polar _)

end SwiftAcu
