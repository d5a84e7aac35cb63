/-
Which arrays the receive interrupts stay inside of.

The write index never leaves the buffer, because it is set back when it has reached the end;
and the look at the place the length byte points to is taken only when that place has been
written, so that a length byte of 255 is harmless.  The interrupt of the power unit goes
further: it copies an urgent frame to an array of half the size, with nothing but the
received bytes to say how long it is.
-/
import SwiftAcu.Acu.Serial

namespace SwiftAcu.Serial

open Runs

/-! ### One byte -/

/-- The buffer with a byte put in. -/
def stored (b : UInt8) (r : Rx) : Rx :=
  { r with
    pbuff := r.pbuff.setIfInBounds r.writeP b
    writeP := if buffSize ≤ r.writeP + 1 then 0 else r.writeP + 1 }

/-- A frame has come to its end. -/
def FrameEnds (r : Rx) : Prop :=
  r.pbuff[0]? = some 0xBC ∧ 2 ≤ r.writeP ∧
    ∃ len, r.pbuff[1]? = some len ∧ len.toNat + 4 ≤ r.writeP ∧ r.pbuff[len.toNat + 3]? = some 0xCB

/-- It is an urgent one of the power unit. -/
def Urgent (port : Port) (r : Rx) : Prop :=
  port = .pdu ∧ FrameEnds r ∧ ∃ cmd, r.pbuff[2]? = some cmd ∧ cmd &&& 0x0F = 0x0D

theorem writeP_stored (b : UInt8) (r : Rx) : (stored b r).writeP < 64 := by
  unfold stored
  dsimp only
  split
  · decide
  · next h => exact Nat.not_le.mp h

theorem intHandler_eq (port : Port) (b : UInt8) {r : Rx} (h : r.writeP < 64) :
    intHandler port b r = frameTest port (stored b r) := by
  have hset : r.pbuff.set r.writeP b h = r.pbuff.setIfInBounds r.writeP b := by
    ext i hi
    rw [Vector.getElem_set, Vector.getElem_setIfInBounds]
  unfold intHandler store
  rw [dif_pos h, hset]
  rfl

/-- A frame has begun and may still go on. -/
def FrameOpen (r : Rx) : Prop :=
  r.pbuff[0]? = some 0xBC ∧ (2 ≤ r.writeP → ∀ len, r.pbuff[1]? = some len → r.writeP < len.toNat + 4)

/--
What the test of a byte comes to: the urgent frame is dealt with, the frame is posted, or no
frame has ended and the buffer is kept or begun anew.
-/
theorem frameTest_cases (port : Port) {r : Rx} (h : r.writeP < 64) :
    (Urgent port r ∧ frameTest port r = urgentDeal r) ∨
      (FrameEnds r ∧ ¬Urgent port r ∧ frameTest port r = some { r with sem := r.sem + 1 }) ∨
      (¬FrameEnds r ∧ FrameOpen r ∧ frameTest port r = some r) ∨
      (¬FrameEnds r ∧ ¬FrameOpen r ∧ frameTest port r = some { r with writeP := 0 }) := by
  obtain ⟨head, hhead⟩ : ∃ head, r.pbuff[0]? = some head := ⟨_, Vector.getElem?_eq_getElem (by decide)⟩
  obtain ⟨len, hlen⟩ : ∃ len, r.pbuff[1]? = some len := ⟨_, Vector.getElem?_eq_getElem (by decide)⟩
  obtain ⟨cmd, hcmd⟩ : ∃ cmd, r.pbuff[2]? = some cmd := ⟨_, Vector.getElem?_eq_getElem (by decide)⟩
  have hends : FrameEnds r ↔ head = 0xBC ∧ 2 ≤ r.writeP ∧ len.toNat + 4 ≤ r.writeP ∧
      r.pbuff[len.toNat + 3]? = some 0xCB := by
    unfold FrameEnds
    rw [hhead, hlen]
    simp only [Option.some.injEq, exists_eq_left']
  have hopen : FrameOpen r ↔ head = 0xBC ∧ (2 ≤ r.writeP → r.writeP < len.toNat + 4) := by
    unfold FrameOpen
    rw [hhead, hlen]
    simp only [Option.some.injEq, forall_eq']
  have hurgent : Urgent port r ↔ port = .pdu ∧ FrameEnds r ∧ cmd &&& 0x0F = 0x0D := by
    unfold Urgent
    rw [hcmd]
    simp only [Option.some.injEq, exists_eq_left']
  unfold frameTest
  rw [hhead, hlen]
  dsimp only [Option.bind_eq_bind, Option.bind_some]
  by_cases hbegun : head = 0xBC
  · rw [if_pos hbegun]
    by_cases htwo : 2 ≤ r.writeP
    · rw [if_pos htwo]
      by_cases hlong : len.toNat + 4 ≤ r.writeP
      · rw [if_pos hlong]
        have hclosed : ¬FrameOpen r := fun h => absurd ((hopen.mp h).2 htwo) (by omega)
        obtain ⟨last, hlast⟩ : ∃ last, r.pbuff[len.toNat + 3]? = some last :=
          ⟨_, Vector.getElem?_eq_getElem (by omega)⟩
        rw [hlast] at hends ⊢
        dsimp only [Option.bind_some]
        by_cases hcb : last = 0xCB
        · have hend : FrameEnds r := hends.mpr ⟨hbegun, htwo, hlong, congrArg some hcb⟩
          rw [if_pos hcb]
          by_cases hport : port = .pdu
          · rw [if_pos hport, hcmd, Option.bind_some]
            by_cases hcmd' : cmd &&& 0x0F = 0x0D
            · rw [if_pos hcmd']
              exact Or.inl ⟨hurgent.mpr ⟨hport, hend, hcmd'⟩, rfl⟩
            · rw [if_neg hcmd']
              exact Or.inr (Or.inl ⟨hend, fun h => hcmd' (hurgent.mp h).2.2, rfl⟩)
          · rw [if_neg hport]
            exact Or.inr (Or.inl ⟨hend, fun h => hport h.1, rfl⟩)
        · rw [if_neg hcb]
          have hnot : ¬FrameEnds r := fun h => hcb (Option.some.inj (hends.mp h).2.2.2)
          exact Or.inr (Or.inr (Or.inr ⟨hnot, hclosed, rfl⟩))
      · rw [if_neg hlong]
        exact Or.inr (Or.inr (Or.inl ⟨fun h => hlong (hends.mp h).2.2.1,
          hopen.mpr ⟨hbegun, fun _ => by omega⟩, rfl⟩))
    · rw [if_neg htwo]
      exact Or.inr (Or.inr (Or.inl ⟨fun h => htwo (hends.mp h).2.1,
        hopen.mpr ⟨hbegun, fun h => absurd h htwo⟩, rfl⟩))
  · rw [if_neg hbegun]
    exact Or.inr (Or.inr (Or.inr ⟨fun h => hbegun (hends.mp h).1,
      fun h => hbegun (hopen.mp h).1, rfl⟩))

/-- **Only the copy of an urgent frame leaves an array.** -/
theorem intHandler_eq_none (port : Port) (b : UInt8) {r : Rx} (h : r.writeP < 64) :
    intHandler port b r = none ↔
      Urgent port (stored b r) ∧ urgentBuffSize < (stored b r).writeP := by
  rw [intHandler_eq port b h]
  obtain ⟨hurgent, htest⟩ | ⟨-, hnot, htest⟩ | ⟨hend, -, htest⟩ | ⟨hend, -, htest⟩ :=
    frameTest_cases port (writeP_stored b r)
  · rw [htest, urgentDeal]
    by_cases hfits : (stored b r).writeP ≤ urgentBuffSize
    · rw [if_pos hfits]
      exact iff_of_false (by simp) fun h => absurd h.2 (Nat.not_lt.mpr hfits)
    · rw [if_neg hfits]
      exact iff_of_true rfl ⟨hurgent, Nat.not_le.mp hfits⟩
  · rw [htest]
    exact iff_of_false (by simp) fun h => hnot h.1
  · rw [htest]
    exact iff_of_false (by simp) fun h => hend h.1.2.1
  · rw [htest]
    exact iff_of_false (by simp) fun h => hend h.1.2.1

/-- The write index stays inside the buffer. -/
theorem writeP_intHandler {port : Port} {b : UInt8} {r r' : Rx} (h : r.writeP < 64)
    (hr : intHandler port b r = some r') : r'.writeP < 64 := by
  rw [intHandler_eq port b h] at hr
  have hstored := writeP_stored b r
  obtain ⟨-, htest⟩ | ⟨-, -, htest⟩ | ⟨-, -, htest⟩ | ⟨-, -, htest⟩ := frameTest_cases port hstored
  · rw [htest, urgentDeal] at hr
    split at hr
    · cases hr
      exact Nat.succ_pos 63
    · cases hr
  · rw [htest] at hr
    cases hr
    exact hstored
  · rw [htest] at hr
    cases hr
    exact hstored
  · rw [htest] at hr
    cases hr
    exact Nat.succ_pos 63

/-! ### One event -/

/-- The write index is inside the buffer, and so is what the consumer copies. -/
structure Sta.Inside (s : Sta) : Prop where
  write : s.rx.writeP < 64
  copy : ∀ bufflen buff, s.pc = .copy bufflen buff → bufflen < 64

theorem inside_init : Sta.init.Inside where
  write := by decide
  copy := by
    intro bufflen buff h
    cases h

/-- The consumer stays inside the buffer. -/
theorem consume_inside {s : Sta} (h : s.Inside) : ∃ s', consume s = some s' ∧ s'.Inside := by
  obtain ⟨rx, pc, obtained⟩ := s
  unfold consume
  cases pc with
  | pend =>
      dsimp only
      split
      · exact ⟨_, rfl, h.write, by simp⟩
      · exact ⟨_, rfl, h⟩
  | len =>
      refine ⟨_, rfl, h.write, ?_⟩
      rintro bufflen buff heq
      cases heq
      exact h.write
  | copy bufflen buff =>
      have hlen : bufflen < 64 := h.copy bufflen buff rfl
      dsimp only
      split
      · next hmore =>
          rw [Vector.getElem?_eq_getElem (by omega)]
          refine ⟨_, rfl, h.write, ?_⟩
          rintro bufflen' buff' heq
          cases heq
          exact hlen
      · exact ⟨_, rfl, h.write, by simp⟩
  | reset buff => exact ⟨_, rfl, Nat.succ_pos 63, by simp⟩

/-- The byte does not end an urgent frame that is too long. -/
def Fits (port : Port) (s : Option Sta) (e : Event) : Prop :=
  ∀ s' ∈ s, ∀ b, e = .byte b →
    ¬(Urgent port (stored b s'.rx) ∧ urgentBuffSize < (stored b s'.rx).writeP)

/-- A run that is still inside its arrays. -/
def Alive (s : Option Sta) : Prop := ∃ s', s = some s' ∧ s'.Inside

theorem stepRun_byte (port : Port) (s : Sta) (b : UInt8) :
    stepRun port (some s) (.byte b) = (intHandler port b s.rx).map fun rx => { s with rx } := rfl

theorem alive_stepRun {port : Port} {s : Option Sta} {e : Event} (h : Alive s)
    (hfits : Fits port s e) : Alive (stepRun port s e) := by
  obtain ⟨s, rfl, hin⟩ := h
  cases e with
  | byte b =>
      have hsome := mt (intHandler_eq_none port b hin.write).mp (hfits s rfl b rfl)
      obtain ⟨rx, hrx⟩ := Option.ne_none_iff_exists'.mp hsome
      rw [stepRun_byte, hrx]
      exact ⟨_, rfl, writeP_intHandler hin.write hrx, hin.copy⟩
  | consume => exact consume_inside hin
  | clear => exact ⟨_, rfl, Nat.succ_pos 63, hin.copy⟩

theorem stepRun_eq_none {port : Port} {s : Option Sta} {e : Event} (h : Alive s)
    (hfits : ¬Fits port s e) : stepRun port s e = none := by
  obtain ⟨s, rfl, hin⟩ := h
  unfold Fits at hfits
  push Not at hfits
  obtain ⟨s', hs', b, rfl, hlong⟩ := hfits
  obtain rfl := Option.some.inj hs'
  rw [stepRun_byte, (intHandler_eq_none port b hin.write).mpr hlong]
  rfl

/-! ### Runs -/

/--
**The receive interrupts stay inside their arrays exactly as long as no urgent frame is
longer than the array it is copied to.**
-/
theorem inside_iff (port : Port) (es : List Event) :
    AllStates (stepRun port) (fun s => s ≠ none) (some Sta.init) es ↔
      AllSteps (stepRun port) (Fits port) (some Sta.init) es := by
  refine allStates_iff_of_inv (fun s (h : Alive s) => ?_) (fun _ _ h hfits => alive_stepRun h hfits)
    (fun _ _ h hfits => ?_) ⟨_, rfl, inside_init⟩ es
  · obtain ⟨s', rfl, -⟩ := h
    exact Option.some_ne_none s'
  · exact not_not.mpr (stepRun_eq_none h hfits)

/-- On the port of the front panel nothing can go wrong. -/
theorem oled_inside (es : List Event) :
    AllStates (stepRun .oled) (fun s => s ≠ none) (some Sta.init) es := by
  rw [inside_iff]
  have hfits : ∀ s e, Fits .oled s e := by
    rintro s e s' - b - ⟨⟨hport, -⟩, -⟩
    cases hport
  exact ((allSteps_const (some Sta.init) es).mpr fun _ _ => trivial).imp fun s e _ => hfits s e

/-- An urgent frame of 36 bytes. -/
def longUrgent : List UInt8 := [0xBC, 0x20, 0x0D] ++ List.replicate 31 0x00 ++ [0xE9, 0xCB]

/-- It runs over the local array of the interrupt. -/
theorem urgent_overruns :
    ¬AllStates (stepRun .pdu) (fun s => s ≠ none) (some Sta.init) (longUrgent.map .byte) := by
  intro h
  exact h (longUrgent.map .byte) [] (List.append_nil _).symm (by decide +kernel)

end SwiftAcu.Serial
