/-
What the level query accepts for a level.

An answer is evaluated at five or six positions, and one of them is looked at.  A byte that is
no digit at another one is less than the digits or more, and what comes out is the level of no
beacon.  With digits everywhere a level is below ten volts, and so is what the tracker sees.
-/
import Mathlib.Tactic.Linarith
import SwiftAcu.Acu.Beacon

namespace SwiftAcu.Beacon

/-! ### The digits -/

/-- The positions that are evaluated. -/
def evaluated (recvbuff : List UInt8) : List Nat :=
  if recvbuff.length = 10 then [2, 4, 5, 6, 7] else [2, 4, 5, 6, 7, 8]

/-- Every position that is evaluated has a digit. -/
def HasDigits (recvbuff : List UInt8) : Prop :=
  ∀ i ∈ evaluated recvbuff, IsDigit (recvbuff.getD i 0)

instance (recvbuff : List UInt8) : Decidable (HasDigits recvbuff) :=
  inferInstanceAs (Decidable (∀ i ∈ _, _))

theorem digitAt_le {recvbuff : List UInt8} {i : Nat} (h : IsDigit (recvbuff.getD i 0)) :
    (digitAt recvbuff i).toNat ≤ 9 := by
  obtain ⟨hle, hge⟩ := not_or.mp h
  have hge := UInt8.le_iff_toNat_le.mp (UInt8.not_lt.mp hge)
  have hle := UInt8.le_iff_toNat_le.mp (UInt8.not_lt.mp hle)
  have hdigit : (digitAt recvbuff i).toNat = (recvbuff.getD i 0).toNat - 0x30 := by
    rw [digitAt, UInt32.toNat_sub_of_le]
    · rw [UInt8.toNat_toUInt32]
      rfl
    · rw [UInt32.le_iff_toNat_le, UInt8.toNat_toUInt32]
      exact hge
  have hnine : (0x39 : UInt8).toNat = 0x39 := rfl
  omega

/-- Three digits, from the thousands down. -/
theorem toNat_digits {a b c : UInt32} (ha : a.toNat ≤ 9) (hb : b.toNat ≤ 9) (hc : c.toNat ≤ 9) :
    (a * 1000 + b * 100 + c * 10).toNat = a.toNat * 1000 + b.toNat * 100 + c.toNat * 10 := by
  simp only [UInt32.toNat_add, UInt32.toNat_mul]
  show ((a.toNat * 1000 % 4294967296 + b.toNat * 100 % 4294967296) % 4294967296 +
    c.toNat * 10 % 4294967296) % 4294967296 = _
  omega

/-- **Of digits alone there is no level of ten volts.** -/
theorem level_le {recvbuff : List UInt8} (h : HasDigits recvbuff) :
    (agcMvAt recvbuff).toNat ≤ 9990 ∧ (agcDbAt recvbuff).toNat ≤ 9990 := by
  have hmv (i : Nat) (hi : i ∈ [2, 4, 5, 6, 7]) : (digitAt recvbuff i).toNat ≤ 9 := by
    refine digitAt_le (h i ?_)
    rw [evaluated]
    by_cases hten : recvbuff.length = 10
    · rwa [if_pos hten]
    · rw [if_neg hten]
      exact List.mem_append_left [8] hi
  have h2 := hmv 2 (by decide)
  have h4 := hmv 4 (by decide)
  have h5 := hmv 5 (by decide)
  have h6 := hmv 6 (by decide)
  have h7 := hmv 7 (by decide)
  refine ⟨?_, ?_⟩
  · rw [agcMvAt, toNat_digits h2 h4 h5]
    omega
  · rw [agcDbAt]
    by_cases hten : recvbuff.length = 10
    · have hzero := toNat_digits h6 h7 (show (0 : UInt32).toNat ≤ 9 by decide)
      rw [if_pos hten, ← UInt32.add_zero (_ + _), ← UInt32.zero_mul (a := 10), hzero,
        UInt32.toNat_zero]
      omega
    · have h8 : (digitAt recvbuff 8).toNat ≤ 9 :=
        digitAt_le (h 8 (by rw [evaluated, if_neg hten]; decide))
      rw [if_neg hten, toNat_digits h6 h7 h8]
      omega

/-! ### The answers -/

/-- An answer whose positions are evaluated. -/
def IsLevel (recvbuff : List UInt8) : Prop :=
  10 ≤ recvbuff.length ∧ recvbuff.getD 0 0 = 0x3E ∧ recvbuff.getD 1 0 = 0x45 ∧
    IsDigit (recvbuff.getD 2 0)

instance (recvbuff : List UInt8) : Decidable (IsLevel recvbuff) :=
  inferInstanceAs (Decidable (_ ∧ _))

/-- An answer of a receiver that has no beacon. -/
def IsNoBeacon (recvbuff : List UInt8) : Prop :=
  10 ≤ recvbuff.length ∧ recvbuff.getD 0 0 = 0x3E ∧ recvbuff.getD 1 0 = 0x44

/-- **What becomes of an answer** that has room. -/
theorem queAgcResultGet_cases {recvbuff : List UInt8} (hlen : recvbuff.length ≤ 100) :
    (IsLevel recvbuff ∧ queAgcResultGet (some recvbuff) =
      some (.SUCC, some (agcMvAt recvbuff, agcDbAt recvbuff))) ∨
    (IsNoBeacon recvbuff ∧ queAgcResultGet (some recvbuff) = some (.SUCC, some (0, 0))) ∨
    (¬ IsLevel recvbuff ∧ ∃ written, queAgcResultGet (some recvbuff) = some (.FAIL, written)) := by
  rw [queAgcResultGet, if_neg (Nat.not_lt.mpr hlen)]
  by_cases hshort : recvbuff.length < 10
  · rw [if_pos hshort]
    exact Or.inr (Or.inr ⟨fun h => absurd h.1 (Nat.not_le.mpr hshort), _, rfl⟩)
  have hten := Nat.not_lt.mp hshort
  rw [if_neg hshort]
  by_cases hfront : recvbuff.getD 0 0 = 0x3E
  · rw [if_neg (not_not.mpr hfront)]
    by_cases hD : recvbuff.getD 1 0 = 0x44
    · rw [if_neg fun h => h.1 hD, if_pos hD]
      exact Or.inr (Or.inl ⟨⟨hten, hfront, hD⟩, rfl⟩)
    · by_cases hE : recvbuff.getD 1 0 = 0x45
      · rw [if_neg fun h => h.2 hE, if_neg hD]
        by_cases hdigit : IsDigit (recvbuff.getD 2 0)
        · rw [if_neg hdigit]
          exact Or.inl ⟨⟨hten, hfront, hE, hdigit⟩, rfl⟩
        · rw [if_pos (not_not.mp hdigit)]
          exact Or.inr (Or.inr ⟨fun h => hdigit h.2.2.2, _, rfl⟩)
      · rw [if_pos ⟨hD, hE⟩]
        exact Or.inr (Or.inr ⟨fun h => hE h.2.2.1, _, rfl⟩)
  · rw [if_pos hfront]
    exact Or.inr (Or.inr ⟨fun h => hfront h.2.1, _, rfl⟩)

/-- The power that the tracker sees is one of a receiver of ten volts. -/
def Level.InRange (s : Level) : Prop :=
  0 ≤ s.mon.curr.beaconRxpowerMv ∧ s.mon.curr.beaconRxpowerMv ≤ 9990

/-- The query writes inside its array and accepts what has a digit at every position that it
evaluates; its results, and what the tracker sees behind them, are in range. -/
structure Guards (recvbuff : List UInt8) : Prop where
  result : ∃ ret written, queAgcResultGet (some recvbuff) = some (ret, written) ∧
    (ret = .SUCC →
      (IsNoBeacon recvbuff ∧ written = some (0, 0) ∨ IsLevel recvbuff ∧ HasDigits recvbuff) ∧
      ∃ agc_mv agc_db, written = some (agc_mv, agc_db) ∧
        agc_mv.toNat ≤ 9990 ∧ agc_db.toNat ≤ 9990)
  inRange : ∀ s : Level, s.InRange →
    ∃ ret s', queAgc (some recvbuff) s = some (ret, s') ∧ s'.InRange

theorem Level.got_inRange {agc_mv : UInt32} (h : agc_mv.toNat ≤ 9990) (agc_db : UInt32)
    (s : Level) : (s.got agc_mv agc_db).InRange :=
  ⟨Nat.cast_nonneg _, Nat.cast_le_ofNat.mpr h⟩

/-- A level that was not got is the one before. -/
theorem Level.missed_inRange {s : Level} (h : s.InRange) : s.missed.InRange := by
  have hsame : s.missed.mon = s.mon := by
    unfold Level.missed
    dsimp only
    split <;> split <;> rfl
  rwa [InRange, hsame]

section
variable {recvbuff : List UInt8}

/-- An answer that is accepted for what it is. -/
theorem guards_of_got {agc_mv agc_db : UInt32}
    (hget : queAgcResultGet (some recvbuff) = some (.SUCC, some (agc_mv, agc_db)))
    (hmv : agc_mv.toNat ≤ 9990) (hdb : agc_db.toNat ≤ 9990)
    (hwhy : IsNoBeacon recvbuff ∧ some (agc_mv, agc_db) = some (0, 0) ∨
      IsLevel recvbuff ∧ HasDigits recvbuff) : Guards recvbuff := by
  refine ⟨⟨_, _, hget, fun _ => ⟨hwhy, agc_mv, agc_db, rfl, hmv, hdb⟩⟩, fun s _ => ?_⟩
  refine ⟨.SUCC, s.got agc_mv agc_db, ?_, Level.got_inRange hmv agc_db s⟩
  rw [queAgc, hget]

/-- An answer that is refused. -/
theorem guards_of_missed {written : Option (UInt32 × UInt32)}
    (hget : queAgcResultGet (some recvbuff) = some (.FAIL, written)) : Guards recvbuff := by
  refine ⟨⟨_, _, hget, fun h => Ret.noConfusion h⟩, fun s hs => ?_⟩
  refine ⟨.FAIL, s.missed, ?_, Level.missed_inRange hs⟩
  rw [queAgc, hget]

/-- An answer that is evaluated is accepted, digits or not. -/
theorem Guards.hasDigits (h : Guards recvbuff) (hlen : recvbuff.length ≤ 100)
    (hlevel : IsLevel recvbuff) : HasDigits recvbuff := by
  obtain ⟨-, hget⟩ | ⟨hnone, -⟩ | ⟨hno, -⟩ := queAgcResultGet_cases hlen
  · obtain ⟨⟨ret, written, hget', hsucc⟩, -⟩ := h
    obtain ⟨rfl, -⟩ := Prod.mk.inj (Option.some.inj (hget.symm.trans hget'))
    obtain ⟨⟨hnone, -⟩ | ⟨-, hdigits⟩, -⟩ := hsucc rfl
    · exact absurd (hnone.2.2.symm.trans hlevel.2.2.1) (by decide)
    · exact hdigits
  · exact absurd (hnone.2.2.symm.trans hlevel.2.2.1) (by decide)
  · exact absurd hlevel hno

theorem not_guards_of_long (hlen : ¬ recvbuff.length ≤ 100) : ¬ Guards recvbuff := by
  rintro ⟨⟨ret, written, hget, -⟩, -⟩
  rw [queAgcResultGet, if_pos (Nat.not_le.mp hlen)] at hget
  exact Option.some_ne_none _ hget.symm

end

/--
**The query accepts a level for what it is when the answer has digits where it is evaluated**,
if it is evaluated, and room in the array.
-/
theorem queAgc_guards_iff (recvbuff : List UInt8) :
    Guards recvbuff ↔ recvbuff.length ≤ 100 ∧ (IsLevel recvbuff → HasDigits recvbuff) := by
  constructor
  · intro h
    have hlen := not_not.mp (mt not_guards_of_long (not_not.mpr h))
    exact ⟨hlen, h.hasDigits hlen⟩
  · rintro ⟨hlen, h⟩
    obtain ⟨hlevel, hget⟩ | ⟨hnone, hget⟩ | ⟨hno, written, hget⟩ := queAgcResultGet_cases hlen
    · obtain ⟨hmv, hdb⟩ := level_le (h hlevel)
      exact guards_of_got hget hmv hdb (Or.inr ⟨hlevel, h hlevel⟩)
    · exact guards_of_got hget (by decide) (by decide) (Or.inl ⟨hnone, rfl⟩)
    · exact guards_of_missed hget

/-- A blank for the tenths: `>E0. 5900` and a line end. -/
theorem not_queAgc_guards :
    ¬ ∀ recvbuff : List UInt8, recvbuff.length ≤ 100 → Guards recvbuff := by
  intro h
  have hguards := h [0x3E, 0x45, 0x30, 0x2E, 0x20, 0x35, 0x39, 0x30, 0x30, 0x0D, 0x0A] (by decide)
  exact absurd (hguards.hasDigits (by decide) (by decide)) (by decide)

end SwiftAcu.Beacon
