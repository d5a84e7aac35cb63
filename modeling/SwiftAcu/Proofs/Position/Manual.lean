/-
Whether a position set by a command stays set.

A command of the PC reaches the position in use, the position entered by hand and the
EEPROM, one of the front panel the first and the last, and both only where the flags or
the angles are new.  An angle is asked back in thousandths, and not every number of them
comes back from an `FP32`.  The height reaches the EEPROM and nothing else, so that all three
ways of asking for the position back give some other height: the query the one in use,
the selection the one entered by hand, a start none at all.
-/
import SwiftAcu.Acu.Query
import SwiftAcu.Proofs.Param.Boot
import SwiftAcu.Proofs.Param.Codec
import SwiftAcu.Proofs.Position.Source

namespace SwiftAcu

open Reply

section
variable [SoftFloat]

/-! ### What is asked for -/

/-- What a command asks for: angles in thousandths of a degree. -/
structure PositionCmd where
  lonFlag : UInt8
  lon : Nat
  latFlag : UInt8
  lat : Nat
  height : UInt32
  deriving DecidableEq

def positionCmd (pbuff : List UInt8) : PositionCmd :=
  { lonFlag := pbuff.getD 0 0
    lon := ofBe32At pbuff 1
    latFlag := pbuff.getD 5 0
    lat := ofBe32At pbuff 6
    height := UInt32.ofNat (ofBe32At pbuff 10) }

/-- The position that is asked for. -/
def PositionCmd.param (c : PositionCmd) : HandLocalPositionParam :=
  { lonFlag := c.lonFlag
    lon := degreeOf c.lon
    latFlag := c.latFlag
    lat := degreeOf c.lat
    height := c.height }

/-- The fields of an answer that gives the command back, in front of the source flag. -/
def PositionCmd.fields (c : PositionCmd) (src : UInt8) : List UInt8 :=
  [c.lonFlag] ++ be32 c.lon ++ [c.latFlag] ++ be32 c.lat ++ be32 c.height.toNat ++ [src]

/-- The position in use, without what says where it comes from. -/
def LocalPositionParam.param (l : LocalPositionParam) : HandLocalPositionParam :=
  ⟨l.lonFlag, l.lon, l.latFlag, l.lat, l.height⟩

/-- Two positions are the same but for their heights. -/
def SameAngles (p q : HandLocalPositionParam) : Prop :=
  p.lonFlag = q.lonFlag ∧ p.lon = q.lon ∧ p.latFlag = q.latFlag ∧ p.lat = q.lat

/--
A command that succeeds is given back by the query, by a selection of the position
entered by hand behind that of another source, and by a start.
-/
def Sticks (f : Front) (cmdlen : UInt8) (pbuff : List UInt8) (s : Station) : Prop :=
  (f.localParamSet cmdlen pbuff s).1 = .SUCC →
    (∃ src, localParamQue (f.localParamSet cmdlen pbuff s).2.toDevInfo =
      reply .localParamQue ((positionCmd pbuff).fields src)) ∧
    (∀ (g g' : Front) (sel sel' : List UInt8), sel.getD 0 0 ≠ 0x01 → sel'.getD 0 0 = 0x01 →
      (g'.selected sel'
        (g.localParamSrcSelSet 1 sel (f.localParamSet cmdlen pbuff s).2).2).param =
          (positionCmd pbuff).param) ∧
    (positionInit (f.localParamSet cmdlen pbuff s).2.device.eeprom).2.param =
      (positionCmd pbuff).param

/-- An angle that the query gives back: its highest byte is zero, and an `FP32` keeps it. -/
def Answerable (n : Nat) : Prop := n < 2 ^ 24 ∧ ComesBack n

instance (n : Nat) : Decidable (Answerable n) := inferInstanceAs (Decidable (_ ∧ _))

/--
No height is asked for and none is kept, the angles can be answered, and what the command
does not write holds the position already.
-/
def Settled (f : Front) (pbuff : List UInt8) (s : Station) : Prop :=
  (Answerable (positionCmd pbuff).lon ∧ Answerable (positionCmd pbuff).lat) ∧
    (positionCmd pbuff).height = 0 ∧ s.localPosition.height = 0 ∧ s.hand.height = 0 ∧
    (f = .oled ∨ ¬ positionChanges (positionCmd pbuff).param s.localPosition →
      SameAngles s.hand (positionCmd pbuff).param) ∧
    (¬ positionChanges (positionCmd pbuff).param s.localPosition →
      SameAngles (locallHandParamRead s.device.eeprom) (positionCmd pbuff).param)

/-! ### Positions -/

omit [SoftFloat] in
theorem eq_iff_sameAngles {p q : HandLocalPositionParam} :
    p = q ↔ SameAngles p q ∧ p.height = q.height := by
  cases p
  cases q
  simp [SameAngles, and_assoc]

omit [SoftFloat] in
theorem not_positionChanges_iff {p : HandLocalPositionParam} {l : LocalPositionParam} :
    ¬ positionChanges p l ↔ SameAngles l.param p := by
  simp [positionChanges, SameAngles, LocalPositionParam.param, eq_comm]

/-- Where its angles are small, a command is understood as it is meant. -/
theorem currLocalPositionParam_eq {pbuff : List UInt8} (hlon : (positionCmd pbuff).lon < 2 ^ 31)
    (hlat : (positionCmd pbuff).lat < 2 ^ 31) :
    currLocalPositionParam pbuff = (positionCmd pbuff).param := by
  have hsigned {i : Nat} (h : ofBe32At pbuff i < 2 ^ 31) :
      degreeAt pbuff i = degreeOf (ofBe32At pbuff i) := by
    rw [degreeAt, ofBe32sAt_of_lt h]
  simp only [currLocalPositionParam, PositionCmd.param, positionCmd, hsigned hlon, hsigned hlat]

/-! ### The command -/

/-- The part of the state a command reaches, and what stands there. -/
theorem localParamSet_sameAngles (f : Front) (pbuff : List UInt8) (s : Station) :
    SameAngles (f.localParamSet 0x0E pbuff s).2.localPosition.param
      (currLocalPositionParam pbuff) := by
  by_cases hchange : positionChanges (currLocalPositionParam pbuff) s.localPosition
  · cases f <;>
      simp [Front.localParamSet, pcLocalParamSet, oledLocalParamSet, hchange, usePosition,
        LocalPositionParam.param, SameAngles]
  · have hsame := not_positionChanges_iff.mp hchange
    cases f <;>
      simpa [Front.localParamSet, pcLocalParamSet, oledLocalParamSet, hchange] using hsame

theorem localParamSet_height (f : Front) (pbuff : List UInt8) (s : Station) :
    (f.localParamSet 0x0E pbuff s).2.localPosition.height = s.localPosition.height := by
  by_cases hchange : positionChanges (currLocalPositionParam pbuff) s.localPosition
  · cases f <;>
      simp [Front.localParamSet, pcLocalParamSet, oledLocalParamSet, hchange, usePosition]
  · cases f <;> simp [Front.localParamSet, pcLocalParamSet, oledLocalParamSet, hchange]

theorem localParamSet_eeprom (f : Front) (pbuff : List UInt8) (s : Station) :
    (f.localParamSet 0x0E pbuff s).2.device.eeprom =
      if positionChanges (currLocalPositionParam pbuff) s.localPosition then
        locallHandParamSave (currLocalPositionParam pbuff) s.device.eeprom
      else s.device.eeprom := by
  by_cases hchange : positionChanges (currLocalPositionParam pbuff) s.localPosition
  · cases f <;>
      simp [Front.localParamSet, pcLocalParamSet, oledLocalParamSet, hchange, usePosition]
  · cases f <;> simp [Front.localParamSet, pcLocalParamSet, oledLocalParamSet, hchange]

/-- Only the PC enters the position by hand, without its height. -/
theorem localParamSet_hand (f : Front) (pbuff : List UInt8) (s : Station) :
    (f.localParamSet 0x0E pbuff s).2.hand =
      if f = .oled ∨ ¬ positionChanges (currLocalPositionParam pbuff) s.localPosition then s.hand
      else { currLocalPositionParam pbuff with height := s.hand.height } := by
  by_cases hchange : positionChanges (currLocalPositionParam pbuff) s.localPosition
  · cases f <;>
      simp [Front.localParamSet, pcLocalParamSet, oledLocalParamSet, hchange, usePosition]
  · cases f <;> simp [Front.localParamSet, pcLocalParamSet, oledLocalParamSet, hchange]

theorem localParamSet_succ_iff (f : Front) (cmdlen : UInt8) (pbuff : List UInt8) (s : Station) :
    (f.localParamSet cmdlen pbuff s).1 = .SUCC ↔ cmdlen = 0x0E := by
  by_cases hlen : cmdlen = 0x0E
  · by_cases hchange : positionChanges (currLocalPositionParam pbuff) s.localPosition <;>
      cases f <;> simp [Front.localParamSet, pcLocalParamSet, oledLocalParamSet, hlen, hchange]
  · cases f <;> simp [Front.localParamSet, pcLocalParamSet, oledLocalParamSet, hlen]

/-! ### The query -/

omit [SoftFloat] in
theorem reply_inj {c : CmdId} {as bs : List UInt8} (h : reply c as = reply c bs)
    (hlen : as.length = bs.length) : as = bs := by
  have hbytes := Option.some.inj (congrArg Handled.txbuff h)
  exact List.append_inj_right' hbytes hlen

omit [SoftFloat] in
theorem be32_inj {n m : Nat} (hn : n < 2 ^ 32) (hm : m < 2 ^ 32) (h : be32 n = be32 m) :
    n = m := by
  have hback : ofBe32At (be32 n) 0 = ofBe32At (be32 m) 0 := by rw [h]
  rwa [ofBe32At_of_at (Fields.at_of_prefix (List.prefix_refl _)) hn,
    ofBe32At_of_at (Fields.at_of_prefix (List.prefix_refl _)) hm] at hback

/-- The highest byte of an angle is answered as zero. -/
theorem localDegree_eq (x : FP32) :
    localDegree x = 0 :: (be32 (int32u (thousandths x))).tail := by
  have hhigh (n : Nat) : UInt8.ofNat ((n &&& 0xFF000000) >>> 16) = 0 := by
    have hzero : ((n &&& 0xFF000000) >>> 16) % 2 ^ 8 = 0 := by
      rw [Nat.shiftRight_and_distrib, ← Nat.and_two_pow_sub_one_eq_mod, Nat.and_assoc]
      exact Nat.and_zero _
    apply UInt8.toNat_inj.mp
    rw [UInt8.toNat_ofNat']
    exact hzero
  simp [localDegree, be32, hhigh]

omit [SoftFloat] in
theorem ofNat_mod_inj {m n : Nat} (h : UInt8.ofNat (m % 256) = UInt8.ofNat (n % 256)) :
    m % 256 = n % 256 := by
  have hnat := congrArg UInt8.toNat h
  rwa [UInt8.toNat_ofNat', UInt8.toNat_ofNat', Nat.mod_mod, Nat.mod_mod] at hnat

/-- **An angle is answered as it was asked for** if its highest byte is zero and it comes back. -/
theorem localDegree_degreeAt_iff (pbuff : List UInt8) (i : Nat) :
    localDegree (degreeAt pbuff i) = be32 (ofBe32At pbuff i) ↔ Answerable (ofBe32At pbuff i) := by
  have hlt := ofBe32At_lt pbuff i
  rw [localDegree_eq]
  constructor
  · intro h
    rw [be32_eq (ofBe32At pbuff i), be32_eq] at h
    obtain ⟨hbyte3, h⟩ := List.cons.inj h
    obtain ⟨hbyte2, h⟩ := List.cons.inj h
    obtain ⟨hbyte1, h⟩ := List.cons.inj h
    have hsmall : ofBe32At pbuff i < 2 ^ 24 := by
      have hnat := ofNat_mod_inj (m := 0) hbyte3
      omega
    have hback := int32u_thousandths_degreeOf_le hsmall
    have h2 := ofNat_mod_inj hbyte2
    have h1 := ofNat_mod_inj hbyte1
    have h0 := ofNat_mod_inj (List.cons.inj h).1
    rw [degreeAt, ofBe32sAt_of_lt (by omega)] at h0 h1 h2
    refine ⟨hsmall, ?_⟩
    -- the three lower bytes are the same, and what comes back is at most two greater
    rw [ComesBack]
    omega
  · rintro ⟨hsmall, hback⟩
    have hzero : ofBe32At pbuff i / 2 ^ 24 % 256 = 0 := by omega
    rw [degreeAt, ofBe32sAt_of_lt (by omega), hback, be32_eq, hzero]
    rfl

/-- **The query** gives back such angles, and the height that was in use before. -/
theorem answered_iff (f : Front) (pbuff : List UInt8) (s : Station) :
    (∃ src, localParamQue (f.localParamSet 0x0E pbuff s).2.toDevInfo =
        reply .localParamQue ((positionCmd pbuff).fields src)) ↔
      (Answerable (positionCmd pbuff).lon ∧ Answerable (positionCmd pbuff).lat) ∧
        s.localPosition.height = (positionCmd pbuff).height := by
  obtain ⟨hlonFlag, hlon, hlatFlag, hlat⟩ := localParamSet_sameAngles f pbuff s
  have hheight := localParamSet_height f pbuff s
  have hanswer : localParamQue (f.localParamSet 0x0E pbuff s).2.toDevInfo =
      reply .localParamQue ([pbuff.getD 0 0] ++ localDegree (degreeAt pbuff 1) ++
        [pbuff.getD 5 0] ++ localDegree (degreeAt pbuff 6) ++ be32 s.localPosition.height.toNat ++
        [(f.localParamSet 0x0E pbuff s).2.localPosition.dataSrcFlag]) := by
    simp only [LocalPositionParam.param, currLocalPositionParam] at hlonFlag hlon hlatFlag hlat
    simp only [localParamQue, hlonFlag, hlon, hlatFlag, hlat, hheight]
  rw [hanswer]
  constructor
  · rintro ⟨src, h⟩
    have hfields := reply_inj h rfl
    obtain ⟨hfront, hword⟩ := List.append_inj' (List.append_inj' hfields rfl).1 rfl
    obtain ⟨hfront, hlatAt⟩ := List.append_inj' hfront rfl
    obtain ⟨hlonAt, -⟩ := List.append_inj' hfront rfl
    refine ⟨⟨?_, ?_⟩, ?_⟩
    · exact (localDegree_degreeAt_iff pbuff 1).mp (List.append_inj' hlonAt rfl).2
    · exact (localDegree_degreeAt_iff pbuff 6).mp hlatAt
    · exact UInt32.toNat_inj.mp (be32_inj (UInt32.toNat_lt _) (UInt32.toNat_lt _) hword)
  · rintro ⟨⟨hlonLt, hlatLt⟩, hheight'⟩
    have hlonAt := (localDegree_degreeAt_iff pbuff 1).mpr hlonLt
    have hlatAt := (localDegree_degreeAt_iff pbuff 6).mpr hlatLt
    rw [hlonAt, hlatAt, hheight']
    exact ⟨_, rfl⟩

/-! ### The selection and the start -/

omit [SoftFloat] in
theorem param_handPosition (s : Station) (src : UInt8) : (handPosition s 1 src).param = s.hand := by
  simp [handPosition, LocalPositionParam.param]

omit [SoftFloat] in
/-- **Back at the manual source**, the position is the one entered by hand. -/
theorem reselected_iff (s : Station) (p : HandLocalPositionParam) :
    (∀ (g g' : Front) (sel sel' : List UInt8), sel.getD 0 0 ≠ 0x01 → sel'.getD 0 0 = 0x01 →
        (g'.selected sel' (g.localParamSrcSelSet 1 sel s).2).param = p) ↔ s.hand = p := by
  have hback (g g' : Front) (sel sel' : List UInt8) (hsel : sel'.getD 0 0 = 0x01) :
      (g'.selected sel' (g.localParamSrcSelSet 1 sel s).2).param = s.hand := by
    have hhand : (g.localParamSrcSelSet 1 sel s).2.hand = s.hand := by cases g <;> rfl
    rw [← hhand, ← param_handPosition _ 0x01]
    cases g' with
    | pc => rw [pc_selected, selectedPosition, hsel]; rfl
    | oled => rw [oled_selected, selectedPosition, hsel]; rfl
  constructor
  · intro h
    rw [← hback .pc .pc [0x00] [0x01] rfl]
    exact h .pc .pc [0x00] [0x01] (by decide) rfl
  · intro h g g' sel sel' _ hsel
    rw [hback g g' sel sel' hsel, h]

/-- **A start** takes the angles from the EEPROM and no height. -/
theorem positionInit_iff (m : Eeprom) (p : HandLocalPositionParam) :
    (positionInit m).2.param = p ↔ SameAngles (locallHandParamRead m) p ∧ p.height = 0 := by
  have hread : locallHandParamRead (satInit m).2.2 = locallHandParamRead m :=
    read_satInit (Param.readsIn_read .locallHandParam) (by simp) (by simp) m
  have hinit : (positionInit m).2.param = { locallHandParamRead m with height := 0 } := by
    unfold positionInit LocalPositionParam.param
    rw [hread]
  rw [hinit, eq_iff_sameAngles]
  exact and_congr_right fun _ => eq_comm

/-! ### The three together -/

omit [SoftFloat] in
/-- The position entered by hand is the one asked for: its height always was, its angles too
where the command does not reach them. -/
theorem hand_eq_iff {q : Prop} [Decidable q] {hand p : HandLocalPositionParam} :
    (if q then hand else { p with height := hand.height }) = p ↔
      hand.height = p.height ∧ (q → SameAngles hand p) := by
  by_cases hq : q
  · rw [if_pos hq, eq_iff_sameAngles, and_comm]
    simp [hq]
  · rw [if_neg hq, eq_iff_sameAngles]
    simp [hq, SameAngles]

/-- The stored angles are the ones asked for. -/
theorem stored_iff {q : Prop} [Decidable q] {c : PositionCmd} (hlon : ComesBack c.lon)
    (hlat : ComesBack c.lat) (m : Eeprom) :
    SameAngles (locallHandParamRead (if q then locallHandParamSave c.param m else m)) c.param ↔
      (¬ q → SameAngles (locallHandParamRead m) c.param) := by
  by_cases hq : q
  · have hlonParam : restored c.param.lon = c.param.lon := restored_degreeOf hlon
    have hlatParam : restored c.param.lat = c.param.lat := restored_degreeOf hlat
    have hback : locallHandParamRead (locallHandParamSave c.param m) = c.param := by
      rw [locallHandParamRead_locallHandParamSave, hlonParam, hlatParam]
    rw [if_pos hq, hback]
    simp [hq, SameAngles]
  · simp [hq]

/-- **A position sticks** exactly where no height is at stake and all copies hold its angles. -/
theorem sticks_iff (f : Front) (cmdlen : UInt8) (pbuff : List UInt8) (s : Station) :
    Sticks f cmdlen pbuff s ↔ (cmdlen = 0x0E → Settled f pbuff s) := by
  unfold Sticks
  rw [localParamSet_succ_iff]
  refine forall_congr' fun hlen => ?_
  subst hlen
  rw [answered_iff, reselected_iff, positionInit_iff, localParamSet_hand, localParamSet_eeprom]
  unfold Settled
  rw [and_assoc]
  refine and_congr_right fun ⟨⟨hlon, hlonBack⟩, hlat, hlatBack⟩ => ?_
  rw [currLocalPositionParam_eq (by omega) (by omega)]
  rw [hand_eq_iff, stored_iff hlonBack hlatBack]
  constructor
  · rintro ⟨hlocal, ⟨hhand, hangles⟩, hstored, hzero⟩
    exact ⟨hzero, hlocal.trans hzero, hhand.trans hzero, hangles, hstored⟩
  · rintro ⟨hzero, hlocal, hhand, hangles, hstored⟩
    exact ⟨hlocal.trans hzero.symm, ⟨hhand.trans hzero.symm, hangles⟩, hstored, hzero⟩

end

/-! ### A height -/

section
attribute [local instance] SoftFloat.single

/-- A station at 116.0 degrees east and 40.0 degrees north, 50 m high. -/
def heightCmd : List UInt8 :=
  [0x45] ++ be32 116000 ++ [0x4E] ++ be32 40000 ++ be32 50

/-- The PC sets a height, which the query does not give back. -/
theorem not_sticks_heightCmd : ¬ Sticks .pc 0x0E heightCmd receiving := by
  intro h
  obtain ⟨src, hanswer⟩ := (h (by decide +kernel)).1
  have hheight := ((answered_iff .pc heightCmd receiving).mp ⟨src, hanswer⟩).2
  exact absurd hheight (by decide +kernel)

end

end SwiftAcu
