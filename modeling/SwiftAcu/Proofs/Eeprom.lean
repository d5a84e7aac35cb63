/-
What `HW_EEPROM_WriteBuffer` stores, and what `HW_EEPROM_ReadBuffer` then returns.

A page write of 1 to 255 bytes in the lower half of the device does what it should,
and the lemmas below put such writes together.  Two slips limit that.  `sEEDataNum`
holds one byte, so the count of a whole page is 0: no data follows the address, no
STOP ends the transfer, and the bus stays busy from then on.  And the address phase of
`HW_EEPROM_WritePage` sends `sEEAddress` in place of the device address it has just
computed, so that everything is stored in the lower half.
-/
import SwiftAcu.Acu.Eeprom
import SwiftAcu.Lib.Tiling

namespace SwiftAcu

namespace EepromChip

open Tiling

/-- No transfer and no write cycle is going on. -/
def Idle (e : EepromChip) : Prop := e.busy = false ∧ e.cycle = false

/--
From `e` to `e'` page writes that stay inside one page each stored exactly the bytes
`bs` from `a` on, and nothing else changed.
-/
structure Stored (e : EepromChip) (a : Nat) (bs : List UInt8) (e' : EepromChip) : Prop where
  pages : ∃ ps : List (Nat × List UInt8), e'.sent = ps.reverse ++ e.sent ∧
    Tiles a (a + bs.length) (ps.map fun p => (p.1, p.2.length)) ∧
    (ps.map Prod.snd).flatten = bs ∧ ∀ p ∈ ps, p.1 % sEEPageSize + p.2.length ≤ sEEPageSize
  mem : e'.mem = Memory.write e.mem a bs

/-- A buffer is stored in its range and read back from it. -/
def RoundTrip (e : EepromChip) (a : Nat) (buf : List UInt8) : Prop :=
  let e' := (e.writeBuffer a buf buf.length).2
  Stored e a buf e' ∧ ∃ e'', e'.readBuffer a buf.length = (.SUCC, buf, e'')

/-- `[a, a + n)` holds a whole page. -/
def HoldsPage (a n : Nat) : Prop := ∃ p, a ≤ sEEPageSize * p ∧ sEEPageSize * p + sEEPageSize ≤ a + n

/-- The first page boundary from `a` on decides. -/
theorem holdsPage_iff (a n : Nat) : HoldsPage a n ↔ (a + 255) / 256 * 256 + 256 ≤ a + n := by
  unfold HoldsPage sEEPageSize
  constructor
  · rintro ⟨p, hlo, hhi⟩
    omega
  · intro h
    exact ⟨(a + 255) / 256, by omega, by omega⟩

theorem Stored.append {e e₁ e₂ : EepromChip} {a : Nat} {bs cs : List UInt8} (h₁ : Stored e a bs e₁)
    (h₂ : Stored e₁ (a + bs.length) cs e₂) : Stored e a (bs ++ cs) e₂ := by
  obtain ⟨⟨ps, hsent, htile, hdata, hpage⟩, hmem⟩ := h₁
  obtain ⟨⟨qs, hsent', htile', hdata', hpage'⟩, hmem'⟩ := h₂
  refine ⟨⟨ps ++ qs, ?_, ?_, ?_, ?_⟩, ?_⟩
  · rw [hsent', hsent, List.reverse_append, List.append_assoc]
  · rw [List.map_append, List.length_append, ← Nat.add_assoc]
    exact htile.append htile'
  · rw [List.map_append, List.flatten_append, hdata, hdata']
  · intro p hp
    rcases List.mem_append.mp hp with hp | hp
    · exact hpage p hp
    · exact hpage' p hp
  · rw [hmem', hmem, Memory.write_append]

/-! ### Addresses -/

theorem cell_bytes (dev_addr : UInt8) (addr : Nat) :
    select dev_addr addr = (if dev_addr &&& 0x02 ≠ 0 then 2 ^ 16 else 0) + addr % 2 ^ 16 := by
  have hhigh : (addr &&& 0xFF00) >>> 8 = addr / 2 ^ 8 % 256 := and_shiftRight_byte addr 8
  simp only [select, cell, hhigh, UInt8.toNat_ofNat']
  omega

/-- What `HW_EEPROM_WritePage` selects lies in the lower half. -/
theorem select_sEEAddress (addr : Nat) : select sEEAddress addr = addr % 2 ^ 16 := by
  rw [cell_bytes, if_neg (by decide), Nat.zero_add]

theorem upper_iff (addr : Nat) : addr &&& 0x10000 ≠ 0 ↔ addr / 2 ^ 16 % 2 = 1 := by
  have h := Nat.and_two_pow addr 16
  rw [Nat.testBit_eq_decide_div_mod_eq] at h
  rw [show 0x10000 = 2 ^ 16 from rfl, h]
  simp

/-- `dev_addr` selects the byte it should. -/
theorem select_devAddr {addr : Nat} (h : addr < 2 ^ 17) : select (devAddr addr) addr = addr := by
  rw [cell_bytes, devAddr]
  by_cases hup : addr &&& 0x10000 ≠ 0
  · rw [if_pos hup, if_pos (by decide)]
    have := (upper_iff addr).mp hup
    omega
  · rw [if_neg hup, if_neg (by decide)]
    have := mt (upper_iff addr).mpr hup
    omega

/-- On an idle device a range is read as it is. -/
theorem readBuffer_idle {e : EepromChip} (h : e.Idle) {a n : Nat} (hpos : 1 ≤ n)
    (hlim : a + n ≤ 2 ^ 17) : e.readBuffer a n = (.SUCC, Memory.read e.mem a n, e) := by
  unfold readBuffer
  rw [h.1, h.2, if_neg Bool.false_ne_true, if_neg Bool.false_ne_true,
    select_devAddr (show a < 2 ^ 17 by omega)]
  by_cases hone : n < 2
  · obtain rfl : n = 1 := by omega
    rfl
  · dsimp only
    rw [if_neg hone]
    have hread : ∀ i ∈ List.range n, e.mem ((a + i) % 2 ^ 17) = e.mem (a + i) := fun i hi => by
      have := List.mem_range.mp hi
      rw [Nat.mod_eq_of_lt (by omega)]
    rw [List.map_congr_left hread, Memory.read]

theorem readBuffer_busy {e : EepromChip} (h : e.busy = true) (a n : Nat) :
    e.readBuffer a n = (.FAIL, [], e) := by
  rw [readBuffer, if_pos h]

/-! ### One page write -/

/-- A page write of at least one byte ends with its STOP, whatever it stores. -/
theorem sendPage_eq {e : EepromChip} (h : e.Idle) (addr : Nat) (buf : List UInt8) {num : UInt8}
    (hnum : num ≠ 0) : e.sendPage addr buf num = (none, { e with
      mem := Memory.pageWrite sEEPageSize e.mem (addr % 2 ^ 16) (buf.take num.toNat)
      sEEDataNum := 0
      sent := (addr % 2 ^ 16, buf.take num.toNat) :: e.sent }) := by
  obtain ⟨mem, busy, cycle, old, sent⟩ := e
  obtain ⟨rfl, rfl⟩ : busy = false ∧ cycle = false := h
  have hpage : (EepromChip.mk mem false false num sent).writePage addr buf = (.SUCC, {
      mem := Memory.pageWrite sEEPageSize mem (addr % 2 ^ 16) (buf.take num.toNat)
      busy := false
      cycle := true
      sEEDataNum := 0
      sent := (addr % 2 ^ 16, buf.take num.toNat) :: sent }) := by
    simp only [writePage, Bool.false_eq_true, if_false, if_neg hnum, select_sEEAddress]
  simp only [sendPage, hpage]
  rfl

/-- **One page write.**  In the lower half and inside one page it stores its bytes. -/
theorem sendPage_stored {e : EepromChip} (h : e.Idle) (addr : Nat) (buf : List UInt8) (num : UInt8)
    (hpos : 0 < num.toNat) (hlen : num.toNat ≤ buf.length)
    (hpage : addr % sEEPageSize + num.toNat ≤ sEEPageSize) (hlow : addr + num.toNat ≤ 2 ^ 16) :
    ∃ e', e.sendPage addr buf num = (none, e') ∧ e'.Idle ∧
      Stored e addr (buf.take num.toNat) e' := by
  have hnum : num ≠ 0 := by
    rintro rfl
    exact absurd hpos (by decide)
  have haddr : addr % 2 ^ 16 = addr := Nat.mod_eq_of_lt (by omega)
  have htake : (buf.take num.toNat).length = num.toNat := by
    rw [List.length_take, Nat.min_eq_left hlen]
  refine ⟨_, sendPage_eq h addr buf hnum, h, ⟨[(addr, buf.take num.toNat)], ?_, ?_, ?_, ?_⟩, ?_⟩
  · rw [haddr]
    rfl
  · exact tiles_single addr (show 0 < (buf.take num.toNat).length by omega)
  · simp
  · intro p hp
    rw [List.mem_singleton.mp hp, htake]
    exact hpage
  · rw [haddr]
    exact Memory.pageWrite_eq_write e.mem (by rw [htake]; exact hpage)

/-! ### A whole page -/

/-- A busy bus stays busy. -/
theorem sendPage_busy {e : EepromChip} (h : e.busy = true) (addr : Nat) (buf : List UInt8)
    (num : UInt8) : (e.sendPage addr buf num).2.busy = true := by
  obtain ⟨mem, busy, cycle, old, sent⟩ := e
  obtain rfl : busy = true := h
  have hpage : (EepromChip.mk mem true cycle num sent).writePage addr buf =
      (.FAIL, EepromChip.mk mem true cycle num sent) := rfl
  simp only [sendPage, hpage]
  split
  · rfl
  · rfl

/-- A page write of no bytes leaves the bus busy. -/
theorem sendPage_zero (e : EepromChip) (addr : Nat) (buf : List UInt8) :
    (e.sendPage addr buf 0).2.busy = true := by
  obtain ⟨mem, busy, cycle, old, sent⟩ := e
  cases busy with
  | true => exact sendPage_busy rfl addr buf 0
  | false =>
      have hpage : ((EepromChip.mk mem false cycle 0 sent).writePage addr buf).2 =
          EepromChip.mk mem true cycle 0 sent := by
        cases cycle with
        | true => rfl
        | false => rfl
      simp only [sendPage, hpage]
      rfl

theorem andThen_busy {r : Option Ret × EepromChip} {k : EepromChip → Option Ret × EepromChip}
    (hr : r.2.busy = true) (hk : ∀ e : EepromChip, e.busy = true → (k e).2.busy = true) :
    (andThen r k).2.busy = true := by
  unfold andThen
  split
  · exact hr
  · exact hk r.2 hr

theorem writePages_busy (single : UInt8) :
    ∀ (n addr : Nat) (buf : List UInt8) (e : EepromChip), e.busy = true →
      (writePages single n addr buf e).2.busy = true := by
  intro n
  induction n with
  | zero =>
      intro addr buf e h
      unfold writePages
      split
      · exact sendPage_busy h addr buf single
      · exact h
  | succ n ih =>
      intro addr buf e h
      exact andThen_busy (sendPage_busy h addr buf _) (ih _ _)

/-- **After the first whole page the bus is busy.** -/
theorem writePages_succ (single : UInt8) (n addr : Nat) (buf : List UInt8) (e : EepromChip) :
    (writePages single (n + 1) addr buf e).2.busy = true :=
  andThen_busy (sendPage_zero e addr buf) (writePages_busy single n _ _)

/-- A count of bytes that fits is not taken for none. -/
theorem ofNat_ne_zero {n : Nat} (hpos : 0 < n) (hlt : n < 256) : UInt8.ofNat n ≠ 0 := by
  intro hzero
  have hn : (UInt8.ofNat n).toNat = n := UInt8.toNat_ofNat_of_lt' hlt
  rw [hzero] at hn
  exact hpos.ne hn

/-- A write of a range that holds a whole page leaves the bus busy. -/
theorem writeBuffer_busy {e : EepromChip} (h : e.Idle) {a n : Nat} (buf : List UInt8)
    (hn : n < 2 ^ 16) (hpage : HoldsPage a n) : (e.writeBuffer a buf n).2.busy = true := by
  rw [holdsPage_iff] at hpage
  have hpages : (UInt8.ofNat (n / 256)).toNat = n / 256 :=
    UInt8.toNat_ofNat_of_lt' (show n / 256 < 256 by omega)
  have hone : UInt8.ofNat (n / 256) ≠ 0 := ofNat_ne_zero (by omega) (by omega)
  dsimp only [writeBuffer]
  by_cases hal : a % 256 = 0
  · rw [if_pos hal, if_neg hone, hpages, show n / 256 = (n / 256 - 1) + 1 by omega]
    exact writePages_succ _ _ _ _ e
  · have hcount : (UInt8.ofNat (256 - a % 256)).toNat = 256 - a % 256 :=
      UInt8.toNat_ofNat_of_lt' (show 256 - a % 256 < 256 by omega)
    have hpos : UInt8.ofNat (256 - a % 256) ≠ 0 := ofNat_ne_zero (by omega) (by omega)
    have hrest : (UInt8.ofNat ((n - (256 - a % 256)) / 256)).toNat =
        (n - (256 - a % 256)) / 256 - 1 + 1 := by
      rw [UInt8.toNat_ofNat_of_lt' (show (n - (256 - a % 256)) / 256 < 256 by omega)]
      omega
    rw [if_neg hal, if_neg hone, if_pos hpos, andThen, sendPage_eq h a buf hpos, hcount, hrest]
    exact writePages_succ _ _ _ _ _

/-! ### Ranges without a whole page -/

/-- Two page writes that meet at a page boundary. -/
theorem sendPage_twice {e : EepromChip} (h : e.Idle) (a : Nat) (buf : List UInt8) (count rest : UInt8)
    (hcount : 0 < count.toNat) (hrest : 0 < rest.toNat)
    (hlen : count.toNat + rest.toNat = buf.length)
    (hmeet : a % sEEPageSize + count.toNat = sEEPageSize) (hlow : a + buf.length ≤ 2 ^ 16) :
    ∃ e', andThen (e.sendPage a buf count) (fun e =>
        e.sendPage (u32 (a + count.toNat)) (buf.drop count.toNat) rest) = (none, e') ∧
      e'.Idle ∧ Stored e a buf e' := by
  rw [sEEPageSize] at hmeet
  have hdrop : (buf.drop count.toNat).length = rest.toNat := by
    rw [List.length_drop]
    omega
  have htake : (buf.take count.toNat).length = count.toNat := by
    rw [List.length_take]
    omega
  have hnext := rest.toNat_lt
  obtain ⟨e₁, heq, hidle, hstored⟩ := sendPage_stored h a buf count hcount (by omega)
    (Nat.le_of_eq hmeet) (by omega)
  rw [andThen, heq, u32_of_lt (by omega)]
  obtain ⟨e₂, heq', hidle', hstored'⟩ := sendPage_stored hidle (a + count.toNat)
    (buf.drop count.toNat) rest hrest (by omega)
    (show (a + count.toNat) % 256 + rest.toNat ≤ 256 by omega) (by omega)
  refine ⟨e₂, heq', hidle', ?_⟩
  rw [← htake] at hstored'
  have hboth := hstored.append hstored'
  rwa [htake, List.take_of_length_le (Nat.le_of_eq hdrop), List.take_append_drop] at hboth

/-- **A range without a whole page, in the lower half, is stored.** -/
theorem writeBuffer_stored {e : EepromChip} (h : e.Idle) {a : Nat} {buf : List UInt8}
    (hpos : 1 ≤ buf.length) (hlow : a + buf.length ≤ 2 ^ 16) (hno : ¬HoldsPage a buf.length) :
    ∃ e', e.writeBuffer a buf buf.length = (none, e') ∧ e'.Idle ∧ Stored e a buf e' := by
  rw [holdsPage_iff] at hno
  set n := buf.length with hn
  have hwhole : buf.take n = buf := List.take_of_length_le (Nat.le_of_eq hn.symm)
  have hsingle : ∀ hlt : n < 256, a % 256 + n ≤ 256 →
      ∃ e', e.sendPage a buf (UInt8.ofNat (n % 256)) = (none, e') ∧ e'.Idle ∧ Stored e a buf e' := by
    intro hlt hfit
    have hnum : (UInt8.ofNat n).toNat = n := UInt8.toNat_ofNat_of_lt' hlt
    have hsent := sendPage_stored h a buf (UInt8.ofNat n) (by omega) (by omega)
      (show a % 256 + (UInt8.ofNat n).toNat ≤ 256 by omega) (by omega)
    rwa [hnum, hwhole, ← Nat.mod_eq_of_lt hlt] at hsent
  dsimp only [writeBuffer]
  by_cases hal : a % 256 = 0
  · have hlt : n < 256 := by omega
    rw [if_pos hal, if_pos (by rw [Nat.div_eq_of_lt hlt]; rfl)]
    exact hsingle hlt (by omega)
  have hcount : (UInt8.ofNat (256 - a % 256)).toNat = 256 - a % 256 :=
    UInt8.toNat_ofNat_of_lt' (show 256 - a % 256 < 256 by omega)
  rw [if_neg hal]
  by_cases hlt : n < 256
  · rw [if_pos (by rw [Nat.div_eq_of_lt hlt]; rfl)]
    by_cases hcross : 256 - a % 256 < n
    · rw [if_pos (by rwa [hcount])]
      have hrest : (UInt8.ofNat (n - (UInt8.ofNat (256 - a % 256)).toNat)).toNat =
          n - (256 - a % 256) := by
        rw [hcount]
        exact UInt8.toNat_ofNat_of_lt' (show n - (256 - a % 256) < 256 by omega)
      exact sendPage_twice h a buf (UInt8.ofNat (256 - a % 256))
        (UInt8.ofNat (n - (UInt8.ofNat (256 - a % 256)).toNat)) (by omega) (by omega) (by omega)
        (show a % 256 + (UInt8.ofNat (256 - a % 256)).toNat = 256 by omega) hlow
    · rw [if_neg (by rwa [hcount])]
      exact hsingle hlt (by omega)
  · -- the range goes on past a page boundary, but not to the next one
    have hone : UInt8.ofNat (n / 256) ≠ 0 := ofNat_ne_zero (by omega) (by omega)
    have hfirst : UInt8.ofNat (256 - a % 256) ≠ 0 := ofNat_ne_zero (by omega) (by omega)
    rw [if_neg hone, if_pos hfirst, hcount]
    set rest := n - (256 - a % 256) with hrest
    have hval : (UInt8.ofNat (rest % 256)).toNat = rest := by
      rw [Nat.mod_eq_of_lt (by omega)]
      exact UInt8.toNat_ofNat_of_lt' (show rest < 256 by omega)
    have hne : UInt8.ofNat (rest % 256) ≠ 0 := ofNat_ne_zero (by omega) (by omega)
    have hzero : (UInt8.ofNat (rest / 256)).toNat = 0 := by
      rw [Nat.div_eq_of_lt (by omega)]
      rfl
    have htwo := sendPage_twice h a buf (UInt8.ofNat (256 - a % 256))
      (UInt8.ofNat (rest % 256)) (by omega) (by omega) (by omega)
      (show a % 256 + (UInt8.ofNat (256 - a % 256)).toNat = 256 by omega) hlow
    rw [hcount] at htwo
    rw [hzero]
    simpa only [writePages, if_pos hne] using htwo

/-! ### The lower half -/

/-- Every page write from `e` to `e'` went to the lower half. -/
def SentLow (e e' : EepromChip) : Prop := ∃ new, e'.sent = new ++ e.sent ∧ ∀ p ∈ new, p.1 < 2 ^ 16

theorem SentLow.refl (e : EepromChip) : SentLow e e := ⟨[], rfl, by simp⟩

theorem SentLow.trans {e e₁ e₂ : EepromChip} (h₁ : SentLow e e₁) (h₂ : SentLow e₁ e₂) :
    SentLow e e₂ := by
  obtain ⟨new, hnew, hlow⟩ := h₁
  obtain ⟨new', hnew', hlow'⟩ := h₂
  refine ⟨new' ++ new, by rw [hnew', hnew, List.append_assoc], fun p hp => ?_⟩
  rcases List.mem_append.mp hp with hp | hp
  · exact hlow' p hp
  · exact hlow p hp

theorem sendPage_low (e : EepromChip) (addr : Nat) (buf : List UInt8) (num : UInt8) :
    SentLow e (e.sendPage addr buf num).2 := by
  obtain ⟨mem, busy, cycle, old, sent⟩ := e
  by_cases hzero : num = 0
  · subst hzero
    refine ⟨[], ?_, by simp⟩
    cases busy with
    | true => rfl
    | false =>
        cases cycle with
        | true => rfl
        | false => rfl
  cases busy with
  | true =>
      have hpage : (EepromChip.mk mem true cycle num sent).writePage addr buf =
          (.FAIL, EepromChip.mk mem true cycle num sent) := rfl
      refine ⟨[], ?_, by simp⟩
      simp only [sendPage, hpage]
      split
      · rfl
      · rfl
  | false =>
      cases cycle with
      | true =>
          have hpage : (EepromChip.mk mem false true num sent).writePage addr buf =
              (.FAIL, EepromChip.mk mem true true num sent) := rfl
          refine ⟨[], ?_, by simp⟩
          simp only [sendPage, hpage]
          split
          · rfl
          · rfl
      | false =>
          rw [sendPage_eq ⟨rfl, rfl⟩ addr buf hzero]
          refine ⟨[_], rfl, fun p hp => ?_⟩
          rw [List.mem_singleton.mp hp]
          exact Nat.mod_lt addr (by decide)

theorem andThen_low {e : EepromChip} {r : Option Ret × EepromChip}
    {k : EepromChip → Option Ret × EepromChip}
    (hr : SentLow e r.2) (hk : ∀ e, SentLow e (k e).2) : SentLow e (andThen r k).2 := by
  unfold andThen
  split
  · exact hr
  · exact hr.trans (hk r.2)

theorem writePages_low (single : UInt8) :
    ∀ (n addr : Nat) (buf : List UInt8) (e : EepromChip),
      SentLow e (writePages single n addr buf e).2 := by
  intro n
  induction n with
  | zero =>
      intro addr buf e
      unfold writePages
      split
      · exact sendPage_low e addr buf single
      · exact SentLow.refl e
  | succ n ih =>
      intro addr buf e
      exact andThen_low (sendPage_low e addr buf _) (ih _ _)

/-- **Nothing is ever stored in the upper half.** -/
theorem writeBuffer_low (e : EepromChip) (a : Nat) (buf : List UInt8) (n : Nat) :
    SentLow e (e.writeBuffer a buf n).2 := by
  dsimp only [writeBuffer]
  split_ifs
  · exact sendPage_low e a buf _
  · exact writePages_low _ _ _ _ e
  · exact andThen_low (sendPage_low e a buf _) fun e => sendPage_low e _ _ _
  · exact sendPage_low e a buf _
  · exact andThen_low (sendPage_low e a buf _) (writePages_low _ _ _ _)
  · exact writePages_low _ _ _ _ e

/-- What was stored in the lower half ends there. -/
theorem Stored.end_le {e e' : EepromChip} {a : Nat} {bs : List UInt8} (h : Stored e a bs e')
    (hlow : SentLow e e') (hpos : 1 ≤ bs.length) : a + bs.length ≤ 2 ^ 16 := by
  obtain ⟨ps, hsent, htile, -, hpage⟩ := h.pages
  obtain ⟨new, hnew, hlow⟩ := hlow
  have hsame : new = ps.reverse := List.append_cancel_right (hnew.symm.trans hsent)
  obtain ⟨r, hr, hlo, hhi⟩ := (htile.mem_iff (a + bs.length - 1)).mpr (by omega)
  obtain ⟨p, hp, rfl⟩ := List.mem_map.mp hr
  have hstart := hlow p (hsame ▸ List.mem_reverse.mpr hp)
  have hfit := hpage p hp
  rw [sEEPageSize] at hfit
  dsimp only at hlo hhi
  omega

/-- An erased device, idle. -/
def erased : EepromChip := ⟨fun _ => 0xFF, false, false, 0, []⟩

/--
**When a buffer comes back.**  Exactly the ranges that lie in the lower half and hold no
whole page are stored by `HW_EEPROM_WriteBuffer` and returned by `HW_EEPROM_ReadBuffer`.
-/
theorem roundTrip_iff (e : EepromChip) (h : e.Idle) (a : Nat) (buf : List UInt8)
    (hpos : 1 ≤ buf.length) (hlen : buf.length < 65536) (hlim : a + buf.length ≤ 2 ^ 17) :
    RoundTrip e a buf ↔ a + buf.length ≤ 2 ^ 16 ∧ ¬HoldsPage a buf.length := by
  constructor
  · rintro ⟨hstored, e'', hread⟩
    refine ⟨hstored.end_le (writeBuffer_low e a buf buf.length) hpos, fun hpage => ?_⟩
    rw [readBuffer_busy (writeBuffer_busy h buf hlen hpage)] at hread
    cases hread
  · rintro ⟨hlow, hno⟩
    obtain ⟨e', heq, hidle, hstored⟩ := writeBuffer_stored h hpos hlow hno
    dsimp only [RoundTrip]
    rw [heq]
    refine ⟨hstored, e', ?_⟩
    rw [readBuffer_idle hidle hpos hlim, hstored.mem, Memory.read_write_same]

/-- Three bytes over the page boundary at 256. -/
theorem roundTrip_iff_boundary : RoundTrip erased 255 [1, 2, 3] :=
  (roundTrip_iff erased ⟨rfl, rfl⟩ 255 [1, 2, 3] (by decide) (by decide) (by decide)).mpr
    ⟨by decide, by rw [holdsPage_iff]; decide⟩

/-- One byte for the upper half, and one whole page for the lower one. -/
theorem not_roundTrip :
    ¬RoundTrip erased 0x10000 [7] ∧ ¬RoundTrip erased 0 (List.replicate 256 7) := by
  constructor
  · rintro ⟨hstored, -⟩
    exact absurd (hstored.end_le (writeBuffer_low _ _ _ _) (by decide)) (by decide)
  · rintro ⟨-, e'', hread⟩
    rw [List.length_replicate, readBuffer_busy (writeBuffer_busy ⟨rfl, rfl⟩ _ (by decide)
      ((holdsPage_iff 0 256).mpr (by decide)))] at hread
    cases hread

end EepromChip

end SwiftAcu
