/-
Which byte strings are accepted as frames.

A frame says how long it is in its second byte.  The check cuts what it has been given
down to that length, but not up to it, so the end byte and the checksum are looked for
at the end of whichever is shorter, the frame or the byte string.  What passes is
therefore a complete frame, perhaps with more behind it, or a byte string that stops
short of its frame and happens to end like one.  The check stays inside the array in
either case; it is the copy of the payload that does not always.
-/
import SwiftAcu.Acu.RxFrame

namespace SwiftAcu.RxFrame

/-! ### Frames -/

/-- The sum of the first `n` bytes modulo 256. -/
def sumOf (b : List UInt8) (n : Nat) : Nat := ((b.take n).map UInt8.toNat).sum % 256

/-- The declared length of the payload, `b[1]`. -/
def declared (b : List UInt8) : Nat := (b.getD 1 0).toNat

/-- From its front, `b` is a complete frame. -/
def Complete (b : List UInt8) : Prop :=
  b.getD 0 0 = 0xBC ∧ declared b + 4 ≤ b.length ∧
    (b.getD (declared b + 2) 0).toNat = sumOf b (declared b + 2) ∧ b.getD (declared b + 3) 0 = 0xCB

/-- `b` stops short of the frame it starts, and its last two bytes are a sum and an end byte. -/
def Truncated (b : List UInt8) : Prop :=
  b.getD 0 0 = 0xBC ∧ b.length < declared b + 4 ∧
    (b.getD (b.length - 2) 0).toNat = sumOf b (b.length - 2) ∧ b.getD (b.length - 1) 0 = 0xCB

instance (b : List UInt8) : Decidable (Complete b) := inferInstanceAs (Decidable (_ ∧ _ ∧ _ ∧ _))

instance (b : List UInt8) : Decidable (Truncated b) := inferInstanceAs (Decidable (_ ∧ _ ∧ _ ∧ _))

/-- What a reception should accept: a complete frame whose payload there is room for. -/
def Acceptable (b : List UInt8) : Prop := b.length ≤ 255 ∧ Complete b ∧ declared b ≤ 50

/--
The reception `r` of `b` is as it should be: no access is outside an array, `SUCC` is
returned exactly for what is acceptable, and then the payload has been received.
-/
def Meets (b : List UInt8) (r : Option (Ret × Rx)) : Prop :=
  ∃ ret rx, r = some (ret, rx) ∧ (ret = .SUCC ↔ Acceptable b) ∧
    (ret = .SUCC → rx.datalen = b.getD 1 0 ∧
      rx.databuff.toList.take (declared b) = (b.drop 2).take (declared b))

/-! ### Sums -/

theorem toNat_foldl_add (b : List UInt8) (s : UInt8) :
    (b.foldl (fun checksum x => checksum + x) s).toNat =
      (s.toNat + (b.map UInt8.toNat).sum) % 256 := by
  induction b generalizing s with
  | nil => simp [Nat.mod_eq_of_lt s.toNat_lt]
  | cons x b ih =>
      rw [List.foldl_cons, ih, List.map_cons, List.sum_cons, UInt8.toNat_add]
      omega

theorem toNat_checkSum8BitGet (b : List UInt8) :
    (checkSum8BitGet b).toNat = (b.map UInt8.toNat).sum % 256 := by
  rw [checkSum8BitGet, toNat_foldl_add]
  simp

theorem checkSum_take_eq_iff (b : List UInt8) (n : Nat) (x : UInt8) :
    checkSum8BitGet (b.take n) = x ↔ x.toNat = sumOf b n := by
  rw [← UInt8.toNat_inj, toNat_checkSum8BitGet, sumOf]
  exact eq_comm

/-! ### The check -/

/-- The check looks at the end of the frame or of the byte string, whichever comes first. -/
theorem complete_or_truncated_iff {b : List UInt8} (h0 : b.getD 0 0 = 0xBC) {n : Nat}
    (hn : n = if declared b + 4 < b.length then declared b + 4 else b.length) :
    Complete b ∨ Truncated b ↔
      b.getD (n - 1) 0 = 0xCB ∧ (b.getD (n - 2) 0).toNat = sumOf b (n - 2) := by
  simp only [Complete, Truncated, h0, true_and]
  by_cases hle : declared b + 4 ≤ b.length
  · have h4 : n = declared b + 4 := by
      rw [hn]
      split <;> omega
    have h1 : n - 1 = declared b + 3 := by omega
    have h2 : n - 2 = declared b + 2 := by omega
    have hnot : ¬ b.length < declared b + 4 := by omega
    simp only [h1, h2, hle, hnot, true_and, false_and, or_false]
    exact and_comm
  · have hlen : n = b.length := by
      rw [hn]
      split <;> omega
    have hlt : b.length < declared b + 4 := by omega
    simp only [hlen, hle, hlt, true_and, false_and, false_or]
    exact and_comm

/-- Behind the end mark the sum decides. -/
theorem ite_sum_ne {b : List UInt8} (h0 : b.getD 0 0 = 0xBC) {n : Nat}
    (hn : n = if declared b + 4 < b.length then declared b + 4 else b.length)
    (hlast : b.getD (n - 1) 0 = 0xCB) {β : Type} (x y : β) :
    (if checkSum8BitGet (b.take (n - 2)) ≠ b.getD (n - 2) 0 then x else y) =
      if Complete b ∨ Truncated b then y else x := by
  have hsum : checkSum8BitGet (b.take (n - 2)) = b.getD (n - 2) 0 ↔ Complete b ∨ Truncated b := by
    rw [checkSum_take_eq_iff, complete_or_truncated_iff h0 hn, and_iff_right hlast]
  rw [ite_not]
  exact if_congr hsum rfl rfl

section
variable {b : List UInt8} (rest : List UInt8)

theorem index_append {i : Int} {k : Nat} (hi : i = k) (hk : k < b.length) :
    index (b ++ rest) i = some (b.getD k 0) := by
  subst hi
  rw [index, if_pos (Int.natCast_nonneg k), Int.toNat_natCast, List.getElem?_append_left hk,
    List.getElem?_eq_getElem hk, List.getD_eq_getElem _ _ hk]

theorem checkSumIn_append {i : Int} {k : Nat} (hi : i = k) (hk : k ≤ b.length)
    (hb : b.length ≤ 259) :
    checkSumIn (b ++ rest) i = some (checkSum8BitGet (b.take k)) := by
  have hmod : (i % 2 ^ 32).toNat = k := by omega
  have hlen : k ≤ (b ++ rest).length := by
    rw [List.length_append]
    omega
  simp only [checkSumIn, hmod]
  rw [if_pos hlen, List.take_append_of_le_length hk]

/-- **What the check comes to**: it looks at the shorter end, and at nothing behind. -/
theorem rxBuffCheck_append {sub : Nat → Nat → Int}
    (hsub : ∀ m n, n ≤ m → m ≤ 259 → sub m n = ((m - n : Nat) : Int))
    (hpos : 2 ≤ b.length) (hb : b.length ≤ 259) :
    rxBuffCheck sub (b ++ rest) b.length =
      some (if Complete b ∨ Truncated b then .SUCC else .FAIL) := by
  have hhead : index (b ++ rest) 0 = some (b.getD 0 0) := index_append rest rfl (by omega)
  have hdatalen : index (b ++ rest) 1 = some (b.getD 1 0) := index_append rest rfl (by omega)
  simp only [rxBuffCheck, hhead, hdatalen, Option.bind_eq_bind, Option.bind_some, Option.pure_def]
  by_cases h0 : b.getD 0 0 = 0xBC
  swap
  · have hno : ¬ (Complete b ∨ Truncated b) := fun h => h0 (h.elim And.left And.left)
    rw [if_pos h0, if_neg hno]
  rw [if_neg (not_not.mpr h0)]
  set n := if (b.getD 1 0).toNat + 4 < b.length then (b.getD 1 0).toNat + 4 else b.length with hn
  have hn2 : 2 ≤ n ∧ n ≤ b.length := by
    rw [hn]
    split <;> omega
  rw [index_append rest (hsub n 1 (by omega) (by omega)) (by omega), Option.bind_some]
  have hiff := complete_or_truncated_iff h0 hn
  by_cases hlast : b.getD (n - 1) 0 = 0xCB
  swap
  · have hno : ¬ (Complete b ∨ Truncated b) := fun h => hlast (hiff.mp h).1
    rw [if_pos hlast, if_neg hno]
  rw [if_neg (not_not.mpr hlast)]
  have hsub2 := hsub n 2 hn2.1 (by omega)
  rw [checkSumIn_append rest hsub2 (by omega) hb, Option.bind_some,
    index_append rest hsub2 (by omega), Option.bind_some]
  rw [ite_sum_ne h0 hn hlast]
  exact (apply_ite some _ _ _).symm

end

/-! ### The padded array -/

section
variable {b : List UInt8} (hb : b.length ≤ 255)

include hb

theorem length_padded : (padded b).length = 259 := by
  simp [padded]
  omega

theorem index_padded {i : Int} {k : Nat} (hi : i = k) (hk : k < 259) :
    index (padded b) i = some (b.getD k 0) := by
  subst hi
  have hlen : k < (padded b).length := by rwa [length_padded hb]
  rw [index, if_pos (Int.natCast_nonneg k), Int.toNat_natCast, List.getElem?_eq_getElem hlen]
  simp only [padded, List.getElem_append, List.getElem_replicate]
  split
  · rw [List.getD_eq_getElem _ _ ‹_›]
  · rw [List.getD_eq_default _ _ (by omega)]

/-- **The check of what was received** stays inside the array. -/
theorem rxBuffCheck_padded {sub : Nat → Nat → Int}
    (hsub : ∀ m n, n ≤ m → m ≤ 259 → sub m n = ((m - n : Nat) : Int)) :
    rxBuffCheck sub (padded b) b.length =
      some (if Complete b ∨ Truncated b then .SUCC else .FAIL) := by
  match b, hb with
  | [], _ => rfl
  | [x], _ =>
      -- a single byte would have to be head and end byte at once
      have hno : ¬ (Complete [x] ∨ Truncated [x]) := by
        rintro (⟨-, hlen, -⟩ | ⟨hhead, -, -, hend⟩)
        · exact absurd hlen (by simp)
        · exact absurd (hhead.symm.trans hend) (by decide)
      rw [if_neg hno]
      have hhead : index (padded [x]) 0 = some x := rfl
      have hdatalen : index (padded [x]) 1 = some 0 := rfl
      have hzero : sub 1 1 = 0 := hsub 1 1 (by omega) (by omega)
      simp only [rxBuffCheck, hhead, hdatalen, Option.bind_eq_bind, Option.bind_some,
        Option.pure_def]
      by_cases h0 : x = 0xBC
      · subst h0
        rw [if_neg (not_not.mpr rfl)]
        show (index (padded [0xBC]) (sub 1 1)).bind _ = some Ret.FAIL
        rw [hzero]
        rfl
      · rw [if_pos h0]
  | x :: y :: b, hb => exact rxBuffCheck_append _ hsub (by simp) (by omega)

/-! ### Receiving -/

omit hb in
/-- What is copied, in front of what stays. -/
theorem memcpy_eq (databuff : Vector UInt8 50) {buff : List UInt8} {i n : Nat} (hn : n ≤ 50)
    (hlen : i + n ≤ buff.length) :
    ∃ v, memcpy databuff buff i n = some v ∧
      v.toList = (buff.drop i).take n ++ databuff.toList.drop n := by
  have hfront : ((buff.drop i).take n).length = n := by
    rw [List.length_take, List.length_drop]
    omega
  refine ⟨_, if_pos ⟨hn, hlen⟩, List.ext_getElem (by simp; omega) fun j hj _ => ?_⟩
  rw [Vector.getElem_toList, Vector.getElem_ofFn]
  dsimp only
  by_cases hlt : j < n
  · rw [if_pos hlt, List.getElem_append_left (by omega), List.getElem_take, List.getElem_drop,
      List.getD_eq_getElem _ _ (by omega)]
  · rw [if_neg hlt, List.getElem_append_right (by omega)]
    have hj' : n + (j - n) = j := by omega
    simp only [hfront, List.getElem_drop, Vector.getElem_toList, hj']
    rfl

/-- The copy of the payload, where there is room for it. -/
theorem memcpy_padded (databuff : Vector UInt8 50) (hroom : declared b ≤ 50) :
    ∃ v, memcpy databuff (padded b) 2 (declared b) = some v ∧
      (declared b + 4 ≤ b.length →
        v.toList = (b.drop 2).take (declared b) ++ databuff.toList.drop (declared b)) := by
  obtain ⟨v, hv, heq⟩ := memcpy_eq databuff hroom
    (show 2 + declared b ≤ (padded b).length by rw [length_padded hb]; omega)
  refine ⟨v, hv, fun hlen => ?_⟩
  have hdrop : (padded b).drop 2 = b.drop 2 ++ List.replicate (259 - b.length) 0 :=
    List.drop_append_of_le_length (by omega)
  rw [heq, hdrop, List.take_append_of_le_length (by rw [List.length_drop]; omega)]

/-- **A reception is as it should be** unless it takes a truncated or an oversize frame. -/
theorem meets_receive_iff {check : List UInt8 → Nat → Option Ret}
    (hcheck : check (padded b) b.length =
      some (if Complete b ∨ Truncated b then .SUCC else .FAIL)) (rx : Rx) :
    Meets b (receive check b rx) ↔ ¬ Truncated b ∧ ¬ (Complete b ∧ 50 < declared b) := by
  have hdatalen : index (padded b) 1 = some (b.getD 1 0) := index_padded hb rfl (by omega)
  have hexcl : Truncated b → ¬ Complete b := fun ht hc => by
    have h1 := ht.2.1
    have h2 := hc.2.1
    omega
  by_cases hpass : Complete b ∨ Truncated b
  swap
  · obtain ⟨hc, ht⟩ := not_or.mp hpass
    have hrecv : receive check b rx = some (.FAIL, rx) := by
      simp [receive, hcheck, hpass]
    simp only [hc, ht, false_and, not_false_eq_true, and_self, iff_true]
    exact ⟨.FAIL, rx, hrecv, by simp [Acceptable, hc], by simp⟩
  have hrecv : receive check b rx =
      (memcpy rx.databuff (padded b) 2 (declared b)).bind fun databuff =>
        some (.SUCC, ⟨b.getD 1 0, databuff⟩) := by
    simp only [receive, hcheck, if_pos hpass, hdatalen, Option.bind_eq_bind, Option.bind_some,
      Option.pure_def]
    rfl
  by_cases hroom : declared b ≤ 50
  · obtain ⟨v, hv, hbuff⟩ := memcpy_padded hb rx.databuff hroom
    have htake (hlen : declared b + 4 ≤ b.length) :
        v.toList.take (declared b) = (b.drop 2).take (declared b) := by
      rw [hbuff hlen, List.take_append_of_le_length (by simp; omega), List.take_take, Nat.min_self]
    rw [hrecv, hv, Option.bind_some]
    constructor
    · rintro ⟨ret, rx', heq, hiff, -⟩
      obtain ⟨rfl, rfl⟩ := Prod.mk.inj (Option.some.inj heq)
      have hacc := hiff.mp rfl
      exact ⟨fun ht => hexcl ht hacc.2.1, fun h => by omega⟩
    · rintro ⟨ht, -⟩
      have hc := hpass.resolve_right ht
      exact ⟨.SUCC, _, rfl, by simp [Acceptable, hb, hc, hroom], fun _ => ⟨rfl, htake hc.2.1⟩⟩
  · have hnone : memcpy rx.databuff (padded b) 2 (declared b) = none :=
      if_neg fun h => hroom h.1
    rw [hrecv, hnone]
    constructor
    · rintro ⟨ret, rx', heq, -⟩
      exact absurd heq (by simp)
    · rintro ⟨ht, hc⟩
      exact absurd ⟨hpass.resolve_right ht, by omega⟩ hc

omit hb in
/-- The check without arrays comes to the same. -/
theorem rxBuffCheck_eq :
    PcComm.rxBuffCheck (fun i => b.getD i 0) b.length =
      if Complete b ∨ Truncated b then .SUCC else .FAIL := by
  unfold PcComm.rxBuffCheck
  by_cases h0 : b.getD 0 0 = 0xBC
  swap
  · have hno : ¬ (Complete b ∨ Truncated b) := fun h => h0 (h.elim And.left And.left)
    rw [if_pos h0, if_neg hno]
  rw [if_neg (not_not.mpr h0)]
  dsimp only
  set n := if (b.getD 1 0).toNat + 4 < b.length then (b.getD 1 0).toNat + 4 else b.length with hn
  have hle : n ≤ b.length := by
    rw [hn]
    split <;> omega
  have htake : (List.range (n - 2)).map (fun i => b.getD i 0) = b.take (n - 2) := by
    refine List.ext_getElem (by simp; omega) fun i hi _ => ?_
    have hlt : i < n - 2 := by simpa using hi
    rw [List.getElem_map, List.getElem_range, List.getElem_take,
      List.getD_eq_getElem _ _ (by omega)]
  rw [htake]
  have hiff := complete_or_truncated_iff h0 hn
  by_cases hlast : b.getD (n - 1) 0 = 0xCB
  swap
  · have hno : ¬ (Complete b ∨ Truncated b) := fun h => hlast (hiff.mp h).1
    rw [if_pos hlast, if_neg hno]
  rw [if_neg (not_not.mpr hlast)]
  exact ite_sum_ne h0 hn hlast _ _

end

theorem pcRxBuffCheck_padded {b : List UInt8} (hb : b.length ≤ 255) :
    pcRxBuffCheck (padded b) b.length =
      some (if Complete b ∨ Truncated b then .SUCC else .FAIL) :=
  rxBuffCheck_padded hb fun m n hle _ => by omega

theorem oledRxBuffCheck_padded {b : List UInt8} (hb : b.length ≤ 255) :
    oledRxBuffCheck (padded b) b.length =
      some (if Complete b ∨ Truncated b then .SUCC else .FAIL) :=
  rxBuffCheck_padded hb fun m n hle hm => by omega

/-- What is received without arrays. -/
theorem rxBuffRecv_eq (b : List UInt8) :
    PcComm.rxBuffRecv b =
      if b.length ≤ 255 ∧ (Complete b ∨ Truncated b) then
        some ((List.range (declared b)).map fun i => b.getD (2 + i) 0)
      else none := by
  unfold PcComm.rxBuffRecv
  by_cases hb : b.length ≤ 255
  · simp only [hb, if_true, true_and, rxBuffCheck_eq]
    by_cases hpass : Complete b ∨ Truncated b
    · simp only [hpass, if_true, declared]
    · simp only [hpass, if_false]
  · simp only [hb, if_false, false_and]

/-- **Where there is room, a reception with its arrays is one without**: it fails alike, and it
puts the bytes received in front of what was there. -/
theorem pcRxBuffRecv_eq (b : List UInt8) (rx : Rx) :
    (PcComm.rxBuffRecv b = none → pcRxBuffRecv b rx = some (.FAIL, rx)) ∧
      ∀ data, PcComm.rxBuffRecv b = some data → data.length ≤ 50 →
        ∃ v, pcRxBuffRecv b rx = some (.SUCC, ⟨UInt8.ofNat data.length, v⟩) ∧
          v.toList = data ++ rx.databuff.toList.drop data.length := by
  rw [rxBuffRecv_eq]
  by_cases hb : b.length ≤ 255
  swap
  · have hno : ¬ (b.length ≤ 255 ∧ (Complete b ∨ Truncated b)) := fun h => hb h.1
    rw [if_neg hno]
    exact ⟨fun _ => if_neg hb, fun data hdata => absurd hdata (by simp)⟩
  have hrecv : pcRxBuffRecv b rx = receive pcRxBuffCheck b rx := if_pos hb
  by_cases hpass : Complete b ∨ Truncated b
  swap
  · have hno : ¬ (b.length ≤ 255 ∧ (Complete b ∨ Truncated b)) := fun h => hpass h.2
    rw [if_neg hno, hrecv]
    refine ⟨fun _ => ?_, fun data hdata => absurd hdata (by simp)⟩
    simp [receive, pcRxBuffCheck_padded hb, hpass]
  rw [if_pos ⟨hb, hpass⟩, hrecv]
  refine ⟨fun hnone => absurd hnone (by simp), fun data hdata hroom => ?_⟩
  have hlen : data.length = declared b := by
    rw [← Option.some.inj hdata, List.length_map, List.length_range]
  obtain ⟨v, hv, heq⟩ := memcpy_eq rx.databuff (i := 2) (hlen ▸ hroom)
    (show 2 + declared b ≤ (padded b).length by rw [length_padded hb]; omega)
  have hdatalen : index (padded b) 1 = some (b.getD 1 0) := index_padded hb rfl (by omega)
  have hbytes : ((padded b).drop 2).take (declared b) = data := by
    rw [← Option.some.inj hdata]
    refine List.ext_getElem (by simp [padded]; omega) fun i hi hi' => ?_
    have hlt : i < declared b := by simpa using hi'
    have hpad : (padded b)[2 + i]? = some (b.getD (2 + i) 0) := by
      have hindex := index_padded (i := ((2 + i : Nat) : Int)) hb rfl (by omega)
      rwa [index, if_pos (Int.natCast_nonneg _), Int.toNat_natCast] at hindex
    rw [List.getElem_take, List.getElem_drop, List.getElem_map, List.getElem_range]
    exact (List.getElem?_eq_some_iff.mp hpad).2
  refine ⟨v, ?_, by rw [heq, hbytes, hlen]⟩
  rw [hlen]
  have hbyte : UInt8.ofNat (declared b) = b.getD 1 0 := UInt8.ofNat_toNat
  have hv : memcpy rx.databuff (padded b) 2 (b.getD 1 0).toNat = some v := hv
  simp only [receive, pcRxBuffCheck_padded hb, if_pos hpass, hdatalen, Option.bind_eq_bind,
    Option.bind_some, Option.pure_def, hv, hbyte]

theorem length_received (u : Uart3Buff) : u.received.length ≤ 255 := by
  have hlt := u.writeP.isLt
  simp [Uart3Buff.received]
  omega

/-! ### What is accepted -/

/--
**Reception is as it should be** for every byte string that is neither a truncated frame
with the right end nor a complete frame of more than 50 bytes, and for no other; what is
longer than a datagram may be is refused by the PC protocol in any case.
-/
theorem meets_iff (b : List UInt8) (u : Uart3Buff) (rx : Rx) :
    (Meets b (pcRxBuffRecv b rx) ↔
      255 < b.length ∨ (¬ Truncated b ∧ ¬ (Complete b ∧ 50 < declared b))) ∧
    (Meets u.received (oledRxBuffRecv u rx) ↔
      ¬ Truncated u.received ∧ ¬ (Complete u.received ∧ 50 < declared u.received)) := by
  constructor
  · by_cases hb : b.length ≤ 255
    · have hnot : ¬ 255 < b.length := by omega
      rw [pcRxBuffRecv, if_pos hb, meets_receive_iff hb (pcRxBuffCheck_padded hb)]
      simp only [hnot, false_or]
    · have hlong : 255 < b.length := by omega
      rw [pcRxBuffRecv, if_neg hb]
      simp only [hlong, true_or, iff_true]
      exact ⟨.FAIL, rx, rfl, by simp [Acceptable, hb], by simp⟩
  · exact meets_receive_iff (length_received u) (oledRxBuffCheck_padded (length_received u)) rx

/-- Four bytes of a frame of five are accepted, and the checksum is taken for the payload. -/
theorem truncated_accepted :
    ¬ ∀ b rx, 1 ≤ b.length → Meets b (pcRxBuffRecv b rx) := by
  intro hall
  obtain ⟨ret, rx, hrecv, hiff, -⟩ :=
    hall [0xBC, 0x01, 0xBD, 0xCB] ⟨0, Vector.replicate 50 0⟩ (by decide)
  have hret : (pcRxBuffRecv [0xBC, 0x01, 0xBD, 0xCB] ⟨0, Vector.replicate 50 0⟩).map Prod.fst =
      some .SUCC := by decide +kernel
  rw [hrecv] at hret
  have hcomplete := (hiff.mp (Option.some.inj hret)).2.1
  exact absurd hcomplete (by decide)

end SwiftAcu.RxFrame
