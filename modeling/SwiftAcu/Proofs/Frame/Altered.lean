/-
What an error in one byte does to a frame.

The sum of the bytes tells every change of one of them, as long as it is looked for at the
same place.  Where it is looked for is told by the length byte: a length that is raised
points behind what was received and changes nothing but the sum, a length that is lowered
moves checksum and end byte into the payload.  A payload that has them there passes.
-/
import SwiftAcu.Proofs.Frame.Accept

namespace SwiftAcu.RxFrame

/-! ### Sums -/

theorem sum_set (b : List UInt8) {i : Nat} (hi : i < b.length) (v : UInt8) :
    ((b.set i v).map UInt8.toNat).sum + (b.getD i 0).toNat =
      (b.map UInt8.toNat).sum + v.toNat := by
  induction b generalizing i with
  | nil => exact absurd hi (Nat.not_lt_zero i)
  | cons x b ih =>
      cases i with
      | zero =>
          simp only [List.set_cons_zero, List.map_cons, List.sum_cons, List.getD_cons_zero]
          omega
      | succ i =>
          have hrest := ih (Nat.lt_of_succ_lt_succ hi)
          simp only [List.set_cons_succ, List.map_cons, List.sum_cons, List.getD_cons_succ]
          omega

/-- The sum tells a change in front of its end. -/
theorem sumOf_set_ne {b : List UInt8} {i m : Nat} {v : UInt8} (him : i < m) (hm : m ≤ b.length)
    (hv : v ≠ b.getD i 0) : sumOf (b.set i v) m ≠ sumOf b m := by
  have hlen : i < (b.take m).length := by
    rw [List.length_take]
    omega
  have hsum := sum_set (b.take m) hlen v
  have hold : (b.take m).getD i 0 = b.getD i 0 := by
    rw [List.getD_eq_getElem _ _ hlen, List.getElem_take, List.getD_eq_getElem]
  have hne : v.toNat ≠ (b.getD i 0).toNat := fun h => hv (UInt8.toNat_inj.mp h)
  have hvlt := v.toNat_lt
  have hblt := (b.getD i 0).toNat_lt
  rw [hold] at hsum
  rw [sumOf, sumOf, List.take_set]
  omega

theorem sumOf_set_of_le (b : List UInt8) {i m : Nat} (v : UInt8) (hm : m ≤ i) :
    sumOf (b.set i v) m = sumOf b m := by
  rw [sumOf, sumOf, List.take_set_of_le hm]

/-! ### One byte -/

section
variable {b : List UInt8} {i : Nat} {v : UInt8}

theorem getD_set_self (hi : i < b.length) : (b.set i v).getD i 0 = v := by
  rw [List.getD_eq_getElem _ _ (by rwa [List.length_set]), List.getElem_set_self]

theorem getD_set_ne {j : Nat} (hne : i ≠ j) : (b.set i v).getD j 0 = b.getD j 0 := by
  rw [List.getD_eq_getElem?_getD, List.getElem?_set_ne hne, ← List.getD_eq_getElem?_getD]

theorem declared_set_ne (hone : i ≠ 1) : declared (b.set i v) = declared b := by
  rw [declared, getD_set_ne hone, declared]

/-- The length byte is lowered, and a complete frame is left. -/
def Hidden (b : List UInt8) (i : Nat) (v : UInt8) : Prop :=
  i = 1 ∧ v < b.getD 1 0 ∧ Complete (b.set 1 v)

/-- An error anywhere but in the length byte. -/
theorem not_complete_set (hlen : b.length = declared b + 4) (h : Complete b)
    (hi : i < b.length) (hv : v ≠ b.getD i 0) (hone : i ≠ 1) : ¬ Complete (b.set i v) := by
  obtain ⟨hhead, -, hsum, hend⟩ := h
  rw [Complete, declared_set_ne hone]
  rintro ⟨hhead', -, hsum', hend'⟩
  obtain hfront | rfl | rfl : i < declared b + 2 ∨ i = declared b + 2 ∨ i = declared b + 3 := by
    omega
  · rw [getD_set_ne (by omega), hsum] at hsum'
    exact sumOf_set_ne hfront (by omega) hv hsum'.symm
  · rw [getD_set_self hi, sumOf_set_of_le _ _ (Nat.le_refl _), ← hsum] at hsum'
    exact hv (UInt8.toNat_inj.mp hsum')
  · rw [getD_set_self hi] at hend'
    exact hv (hend'.trans hend.symm)

/-- A length byte that is raised. -/
theorem not_truncated_set (hlen : b.length = declared b + 4) (h : Complete b)
    (hi : i < b.length) (hv : v ≠ b.getD i 0) : ¬ Truncated (b.set i v) := by
  obtain ⟨-, -, hsum, -⟩ := h
  rw [Truncated, List.length_set, hlen]
  rintro ⟨-, hlt, hsum', -⟩
  obtain rfl : i = 1 := by
    by_contra hone
    rw [declared_set_ne hone] at hlt
    exact Nat.lt_irrefl _ hlt
  rw [show declared b + 4 - 2 = declared b + 2 by omega, getD_set_ne (by omega), hsum] at hsum'
  exact sumOf_set_ne (by omega) (by omega) hv hsum'.symm

/-- **An altered frame passes** only as a shorter one. -/
theorem passes_set_iff (hlen : b.length = declared b + 4) (h : Complete b) (hi : i < b.length)
    (hv : v ≠ b.getD i 0) :
    Complete (b.set i v) ∨ Truncated (b.set i v) ↔ Hidden b i v := by
  refine ⟨fun hpass => ?_, fun hhidden => Or.inl (hhidden.1 ▸ hhidden.2.2)⟩
  have hcomplete := hpass.resolve_right (not_truncated_set hlen h hi hv)
  obtain rfl : i = 1 := by
    by_contra hone
    exact not_complete_set hlen h hi hv hone hcomplete
  refine ⟨rfl, ?_, hcomplete⟩
  have hle := hcomplete.2.1
  rw [declared, getD_set_self hi, List.length_set, hlen, declared] at hle
  have hne : v.toNat ≠ (b.getD 1 0).toNat := fun heq => hv (UInt8.toNat_inj.mp heq)
  exact UInt8.lt_iff_toNat_lt.mpr (by omega)

end

/-! ### The checks -/

/-- Every error in one byte of an accepted frame is found, whatever lies behind the frame. -/
def Detects (check : List UInt8 → Nat → Option Ret) : Prop :=
  ∀ (b rest rest' : List UInt8) (i : Nat) (v : UInt8), b.length = declared b + 4 →
    check (b ++ rest) b.length = some .SUCC → i < b.length → v ≠ b.getD i 0 →
    check (b.set i v ++ rest') b.length = some .FAIL

/-- **What a check finds**: every error but a length byte that is lowered onto a frame. -/
theorem rxBuffCheck_set_iff {sub : Nat → Nat → Int}
    (hsub : ∀ m n, n ≤ m → m ≤ 259 → sub m n = ((m - n : Nat) : Int)) {b : List UInt8}
    (rest rest' : List UInt8) (hlen : b.length = declared b + 4)
    (hacc : rxBuffCheck sub (b ++ rest) b.length = some .SUCC) {i : Nat} {v : UInt8}
    (hi : i < b.length) (hv : v ≠ b.getD i 0) :
    rxBuffCheck sub (b.set i v ++ rest') b.length = some .FAIL ↔ ¬ Hidden b i v := by
  have hdeclared : declared b ≤ 255 := Nat.le_of_lt_succ (b.getD 1 0).toNat_lt
  have hcomplete : Complete b := by
    by_contra hno
    have htrunc : ¬ Truncated b := fun ht => by
      have := ht.2.1
      omega
    rw [rxBuffCheck_append rest hsub (by omega) (by omega), if_neg (by tauto)] at hacc
    cases hacc
  have hset := rxBuffCheck_append (b := b.set i v) rest' hsub
    (by rw [List.length_set]; omega) (by rw [List.length_set]; omega)
  rw [List.length_set] at hset
  have hiff := passes_set_iff hlen hcomplete hi hv
  by_cases hhidden : Hidden b i v
  · rw [hset, if_pos (hiff.mpr hhidden)]
    exact iff_of_false (by decide) (not_not.mpr hhidden)
  · rw [hset, if_neg (mt hiff.mp hhidden)]
    exact iff_of_true rfl hhidden

/--
**A single altered byte is found** by both checks, wherever it is, unless it is the length
byte and what it is lowered to is the length of a complete frame.
-/
theorem altered_rejected_iff {b : List UInt8} (rest rest' : List UInt8)
    (hlen : b.length = declared b + 4) {i : Nat} {v : UInt8} (hi : i < b.length)
    (hv : v ≠ b.getD i 0) :
    (pcRxBuffCheck (b ++ rest) b.length = some .SUCC →
      (pcRxBuffCheck (b.set i v ++ rest') b.length = some .FAIL ↔ ¬ Hidden b i v)) ∧
    (oledRxBuffCheck (b ++ rest) b.length = some .SUCC →
      (oledRxBuffCheck (b.set i v ++ rest') b.length = some .FAIL ↔ ¬ Hidden b i v)) :=
  ⟨fun hacc => rxBuffCheck_set_iff (fun m n hle _ => by omega) rest rest' hlen hacc hi hv,
    fun hacc => rxBuffCheck_set_iff (fun m n hle hm => by omega) rest rest' hlen hacc hi hv⟩

/-- The length byte of a frame without a payload, raised: the end byte is not where it was. -/
theorem altered_rejected_raised :
    (pcRxBuffCheck ([0xBC, 0x00, 0xBC, 0xCB] ++ []) 4 = some .SUCC →
      (pcRxBuffCheck (([0xBC, 0x00, 0xBC, 0xCB] : List UInt8).set 1 0x01 ++ []) 4 = some .FAIL ↔
        ¬ Hidden [0xBC, 0x00, 0xBC, 0xCB] 1 0x01)) ∧
    (oledRxBuffCheck ([0xBC, 0x00, 0xBC, 0xCB] ++ []) 4 = some .SUCC →
      (oledRxBuffCheck (([0xBC, 0x00, 0xBC, 0xCB] : List UInt8).set 1 0x01 ++ []) 4 = some .FAIL ↔
        ¬ Hidden [0xBC, 0x00, 0xBC, 0xCB] 1 0x01)) :=
  altered_rejected_iff [] [] (by decide) (by decide) (by decide)

/-- A payload that holds the sum and the end byte of the frame without a payload. -/
theorem not_detects : ¬ Detects pcRxBuffCheck ∧ ¬ Detects oledRxBuffCheck := by
  refine ⟨fun h => ?_, fun h => ?_⟩
  · exact absurd (h [0xBC, 0x02, 0xBC, 0xCB, 0x45, 0xCB] [] [] 1 0x00 (by decide)
      (by decide +kernel) (by decide) (by decide)) (by decide +kernel)
  · exact absurd (h [0xBC, 0x02, 0xBC, 0xCB, 0x45, 0xCB] [] [] 1 0x00 (by decide)
      (by decide +kernel) (by decide) (by decide)) (by decide +kernel)

end SwiftAcu.RxFrame
