/-
NOR flash as a memory.

A cell of a NOR flash can be programmed and it can be erased, and the two are not
alike: programming moves a cell only one way, so what a cell holds afterwards
depends on what it held before, unless it was blank.  Everything a driver does
rests on that one law, `prog_erased`, so the memory is stated over any cell type
that has it.

A device is a function from addresses to cells.  Programming writes a list of
cells at an address and erasing blanks the whole sector an address lies in; the
lemmas say what each of the two leaves alone, and that programming a blank range
stores exactly what was sent.
-/
import Mathlib.Data.List.Basic
import Mathlib.Tactic.Common

namespace NorFlash

/-- What one cell of the device does when it is programmed. -/
class Cell (α : Type) where
  /-- What an erased cell reads as. -/
  erased : α
  /-- What a cell holding `old` reads as after `new` was programmed into it. -/
  prog : (old new : α) → α
  prog_erased : ∀ new, prog erased new = new

export Cell (erased prog prog_erased)

variable {α : Type} [Cell α]

/-- Program `bs` at the addresses from `a` on. -/
def program (m : Nat → α) (a : Nat) (bs : List α) : Nat → α := fun x =>
  if a ≤ x then
    match bs[x - a]? with
    | some b => prog (m x) b
    | none => m x
  else m x

/-- Erase the sector of `size` cells that `a` lies in. -/
def eraseSector (size : Nat) (m : Nat → α) (a : Nat) : Nat → α := fun x =>
  if x / size = a / size then erased else m x

/-- The cells read from `a` on. -/
def readRange (m : Nat → α) (a n : Nat) : List α :=
  (List.range n).map fun i => m (a + i)

/-- Every cell of `[a, b)` is erased. -/
def Blank (m : Nat → α) (a b : Nat) : Prop :=
  ∀ x, a ≤ x → x < b → m x = erased

omit [Cell α] in
/-- The cells from `a` on hold `bs`. -/
def Stores (m : Nat → α) (a : Nat) (bs : List α) : Prop :=
  ∀ i (h : i < bs.length), m (a + i) = bs[i]

/-! ### What programming changes -/

theorem program_outside (m : Nat → α) {a x : Nat} {bs : List α}
    (h : x < a ∨ a + bs.length ≤ x) : program m a bs x = m x := by
  unfold program
  rcases h with h | h
  · rw [if_neg (by omega)]
  · split
    · rw [List.getElem?_eq_none (by omega)]
    · rfl

theorem program_inside (m : Nat → α) (a : Nat) {bs : List α} {i : Nat} (h : i < bs.length) :
    program m a bs (a + i) = prog (m (a + i)) bs[i] := by
  unfold program
  rw [if_pos (Nat.le_add_right a i), Nat.add_sub_cancel_left, List.getElem?_eq_getElem h]

@[simp] theorem program_nil (m : Nat → α) (a : Nat) : program m a [] = m := by
  funext x
  exact program_outside m (by simp; omega)

/-- Programming two adjacent ranges one after the other is programming both. -/
theorem program_append (m : Nat → α) (a : Nat) (bs cs : List α) :
    program m a (bs ++ cs) = program (program m a bs) (a + bs.length) cs := by
  funext x
  have hlen : (bs ++ cs).length = bs.length + cs.length := List.length_append
  by_cases hlo : x < a
  · rw [program_outside m (Or.inl hlo), program_outside _ (Or.inl (by omega)),
      program_outside m (Or.inl hlo)]
  by_cases hmid : x < a + bs.length
  · obtain ⟨i, rfl⟩ : ∃ i, x = a + i := ⟨x - a, by omega⟩
    have hi : i < bs.length := by omega
    rw [program_inside m a (by omega), program_outside _ (Or.inl hmid),
      program_inside m a hi, List.getElem_append_left hi]
  by_cases hhi : x < a + (bs ++ cs).length
  · obtain ⟨i, rfl⟩ : ∃ i, x = a + bs.length + i := ⟨x - (a + bs.length), by omega⟩
    have hi : i < cs.length := by omega
    have hi' : bs.length + i < (bs ++ cs).length := by omega
    have hget : (bs ++ cs)[bs.length + i] = cs[i] := by simp
    have hwhole := program_inside m a hi'
    rw [← Nat.add_assoc, hget] at hwhole
    rw [hwhole, program_inside _ (a + bs.length) hi, program_outside m (Or.inr (by omega))]
  · rw [program_outside m (Or.inr (by omega)), program_outside _ (Or.inr (by omega)),
      program_outside m (Or.inr (by omega))]

/-- A blank range takes exactly what is programmed into it. -/
theorem stores_program_of_blank {m : Nat → α} {a : Nat} {bs : List α}
    (h : Blank m a (a + bs.length)) : Stores (program m a bs) a bs := by
  intro i hi
  rw [program_inside m a hi, h (a + i) (by omega) (by omega), prog_erased]

/-! ### What erasing changes -/

theorem erase_outside {size x a : Nat} (m : Nat → α) (h : x / size ≠ a / size) :
    eraseSector size m a x = m x := if_neg h

theorem erase_inside {size x a : Nat} (m : Nat → α) (h : x / size = a / size) :
    eraseSector size m a x = erased := if_pos h

theorem erase_below {size x a : Nat} (m : Nat → α) (h : x < a / size * size) :
    eraseSector size m a x = m x := by
  refine erase_outside m fun hc => ?_
  rw [← hc] at h
  exact absurd h (Nat.not_lt.mpr (Nat.div_mul_le_self x size))

theorem erase_above {size x a : Nat} (hs : 0 < size) (m : Nat → α)
    (h : (a / size + 1) * size ≤ x) : eraseSector size m a x = m x := by
  refine erase_outside m fun hc => ?_
  have : a / size + 1 ≤ x / size := (Nat.le_div_iff_mul_le hs).mpr h
  omega

/-- The whole sector is blank once it is erased. -/
theorem blank_eraseSector {size : Nat} (hs : 0 < size) (m : Nat → α) (a : Nat) :
    Blank (eraseSector size m a) (a / size * size) ((a / size + 1) * size) := by
  intro x hlo hhi
  refine erase_inside m (Nat.le_antisymm ?_ ?_)
  · exact Nat.lt_succ_iff.mp ((Nat.div_lt_iff_lt_mul hs).mpr hhi)
  · exact (Nat.le_div_iff_mul_le hs).mpr hlo

/-! ### Ranges that keep their contents -/

theorem Blank.mono {m : Nat → α} {a b a' b' : Nat} (h : Blank m a b) (ha : a ≤ a') (hb : b' ≤ b) :
    Blank m a' b' :=
  fun x hlo hhi => h x (by omega) (by omega)

theorem Blank.congr {m m' : Nat → α} {a b : Nat} (h : Blank m a b)
    (heq : ∀ x, a ≤ x → x < b → m' x = m x) : Blank m' a b :=
  fun x hlo hhi => (heq x hlo hhi).trans (h x hlo hhi)

/-- Erasing never spoils a blank range. -/
theorem Blank.eraseSector {m : Nat → α} {a b : Nat} (h : Blank m a b) (size e : Nat) :
    Blank (eraseSector size m e) a b := by
  intro x hlo hhi
  unfold NorFlash.eraseSector
  split
  · rfl
  · exact h x hlo hhi

/-- Programming somewhere else never spoils a blank range. -/
theorem Blank.program {m : Nat → α} {a b c : Nat} {bs : List α} (h : Blank m a b)
    (hd : b ≤ c ∨ c + bs.length ≤ a) : Blank (program m c bs) a b :=
  h.congr fun x hlo hhi => program_outside m (by omega)

omit [Cell α] in
theorem Stores.congr {m m' : Nat → α} {a : Nat} {bs : List α} (h : Stores m a bs)
    (heq : ∀ x, a ≤ x → x < a + bs.length → m' x = m x) : Stores m' a bs :=
  fun i hi => (heq (a + i) (by omega) (by omega)).trans (h i hi)

omit [Cell α] in
/-- Two contents of one range are the same list. -/
theorem Stores.unique {m : Nat → α} {a : Nat} {bs cs : List α} (hb : Stores m a bs)
    (hc : Stores m a cs) (hlen : bs.length = cs.length) : bs = cs :=
  List.ext_getElem hlen fun i h₁ h₂ => (hb i h₁).symm.trans (hc i h₂)

omit [Cell α] in
theorem stores_append {m : Nat → α} {a : Nat} {bs cs : List α} :
    Stores m a (bs ++ cs) ↔ Stores m a bs ∧ Stores m (a + bs.length) cs := by
  have hlen : (bs ++ cs).length = bs.length + cs.length := List.length_append
  constructor
  · intro h
    refine ⟨fun i hi => ?_, fun i hi => ?_⟩
    · rw [h i (by omega), List.getElem_append_left hi]
    · rw [Nat.add_assoc, h (bs.length + i) (by omega), List.getElem_append_right (by omega)]
      simp
  · rintro ⟨hb, hc⟩ i hi
    by_cases hib : i < bs.length
    · rw [hb i hib, List.getElem_append_left hib]
    · obtain ⟨j, rfl⟩ : ∃ j, i = bs.length + j := ⟨i - bs.length, by omega⟩
      rw [← Nat.add_assoc, hc j (by omega), List.getElem_append_right (by omega)]
      simp

/-! ### Reading -/

omit [Cell α] in
@[simp] theorem length_readRange (m : Nat → α) (a n : Nat) : (readRange m a n).length = n := by
  simp [readRange]

omit [Cell α] in
theorem stores_readRange (m : Nat → α) (a n : Nat) : Stores m a (readRange m a n) := by
  intro i hi
  simp [readRange]

omit [Cell α] in
/-- Reading back a stored list gives the list. -/
theorem readRange_eq_iff {m : Nat → α} {a : Nat} {bs : List α} :
    readRange m a bs.length = bs ↔ Stores m a bs := by
  constructor
  · intro h
    rw [← h]
    exact stores_readRange m a bs.length
  · intro h
    exact (stores_readRange m a bs.length).unique h (length_readRange m a bs.length)

/-- A range reads as erased cells only exactly when it is blank. -/
theorem readRange_all_erased_iff {m : Nat → α} {a n : Nat} :
    (∀ b ∈ readRange m a n, b = erased) ↔ Blank m a (a + n) := by
  constructor
  · intro h x hlo hhi
    refine h (m x) (List.mem_map.mpr ⟨x - a, List.mem_range.mpr (by omega), ?_⟩)
    rw [Nat.add_sub_cancel' hlo]
  · intro h b hb
    obtain ⟨i, hi, rfl⟩ := List.mem_map.mp hb
    have hin : i < n := List.mem_range.mp hi
    exact h (a + i) (by omega) (by omega)

end NorFlash
