/-
What `MICRON_FLASH_B3WriteDataBuff` tells the chip, and what its answer means.

The page programs it issues tile the range it was given and none of them leaves its
page, and no byte outside the range changes; the answer is `SUCC` exactly when the
flash then holds the buffer.  All of this is about the two loops alone, so it holds on
a chip that fails to clear bits as well.
-/
import SwiftAcu.Lib.Tiling
import SwiftAcu.Proofs.Flash

namespace SwiftAcu

open NorFlash Tiling

namespace FlashChip

/-- The page programs of the pieces `ps`, as the chip records them. -/
def programs (ps : List (Nat × Nat)) : List FlashOp :=
  (ps.map fun p => .program p.1 p.2).reverse

theorem programs_append (ps qs : List (Nat × Nat)) :
    programs (ps ++ qs) = programs qs ++ programs ps := by
  simp [programs]

/-- From `c` to `c'` the chip was told page programs that tile `[addr, addr + n)`. -/
def Issued (c : FlashChip) (addr n : Nat) (c' : FlashChip) : Prop :=
  ∃ ps, c'.ops = programs ps ++ c.ops ∧ Tiles addr (addr + n) ps ∧
    ∀ p ∈ ps, p.1 % spiFlashPageSize + p.2 ≤ spiFlashPageSize

/-- From `c` to `c'` no byte outside `[addr, addr + n)` changed. -/
def Outside (c : FlashChip) (addr n : Nat) (c' : FlashChip) : Prop :=
  ∀ x, x < addr ∨ addr + n ≤ x → c'.mem x = c.mem x

theorem issued_zero (c : FlashChip) (addr : Nat) : Issued c addr 0 c :=
  ⟨[], rfl, rfl, by simp⟩

theorem outside_refl (c : FlashChip) (addr n : Nat) : Outside c addr n c := fun _ _ => rfl

theorem Outside.append {c c₁ c₂ : FlashChip} {addr n k : Nat} (h₁ : Outside c addr n c₁)
    (h₂ : Outside c₁ (addr + n) k c₂) : Outside c addr (n + k) c₂ :=
  fun x hx => (h₂ x (by omega)).trans (h₁ x (by omega))

theorem Issued.append {c c₁ c₂ : FlashChip} {addr n k : Nat} (h₁ : Issued c addr n c₁)
    (h₂ : Issued c₁ (addr + n) k c₂) : Issued c addr (n + k) c₂ := by
  obtain ⟨ps, hops, htile, hpage⟩ := h₁
  obtain ⟨qs, hops', htile', hpage'⟩ := h₂
  refine ⟨ps ++ qs, ?_, htile.append (Nat.add_assoc addr n k ▸ htile'), ?_⟩
  · rw [hops', hops, programs_append, List.append_assoc]
  · intro p hp
    rcases List.mem_append.mp hp with hp | hp
    · exact hpage p hp
    · exact hpage' p hp

/-- A page program that stays in its page touches its own range. -/
theorem touches_program_iff {a n x : Nat} (h : a % 256 + n ≤ 256) :
    (FlashOp.program a n).Touches x ↔ a ≤ x ∧ x < a + n := by
  have hdiv := Nat.div_add_mod x 256
  have hdiv' := Nat.div_add_mod a 256
  unfold FlashOp.Touches
  omega

/-- The new operations touch the bytes of the range and no others. -/
theorem Issued.touches {c c' : FlashChip} {addr n : Nat} (h : Issued c addr n c') :
    ∃ new, c'.ops = new ++ c.ops ∧
      ∀ x, (∃ op ∈ new, op.Touches x) ↔ addr ≤ x ∧ x < addr + n := by
  obtain ⟨ps, hops, htile, hpage⟩ := h
  refine ⟨programs ps, hops, fun x => ?_⟩
  have hone : ∀ p ∈ ps, (FlashOp.program p.1 p.2).Touches x ↔ p.1 ≤ x ∧ x < p.1 + p.2 :=
    fun p hp => touches_program_iff (hpage p hp)
  rw [← htile.mem_iff x]
  constructor
  · rintro ⟨op, hop, hx⟩
    obtain ⟨p, hp, rfl⟩ := List.mem_map.mp (List.mem_reverse.mp hop)
    exact ⟨p, hp, (hone p hp).mp hx⟩
  · rintro ⟨p, hp, hx⟩
    exact ⟨_, List.mem_reverse.mpr (List.mem_map_of_mem hp), (hone p hp).mpr hx⟩

theorem b3PageWrite_issued (c : FlashChip) {addr : Nat} {buff : List UInt8}
    (ha : addr < 2 ^ 24) (hpos : 0 < buff.length) (h : addr % 256 + buff.length ≤ 256) :
    Issued c addr buff.length (c.b3PageWrite addr buff) := by
  have htake : buff.take 256 = buff := List.take_of_length_le (by omega)
  refine ⟨[(addr, buff.length)], ?_, tiles_single addr hpos, ?_⟩
  · simp only [b3PageWrite, htake, addr24_of_lt ha]
    rfl
  · intro p hp
    rw [List.mem_singleton.mp hp]
    exact h

theorem b3PageWrite_outside (c : FlashChip) {addr : Nat} {buff : List UInt8}
    (ha : addr < 2 ^ 24) (h : addr % 256 + buff.length ≤ 256) :
    Outside c addr buff.length (c.b3PageWrite addr buff) := by
  intro x hx
  refine b3PageWrite_untouched c addr buff ?_
  have htake : buff.take 256 = buff := List.take_of_length_le (by omega)
  rw [htake, addr24_of_lt ha, touches_program_iff h]
  omega

theorem pageRule_issued : PageRule fun c addr buff c' =>
    Issued c addr buff.length c' ∧ Outside c addr buff.length c' where
  nil := fun c addr => ⟨issued_zero c addr, outside_refl c addr 0⟩
  append := fun h₁ h₂ => by
    rw [List.length_append]
    exact ⟨h₁.1.append h₂.1, h₁.2.append h₂.2⟩
  page := fun c _ _ ha hpos hpage =>
    ⟨b3PageWrite_issued c ha hpos hpage, b3PageWrite_outside c ha hpage⟩

/-- **The page programs of a write tile the range it was given.** -/
theorem writeBuff_issued (c : FlashChip) {addr : Nat} {buff : List UInt8}
    (hlim : addr + buff.length ≤ 2 ^ 24) :
    Issued c addr buff.length (c.writeBuff addr buff) ∧
      Outside c addr buff.length (c.writeBuff addr buff) :=
  pageRule_issued.writeBuff c hlim

/--
**A buffer write does what it says.**  Its page programs tile the range and stay in
their pages, it reports `SUCC` exactly when the flash then holds the buffer, and no
byte outside the range changes.  On a chip that programs reliably a range that was
erased always takes the buffer.
-/
theorem b3WriteDataBuff_spec (c : FlashChip) (addr : Nat) (buff : List UInt8)
    (hlim : addr + buff.length ≤ 2 ^ 24) :
    Issued c addr buff.length (c.b3WriteDataBuff addr buff).2 ∧
      ((c.b3WriteDataBuff addr buff).1 = .SUCC ↔
        Stores (c.b3WriteDataBuff addr buff).2.mem addr buff) ∧
      (c.weak = [] → Blank c.mem addr (addr + buff.length) →
        (c.b3WriteDataBuff addr buff).1 = .SUCC) ∧
      Outside c addr buff.length (c.b3WriteDataBuff addr buff).2 := by
  obtain ⟨hissued, hout⟩ := writeBuff_issued c hlim
  refine ⟨hissued, ?_, fun hw => b3WriteDataBuff_blank hw addr buff hlim, hout⟩
  exact checkPages_iff _ buff.length (Nat.le_refl _) hlim

theorem b3WriteDataBuff_spec_blank :
    ((FlashChip.mk (0x20, 0xBA, 0x18) (fun _ => 0xFF) [] []).b3WriteDataBuff 254
      [1, 2, 3, 4]).1 = .SUCC :=
  (b3WriteDataBuff_spec _ 254 [1, 2, 3, 4] (by decide)).2.2.1 rfl (fun _ _ _ => rfl)

end FlashChip

end SwiftAcu
