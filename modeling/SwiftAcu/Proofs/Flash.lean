/-
What the flash driver does on a chip that programs reliably.

The write loop splits a buffer at page boundaries, so no page program ever wraps
inside its page and the pieces together program the range once, left to right.
That turns the driver into the two operations of `Lib/NorFlash.lean`: a write is
`program` at its address and it reports `SUCC` exactly when the range then holds
the buffer, and an erase is `eraseSector`.
-/
import SwiftAcu.Acu.Flash

namespace SwiftAcu

open NorFlash

namespace FlashOp

/-- The bytes an operation can change: a page program goes round inside its page. -/
def Touches : FlashOp → Nat → Prop
  | .program a n, x => x / 256 = a / 256 ∧ (x % 256 + (256 - a % 256)) % 256 < n
  | .erase a, x => x / 4096 = a / 4096

/-- The sub-sector of `x` is erased by `op`. -/
def Erases (x : Nat) (op : FlashOp) : Prop := ∃ e, op = .erase e ∧ x / 4096 = e / 4096

/-- A page program inside `[lo, hi)` that does not go round. -/
def ProgramsIn (lo hi : Nat) (op : FlashOp) : Prop :=
  ∃ a n, op = .program a n ∧ lo ≤ a ∧ a + n ≤ hi ∧ a % 256 + n ≤ 256

theorem ProgramsIn.mono {lo hi lo' hi' : Nat} {op : FlashOp} (h : op.ProgramsIn lo hi)
    (hlo : lo' ≤ lo) (hhi : hi ≤ hi') : op.ProgramsIn lo' hi' := by
  obtain ⟨a, n, rfl, h₁, h₂, hpage⟩ := h
  exact ⟨a, n, rfl, Nat.le_trans hlo h₁, Nat.le_trans h₂ hhi, hpage⟩

theorem ProgramsIn.not_erases {lo hi x : Nat} {op : FlashOp} (h : op.ProgramsIn lo hi) :
    ¬op.Erases x := by
  rintro ⟨e, rfl, -⟩
  obtain ⟨a, n, hop, -⟩ := h
  exact FlashOp.noConfusion hop

theorem ProgramsIn.touches {lo hi x : Nat} {op : FlashOp} (h : op.ProgramsIn lo hi)
    (hx : op.Touches x) : lo ≤ x ∧ x < hi := by
  obtain ⟨a, n, rfl, hlo, hhi, hpage⟩ := h
  obtain ⟨hsame, hidx⟩ := hx
  have hdiv := Nat.div_add_mod x 256
  have hdiv' := Nat.div_add_mod a 256
  omega

end FlashOp

namespace FlashChip

/-- A page write changes no byte its operation does not touch, whatever fails. -/
theorem b3PageWrite_untouched (c : FlashChip) (addr : Nat) (buff : List UInt8) {x : Nat}
    (h : ¬FlashOp.Touches (.program (addr24 addr) (buff.take 256).length) x) :
    (c.b3PageWrite addr buff).mem x = c.mem x := by
  have hlen : ∀ sent : List UInt8, sent.length = (buff.take 256).length →
      pageProgram c.mem (addr24 addr) sent x = c.mem x := by
    intro sent hsent
    unfold pageProgram
    split
    · next hpage =>
        have hout : ¬(x % 256 + (256 - addr24 addr % 256)) % 256 < sent.length :=
          fun hidx => h ⟨hpage, hsent ▸ hidx⟩
        rw [List.getElem?_eq_none (Nat.not_lt.mp hout)]
    · rfl
  unfold b3PageWrite
  dsimp only
  split
  · exact hlen _ rfl
  · exact hlen _ (by simp [weaken])

theorem addr24_of_lt {addr : Nat} (h : addr < 2 ^ 24) : addr24 addr = addr := Nat.mod_eq_of_lt h

/-- A page program that stays in its page does not wrap. -/
theorem pageProgram_eq (m : Nat → UInt8) {addr : Nat} {buff : List UInt8}
    (h : addr % 256 + buff.length ≤ 256) : pageProgram m addr buff = program m addr buff := by
  funext x
  unfold pageProgram
  by_cases hpage : x / 256 = addr / 256
  · rw [if_pos hpage]
    by_cases hlo : addr ≤ x
    · have hidx : (x % 256 + (256 - addr % 256)) % 256 = x - addr := by omega
      rw [hidx, program, if_pos hlo]
      cases buff[x - addr]? <;> rfl
    · rw [program_outside m (Or.inl (by omega)), List.getElem?_eq_none (by omega)]
  · rw [if_neg hpage, program_outside m (by omega)]

/-- `c'` is `c` after reliable page programs that together send `buff` to `addr`. -/
def Wrote (c : FlashChip) (addr : Nat) (buff : List UInt8) (c' : FlashChip) : Prop :=
  ∃ new, c' = { c with mem := program c.mem addr buff, ops := new ++ c.ops } ∧
    ∀ op ∈ new, op.ProgramsIn addr (addr + buff.length)

theorem Wrote.mem {c c' : FlashChip} {addr : Nat} {buff : List UInt8} (h : Wrote c addr buff c') :
    c'.mem = program c.mem addr buff := by
  obtain ⟨new, rfl, -⟩ := h
  rfl

theorem Wrote.weak {c c' : FlashChip} {addr : Nat} {buff : List UInt8} (h : Wrote c addr buff c') :
    c'.weak = c.weak := by
  obtain ⟨new, rfl, -⟩ := h
  rfl

theorem wrote_nil (c : FlashChip) (addr : Nat) : Wrote c addr [] c :=
  ⟨[], by simp, by simp⟩

/-- Two adjacent writes, one after the other, are one write. -/
theorem Wrote.append {c c₁ c₂ : FlashChip} {addr : Nat} {bs cs : List UInt8}
    (h₁ : Wrote c addr bs c₁) (h₂ : Wrote c₁ (addr + bs.length) cs c₂) :
    Wrote c addr (bs ++ cs) c₂ := by
  obtain ⟨new₁, rfl, hin₁⟩ := h₁
  obtain ⟨new₂, rfl, hin₂⟩ := h₂
  refine ⟨new₂ ++ new₁, by simp [program_append], ?_⟩
  intro op hop
  rw [List.length_append]
  rcases List.mem_append.mp hop with hop | hop
  · exact (hin₂ op hop).mono (by omega) (by omega)
  · exact (hin₁ op hop).mono (by omega) (by omega)

theorem b3PageWrite_wrote {c : FlashChip} (hw : c.weak = []) {addr : Nat} {buff : List UInt8}
    (ha : addr < 2 ^ 24) (h : addr % 256 + buff.length ≤ 256) :
    Wrote c addr buff (c.b3PageWrite addr buff) := by
  have htake : buff.take 256 = buff := List.take_of_length_le (by omega)
  refine ⟨[.program addr buff.length], ?_, ?_⟩
  · simp only [b3PageWrite, hw, htake, addr24_of_lt ha, pageProgram_eq c.mem h, List.tail_nil,
      List.singleton_append]
  · intro op hop
    rw [List.mem_singleton] at hop
    exact ⟨addr, buff.length, hop, Nat.le_refl _, Nat.le_refl _, h⟩

/-- A relation that holds of a page write, and of two adjacent writes if it holds of each. -/
structure PageRule (R : FlashChip → Nat → List UInt8 → FlashChip → Prop) : Prop where
  nil : ∀ c addr, R c addr [] c
  append : ∀ {c c₁ c₂ addr bs cs}, R c addr bs c₁ → R c₁ (addr + bs.length) cs c₂ →
    R c addr (bs ++ cs) c₂
  page : ∀ c {addr buff}, addr < 2 ^ 24 → 0 < buff.length → addr % 256 + buff.length ≤ 256 →
    R c addr buff (c.b3PageWrite addr buff)

section
variable {R : FlashChip → Nat → List UInt8 → FlashChip → Prop}

/-- The front of a buffer is one page write, and the rest follows it. -/
theorem PageRule.cut (hR : PageRule R) {c c' : FlashChip} {addr n : Nat} {buff : List UInt8}
    (hpos : 0 < n) (hpage : addr % 256 + n ≤ 256) (hn : n < buff.length) (haddr : addr < 2 ^ 24)
    (h : R (c.b3PageWrite addr (buff.take n)) (addr + n) (buff.drop n) c') : R c addr buff c' := by
  have hlen : (buff.take n).length = n := List.length_take_of_le (Nat.le_of_lt hn)
  have hfront : R c addr (buff.take n) (c.b3PageWrite addr (buff.take n)) :=
    hR.page c haddr (by omega) (by omega)
  have hrest : R (c.b3PageWrite addr (buff.take n)) (addr + (buff.take n).length)
      (buff.drop n) c' := by rwa [hlen]
  have hwhole := hR.append hfront hrest
  rwa [List.take_append_drop] at hwhole

/--
The write loop, from an address that starts a page or with a rest that fits in its
page.  Induction on the fuel; one round sends one whole page.
-/
theorem PageRule.writePages (hR : PageRule R) :
    ∀ (fuel : Nat) (c : FlashChip) (addr : Nat) (buff : List UInt8),
      buff.length ≤ fuel → addr + buff.length ≤ 2 ^ 24 →
      addr % 256 = 0 ∨ addr % 256 + buff.length ≤ 256 →
      R c addr buff (writePages fuel c addr buff) := by
  intro fuel
  induction fuel with
  | zero =>
      intro c addr buff hfuel _ _
      rw [List.length_eq_zero_iff.mp (Nat.le_zero.mp hfuel)]
      exact hR.nil c addr
  | succ fuel ih =>
      intro c addr buff hfuel hlim hpage
      unfold FlashChip.writePages
      by_cases hlong : spiFlashPageSize < buff.length
      · rw [if_pos hlong]
        rw [spiFlashPageSize] at hlong ⊢
        have hrest : (buff.drop 256).length = buff.length - 256 := List.length_drop
        have hnext : u32 (addr + 256) = addr + 256 := u32_of_lt (by omega)
        rw [hnext]
        exact hR.cut (by decide) (by omega) hlong (by omega)
          (ih _ (addr + 256) (buff.drop 256) (by omega) (by omega) (Or.inl (by omega)))
      · rw [if_neg hlong]
        rw [spiFlashPageSize] at hlong
        by_cases hpos : 0 < buff.length
        · rw [if_pos hpos]
          exact hR.page c (by omega) hpos (by omega)
        · rw [if_neg hpos, List.length_eq_zero_iff.mp (Nat.eq_zero_of_not_pos hpos)]
          exact hR.nil c addr

/-- **What holds of the page writes holds of a write**, whatever page it begins in. -/
theorem PageRule.writeBuff (hR : PageRule R) (c : FlashChip) {addr : Nat} {buff : List UInt8}
    (hlim : addr + buff.length ≤ 2 ^ 24) : R c addr buff (c.writeBuff addr buff) := by
  dsimp only [FlashChip.writeBuff]
  by_cases hsplit : addr % 256 ≠ 0 ∧ 256 - addr % 256 < buff.length
  · rw [if_pos hsplit]
    obtain ⟨hmid, hlong⟩ := hsplit
    set first := 256 - addr % 256 with hfirst
    have hrest : (buff.drop first).length = buff.length - first := List.length_drop
    have hnext : u32 (addr + first) = addr + first := u32_of_lt (by omega)
    rw [hnext]
    exact hR.cut (by omega) (by omega) hlong (by omega)
      (hR.writePages buff.length _ (addr + first) (buff.drop first) (by omega) (by omega)
        (Or.inl (by omega)))
  · rw [if_neg hsplit]
    refine hR.writePages buff.length c addr buff (Nat.le_refl _) hlim ?_
    by_contra hc
    push Not at hc
    exact hsplit ⟨hc.1, by omega⟩

end

theorem pageRule_wrote : PageRule fun c addr buff c' => c.weak = [] → Wrote c addr buff c' where
  nil := fun c addr _ => wrote_nil c addr
  append := fun h₁ h₂ hw => (h₁ hw).append (h₂ ((h₁ hw).weak.trans hw))
  page := fun _ _ _ ha _ hpage hw => b3PageWrite_wrote hw ha hpage

/-- **The driver programs exactly the range it was given.** -/
theorem writeBuff_wrote {c : FlashChip} (hw : c.weak = []) {addr : Nat} {buff : List UInt8}
    (hlim : addr + buff.length ≤ 2 ^ 24) : Wrote c addr buff (c.writeBuff addr buff) :=
  pageRule_wrote.writeBuff c hlim hw

/-! ### Reading back -/

theorem b3ReadDataBuff_eq (c : FlashChip) {addr len : Nat} (h : addr + len ≤ 2 ^ 24) :
    c.b3ReadDataBuff addr len = readRange c.mem addr len := by
  unfold b3ReadDataBuff readRange
  refine List.map_congr_left fun i hi => ?_
  have hi' : i < len := List.mem_range.mp hi
  rw [addr24_of_lt (by omega)]

/-- The verify loop accepts exactly a flash that holds the buffer. -/
theorem checkPages_iff (c : FlashChip) :
    ∀ (fuel : Nat) {addr : Nat} {src : List UInt8}, src.length ≤ fuel →
      addr + src.length ≤ 2 ^ 24 →
      (checkPages fuel c addr src = .SUCC ↔ Stores c.mem addr src) := by
  intro fuel
  induction fuel with
  | zero =>
      intro addr src hfuel _
      have hnil : src = [] := List.length_eq_zero_iff.mp (Nat.le_zero.mp hfuel)
      subst hnil
      simp [checkPages, Stores]
  | succ fuel ih =>
      intro addr src hfuel hlim
      unfold checkPages
      by_cases hz : src.length = 0
      · have hnil : src = [] := List.length_eq_zero_iff.mp hz
        subst hnil
        simp [Stores]
      rw [if_neg hz, spiFlashPageSize]
      have hlen : (src.take 256).length + (src.drop 256).length = src.length := by
        rw [List.length_take, List.length_drop]; omega
      have hsplit : Stores c.mem addr src ↔
          Stores c.mem addr (src.take 256) ∧
            Stores c.mem (addr + (src.take 256).length) (src.drop 256) := by
        rw [← stores_append, List.take_append_drop]
      have hread : c.b3ReadDataBuff addr (src.take 256).length = src.take 256 ↔
          Stores c.mem addr (src.take 256) := by
        rw [b3ReadDataBuff_eq c (by omega), readRange_eq_iff]
      by_cases hfst : Stores c.mem addr (src.take 256)
      · rw [if_neg (not_not.mpr (hread.mpr hfst)), hsplit, and_iff_right hfst]
        by_cases hlong : 256 ≤ src.length
        · have hl : (src.take 256).length = 256 := by rw [List.length_take]; omega
          rw [hl, u32_of_lt (by omega)]
          exact ih (by rw [List.length_drop]; omega) (by rw [List.length_drop]; omega)
        · have hnil : src.drop 256 = [] := List.drop_eq_nil_of_le (by omega)
          rw [hnil]
          refine iff_of_true ?_ (by intro i hi; simp at hi)
          cases fuel <;> simp [checkPages]
      · rw [if_pos (fun h => hfst (hread.mp h)), hsplit]
        exact iff_of_false (by simp) fun h => hfst h.1

/-! ### The driver's write and erase -/

theorem b3SubSectorErase_mem (c : FlashChip) {addr : Nat} (h : addr < 2 ^ 24) :
    (c.b3SubSectorErase addr).mem = eraseSector 4096 c.mem addr := by
  rw [b3SubSectorErase, addr24_of_lt h]

theorem b3SubSectorErase_ops (c : FlashChip) {addr : Nat} (h : addr < 2 ^ 24) :
    (c.b3SubSectorErase addr).ops = .erase addr :: c.ops := by
  rw [b3SubSectorErase, addr24_of_lt h]

theorem b3WriteDataBuff_wrote {c : FlashChip} (hw : c.weak = []) (addr : Nat) (buff : List UInt8)
    (hlim : addr + buff.length ≤ 2 ^ 24) :
    Wrote c addr buff (c.b3WriteDataBuff addr buff).2 := writeBuff_wrote hw hlim

/-- A write reports `SUCC` exactly when the flash then holds the buffer. -/
theorem b3WriteDataBuff_succ_iff {c : FlashChip} (hw : c.weak = []) (addr : Nat)
    (buff : List UInt8) (hlim : addr + buff.length ≤ 2 ^ 24) :
    (c.b3WriteDataBuff addr buff).1 = .SUCC ↔ Stores (program c.mem addr buff) addr buff := by
  rw [← (writeBuff_wrote hw hlim).mem]
  exact checkPages_iff _ buff.length (Nat.le_refl _) hlim

/-- **A blank range always takes the buffer.** -/
theorem b3WriteDataBuff_blank {c : FlashChip} (hw : c.weak = []) (addr : Nat) (buff : List UInt8)
    (hlim : addr + buff.length ≤ 2 ^ 24) (hb : Blank c.mem addr (addr + buff.length)) :
    (c.b3WriteDataBuff addr buff).1 = .SUCC :=
  (b3WriteDataBuff_succ_iff hw addr buff hlim).mpr (stores_program_of_blank hb)

end FlashChip

end SwiftAcu
