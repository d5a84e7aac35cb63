/-
What one save does when it finds room.

A save has two halves, and each is given one specification here.  The data half
ends with the record stored at the address it landed on and the rest of that
sub-sector blank; the info half ends with the slot stored.  Both say which erases
were issued and that nothing else moved, which is all the invariants need: no later
proof unfolds `writeData` or `writeInfo`.
-/
import SwiftAcu.Proofs.Log.Record

namespace SwiftAcu

open NorFlash

namespace AppLog

/-! ### Room for a record -/

/-- `c₁` is `c` with `sz` bytes from `a` made blank, to the end of their last sub-sector. -/
structure Reserved (c : FlashChip) (a sz : Nat) (c₁ : FlashChip) (new : List FlashOp) : Prop where
  weak : c₁.weak = c.weak
  id : c₁.id = c.id
  blank : Blank c₁.mem a (sectorEnd (a + sz))
  frame : ∀ x, x < a ∨ sectorEnd (a + sz) ≤ x → c₁.mem x = c.mem x
  ops : c₁.ops = new ++ c.ops
  erases : ∀ op ∈ new, ∃ e, op = .erase e ∧ e / 4096 = (a + sz) / 4096
  crossing : a / 4096 ≠ (a + sz) / 4096 → .erase (a + sz) ∈ new
  kept : ∀ x, (∀ op ∈ new, ¬op.Erases x) → c₁.mem x = c.mem x

/-- The blank test of `reserve` on a range inside the chip. -/
theorem all_blank_iff (c : FlashChip) {a sz : Nat} (h : a + sz ≤ 2 ^ 24) :
    (c.b3ReadDataBuff a sz).all (· == 0xFF) = true ↔ Blank c.mem a (a + sz) := by
  rw [FlashChip.b3ReadDataBuff_eq c h, List.all_eq_true, ← readRange_all_erased_iff]
  simp

/-- Room ahead: the rest of the sub-sector is blank, so the save stays where it is. -/
theorem reserve_ahead (c : FlashChip) (a sz : Nat) (hsz : 26 ≤ sz ∧ sz ≤ 255)
    (hlim : a + sz < 2 ^ 24) (hb : Blank c.mem a (sectorEnd a)) :
    ∃ c₁ new, reserve c a sz = (a, c₁) ∧ Reserved c a sz c₁ new := by
  have hu : u32 (a + sz) = a + sz := u32_of_lt (by omega)
  have hmem := FlashChip.b3SubSectorErase_mem c hlim
  unfold reserve
  rw [hu]
  by_cases hcross : a / 4096 = (a + sz) / 4096
  · have hnc : ¬subSector (a + sz) ≠ subSector a := by
      rw [subSector_ne_iff (by omega) (by omega)]
      exact not_not.mpr hcross.symm
    have hend : sectorEnd (a + sz) = sectorEnd a := by rw [sectorEnd, sectorEnd, hcross]
    have hin : a + sz ≤ sectorEnd a := by rw [sectorEnd]; omega
    have hall := (all_blank_iff c (Nat.le_of_lt hlim)).mpr (hb.mono (Nat.le_refl a) hin)
    refine ⟨c, [], by simp only [if_neg hnc, if_pos hall], ?_⟩
    exact
      { weak := rfl
        id := rfl
        blank := by rw [hend]; exact hb
        frame := fun x _ => rfl
        ops := rfl
        erases := by simp
        crossing := fun h => absurd hcross h
        kept := fun x _ => rfl }
  · have hc : subSector (a + sz) ≠ subSector a :=
      (subSector_ne_iff (by omega) (by omega)).mpr (Ne.symm hcross)
    have hsec : sectorEnd a = (a + sz) / 4096 * 4096 := by rw [sectorEnd]; omega
    -- The sub-sector the record runs into is blank because it has just been erased.
    have hblank : Blank (c.b3SubSectorErase (a + sz)).mem a (sectorEnd (a + sz)) := by
      intro x hlo hhi
      rw [hmem]
      by_cases hx : x < sectorEnd a
      · exact (hb.eraseSector 4096 (a + sz)) x hlo hx
      · exact blank_eraseSector (by decide) c.mem (a + sz) x (by omega) hhi
    have hall := (all_blank_iff (c.b3SubSectorErase (a + sz)) (Nat.le_of_lt hlim)).mpr
      (hblank.mono (Nat.le_refl a) (by rw [sectorEnd]; omega))
    refine ⟨c.b3SubSectorErase (a + sz), [.erase (a + sz)], by simp only [if_pos hc, if_pos hall],
      ?_⟩
    exact
      { weak := rfl
        id := rfl
        blank := hblank
        frame := by
          intro x hx
          rw [hmem]
          rcases hx with hx | hx
          · exact erase_below c.mem (by omega)
          · exact erase_above (by decide) c.mem hx
        ops := FlashChip.b3SubSectorErase_ops c hlim
        erases := by
          intro op hop
          exact ⟨a + sz, List.mem_singleton.mp hop, rfl⟩
        crossing := fun _ => List.mem_singleton.mpr rfl
        kept := by
          intro x hx
          rw [hmem]
          refine erase_outside c.mem fun hc => ?_
          exact hx (.erase (a + sz)) (List.mem_singleton.mpr rfl) ⟨a + sz, rfl, hc⟩ }

/-- No room at the start of a sub-sector: the save moves one sub-sector up and erases it. -/
theorem reserve_bump (c : FlashChip) (a sz : Nat) (hsz : 26 ≤ sz ∧ sz ≤ 255)
    (halign : a % 4096 = 0) (hlim : a + 8192 ≤ 2 ^ 24) (hhead : c.mem a ≠ 0xFF) :
    ∃ c₁, reserve c a sz = (a + 4096, c₁) ∧
      Reserved c (a + 4096) sz c₁ [.erase (a + 4096)] := by
  have hu : u32 (a + sz) = a + sz := u32_of_lt (by omega)
  have hu' : u32 (a + 4096) = a + 4096 := u32_of_lt (by omega)
  have hmem : (c.b3SubSectorErase (a + 4096)).mem = eraseSector 4096 c.mem (a + 4096) :=
    FlashChip.b3SubSectorErase_mem c (by omega)
  have hnc : ¬subSector (a + sz) ≠ subSector a := by
    rw [subSector_ne_iff (by omega) (by omega)]
    omega
  have hall : ¬(c.b3ReadDataBuff a sz).all (· == 0xFF) = true := by
    rw [all_blank_iff c (by omega)]
    exact fun hb => hhead (hb a (Nat.le_refl a) (by omega))
  have hlo : (a + 4096) / 4096 * 4096 = a + 4096 := by omega
  have hsame : (a + 4096) / 4096 = (a + 4096 + sz) / 4096 := by omega
  have hhi : sectorEnd (a + 4096 + sz) = ((a + 4096) / 4096 + 1) * 4096 := by
    rw [hsame, sectorEnd]
  have hres : reserve c a sz = (a + 4096, c.b3SubSectorErase (a + 4096)) := by
    unfold reserve
    rw [hu]
    simp only [if_neg hnc, if_neg hall, spiFlashSectorSize, hu']
  refine ⟨c.b3SubSectorErase (a + 4096), hres, ?_⟩
  exact
    { weak := rfl
      id := rfl
      blank := by
        have hb : Blank (eraseSector 4096 c.mem (a + 4096)) _ _ :=
          blank_eraseSector (by decide) c.mem (a + 4096)
        rwa [hlo, ← hhi, ← hmem] at hb
      frame := by
        intro x hx
        rw [hmem]
        rw [hhi] at hx
        rcases hx with hx | hx
        · exact erase_below c.mem (hlo.symm ▸ hx)
        · exact erase_above (by decide) c.mem hx
      ops := FlashChip.b3SubSectorErase_ops c (by omega)
      erases := by
        intro op hop
        exact ⟨a + 4096, List.mem_singleton.mp hop, hsame⟩
      crossing := fun h => absurd hsame h
      kept := by
        intro x hx
        rw [hmem]
        refine erase_outside c.mem fun hc => ?_
        exact hx (.erase (a + 4096)) (List.mem_singleton.mpr rfl) ⟨a + 4096, rfl, hc⟩ }

/-! ### The data half -/

/-- `c₂` is `c` after the record `bs` was appended at `a` by the operations `new`. -/
structure Appended (c : FlashChip) (a : Nat) (bs : List UInt8) (c₂ : FlashChip)
    (new : List FlashOp) : Prop where
  weak : c₂.weak = c.weak
  id : c₂.id = c.id
  stores : Stores c₂.mem a bs
  blank : Blank c₂.mem (a + bs.length) (sectorEnd (a + bs.length))
  frame : ∀ x, x < a ∨ sectorEnd (a + bs.length) ≤ x → c₂.mem x = c.mem x
  ops : c₂.ops = new ++ c.ops
  within : ∀ op ∈ new, op.ProgramsIn a (a + bs.length) ∨
    ∃ e, op = .erase e ∧ e / 4096 = (a + bs.length) / 4096
  crossing : a / 4096 ≠ (a + bs.length) / 4096 → .erase (a + bs.length) ∈ new
  kept : ∀ x, x < a ∨ a + bs.length ≤ x → (∀ op ∈ new, ¬op.Erases x) → c₂.mem x = c.mem x
  /-- The range was blank when it was programmed. -/
  wasBlank : ∀ x, a ≤ x → x < a + bs.length → (∀ op ∈ new, ¬op.Erases x) → c.mem x = 0xFF

theorem le_sectorEnd (x : Nat) : x ≤ sectorEnd x := by rw [sectorEnd]; omega

/-- Programming reserved room appends the record. -/
theorem Reserved.append {c c₁ c₂ : FlashChip} {a : Nat} {bs : List UInt8} {new : List FlashOp}
    (h : Reserved c a bs.length c₁ new) (hw : FlashChip.Wrote c₁ a bs c₂) :
    ∃ progs, Appended c a bs c₂ (progs ++ new) := by
  have hmem := hw.mem
  have hend := le_sectorEnd (a + bs.length)
  obtain ⟨progs, rfl, hprogs⟩ := hw
  have hno : ∀ {x}, (∀ op ∈ progs ++ new, ¬op.Erases x) → ∀ op ∈ new, ¬op.Erases x :=
    fun hx op hop => hx op (List.mem_append_right progs hop)
  refine ⟨progs, ?_⟩
  exact
    { weak := h.weak
      id := h.id
      stores := stores_program_of_blank (h.blank.mono (Nat.le_refl a) hend)
      blank :=
        (h.blank.mono (Nat.le_add_right a _) (Nat.le_refl _)).program (Or.inr (Nat.le_refl _))
      frame := by
        intro x hx
        dsimp only
        rw [program_outside c₁.mem (by omega)]
        exact h.frame x hx
      ops := by simp [h.ops]
      within := by
        intro op hop
        rcases List.mem_append.mp hop with hop | hop
        · exact Or.inl (hprogs op hop)
        · exact Or.inr (h.erases op hop)
      crossing := fun hc => List.mem_append_right progs (h.crossing hc)
      kept := by
        intro x hx hno'
        dsimp only
        rw [program_outside c₁.mem hx]
        exact h.kept x (hno hno')
      wasBlank := by
        intro x hlo hhi hno'
        rw [← h.kept x (hno hno')]
        exact h.blank x hlo (Nat.lt_of_lt_of_le hhi hend) }

/-! ### The info half -/

/-- `c₂` is `c` after the slot `bs` was written at `s` by the operations `new`. -/
structure SlotWritten (c : FlashChip) (s : Nat) (bs : List UInt8) (c₂ : FlashChip)
    (new : List FlashOp) : Prop where
  weak : c₂.weak = c.weak
  id : c₂.id = c.id
  stores : Stores c₂.mem s bs
  ops : c₂.ops = new ++ c.ops
  within : ∀ op ∈ new, op.ProgramsIn s (s + bs.length) ∨
    op = .erase (s + 32) ∧ s / 4096 ≠ (s + 32) / 4096
  crossing : s / 4096 ≠ (s + 32) / 4096 → .erase (s + 32) ∈ new
  kept : ∀ x, x < s ∨ s + bs.length ≤ x → (∀ op ∈ new, ¬op.Erases x) → c₂.mem x = c.mem x
  erased : ∀ x, s + bs.length ≤ x → (∃ op ∈ new, op.Erases x) → c₂.mem x = 0xFF

section
variable {c c₂ : FlashChip} {s : Nat} {bs : List UInt8}

/-- Where the next slot begins no sub-sector, writing the slot is all there is. -/
theorem slotWritten_of_wrote (hb : Blank c.mem s (s + bs.length))
    (hsame : s / 4096 = (s + 32) / 4096) (hwrote : FlashChip.Wrote c s bs c₂) :
    ∃ new, SlotWritten c s bs c₂ new := by
  obtain ⟨progs, rfl, hprogs⟩ := hwrote
  refine ⟨progs, ?_⟩
  exact
    { weak := rfl
      id := rfl
      stores := stores_program_of_blank hb
      ops := rfl
      within := fun op hop => Or.inl (hprogs op hop)
      crossing := fun h => absurd hsame h
      kept := fun x hx _ => program_outside c.mem hx
      erased := by
        rintro x - ⟨op, hop, hx⟩
        exact absurd hx (hprogs op hop).not_erases }

/-- Where it does, that sub-sector has been erased before. -/
theorem slotWritten_of_erased (hlim : s + 32 < 2 ^ 24) (hb : Blank c.mem s (s + bs.length))
    (hcross : s / 4096 ≠ (s + 32) / 4096)
    (hwrote : FlashChip.Wrote (c.b3SubSectorErase (s + 32)) s bs c₂) :
    ∃ new, SlotWritten c s bs c₂ new := by
  have hmem : (c.b3SubSectorErase (s + 32)).mem = eraseSector 4096 c.mem (s + 32) :=
    FlashChip.b3SubSectorErase_mem c hlim
  have hops : (c.b3SubSectorErase (s + 32)).ops = .erase (s + 32) :: c.ops :=
    FlashChip.b3SubSectorErase_ops c hlim
  obtain ⟨progs, rfl, hprogs⟩ := hwrote
  have herase : .erase (s + 32) ∈ progs ++ [.erase (s + 32)] :=
    List.mem_append_right progs (List.mem_singleton.mpr rfl)
  refine ⟨progs ++ [.erase (s + 32)], ?_⟩
  exact
    { weak := rfl
      id := rfl
      stores := by
        refine stores_program_of_blank ?_
        rw [hmem]
        exact hb.eraseSector 4096 _
      ops := by simp [hops]
      within := by
        intro op hop
        rcases List.mem_append.mp hop with hop | hop
        · exact Or.inl (hprogs op hop)
        · exact Or.inr ⟨List.mem_singleton.mp hop, hcross⟩
      crossing := fun _ => herase
      kept := by
        intro x hx hno
        dsimp only
        rw [program_outside _ hx, hmem]
        exact erase_outside c.mem fun hc => hno (.erase (s + 32)) herase ⟨s + 32, rfl, hc⟩
      erased := by
        rintro x hlo ⟨op, hop, e, rfl, hxe⟩
        rcases List.mem_append.mp hop with hop | hop
        · exact absurd ⟨e, rfl, hxe⟩ (hprogs _ hop).not_erases
        · have he : e = s + 32 := by simpa using hop
          dsimp only
          rw [program_outside _ (Or.inr hlo), hmem, ← he]
          exact erase_inside c.mem hxe }

end

/-- A blank slot is written at the first attempt. -/
theorem writeInfo_blank (info : LogInfo) {c : FlashChip} (hw : c.weak = [])
    (hlim : info.logSysAddr + 64 ≤ 2 ^ 24) (halign : info.logSysAddr % 32 = 0)
    (hb : Blank c.mem info.logSysAddr (info.logSysAddr + 30)) :
    ∃ c₂ new, writeInfo info c = (.SUCC, info, c₂) ∧
      SlotWritten c info.logSysAddr (infoRecord info) c₂ new := by
  set s := info.logSysAddr with hs
  have hu : u32 (s + 32) = s + 32 := u32_of_lt (by omega)
  have hlen : (infoRecord info).length = 30 := length_infoRecord info
  have hblank : Blank c.mem s (s + (infoRecord info).length) := by rwa [hlen]
  -- Whether or not the next sub-sector is erased first, the slot is blank and takes the record.
  have hmain : ∀ c₁ : FlashChip, c₁.weak = [] → Blank c₁.mem s (s + 30) →
      ∃ c₂, c₁.b3WriteDataBuff s (infoRecord info) = (.SUCC, c₂) ∧
        FlashChip.Wrote c₁ s (infoRecord info) c₂ := by
    intro c₁ hw₁ hb₁
    have hlim₁ : s + (infoRecord info).length ≤ 2 ^ 24 := by omega
    refine ⟨(c₁.b3WriteDataBuff s (infoRecord info)).2, ?_,
      FlashChip.b3WriteDataBuff_wrote hw₁ s _ hlim₁⟩
    exact Prod.ext (FlashChip.b3WriteDataBuff_blank hw₁ s _ hlim₁ (by rwa [hlen])) rfl
  have hself : { info with logSysAddr := s } = info := by rw [hs]
  unfold writeInfo
  simp only [← hs, logSysRecordSize, hu]
  by_cases hcross : s / 4096 = (s + 32) / 4096
  · have hnc : ¬subSector (s + 32) ≠ subSector s := by
      rw [subSector_ne_iff (by omega) (by omega)]
      exact not_not.mpr hcross.symm
    obtain ⟨c₂, hc₂, hwrote⟩ := hmain c hw hb
    obtain ⟨new, hslot⟩ := slotWritten_of_wrote hblank hcross hwrote
    rw [if_neg hnc, hc₂]
    exact ⟨c₂, new, by rw [hself], hslot⟩
  · have hc : subSector (s + 32) ≠ subSector s :=
      (subSector_ne_iff (by omega) (by omega)).mpr (Ne.symm hcross)
    have hb₁ : Blank (c.b3SubSectorErase (s + 32)).mem s (s + 30) := by
      rw [FlashChip.b3SubSectorErase_mem c (by omega)]
      exact hb.eraseSector 4096 _
    obtain ⟨c₂, hc₂, hwrote⟩ := hmain (c.b3SubSectorErase (s + 32)) hw hb₁
    obtain ⟨new, hslot⟩ := slotWritten_of_erased (by omega) hblank hcross hwrote
    rw [if_pos hc, hc₂]
    exact ⟨c₂, new, by rw [hself], hslot⟩

end AppLog

end SwiftAcu
