/-
One save, from the state the invariant describes.

With fewer than 32000 saves behind it a save returns `SUCC`, puts its record at
`landing` and its slot behind the newest slot, and leaves a state of which the
invariant holds again.
-/
import SwiftAcu.Proofs.Log.Invariant

namespace SwiftAcu.AppLog

open NorFlash

section
variable {r : LogRegion} {info : LogInfo} {c : FlashChip}

/-! ### The data half -/

theorem nextDataAddr_eq (hf : r.Fits) (h : LogInv r info c.mem) :
    nextDataAddr r info =
      if info.logTotalNum ≠ 0 ∧ r.dataEnd ≤ nextAddr info then r.dataBegin else nextAddr info := by
  have hroom := hf.room
  have hhigh := h.high
  unfold nextDataAddr
  by_cases hz : info.logTotalNum = 0
  · rw [if_pos hz, if_neg (fun hc => hc.1 hz), nextAddr_empty h hz]
  · have hsize := h.size hz
    have hu : u32 (info.currlogAddr + info.currlogSize) = nextAddr info :=
      u32_of_lt (by omega)
    rw [if_neg hz, hu]
    simp only [ne_eq, hz, not_false_eq_true, true_and]

/-- Reserved room takes the record. -/
theorem Reserved.writeData {c₁ : FlashChip} {a : Nat} {new : List FlashOp} (hw : c.weak = [])
    {now : SysDateTime} {buff : List UInt8} (hlim : a + (buff.length + 26) ≤ 2 ^ 24)
    (hres : reserve c (nextDataAddr r info) (buff.length + 26) = (a, c₁))
    (h : Reserved c a (buff.length + 26) c₁ new) :
    ∃ c₂ progs, AppLog.writeData r info c now buff = (.SUCC, a, c₂) ∧
      Appended c a (dataRecord r info now buff) c₂ (progs ++ new) := by
  have hlen : (dataRecord r info now buff).length = buff.length + 26 := length_dataRecord now buff
  have hw₁ : c₁.weak = [] := h.weak.trans hw
  have hblank : Blank c₁.mem a (a + (dataRecord r info now buff).length) := by
    rw [hlen]
    exact h.blank.mono (Nat.le_refl a) (le_sectorEnd _)
  have hsucc := FlashChip.b3WriteDataBuff_blank hw₁ a _ (by rw [hlen]; exact hlim) hblank
  have hwrote := FlashChip.b3WriteDataBuff_wrote hw₁ a (dataRecord r info now buff)
    (by rw [hlen]; exact hlim)
  rw [← hlen] at h
  obtain ⟨progs, happ⟩ := h.append hwrote
  refine ⟨_, progs, ?_, happ⟩
  unfold AppLog.writeData
  simp only [hres, nextIndex_preload]
  rw [← dataRecord, hsucc]

/-- **Where a save finds room.**  Only a record put one sub-sector up erases its own sub-sector. -/
theorem reserve_spec (hf : r.Fits) (h : LogInv r info c.mem) (hn : info.logTotalNum < 32000)
    (sz : Nat) (hsz : 26 ≤ sz ∧ sz ≤ 255) :
    ∃ c₁ new, reserve c (nextDataAddr r info) sz = (landing r info, c₁) ∧
      Reserved c (landing r info) sz c₁ new ∧
      (info.logTotalNum ≠ 0 → r.dataEnd ≤ nextAddr info → .erase (landing r info) ∈ new) := by
  have hland := landing_bounds hf h
  have hnext := nextDataAddr_eq hf h
  obtain ⟨hal, hie, hdb, hde, hroom⟩ := hf
  by_cases hwrap : info.logTotalNum ≠ 0 ∧ r.dataEnd ≤ nextAddr info
  · rw [if_pos hwrap] at hnext
    have hto : landing r info = r.dataBegin + 4096 := by rw [landing, if_pos hwrap]
    have hhead : c.mem r.dataBegin ≠ 0xFF := by
      rw [h.head hwrap.1 hn]
      decide
    obtain ⟨c₁, hres, hreserved⟩ :=
      reserve_bump c r.dataBegin sz hsz (by omega) (by omega) hhead
    rw [hnext, hto]
    exact ⟨c₁, _, hres, hreserved, fun _ _ => List.mem_singleton.mpr rfl⟩
  · rw [if_neg hwrap] at hnext
    have hto : landing r info = nextAddr info := by rw [landing, if_neg hwrap]
    obtain ⟨c₁, new, hres, hreserved⟩ := reserve_ahead c (nextAddr info) sz hsz (by omega) h.blank
    rw [hnext, hto]
    exact ⟨c₁, new, hres, hreserved, fun hz hge => absurd ⟨hz, hge⟩ hwrap⟩

/-- **The data half of a save.** -/
theorem writeData_spec (hf : r.Fits) (hw : c.weak = []) (h : LogInv r info c.mem)
    (hn : info.logTotalNum < 32000) (now : SysDateTime) {buff : List UInt8}
    (hlen : buff.length ≤ 229) :
    ∃ c₁ new, AppLog.writeData r info c now buff = (.SUCC, landing r info, c₁) ∧
      Appended c (landing r info) (dataRecord r info now buff) c₁ new ∧
      (info.logTotalNum ≠ 0 → r.dataEnd ≤ nextAddr info → .erase (landing r info) ∈ new) := by
  have hland := landing_bounds hf h
  have hend := hf.dataEnd
  have hroom := hf.room
  obtain ⟨c₁, new, hres, hreserved, hbump⟩ :=
    reserve_spec hf h hn (buff.length + 26) (by omega)
  obtain ⟨c₂, progs, hsave, happ⟩ := hreserved.writeData hw (by omega) hres
  exact ⟨c₂, _, hsave, happ, fun hz hge => List.mem_append_right progs (hbump hz hge)⟩

/-! ### Both halves -/

/-- A save that returned `SUCC`, with the chip after either half and what each half did. -/
structure SaveTrace (r : LogRegion) (info : LogInfo) (c : FlashChip) (now : SysDateTime)
    (buff : List UInt8) (c₁ c₂ : FlashChip) (new₁ new₂ : List FlashOp) : Prop where
  data : writeData r info c now buff = (.SUCC, landing r info, c₁)
  appended : Appended c (landing r info) (dataRecord r info now buff) c₁ new₁
  bumped : info.logTotalNum ≠ 0 → r.dataEnd ≤ nextAddr info → .erase (landing r info) ∈ new₁
  ring : writeInfo (savedInfo r info buff) c₁ = (.SUCC, savedInfo r info buff, c₂)
  slot : SlotWritten c₁ (slotAddr r info.logTotalNum) (infoRecord (savedInfo r info buff)) c₂ new₂

/-- The data half changes nothing below its record, so the slot is still blank. -/
theorem Appended.slot_blank (hf : r.Fits) (h : LogInv r info c.mem) (hn : info.logTotalNum < 32000)
    {c₁ : FlashChip} {bs : List UInt8} {new : List FlashOp}
    (happ : Appended c (landing r info) bs c₁ new) :
    Blank c₁.mem (slotAddr r info.logTotalNum) (slotAddr r info.logTotalNum + 30) := by
  have hland := landing_bounds hf h
  obtain ⟨hal, hie, hdb, hde, hroom⟩ := hf
  have hslot : slotAddr r info.logTotalNum + 32 ≤ r.infoEnd := by
    rw [slotAddr]
    omega
  refine (h.ahead.mono (Nat.le_refl _) (by omega)).congr fun x _ hhi => ?_
  exact happ.frame x (Or.inl (by omega))

/-- **A log with room takes any record of at most 255 bytes.** -/
theorem save_trace (hf : r.Fits) (hw : c.weak = []) (h : LogInv r info c.mem)
    (hn : info.logTotalNum < 32000) (now : SysDateTime) {buff : List UInt8}
    (hlen : buff.length ≤ 229) :
    ∃ c₁ c₂ new₁ new₂, SaveTrace r info c now buff c₁ c₂ new₁ new₂ := by
  obtain ⟨c₁, new₁, hdata, happ, hbump⟩ := writeData_spec hf hw h hn now hlen
  have hsys := savedInfo_sys hf h hn buff
  have hblank := happ.slot_blank hf h hn
  obtain ⟨hal, hie, hdb, hde, hroom⟩ := hf
  obtain ⟨c₂, new₂, hinfo, hwritten⟩ := writeInfo_blank (savedInfo r info buff)
    (happ.weak.trans hw) (by rw [hsys, slotAddr]; omega) (by rw [hsys, slotAddr]; omega)
    (by rwa [hsys])
  rw [hsys] at hwritten
  exact ⟨c₁, c₂, new₁, new₂, hdata, happ, hbump, hinfo, hwritten⟩

variable {now : SysDateTime} {buff : List UInt8} {c₁ c₂ : FlashChip} {new₁ new₂ : List FlashOp}

theorem SaveTrace.save2Flash (h : SaveTrace r info c now buff c₁ c₂ new₁ new₂) :
    save2Flash r commLink info c now buff = (.SUCC, savedInfo r info buff, c₂) := by
  rw [AppLog.save2Flash, if_neg (by decide), h.data]
  exact h.ring

/-- Both halves, newest first. -/
theorem SaveTrace.ops (h : SaveTrace r info c now buff c₁ c₂ new₁ new₂) :
    c₂.ops = (new₂ ++ new₁) ++ c.ops := by
  rw [h.slot.ops, h.appended.ops, List.append_assoc]

theorem SaveTrace.weak (h : SaveTrace r info c now buff c₁ c₂ new₁ new₂) : c₂.weak = c.weak :=
  h.slot.weak.trans h.appended.weak

theorem SaveTrace.id (h : SaveTrace r info c now buff c₁ c₂ new₁ new₂) : c₂.id = c.id :=
  h.slot.id.trans h.appended.id

/-- The info half erases one sub-sector at most, the one after the slot. -/
theorem SlotWritten.erases {s x : Nat} {bs : List UInt8} (h : SlotWritten c₁ s bs c₂ new₂)
    (hx : ∃ op ∈ new₂, op.Erases x) : x / 4096 = (s + 32) / 4096 ∧ s / 4096 ≠ (s + 32) / 4096 := by
  obtain ⟨op, hop, he⟩ := hx
  rcases h.within op hop with hprog | ⟨rfl, hcross⟩
  · exact absurd he hprog.not_erases
  · obtain ⟨e, heq, hxe⟩ := he
    refine ⟨?_, hcross⟩
    rw [FlashOp.erase.inj heq]
    exact hxe

/-- Outside the slot and the sub-sector after it the info half changes nothing. -/
theorem SlotWritten.frame {s x : Nat} {bs : List UInt8} (h : SlotWritten c₁ s bs c₂ new₂)
    (hx : x < s ∨ s + bs.length ≤ x)
    (hsec : s / 4096 = (s + 32) / 4096 ∨ x / 4096 ≠ (s + 32) / 4096) : c₂.mem x = c₁.mem x := by
  refine h.kept x hx fun op hop he => ?_
  have := h.erases ⟨op, hop, he⟩
  omega

/-- What was blank behind the slot is blank after it. -/
theorem SlotWritten.blank {s a b : Nat} {bs : List UInt8} (h : SlotWritten c₁ s bs c₂ new₂)
    (hb : Blank c₁.mem a b) (hs : s + bs.length ≤ a) : Blank c₂.mem a b := by
  intro x hlo hhi
  by_cases he : ∃ op ∈ new₂, op.Erases x
  · exact h.erased x (by omega) he
  · push Not at he
    rw [h.kept x (Or.inr (by omega)) he]
    exact hb x hlo hhi

/-- **The invariant holds again after the save.** -/
theorem SaveTrace.inv (hf : r.Fits) (hi : LogInv r info c.mem) (hn : info.logTotalNum < 32000)
    (hlen : buff.length ≤ 229) (h : SaveTrace r info c now buff c₁ c₂ new₁ new₂) :
    LogInv r (savedInfo r info buff) c₂.mem := by
  have htotal := savedInfo_total (r := r) hn buff
  have hsys := savedInfo_sys hf hi hn buff
  have hindex := nextIndex_eq hi
  have hland := landing_bounds hf hi
  have happ := h.appended
  have hslot := h.slot
  have hreclen : (dataRecord r info now buff).length = buff.length + 26 :=
    length_dataRecord now buff
  have hslotlen : (infoRecord (savedInfo r info buff)).length = 30 := length_infoRecord _
  obtain ⟨hal, hie, hdb, hde, hroom⟩ := hf
  set s := slotAddr r info.logTotalNum with hs
  rw [slotAddr] at hs
  have hnext : slotAddr r (info.logTotalNum + 1) = s + 32 := by
    rw [slotAddr]
    omega
  -- Slots already written lie below the new one, in sub-sectors that are not erased.
  have hold : ∀ x, x < s → c₂.mem x = c.mem x := by
    intro x hx
    rw [hslot.frame (Or.inl hx) (by omega)]
    exact happ.frame x (Or.inl (by omega))
  exact
    { le := by omega
      first := fun hz => by omega
      sys := by
        rw [htotal, hsys, Nat.add_sub_cancel, slotAddr]
        exact hs
      index := by
        intro _
        rw [savedInfo_index, htotal, hindex]
      low := hland.1
      high := hland.2
      size := fun _ => by
        rw [savedInfo_size]
        omega
      before := by
        have hhigh := hi.high
        by_cases hz : info.logTotalNum = 0
        · simp only [savedInfo, advance, preload, if_pos hz]
          omega
        · have hsize := hi.size hz
          have hprev := hi.index hz
          simp only [savedInfo, advance, preload_of_ne hz]
          omega
      ahead := by
        rw [htotal, hnext]
        refine hslot.blank (Blank.congr (hi.ahead.mono ?_ (Nat.le_refl _)) ?_) ?_
        · omega
        · intro x _ hhi
          exact happ.frame x (Or.inl (by omega))
        · omega
      slot := by
        intro i hlt
        rw [htotal] at hlt
        by_cases heq : i = info.logTotalNum
        · refine ⟨savedInfo r info buff, by rw [htotal, heq], ?_⟩
          rw [heq]
          exact hslot.stores
        · obtain ⟨rec, htot, hstores⟩ := hi.slot i (by omega)
          refine ⟨rec, htot, hstores.congr fun x _ hhi => hold x ?_⟩
          rw [slotAddr, length_infoRecord] at hhi
          omega
      last := by
        intro _
        rw [hsys]
        exact hslot.stores
      blank := by
        have hb := happ.blank
        rw [hreclen] at hb
        have hnew : nextAddr (savedInfo r info buff) = landing r info + (buff.length + 26) := rfl
        rw [hnew]
        exact hslot.blank hb (by omega)
      head := by
        intro _ hlt
        rw [htotal] at hlt
        rw [hslot.frame (Or.inr (by omega)) (by omega)]
        by_cases hz : info.logTotalNum = 0
        · have hto : landing r info = r.dataBegin := by
            rw [landing, if_neg (fun hc => hc.1 hz), nextAddr_empty hi hz]
          have hfirst := happ.stores 0 (by omega)
          rw [Nat.add_zero, hto] at hfirst
          rw [hfirst]
          exact dataRecord_head now buff (by omega)
        · have hsize := hi.size hz
          have hlow := hi.low
          have hgt : r.dataBegin < landing r info := by
            unfold landing nextAddr
            split <;> omega
          rw [happ.frame _ (Or.inl hgt)]
          exact hi.head hz (by omega) }

end

end SwiftAcu.AppLog
