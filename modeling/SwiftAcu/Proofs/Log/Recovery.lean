/-
Start-up after a run of saves.

The scan of the operation ring finds the slots written so far in order, stops at the
first blank one, or at the end of a full ring, and returns what RAM held.  The scan
of the warning ring is the one that can go wrong: its first slots lie where a
record that runs over the end of the operation log leaves its last bytes.
-/
import Mathlib.Data.Nat.Find
import SwiftAcu.Proofs.Log.Runs

namespace SwiftAcu.AppLog

open NorFlash Runs

/-! ### The scan of one ring -/

/-- The slot at `a` starts with `0xBC` and ends with `0xCB`. -/
def Framed (m : Nat → UInt8) (a : Nat) : Prop := m a = 0xBC ∧ m (a + 29) = 0xCB

instance (m : Nat → UInt8) (a : Nat) : Decidable (Framed m a) :=
  inferInstanceAs (Decidable (_ ∧ _))

/-- The first slot of the ring that is not framed, if there is one, starts blank. -/
def RingClean (r : LogRegion) (m : Nat → UInt8) : Prop :=
  ∃ k ≤ 32000, (∀ i < k, Framed m (slotAddr r i)) ∧ (k = 32000 ∨ m (slotAddr r k) = 0xFF)

theorem slotAddr_succ (r : LogRegion) (i : Nat) :
    slotAddr r (i + 1) = slotAddr r i + logSysRecordSize := by
  rw [slotAddr, slotAddr, logSysRecordSize]
  omega

/-- A framed slot is read and passed. -/
theorem scanRing_framed {c : FlashChip} {slots addr : Nat} {info : LogInfo}
    (hlim : addr + 30 ≤ 2 ^ 24) (hframe : Framed c.mem addr) :
    scanRing c (slots + 1) addr info =
      scanRing c slots (addr + logSysRecordSize) (readInfoSlot c addr) := by
  have h : c.b3ReadDataByte addr = 0xBC ∧ c.b3ReadDataByte (addr + 29) = 0xCB := by
    rw [FlashChip.b3ReadDataByte, FlashChip.b3ReadDataByte, FlashChip.addr24_of_lt (by omega),
      FlashChip.addr24_of_lt (by omega)]
    exact hframe
  rw [scanRing]
  exact if_pos h

/-- A slot that starts blank ends the scan. -/
theorem scanRing_blank {c : FlashChip} {slots addr : Nat} {info : LogInfo} (hlim : addr < 2 ^ 24)
    (hhead : c.mem addr = 0xFF) : scanRing c (slots + 1) addr info = .done info := by
  have h : c.b3ReadDataByte addr = 0xFF := by
    rw [FlashChip.b3ReadDataByte, FlashChip.addr24_of_lt hlim, hhead]
  rw [scanRing]
  simp [h]

/-- Any other slot is corrupt. -/
theorem scanRing_corrupt {c : FlashChip} {slots addr : Nat} {info : LogInfo}
    (hlim : addr + 30 ≤ 2 ^ 24) (hhead : c.mem addr ≠ 0xFF)
    (hframe : ¬Framed c.mem addr) :
    scanRing c (slots + 1) addr info = .corrupt info := by
  have h : c.b3ReadDataByte addr = c.mem addr := by
    rw [FlashChip.b3ReadDataByte, FlashChip.addr24_of_lt (by omega)]
  have h' : c.b3ReadDataByte (addr + 29) = c.mem (addr + 29) := by
    rw [FlashChip.b3ReadDataByte, FlashChip.addr24_of_lt (by omega)]
  rw [Framed] at hframe
  rw [scanRing, h, h', if_neg hframe, if_neg (fun hc => hhead hc.1), if_pos hhead]

/-- The scan from slot `i` passes the framed slots from `i` to `k`. -/
theorem scanRing_pass {r : LogRegion} {c : FlashChip} {k : Nat} (hlim : slotAddr r k ≤ 2 ^ 24) :
    ∀ (d i slots : Nat) (info : LogInfo), i + d = k →
      (∀ j, i ≤ j → j < k → Framed c.mem (slotAddr r j)) →
      scanRing c (slots + d) (slotAddr r i) info =
        scanRing c slots (slotAddr r k)
          (if d = 0 then info else readInfoSlot c (slotAddr r (k - 1))) := by
  intro d
  induction d with
  | zero =>
      intro i slots info hik _
      rw [← hik]
      rfl
  | succ d ih =>
      intro i slots info hik hframed
      have hframe := hframed i (Nat.le_refl i) (by omega)
      have hroom : slotAddr r i + 30 ≤ 2 ^ 24 := by
        rw [slotAddr] at hlim ⊢
        omega
      rw [← Nat.add_assoc, scanRing_framed hroom hframe, ← slotAddr_succ,
        ih (i + 1) slots _ (by omega) fun j hlo hhi => hframed j (by omega) hhi]
      by_cases hd : d = 0
      · have hi : i = k - 1 := by omega
        rw [if_pos hd, if_neg (by omega), hi]
      · rw [if_neg hd, if_neg (by omega)]

section
variable {r : LogRegion} {c : FlashChip}

theorem ring_slots (hf : r.Fits) : (r.infoEnd - r.infoBegin) / logSysRecordSize = 32000 := by
  have := hf.infoEnd
  rw [logSysRecordSize]
  omega

/-- The scan of a whole ring that is clean. -/
theorem scanRing_clean (hf : r.Fits) {k : Nat} (hk : k ≤ 32000)
    (hframed : ∀ i < k, Framed c.mem (slotAddr r i))
    (hend : k = 32000 ∨ c.mem (slotAddr r k) = 0xFF) :
    scanRing c 32000 r.infoBegin zeroInfo =
      .done (if k = 0 then zeroInfo else readInfoSlot c (slotAddr r (k - 1))) := by
  obtain ⟨hal, hie, hdb, hde, hroom⟩ := hf
  have hlim : slotAddr r k < 2 ^ 24 := by
    rw [slotAddr]
    omega
  have hfirst : r.infoBegin = slotAddr r 0 := by rw [slotAddr, Nat.mul_zero, Nat.add_zero]
  have hpass := scanRing_pass (c := c) (Nat.le_of_lt hlim) k 0 (32000 - k) zeroInfo (by omega)
    fun j _ hj => hframed j hj
  rw [Nat.sub_add_cancel hk, ← hfirst] at hpass
  rw [hpass]
  rcases Nat.eq_zero_or_pos (32000 - k) with hz | hpos
  · rw [hz, scanRing]
  · obtain ⟨slots, hslots⟩ : ∃ slots, 32000 - k = slots + 1 := ⟨32000 - k - 1, by omega⟩
    rw [hslots]
    exact scanRing_blank hlim (hend.resolve_left (by omega))

/-- The scan of a ring that is not clean ends at its first slot that is not framed. -/
theorem scanRing_unclean (hf : r.Fits) (hc : ¬RingClean r c.mem) :
    ∃ info, scanRing c 32000 r.infoBegin zeroInfo = .corrupt info := by
  obtain ⟨hal, hie, hdb, hde, hroom⟩ := hf
  have hex : ∃ k, k < 32000 ∧ ¬Framed c.mem (slotAddr r k) := by
    by_contra hno
    push Not at hno
    exact hc ⟨32000, Nat.le_refl _, hno, Or.inl rfl⟩
  obtain ⟨hlt, hbad⟩ := Nat.find_spec hex
  set k := Nat.find hex with hk
  have hframed : ∀ i < k, Framed c.mem (slotAddr r i) := by
    intro i hi
    by_contra hnot
    exact Nat.find_min hex hi ⟨by omega, hnot⟩
  have hhead : c.mem (slotAddr r k) ≠ 0xFF :=
    fun hblank => hc ⟨k, by omega, hframed, Or.inr hblank⟩
  have hlim : slotAddr r k + 30 ≤ 2 ^ 24 := by
    rw [slotAddr]
    omega
  have hfirst : r.infoBegin = slotAddr r 0 := by rw [slotAddr, Nat.mul_zero, Nat.add_zero]
  have hpass := scanRing_pass (c := c) (by omega) k 0 (32000 - k) zeroInfo (by omega)
    fun j _ hj => hframed j hj
  obtain ⟨slots, hslots⟩ : ∃ slots, 32000 - k = slots + 1 := ⟨32000 - k - 1, by omega⟩
  rw [Nat.sub_add_cancel (Nat.le_of_lt hlt), ← hfirst, hslots,
    scanRing_corrupt hlim hhead hbad] at hpass
  exact ⟨_, hpass⟩

/-! ### One half of the start-up -/

/-- A clean ring is read and nothing else is done. -/
theorem initRing_clean (hf : r.Fits) (hc : RingClean r c.mem) :
    ∃ info, initRing r c = .ready info c false := by
  obtain ⟨k, hk, hframed, hend⟩ := hc
  rw [initRing, ring_slots hf, scanRing_clean hf hk hframed hend]
  exact ⟨_, rfl⟩

/-- A ring that is not clean is erased and given a slot, and the controller resets itself. -/
theorem initRing_unclean (hf : r.Fits) (hw : c.weak = []) (hc : ¬RingClean r c.mem) :
    ∃ c', initRing r c = .softReset c' := by
  obtain ⟨info, hscan⟩ := scanRing_unclean hf hc
  obtain ⟨hal, hie, hdb, hde, hroom⟩ := id hf
  have hblank : Blank (c.b3SubSectorErase r.infoBegin).mem r.infoBegin
      (r.infoBegin + (infoRecord info).length) := by
    rw [FlashChip.b3SubSectorErase_mem c (by omega), length_infoRecord]
    exact (blank_eraseSector (by decide) c.mem r.infoBegin).mono (by omega) (by omega)
  have hsucc := FlashChip.b3WriteDataBuff_blank (c := c.b3SubSectorErase r.infoBegin) hw
    r.infoBegin (infoRecord info) (by rw [length_infoRecord]; omega) hblank
  rw [initRing, ring_slots hf, hscan]
  dsimp only
  rw [show (c.b3SubSectorErase r.infoBegin).b3WriteDataBuff r.infoBegin (infoRecord info) =
    (.SUCC, _) from Prod.ext hsucc rfl]
  exact ⟨_, rfl⟩

/-- **The scan of a log's own ring returns what RAM holds.** -/
theorem initRing_own (hf : r.Fits) {info : LogInfo} (h : LogInv r info c.mem) :
    initRing r c = .ready info c false := by
  have hframed : ∀ i < info.logTotalNum, Framed c.mem (slotAddr r i) := by
    intro i hi
    obtain ⟨s, -, hs⟩ := h.slot i hi
    exact ⟨(hs 0 (by simp)).trans (infoRecord_head s _),
      (hs 29 (by simp)).trans (infoRecord_tail s _)⟩
  have hend : info.logTotalNum = 32000 ∨ c.mem (slotAddr r info.logTotalNum) = 0xFF := by
    by_cases hfull : info.logTotalNum = 32000
    · exact Or.inl hfull
    · have hle := h.le
      have hie := hf.infoEnd
      exact Or.inr (h.ahead _ (Nat.le_refl _) (by rw [slotAddr]; omega))
  rw [initRing, ring_slots hf, scanRing_clean hf h.le hframed hend]
  dsimp only
  by_cases hz : info.logTotalNum = 0
  · rw [if_pos hz, h.first hz]
    rfl
  · have hle := h.le
    have hindex := h.index hz
    have hhigh := h.high
    have hsize := h.size hz
    have hbefore := h.before
    obtain ⟨hal, hie, hdb, hde, hroom⟩ := hf
    have hfits : LogInfo.Fits info :=
      ⟨by omega, by omega, by omega, by omega, hbefore.1, hbefore.2.1, hbefore.2.2⟩
    have hstores := h.last hz
    rw [h.sys] at hstores
    rw [if_neg hz, readInfoSlot_of_stores (by rw [slotAddr]; omega) hfits hstores, ← h.sys,
      initDefaults, if_neg hz]

end

/-! ### Start-up after a run -/

/-- `APP_LOG_Init` on the flash of `b` brings `OptLogInfo` back and gives the chip no command. -/
def Recovers (b : Board) : Prop :=
  ∃ b', logInit b.flash = .running b' ∧ b'.optLogInfo = b.optLogInfo ∧ b'.flash = b.flash

theorem OptReady.recovers_iff {n : Nat} {b : Board} (h : OptReady n b) :
    Recovers b ↔ RingClean warnRegion b.flash.mem := by
  unfold Recovers logInit
  dsimp only
  rw [initRing_own fits_optRegion h.inv]
  dsimp only
  constructor
  · rintro ⟨b', hinit, -, -⟩
    by_contra hc
    obtain ⟨c', hreset⟩ := initRing_unclean fits_warnRegion h.weak hc
    rw [hreset] at hinit
    exact Boot.noConfusion hinit
  · intro hc
    obtain ⟨warn, hwarn⟩ := initRing_clean fits_warnRegion hc
    rw [hwarn]
    exact ⟨_, rfl, rfl, rfl⟩

/-- **Recovery.**  After saves that all succeeded, start-up brings the operation log back
exactly when the scan of the warning ring stops at a blank byte. -/
theorem logInit_recovers_iff {calls : List Save} (hsmall : ∀ a ∈ calls, a.Small)
    (h : AllSaved calls) :
    Recovers (optRun calls) ↔ RingClean warnRegion (optRun calls).flash.mem :=
  (h.ready hsmall).recovers_iff

/-! ### Records that stay inside the data region -/

/-- The record of the save `a` at `b` ends inside the data region. -/
def EndsInside (b : Board) (a : Save) : Prop :=
  nextDataAddr optRegion b.optLogInfo + (a.buff.length + 26) ≤ optRegion.dataEnd

/-- What is blank above a record stays blank when the record and its slot are written. -/
theorem SaveTrace.blank_above {r : LogRegion} {info : LogInfo} {c c₁ c₂ : FlashChip}
    {now : SysDateTime} {buff : List UInt8} {new₁ new₂ : List FlashOp}
    (h : SaveTrace r info c now buff c₁ c₂ new₁ new₂) {lo : Nat}
    (hrec : landing r info + (buff.length + 26) ≤ lo)
    (hslot : slotAddr r info.logTotalNum + 30 ≤ lo) (hb : ∀ x, lo ≤ x → c.mem x = 0xFF) :
    ∀ x, lo ≤ x → c₂.mem x = 0xFF := by
  intro x hx
  have hlen : (dataRecord r info now buff).length = buff.length + 26 := length_dataRecord now buff
  have hmid : c₁.mem x = 0xFF := by
    by_cases hsec : x < sectorEnd (landing r info + (dataRecord r info now buff).length)
    · exact h.appended.blank x (by omega) hsec
    · rw [h.appended.frame x (Or.inr (by omega))]
      exact hb x hx
  by_cases he : ∃ op ∈ new₂, op.Erases x
  · exact h.slot.erased x (by rw [length_infoRecord]; omega) he
  · push Not at he
    rw [h.slot.kept x (Or.inr (by rw [length_infoRecord]; omega)) he]
    exact hmid

/-- **While every record ends inside the data region the warning ring stays blank.** -/
theorem ringClean_of_endsInside {calls : List Save} (hsmall : ∀ a ∈ calls, a.Small)
    (hlen : calls.length ≤ 32000) (hin : AllSteps optStep EndsInside bootBoard calls) :
    RingClean warnRegion (optRun calls).flash.mem := by
  have hblank : ∀ x, optRegion.dataEnd ≤ x → (optRun calls).flash.mem x = 0xFF := by
    induction calls using List.reverseRecOn with
    | nil => exact fun _ _ => rfl
    | append_singleton calls a ih =>
        rw [List.length_append, List.length_singleton] at hlen
        have hsmall' : ∀ a ∈ calls, a.Small := fun a ha => hsmall a (by simp [ha])
        obtain ⟨hin', hstep⟩ := (allSteps_concat bootBoard calls a).mp hin
        have hready := (optReady_run calls hsmall' (by omega)).2
        obtain ⟨c₁, c₂, new₁, new₂, ht⟩ := hready.trace (by omega) (hsmall a (by simp))
        rw [optRun, run_concat, ← optRun, optStep, hready.save_eq ht]
        refine ht.blank_above ?_ ?_ (ih hsmall' (by omega) hin')
        · have hlow := hready.inv.low
          rw [EndsInside, ← optRun, nextDataAddr_eq fits_optRegion hready.inv] at hstep
          have ha : a.buff.length ≤ 229 := hsmall a (by simp)
          have hend : optRegion.dataEnd = optRegion.dataBegin + 2048000 := rfl
          unfold landing
          split
          · omega
          · next hc =>
              rw [if_neg hc] at hstep
              exact hstep
        · rw [hready.total, slotAddr]
          have hend : optRegion.dataEnd = optRegion.infoBegin + 3072000 := rfl
          omega
  exact ⟨0, by omega, fun i hi => absurd hi (Nat.not_lt_zero i), Or.inr (hblank _ (by decide))⟩

/-- Eight thousand records fit into the data region, however long they are. -/
theorem endsInside_of_few (calls : List Save) (hsmall : ∀ a ∈ calls, a.Small)
    (hfew : calls.length ≤ 8000) :
    AllSteps optStep EndsInside bootBoard calls ∧
      nextAddr (optRun calls).optLogInfo ≤ optRegion.dataBegin + calls.length * 255 := by
  induction calls using List.reverseRecOn with
  | nil => exact ⟨trivial, by decide⟩
  | append_singleton calls a ih =>
      rw [List.length_append, List.length_singleton] at hfew ⊢
      have hsmall' : ∀ a ∈ calls, a.Small := fun a ha => hsmall a (by simp [ha])
      have ha : a.buff.length ≤ 229 := hsmall a (by simp)
      have hend : optRegion.dataEnd = optRegion.dataBegin + 2048000 := rfl
      obtain ⟨hin, hnext⟩ := ih hsmall' (by omega)
      have hready := (optReady_run calls hsmall' (by omega)).2
      have hstep := hready.nextAddr_step (by omega) (hsmall a (by simp)) (by omega)
      rw [allSteps_concat, optRun, run_concat, ← optRun, hstep]
      refine ⟨⟨hin, ?_⟩, by omega⟩
      rw [EndsInside, nextDataAddr_eq fits_optRegion hready.inv, if_neg (by omega)]
      omega

/-- Records in three sub-sectors are brought back. -/
theorem recovers_manySaves : Recovers (optRun manySaves) := by
  have hfew : manySaves.length ≤ 8000 := by
    rw [length_manySaves]
    decide
  have hclean := ringClean_of_endsInside manySaves_small (Nat.le_trans hfew (by decide))
    (endsInside_of_few manySaves manySaves_small hfew).1
  have hall := (optReady_run manySaves manySaves_small (Nat.le_trans hfew (by decide))).1
  exact (logInit_recovers_iff manySaves_small hall).mpr hclean

/-! ### A record over the end of the data region -/

/-- A long save made 95 bytes before the end leaves a payload byte in the warning ring. -/
theorem longSave_spill {n : Nat} {b : Board} (h : OptReady n b) (hn : n < 31000)
    (hnext : nextAddr b.optLogInfo = 3071905) : (optStep b longSave).flash.mem 0x2EE000 = 0 := by
  obtain ⟨c₁, c₂, new₁, new₂, ht⟩ := h.trace (by omega) longSave_small
  have hend : optRegion.dataEnd = 3072000 := rfl
  have hto : landing optRegion b.optLogInfo = 3071905 := by
    rw [landing, if_neg (by omega), hnext]
  have hlen : longSave.buff.length = 229 := List.length_replicate
  have hbyte := ht.appended.stores 95 (by rw [length_dataRecord]; omega)
  rw [hto] at hbyte
  have hslot : slotAddr optRegion b.optLogInfo.logTotalNum = 32 * n := by
    rw [h.total, slotAddr]
    exact Nat.zero_add _
  have hframe := ht.slot
  rw [hslot] at hframe
  have hkept : c₂.mem 3072000 = c₁.mem 3072000 := by
    refine hframe.frame (Or.inr ?_) (Or.inr ?_)
    · rw [length_infoRecord]
      omega
    · omega
  rw [optStep, h.save_eq ht]
  exact hkept.trans hbyte

/-- The 8032nd long save is that save. -/
theorem longSaves_spill {n : Nat} (hn : n = 8032) :
    (optRun (List.replicate n longSave)).flash.mem 0x2EE000 = 0 := by
  obtain ⟨k, rfl⟩ : ∃ k, n = k + 1 := ⟨n - 1, by omega⟩
  obtain ⟨hready, hnext⟩ := longSaves_end (n := k) (by omega)
  rw [List.replicate_succ', optRun, run_concat, ← optRun]
  exact longSave_spill hready (by omega) hnext

theorem longSaves_not_recovered :
    AllSaved (List.replicate 8032 longSave) ∧
      ¬Recovers (optRun (List.replicate 8032 longSave)) := by
  obtain ⟨hall, hready⟩ := optReady_replicate longSave_small (n := 8032) (by omega)
  refine ⟨hall, fun hrec => ?_⟩
  obtain ⟨k, -, hframed, hend⟩ := hready.recovers_iff.mp hrec
  have hspill := longSaves_spill rfl
  rcases Nat.eq_zero_or_pos k with hz | hpos
  · rw [hz] at hend
    rcases hend with hend | hend
    · omega
    · rw [show slotAddr warnRegion 0 = 0x2EE000 from rfl, hspill] at hend
      exact absurd hend (by decide)
  · have hhead := (hframed 0 hpos).1
    rw [show slotAddr warnRegion 0 = 0x2EE000 from rfl, hspill] at hhead
    exact absurd hhead (by decide)

end SwiftAcu.AppLog
