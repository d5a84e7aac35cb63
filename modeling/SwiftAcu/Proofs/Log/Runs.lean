/-
Runs of the operation log.

The invariant holds at the erased flash and every save keeps it until 32000 saves
have been made.  The save after those fails: it goes round to slot 0 without erasing
it, and slots 0 and 1 hold totals that lack bits of 32001.
-/
import Mathlib.Data.List.Induction
import SwiftAcu.Acu.LogRun
import SwiftAcu.Proofs.Log.Step

namespace SwiftAcu.AppLog

open NorFlash Runs

/-! ### The state between two saves -/

/-- A board on which the operation log can be saved to, after `n` saves. -/
structure OptReady (n : Nat) (b : Board) : Prop where
  link : b.commStat = commLink
  weak : b.flash.weak = []
  id : b.flash.id = (0x20, 0xBA, 0x18)
  total : b.optLogInfo.logTotalNum = n
  inv : LogInv optRegion b.optLogInfo b.flash.mem

theorem optReady_boot : OptReady 0 bootBoard where
  link := rfl
  weak := rfl
  id := rfl
  total := rfl
  inv := logInv_empty fits_optRegion fun _ => rfl

theorem OptReady.trace {n : Nat} {b : Board} (h : OptReady n b) (hn : n < 32000) {a : Save}
    (ha : a.Small) :
    ∃ c₁ c₂ new₁ new₂, SaveTrace optRegion b.optLogInfo b.flash a.now a.buff c₁ c₂ new₁ new₂ :=
  save_trace fits_optRegion h.weak h.inv (h.total.symm ▸ hn) a.now ha

/-- The save at a ready board is the one its trace describes. -/
theorem OptReady.save_eq {n : Nat} {b : Board} (h : OptReady n b) {a : Save} {c₁ c₂ : FlashChip}
    {new₁ new₂ : List FlashOp}
    (ht : SaveTrace optRegion b.optLogInfo b.flash a.now a.buff c₁ c₂ new₁ new₂) :
    optLogSave2Flash b a.now a.buff =
      (.SUCC, { b with optLogInfo := savedInfo optRegion b.optLogInfo a.buff, flash := c₂ }) := by
  rw [optLogSave2Flash, h.link, ht.save2Flash]

/-- **One save.** -/
theorem OptReady.step {n : Nat} {b : Board} (h : OptReady n b) (hn : n < 32000) {a : Save}
    (ha : a.Small) : OptSaved b a ∧ OptReady (n + 1) (optStep b a) := by
  obtain ⟨c₁, c₂, new₁, new₂, ht⟩ := h.trace hn ha
  have htot : b.optLogInfo.logTotalNum < 32000 := h.total.symm ▸ hn
  rw [OptSaved, optStep, h.save_eq ht]
  refine ⟨rfl, ?_⟩
  exact
    { link := h.link
      weak := ht.weak.trans h.weak
      id := ht.id.trans h.id
      total := by rw [savedInfo_total htot, h.total]
      inv := ht.inv fits_optRegion h.inv htot ha }

/-- **A run of up to 32000 saves.** -/
theorem optReady_run (calls : List Save) (hsmall : ∀ a ∈ calls, a.Small)
    (hlen : calls.length ≤ 32000) : AllSaved calls ∧ OptReady calls.length (optRun calls) := by
  induction calls using List.reverseRecOn with
  | nil => exact ⟨trivial, optReady_boot⟩
  | append_singleton calls a ih =>
      rw [List.length_append, List.length_singleton] at hlen ⊢
      obtain ⟨hall, hready⟩ := ih (fun a ha => hsmall a (by simp [ha])) (by omega)
      obtain ⟨hsucc, hnext⟩ := hready.step (by omega) (hsmall a (by simp))
      rw [AllSaved, optRun, allSteps_concat, run_concat]
      exact ⟨⟨hall, hsucc⟩, hnext⟩

/-- A run of equal saves is ready for the next. -/
theorem optReady_replicate {a : Save} (ha : a.Small) {n : Nat} (hn : n ≤ 32000) :
    AllSaved (List.replicate n a) ∧ OptReady n (optRun (List.replicate n a)) := by
  have h := optReady_run (List.replicate n a)
    (fun b hb => List.eq_of_mem_replicate hb ▸ ha) (by rwa [List.length_replicate])
  rwa [List.length_replicate] at h

/-- Before the end of the data region the records follow one another. -/
theorem OptReady.nextAddr_step {n : Nat} {b : Board} (h : OptReady n b) (hn : n < 32000) {a : Save}
    (ha : a.Small) (hnext : nextAddr b.optLogInfo < optRegion.dataEnd) :
    nextAddr (optStep b a).optLogInfo = nextAddr b.optLogInfo + (a.buff.length + 26) := by
  obtain ⟨c₁, c₂, new₁, new₂, ht⟩ := h.trace hn ha
  have hto : landing optRegion b.optLogInfo = nextAddr b.optLogInfo := by
    rw [landing, if_neg (by omega)]
  rw [optStep, h.save_eq ht]
  dsimp only
  rw [nextAddr, savedInfo_addr, savedInfo_size, hto]

/-- Equal saves fill the data region evenly until one of them reaches its end. -/
theorem nextAddr_replicate {a : Save} (ha : a.Small) :
    ∀ n, n ≤ 32000 → n * (a.buff.length + 26) < 2048000 + (a.buff.length + 26) →
      nextAddr (optRun (List.replicate n a)).optLogInfo =
        optRegion.dataBegin + n * (a.buff.length + 26) := by
  intro n
  induction n with
  | zero =>
      intro _ _
      rw [Nat.zero_mul]
      rfl
  | succ n ih =>
      intro hn hroom
      rw [Nat.succ_mul] at hroom ⊢
      have hprev := ih (by omega) (by omega)
      have hready := (optReady_replicate ha (n := n) (by omega)).2
      have hbegin : optRegion.dataEnd = optRegion.dataBegin + 2048000 := rfl
      rw [List.replicate_succ', optRun, run_concat, ← optRun,
        hready.nextAddr_step (by omega) ha (by omega), hprev]
      omega

/-- A save of the largest payload. -/
def longSave : Save := ⟨⟨2018, 1, 1, 0, 0, 0⟩, List.replicate 229 0⟩

theorem longSave_small : longSave.Small := by
  rw [Save.Small, longSave, List.length_replicate]

/-- 8031 of these saves leave 95 bytes of the data region. -/
theorem longSaves_end {n : Nat} (hn : n = 8031) :
    OptReady n (optRun (List.replicate n longSave)) ∧
      nextAddr (optRun (List.replicate n longSave)).optLogInfo = 3071905 := by
  have hlen : longSave.buff.length = 229 := List.length_replicate
  have hbegin : optRegion.dataBegin = 1024000 := rfl
  have hnext := nextAddr_replicate longSave_small n (by omega) (by rw [hlen]; omega)
  rw [hlen, hbegin] at hnext
  exact ⟨(optReady_replicate longSave_small (by omega)).2, by omega⟩

/-! ### The full ring -/

/-- The first two slots hold the totals 1 and 2, which lack bits of 32001. -/
theorem infoRecord_total_clash {s info : LogInfo} (hs : s.logTotalNum < 256)
    (hinfo : info.logTotalNum = 32001) :
    (infoRecord s)[3] &&& (infoRecord info)[3] ≠ (infoRecord info)[3] := by
  have hold : (infoRecord s)[3] = UInt8.ofNat ((s.logTotalNum &&& 0x0000FF00) >>> 8) := rfl
  have hnew : (infoRecord info)[3] = UInt8.ofNat ((info.logTotalNum &&& 0x0000FF00) >>> 8) := rfl
  have hzero : (s.logTotalNum &&& 0x0000FF00) >>> 8 = 0 := by
    have hmask : 0x0000FF00 = 0xFF <<< 8 := by decide
    rw [hmask, and_shiftRight_byte]
    omega
  rw [hold, hnew, hzero, hinfo]
  decide

/-- A slot that holds an early total does not take the total 32001. -/
theorem writeSlot_clash {c : FlashChip} (hw : c.weak = []) {a : Nat} (hlim : a + 30 ≤ 2 ^ 24)
    {s info : LogInfo} (hs : s.logTotalNum < 256) (hinfo : info.logTotalNum = 32001)
    (hstores : Stores c.mem a (infoRecord s)) :
    (c.b3WriteDataBuff a (infoRecord info)).1 = .FAIL := by
  have hsucc := FlashChip.b3WriteDataBuff_succ_iff hw a (infoRecord info) hlim
  cases hret : (c.b3WriteDataBuff a (infoRecord info)).1 with
  | FAIL => rfl
  | SUCC =>
      have hget := hsucc.mp hret 3 (by simp)
      rw [program_inside c.mem a (by simp), hstores 3 (by simp)] at hget
      exact absurd hget (infoRecord_total_clash hs hinfo)

/-- Making room changes nothing below the data region. -/
theorem reserve_below {r : LogRegion} (hf : r.Fits) (c : FlashChip) (a sz : Nat)
    (hlo : r.dataBegin ≤ a) (hhi : a < r.dataEnd) (hsz : sz ≤ 255) :
    r.dataBegin ≤ (reserve c a sz).1 ∧ (reserve c a sz).1 < r.dataEnd + 4096 ∧
      (reserve c a sz).2.weak = c.weak ∧
      ∀ x < r.dataBegin, (reserve c a sz).2.mem x = c.mem x := by
  obtain ⟨hal, hie, hdb, hde, hroom⟩ := hf
  have hu : u32 (a + sz) = a + sz := u32_of_lt (by omega)
  have hu' : u32 (a + 4096) = a + 4096 := u32_of_lt (by omega)
  have herase : ∀ (c : FlashChip) (e : Nat), a ≤ e → e < 2 ^ 24 → ∀ x < r.dataBegin,
      (c.b3SubSectorErase e).mem x = c.mem x := by
    intro c e hae he x hx
    rw [FlashChip.b3SubSectorErase_mem c he]
    exact erase_below c.mem (by omega)
  unfold reserve
  simp only [hu, spiFlashSectorSize, hu']
  by_cases hcross : subSector (a + sz) ≠ subSector a
  · rw [if_pos hcross]
    split
    · exact ⟨hlo, by omega, rfl, herase c (a + sz) (by omega) (by omega)⟩
    · refine ⟨by omega, by omega, rfl, fun x hx => ?_⟩
      rw [herase _ (a + 4096) (by omega) (by omega) x hx]
      exact herase c (a + sz) (by omega) (by omega) x hx
  · rw [if_neg hcross]
    split
    · exact ⟨hlo, by omega, rfl, fun _ _ => rfl⟩
    · exact ⟨by omega, by omega, rfl, herase c (a + 4096) (by omega) (by omega)⟩

/-- Whatever the data half comes to, the info ring is as it was. -/
theorem writeData_below {r : LogRegion} (hf : r.Fits) {c : FlashChip} (hw : c.weak = [])
    {info : LogInfo} (h : LogInv r info c.mem) (now : SysDateTime) {buff : List UInt8}
    (hlen : buff.length ≤ 229) :
    (writeData r info c now buff).2.2.weak = [] ∧
      ∀ x < r.dataBegin, (writeData r info c now buff).2.2.mem x = c.mem x := by
  have hnext : r.dataBegin ≤ nextDataAddr r info ∧ nextDataAddr r info < r.dataEnd := by
    rw [nextDataAddr_eq hf h]
    have hland := landing_bounds hf h
    unfold landing at hland
    have hdb := hf.dataBegin
    have hde := hf.dataEnd
    split
    · omega
    · next hc =>
        rw [if_neg hc] at hland
        exact hland
  have hroom := hf.room
  obtain ⟨hlo, hhi, hweak, hbelow⟩ :=
    reserve_below hf c (nextDataAddr r info) (buff.length + 26) hnext.1 hnext.2 (by omega)
  unfold writeData
  dsimp only
  have hwrote := FlashChip.b3WriteDataBuff_wrote (hweak.trans hw)
    (reserve c (nextDataAddr r info) (buff.length + 26)).1
    (record (buff.length + 26) (nextIndex (preload r info (buff.length + 26))) now buff
      (preload r info (buff.length + 26)).currlogAddr
      (preload r info (buff.length + 26)).currlogSize) (by rw [length_record]; omega)
  refine ⟨hwrote.weak.trans (hweak.trans hw), fun x hx => ?_⟩
  rw [hwrote.mem, program_outside _ (Or.inl (by omega))]
  exact hbelow x hx

/-- **The full ring takes no further save.** -/
theorem save_full {r : LogRegion} (hf : r.Fits) {c : FlashChip} (hw : c.weak = []) {info : LogInfo}
    (h : LogInv r info c.mem) (hfull : info.logTotalNum = 32000) (now : SysDateTime)
    {buff : List UInt8} (hlen : buff.length ≤ 229) :
    (save2Flash r commLink info c now buff).1 = .FAIL := by
  obtain ⟨hw₁, hbelow⟩ := writeData_below hf hw h now hlen
  have hsys := h.sys
  obtain ⟨s₀, htot₀, hs₀⟩ := h.slot 0 (by omega)
  obtain ⟨s₁, htot₁, hs₁⟩ := h.slot 1 (by omega)
  obtain ⟨hal, hie, hdb, hde, hroom⟩ := hf
  rw [slotAddr] at hsys hs₀ hs₁
  rw [save2Flash, if_neg (by decide)]
  dsimp only
  split
  · rfl
  · next flash_addr c₁ hdata =>
      rw [hdata] at hw₁ hbelow
      set saved := advance r (preload r info (buff.length + 26)) flash_addr (nextIndex info)
        (buff.length + 26) with hsaved
      have htot : saved.logTotalNum = 32001 := by
        rw [hsaved, advance, preload_total, hfull]
        rfl
      have hround : saved.logSysAddr = r.infoBegin := by
        have hu : u32 (info.logSysAddr + 32) = info.logSysAddr + 32 := u32_of_lt (by omega)
        have hone : 1 < u32 (32000 + 1) := by decide
        have hend : r.infoEnd ≤ info.logSysAddr + 32 := by omega
        simp only [hsaved, advance, preload_total, preload_sys, hfull, logSysRecordSize, hu,
          if_pos hone, if_pos hend]
      have hu : u32 (r.infoBegin + 32) = r.infoBegin + 32 := u32_of_lt (by omega)
      have hsame : ¬subSector (r.infoBegin + 32) ≠ subSector r.infoBegin := by
        rw [subSector_ne_iff (by omega) (by omega)]
        omega
      have hkept₀ : Stores c₁.mem r.infoBegin (infoRecord s₀) := by
        refine hs₀.congr fun x _ hhi => hbelow x ?_
        rw [length_infoRecord] at hhi
        omega
      have hfail₀ := writeSlot_clash hw₁ (a := r.infoBegin) (by omega) (by omega) htot hkept₀
      have hwrote := FlashChip.b3WriteDataBuff_wrote hw₁ r.infoBegin
        (infoRecord saved) (by rw [length_infoRecord]; omega)
      have hkept₁ : Stores (c₁.b3WriteDataBuff r.infoBegin (infoRecord saved)).2.mem
          (r.infoBegin + 32) (infoRecord s₁) := by
        refine hs₁.congr fun x hlo hhi => ?_
        rw [length_infoRecord] at hhi
        rw [hwrote.mem, program_outside _ (Or.inr (by rw [length_infoRecord]; omega))]
        exact hbelow x (by omega)
      have hfail₁ := writeSlot_clash (hwrote.weak.trans hw₁) (a := r.infoBegin + 32) (by omega)
        (by omega) htot hkept₁
      unfold writeInfo
      simp only [hround, logSysRecordSize, hu, if_neg hsame]
      rw [show c₁.b3WriteDataBuff r.infoBegin (infoRecord saved) =
        (.FAIL, (c₁.b3WriteDataBuff r.infoBegin (infoRecord saved)).2) from Prod.ext hfail₀ rfl]
      dsimp only
      rw [show (c₁.b3WriteDataBuff r.infoBegin (infoRecord saved)).2.b3WriteDataBuff
        (r.infoBegin + 32) (infoRecord saved) = (.FAIL, _) from Prod.ext hfail₁ rfl]

/-- The save after 32000 saves fails. -/
theorem OptReady.full {b : Board} (h : OptReady 32000 b) {a : Save} (ha : a.Small) :
    (optLogSave2Flash b a.now a.buff).1 = .FAIL := by
  rw [optLogSave2Flash, h.link]
  exact save_full fits_optRegion h.weak h.inv h.total a.now ha

/-- Saves that all succeed are at most 32000. -/
theorem AllSaved.length_le {calls : List Save} (hsmall : ∀ a ∈ calls, a.Small)
    (h : AllSaved calls) : calls.length ≤ 32000 := by
  by_contra hlong
  have hsplit : calls = calls.take 32000 ++ calls.get ⟨32000, by omega⟩ :: calls.drop 32001 := by
    rw [List.get_eq_getElem, ← List.drop_eq_getElem_cons, List.take_append_drop]
  have hlen : (calls.take 32000).length = 32000 := by
    rw [List.length_take]
    omega
  have hready := (optReady_run (calls.take 32000)
    (fun a ha => hsmall a (List.mem_of_mem_take ha)) (by omega)).2
  rw [hlen] at hready
  have hfail := hready.full (hsmall _ (calls.get_mem ⟨32000, by omega⟩))
  have hsucc := (allSteps_iff_split bootBoard calls).mp h _ _ _ hsplit
  rw [OptSaved] at hsucc
  rw [optRun, hsucc] at hfail
  exact absurd hfail (by decide)

/-- A run that only succeeded leaves a ready board. -/
theorem AllSaved.ready {calls : List Save} (hsmall : ∀ a ∈ calls, a.Small) (h : AllSaved calls) :
    OptReady calls.length (optRun calls) := (optReady_run calls hsmall (h.length_le hsmall)).2

/-- **When the log jams.**  A run of saves succeeds throughout exactly when it has at most
32000 of them. -/
theorem allSaved_iff {calls : List Save} (hsmall : ∀ a ∈ calls, a.Small) :
    AllSaved calls ↔ calls.length ≤ 32000 :=
  ⟨fun h => h.length_le hsmall, fun hlen => (optReady_run calls hsmall hlen).1⟩

/-- A save of no payload. -/
def emptySave : Save := ⟨⟨2018, 1, 1, 0, 0, 0⟩, []⟩

/-- Two hundred saves of 16 bytes, and one of the largest payload. -/
def manySaves : List Save :=
  List.replicate 200 ⟨⟨2018, 7, 1, 12, 30, 0⟩, (List.range 16).map UInt8.ofNat⟩ ++ [longSave]

theorem manySaves_small : ∀ a ∈ manySaves, a.Small := by
  intro a ha
  rcases List.mem_append.mp ha with ha | ha
  · rw [List.eq_of_mem_replicate ha]
    decide
  · rw [List.mem_singleton.mp ha]
    exact longSave_small

theorem length_manySaves : manySaves.length = 201 := by
  rw [manySaves, List.length_append, List.length_replicate, List.length_singleton]

/-- They reach into a third sub-sector. -/
theorem allSaved_manySaves : AllSaved manySaves :=
  (allSaved_iff manySaves_small).mpr (by rw [length_manySaves]; decide)

/-- The 32001st save of a run fails. -/
theorem save_after_32000_fails :
    AllSaved (List.replicate 32000 emptySave) ∧
      (optLogSave2Flash (optRun (List.replicate 32000 emptySave)) emptySave.now
        emptySave.buff).1 = .FAIL := by
  have hsmall : emptySave.Small := by decide
  obtain ⟨hall, hready⟩ := optReady_replicate hsmall (Nat.le_refl 32000)
  exact ⟨hall, hready.full hsmall⟩

end SwiftAcu.AppLog
