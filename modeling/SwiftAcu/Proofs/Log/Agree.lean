/-
The two logs over whole runs.

Both logs are saved to, on one flash, any number of times.  They stay `logShift` apart as
long as every save is clear, and what each of them holds then is the contents that the
saves have made.  From an erased flash saves are clear as long as both logs have room.
Without one of the conditions the two logs part, and a board is given for each.
-/
import SwiftAcu.Proofs.Log.Confine
import SwiftAcu.Proofs.Log.Shift

namespace SwiftAcu.AppLog

open NorFlash Runs

/-! ### Runs -/

def LogKind.other : LogKind → LogKind
  | .opt => .warn
  | .warn => .opt

/-- The controller, and the contents of its logs. -/
structure Twin where
  board : Board
  contents : Contents

/-- The board after the first of the two saves. -/
def Twin.half (s : Twin) (a : LogKind × Save) : Board := (logSave2Flash s.board a.1 a.2).2

/-- The same record is saved to both logs, first to the one that is named. -/
def bothStep (s : Twin) (a : LogKind × Save) : Twin where
  board := (logSave2Flash (s.half a) a.1.other a.2).2
  contents := s.contents.save s.board.commStat s.board.optLogInfo a.2

/-- The two saves return the same. -/
def SameRet (s : Twin) (a : LogKind × Save) : Prop :=
  (logSave2Flash s.board a.1 a.2).1 = (logSave2Flash (s.half a) a.1.other a.2).1

/-- The warning log is the operation log moved up, and both hold the contents. -/
structure LogsShifted (s : Twin) : Prop where
  info : InfoShifted s.board.optLogInfo s.board.warnLogInfo
  format : Formatted s.contents
  flash : ChipShifted s.contents s.board.flash s.board.flash

/-- The save is clear, if the flash is linked. -/
def BothClear (s : Twin) (a : LogKind × Save) : Prop :=
  s.board.commStat ≠ commUnlink → Clear s.contents s.board.optLogInfo a.2

theorem sectors_opt : Sectors 0 logShift := ⟨by decide, by decide, by decide⟩

theorem sectors_warn : Sectors logShift (2 * logShift) := ⟨by decide, by decide, by decide⟩

section
variable {L : Contents} {info info' : LogInfo} {c c' : FlashChip} {a : Save} {commStat : UInt8}

/-- A clear save of either log leaves the other log alone. -/
theorem save2Flash_apart (h : InfoShifted info info') (hchip : ChipShifted L c c')
    (hlen : a.buff.length ≤ 230) (hc : commStat ≠ commUnlink → Clear L info a) :
    (∀ x, logShift ≤ x →
      (save2Flash optRegion commStat info c a.now a.buff).2.2.mem x = c.mem x) ∧
      ∀ x < logShift,
        (save2Flash warnRegion commStat info' c' a.now a.buff).2.2.mem x = c'.mem x := by
  by_cases hlink : commStat = commUnlink
  · rw [save2Flash, save2Flash, if_pos hlink, if_pos hlink]
    exact ⟨fun _ _ => rfl, fun _ _ => rfl⟩
  have hclear := hc hlink
  have hin := hclear.inside
  have hend : optRegion.dataEnd = logShift := rfl
  have hshift : logShift = 3072000 := rfl
  have hfrom := le_reserve L (nextDataAddr optRegion info) (a.buff.length + 26)
  rw [← Contents.room] at hfrom
  obtain ⟨hplace, hplace', -⟩ := reserve_shift hchip (by omega) (hend ▸ hin) hclear.test
  rw [← nextDataAddr_shift h hclear.next, ← roomFor] at hplace'
  rw [← roomFor] at hplace
  rw [← Contents.room] at hplace hplace'
  obtain ⟨hsyslt, hsys⟩ := nextInfo_sys_shift h a.buff (L.room info a).1 hclear.sys
  constructor
  · intro x hx
    refine sectors_opt.save2Flash hchip.weak hlink ⟨Nat.zero_le _, by omega⟩ ?_
      ⟨Nat.zero_le _, ?_⟩ (Or.inr hx)
    · rw [hplace]
      omega
    · rw [hplace]
      omega
  · intro x hx
    have hnext := nextDataAddr_shift h hclear.next
    refine sectors_warn.save2Flash hchip.weak' hlink ⟨by omega, by omega⟩ ?_ ?_ (Or.inl hx)
    · rw [hplace']
      omega
    · rw [hplace', hsys]
      omega

end

/-- **A clear save** returns the same from both logs, and keeps them shifted. -/
theorem LogsShifted.step {s : Twin} (h : LogsShifted s) {a : LogKind × Save}
    (hlen : a.2.buff.length ≤ 230) (hc : BothClear s a) :
    SameRet s a ∧ LogsShifted (bothStep s a) := by
  obtain ⟨b, L⟩ := s
  obtain ⟨k, a⟩ := a
  obtain ⟨hinfo, hformat, hflash⟩ := h
  dsimp only at hinfo hformat hflash hlen hc
  have hsaved := hformat.save b.commStat b.optLogInfo a
  have hhalf := save2Flash_shift hinfo hflash hlen hc
  have hapart := save2Flash_apart hinfo hflash hlen hc
  cases k with
  | opt =>
      -- The warning log is saved to on the flash that the operation log has left.
      have hchip : ChipShifted L b.flash
          (save2Flash optRegion b.commStat b.optLogInfo b.flash a.now a.buff).2.2 :=
        { weak := hflash.weak
          weak' := hhalf.2.2.weak
          mem := fun x hx => ⟨(hflash.mem x hx).1,
            (hapart.1 (x + logShift) (by omega)).trans (hflash.mem x hx).2⟩ }
      obtain ⟨hret, hinfo₂, hchip₂⟩ := save2Flash_shift hinfo hchip hlen hc
      have hapart₂ := save2Flash_apart hinfo hchip hlen hc
      exact ⟨hret.symm, hinfo₂, hsaved,
        { weak := hchip₂.weak'
          weak' := hchip₂.weak'
          mem := fun x hx => ⟨(hapart₂.2 x hx).trans (hchip₂.mem x hx).1, (hchip₂.mem x hx).2⟩ }⟩
  | warn =>
      have hchip : ChipShifted L
          (save2Flash warnRegion b.commStat b.warnLogInfo b.flash a.now a.buff).2.2 b.flash :=
        { weak := hhalf.2.2.weak'
          weak' := hflash.weak
          mem := fun x hx => ⟨(hapart.2 x hx).trans (hflash.mem x hx).1, (hflash.mem x hx).2⟩ }
      obtain ⟨hret, hinfo₂, hchip₂⟩ := save2Flash_shift hinfo hchip hlen hc
      have hapart₂ := save2Flash_apart hinfo hchip hlen hc
      exact ⟨hret, hinfo₂, hsaved,
        { weak := hchip₂.weak
          weak' := hchip₂.weak
          mem := fun x hx => ⟨(hchip₂.mem x hx).1,
            (hapart₂.1 (x + logShift) (by omega)).trans (hchip₂.mem x hx).2⟩ }⟩

/-! ### Saves that find room -/

/-- `[a, b)` is blank in both logs. -/
def Contents.BothBlank (L : Contents) (a b : Nat) : Prop :=
  Blank L.opt a b ∧ Blank L.warn a b

section
variable {L : Contents} {a b : Nat} {cells : List LayoutByte}

theorem Contents.BothBlank.mono (h : L.BothBlank a b) {a' b' : Nat} (ha : a ≤ a') (hb : b' ≤ b) :
    L.BothBlank a' b' :=
  ⟨h.1.mono ha hb, h.2.mono ha hb⟩

theorem Contents.BothBlank.erase (h : L.BothBlank a b) (e : Nat) :
    Contents.BothBlank (eraseSector 4096 L e) a b := by
  rw [Contents.BothBlank, opt_eraseSector, warn_eraseSector]
  exact ⟨h.1.eraseSector 4096 e, h.2.eraseSector 4096 e⟩

/-- Programming behind the range leaves it blank. -/
theorem Contents.BothBlank.program (h : L.BothBlank a b) {e : Nat} (he : b ≤ e) :
    Contents.BothBlank (program L e cells) a b := by
  refine ⟨fun x hlo hhi => ?_, fun x hlo hhi => ?_⟩
  · rw [Contents.opt, program_outside L (Or.inl (by omega))]
    exact h.1 x hlo hhi
  · rw [Contents.warn, program_outside L (Or.inl (by omega))]
    exact h.2 x hlo hhi

/-- Blank flash takes the cells, and comes to the same in both logs. -/
theorem Contents.BothBlank.takes (cells : List LayoutByte) (h : L.BothBlank a (a + cells.length)) :
    Alike L a cells ∧ L.Verifies a cells := by
  refine ⟨fun i hi => Or.inl ⟨h.1 _ (by omega) (by omega), h.2 _ (by omega) (by omega)⟩, ?_⟩
  have hlen : (cells.map (LayoutByte.read 0)).length = cells.length := List.length_map ..
  rw [Contents.Verifies, ← hlen, readRange_eq_iff]
  intro i hi
  have hi' : i < cells.length := hlen ▸ hi
  have hblank := h.1 (a + i) (by omega) (by omega)
  have hblank' := h.2 (a + i) (by omega) (by omega)
  have hcell : prog (L (a + i)) cells[i] = cells[i] := if_pos ⟨hblank, hblank'⟩
  rw [Contents.opt, program_inside L a hi', hcell, List.getElem_map]

/-- Where the rest of the sub-sector is blank, the record goes. -/
theorem Contents.BothBlank.reserve (h : L.BothBlank a (sectorEnd a)) {sz : Nat} (hsz : sz ≤ 4096)
    (hlim : a + sz < 2 ^ 32) :
    (L.reserve a sz).1 = a ∧ (L.reserve a sz).2.BothBlank a (a + sz) := by
  have hopt := (testBlank_iff L.opt hsz hlim).mpr (h.1.mono (Nat.le_refl a) (Nat.min_le_right _ _))
  have hwarn :=
    (testBlank_iff L.warn hsz hlim).mpr (h.2.mono (Nat.le_refl a) (Nat.min_le_right _ _))
  have hready : Contents.BothBlank
      (if subSector (a + sz) ≠ subSector a then eraseSector 4096 L (a + sz) else L) a (a + sz) := by
    rw [Contents.BothBlank]
    split
    · next hcross =>
        rw [if_pos hcross] at hopt hwarn
        rw [opt_eraseSector, warn_eraseSector]
        exact ⟨hopt, hwarn⟩
    · next hcross =>
        rw [if_neg hcross] at hopt hwarn
        exact ⟨hopt, hwarn⟩
  unfold Contents.reserve
  dsimp only
  generalize (if subSector (a + sz) ≠ subSector a then eraseSector 4096 L (a + sz) else L) = L₀
    at hready ⊢
  have hread : (readRange (Contents.opt L₀) a sz).all (· == 0xFF) = true := by
    rw [List.all_eq_true]
    intro x hx
    rw [readRange_all_erased_iff.mpr hready.1 x hx]
    rfl
  rw [if_pos hread]
  exact ⟨rfl, hready⟩

end

/-- **A save that finds blank flash in both logs is clear.** -/
theorem clear_of_blank {L : Contents} {info : LogInfo} {a : Save} (hlen : a.buff.length ≤ 230)
    (hnext : info.logTotalNum ≠ 0 → u32 (info.currlogAddr + info.currlogSize) + logShift < 2 ^ 32)
    (hsys : 1 < u32 (info.logTotalNum + 1) →
      u32 (info.logSysAddr + logSysRecordSize) + logShift < 2 ^ 32)
    (hroom : nextDataAddr optRegion info + (a.buff.length + 26) < optRegion.dataEnd)
    (hdata : L.BothBlank (nextDataAddr optRegion info) (sectorEnd (nextDataAddr optRegion info)))
    {s : Nat} (hs : (nextInfo optRegion info a.buff (nextDataAddr optRegion info)).logSysAddr = s)
    (hbelow : s + 30 ≤ nextDataAddr optRegion info) (hslot : L.BothBlank s (s + 30)) :
    Clear L info a := by
  have hend : optRegion.dataEnd = 3072000 := rfl
  obtain ⟨hplace, hblank⟩ := hdata.reserve (show a.buff.length + 26 ≤ 4096 by omega) (by omega)
  rw [← Contents.room] at hplace hblank
  have hrecorded : (L.recorded info a).logSysAddr = s := by
    rw [Contents.recorded, hplace, hs]
  have hrecord : Alike (L.room info a).2 (L.room info a).1 (dataCells info a) := by
    rw [hplace]
    exact (Contents.BothBlank.takes _ (hblank.mono (Nat.le_refl _) (by rw [length_dataCells]))).1
  have hready : (L.room info a).2.BothBlank s (s + 30) := by
    unfold Contents.room Contents.reserve
    dsimp only
    split
    all_goals split
    · exact hslot.erase _
    · exact (hslot.erase _).erase _
    · exact hslot
    · exact hslot.erase _
  have hdataSlot : ((L.writeData info a).slotReady (L.recorded info a)).BothBlank s (s + 30) := by
    have hwritten : (L.writeData info a).BothBlank s (s + 30) := by
      unfold Contents.writeData
      exact hready.program (by omega)
    unfold Contents.slotReady
    split
    · exact hwritten.erase _
    · exact hwritten
  have htakes := Contents.BothBlank.takes (infoCells (L.recorded info a)) hdataSlot
  exact
    { next := hnext
      sys := hsys
      test := iff_of_true (hdata.1.mono (Nat.le_refl _) (Nat.min_le_right _ _))
        (hdata.2.mono (Nat.le_refl _) (Nat.min_le_right _ _))
      inside := by rwa [hplace]
      record := hrecord
      slots := fun _ =>
        { slot := by
            rw [hrecorded]
            exact htakes.1
          retry := fun hfail => by
            rw [hrecorded] at hfail
            exact absurd htakes.2 hfail } }

/-! ### From an erased flash -/

/-- Both logs have room for the record. -/
def BothRoom (s : Twin) (a : LogKind × Save) : Prop := ∀ k, RoomFor s.board (k, a.2)

/-- Both logs are ready, and they are shifted. -/
structure TwinReady (s : Twin) : Prop where
  ready : BothReady s.board
  shifted : LogsShifted s

/-- The controller after `APP_LOG_Init` on an erased flash. -/
def bootTwin : Twin := ⟨bootBoard, fun _ => .byte 0xFF⟩

theorem twinReady_boot : TwinReady bootTwin where
  ready := bothReady_boot
  shifted :=
    { info := by constructor <;> decide
      format := .bytes fun _ => 0xFF
      flash := ⟨rfl, rfl, fun _ _ => ⟨rfl, rfl⟩⟩ }

/-- A save to the one log leaves the other its room. -/
theorem roomFor_half {b : Board} (hb : BothReady b) {k k' : LogKind} (hk : k' ≠ k) {a : Save}
    (ha : a.Small) (h : RoomFor b (k', a)) : RoomFor (logSave2Flash b k a).2 (k', a) := by
  obtain ⟨c₁, c₂, new₁, new₂, ht⟩ := hb.trace k ha
  rw [hb.save_eq ht]
  unfold RoomFor
  dsimp only
  rw [Board.saved_other b hk]
  exact h

theorem slotAddr_shift (i : Nat) : slotAddr warnRegion i = slotAddr optRegion i + logShift := by
  have hbegin : warnRegion.infoBegin = optRegion.infoBegin + logShift := rfl
  rw [slotAddr, slotAddr, hbegin, Nat.add_right_comm]

/-- What is blank in both halves of the flash is blank in the contents. -/
theorem ChipShifted.bothBlank {L : Contents} {c : FlashChip} (h : ChipShifted L c c) {a b : Nat}
    (hb : b ≤ logShift) (hopt : Blank c.mem a b)
    (hwarn : Blank c.mem (a + logShift) (b + logShift)) : L.BothBlank a b :=
  ⟨(h.mem.blank_iff hb).1.mp hopt, (h.mem.blank_iff hb).2.mp hwarn⟩

/-- **A save for which both logs have room is clear**, and leaves both ready. -/
theorem TwinReady.step {s : Twin} (h : TwinReady s) {a : LogKind × Save} (ha : a.2.Small)
    (hroom : BothRoom s a) : BothClear s a ∧ TwinReady (bothStep s a) := by
  obtain ⟨hready, hshifted⟩ := h
  have hclear : BothClear s a := by
    intro hlink
    have hinv : LogInv optRegion s.board.optLogInfo s.board.flash.mem := hready.inv .opt
    have hinv' : LogInv warnRegion s.board.warnLogInfo s.board.flash.mem := hready.inv .warn
    have hnextEnd : nextAddr s.board.optLogInfo < optRegion.dataEnd := hready.next .opt
    obtain ⟨hend, hlast⟩ : nextDataAddr optRegion s.board.optLogInfo + (a.2.buff.length + 26) <
        optRegion.dataEnd ∧ s.board.optLogInfo.logTotalNum + 1 < 32000 := hroom .opt
    have hland : landing optRegion s.board.optLogInfo =
      nextDataAddr optRegion s.board.optLogInfo := hready.landing_eq .opt
    have hto : landing optRegion s.board.optLogInfo = nextAddr s.board.optLogInfo := by
      rw [landing, if_neg (by omega)]
    have hshift : logShift = 3072000 := rfl
    have hbegin : optRegion.dataBegin = 1024000 := rfl
    have hinfo : optRegion.infoBegin = 0 := rfl
    have hinfoEnd : optRegion.infoEnd = 1024000 := rfl
    have hinfoEnd' : warnRegion.infoEnd = optRegion.infoEnd + logShift := rfl
    have hdataEnd : optRegion.dataEnd = 3072000 := rfl
    have hlow := hinv.low
    have haddr : s.board.warnLogInfo.currlogAddr = s.board.optLogInfo.currlogAddr + logShift := by
      rw [hshifted.info.addr]
      rw [nextAddr] at hnextEnd
      exact u32_of_lt (by omega)
    have hnext' : nextAddr s.board.warnLogInfo = nextAddr s.board.optLogInfo + logShift := by
      rw [nextAddr, nextAddr, haddr, hshifted.info.size, Nat.add_right_comm]
    have hblank' := hinv'.blank
    rw [hnext', sectorEnd, shift_div] at hblank'
    have hahead' := hinv'.ahead
    rw [slotAddr_shift, hshifted.info.total] at hahead'
    have hsectorEnd : sectorEnd (nextAddr s.board.optLogInfo) ≤ logShift := by
      rw [sectorEnd]
      omega
    refine clear_of_blank (Nat.le_trans ha (by decide)) (fun _ => ?_) (fun _ => ?_) hend ?_
      (s := slotAddr optRegion s.board.optLogInfo.logTotalNum) ?_ ?_ ?_
    · rw [nextAddr] at hnextEnd
      rw [u32_of_lt (by omega)]
      omega
    · rw [hinv.sys, slotAddr, logSysRecordSize, u32_of_lt (by omega)]
      omega
    · rw [← hland, hto]
      refine hshifted.flash.bothBlank hsectorEnd hinv.blank (hblank'.mono (Nat.le_refl _) ?_)
      rw [sectorEnd]
      omega
    · rw [← hland]
      exact savedInfo_sys fits_optRegion hinv (by omega) a.2.buff
    · rw [← hland, hto, slotAddr, nextAddr]
      omega
    · refine hshifted.flash.bothBlank ?_ (hinv.ahead.mono (Nat.le_refl _) ?_)
        (hahead'.mono (Nat.le_refl _) ?_)
      all_goals rw [slotAddr]; omega
  refine ⟨hclear, ?_, (hshifted.step (Nat.le_trans ha (by decide)) hclear).2⟩
  obtain ⟨k, a⟩ := a
  have hhalf := hready.step ha (hroom k)
  have hother : k.other ≠ k := by cases k <;> decide
  exact hhalf.step ha (roomFor_half hready hother ha (hroom k.other))

/-! ### The result -/

/--
**The two logs agree.**  From any state of the two logs, on one flash, in which the warning
log is the operation log shifted by `0x2EE000`, any number of clear saves of a record to
both return the same, and leave the warning log shifted: both hold the contents that the
saves have made.
-/
theorem warnLog_shifts_optLog {s : Twin} (h : LogsShifted s) {calls : List (LogKind × Save)}
    (hlen : ∀ a ∈ calls, a.2.buff.length ≤ 230) (hclear : AllSteps bothStep BothClear s calls) :
    AllSteps bothStep SameRet s calls ∧ LogsShifted (run bothStep s calls) := by
  induction calls generalizing s with
  | nil => exact ⟨trivial, h⟩
  | cons a calls ih =>
      obtain ⟨hret, hnext⟩ := h.step (hlen a (by simp)) hclear.1
      obtain ⟨hrets, hend⟩ := ih hnext (fun a ha => hlen a (by simp [ha])) hclear.2
      exact ⟨⟨hret, hrets⟩, hend⟩

/-! ### Equal saves -/

/-- Both logs go on by the record. -/
theorem TwinReady.logInfo {s : Twin} (h : TwinReady s) {a : LogKind × Save} (ha : a.2.Small)
    (hroom : BothRoom s a) (k : LogKind) :
    (bothStep s a).board.logInfo k = savedInfo k.region (s.board.logInfo k) a.2.buff := by
  obtain ⟨first, a⟩ := a
  have hother : first.other ≠ first := by cases first <;> decide
  have hhalf : BothReady (logSave2Flash s.board first a).2 := h.ready.step ha (hroom first)
  obtain ⟨c₁, c₂, new₁, new₂, ht⟩ := h.ready.trace first ha
  obtain ⟨c₁', c₂', new₁', new₂', ht'⟩ := hhalf.trace first.other ha
  have hsaved := h.ready.save_eq ht
  unfold bothStep Twin.half
  dsimp only
  rw [hhalf.save_eq ht', hsaved]
  dsimp only
  by_cases hk : k = first
  · rw [hk, Board.saved_other _ hother.symm, Board.saved_info]
  · have hk' : k = first.other := by
      cases k <;> cases first <;> first | rfl | exact absurd rfl hk
    rw [hk', Board.saved_info, Board.saved_other _ hother]

/-- After `n` equal saves both logs are ready, and have `n` records behind one another. -/
structure TwinAfter (a : LogKind × Save) (n : Nat) (s : Twin) : Prop where
  ready : TwinReady s
  total : ∀ k, (s.board.logInfo k).logTotalNum = n
  next : ∀ k, nextAddr (s.board.logInfo k) = k.region.dataBegin + n * (a.2.buff.length + 26)

theorem dataEnd_eq (k : LogKind) : k.region.dataEnd = k.region.dataBegin + 2048000 := by
  cases k <;> rfl

theorem TwinAfter.step {a : LogKind × Save} (ha : a.2.Small) {n : Nat} {s : Twin}
    (h : TwinAfter a n s) (hn : n + 1 < 32000) (hroom : (n + 1) * (a.2.buff.length + 26) < 2048000) :
    BothClear s a ∧ TwinAfter a (n + 1) (bothStep s a) := by
  rw [Nat.succ_mul] at hroom
  have hland (k : LogKind) : landing k.region (s.board.logInfo k) = nextAddr (s.board.logInfo k) := by
    have hnext := h.ready.ready.next k
    rw [landing, if_neg (by omega)]
  have hboth : BothRoom s a := by
    intro k
    have hnext := h.next k
    have hend := dataEnd_eq k
    unfold RoomFor
    dsimp only
    rw [← h.ready.ready.landing_eq k, hland k, h.total k]
    exact ⟨by omega, hn⟩
  obtain ⟨hclear, hready⟩ := h.ready.step ha hboth
  refine ⟨hclear, hready, fun k => ?_, fun k => ?_⟩
  · rw [h.ready.logInfo ha hboth k, savedInfo_total (h.ready.ready.total k), h.total k]
  · rw [h.ready.logInfo ha hboth k, nextAddr, savedInfo_addr, savedInfo_size, hland k, h.next k,
      Nat.succ_mul, Nat.add_assoc]

/-- **Equal saves are clear** until one of the logs has no room for another. -/
theorem twinAfter_replicate {a : LogKind × Save} (ha : a.2.Small) :
    ∀ n, n < 32000 → n * (a.2.buff.length + 26) < 2048000 →
      AllSteps bothStep BothClear bootTwin (List.replicate n a) ∧
        TwinAfter a n (run bothStep bootTwin (List.replicate n a)) := by
  intro n
  induction n with
  | zero =>
      intro _ _
      refine ⟨trivial, twinReady_boot, fun k => ?_, fun k => ?_⟩
      · cases k <;> rfl
      · rw [Nat.zero_mul]
        cases k <;> rfl
  | succ n ih =>
      intro hn hroom
      have hless : n * (a.2.buff.length + 26) < 2048000 :=
        Nat.lt_of_le_of_lt (Nat.mul_le_mul_right _ (Nat.le_succ n)) hroom
      obtain ⟨hall, hafter⟩ := ih (by omega) hless
      obtain ⟨hclear, hnext⟩ := hafter.step ha hn hroom
      rw [List.replicate_succ', allSteps_concat, run_concat]
      exact ⟨⟨hall, hclear⟩, hnext⟩

/-- A save of 16 bytes, first to the warning log. -/
def statusSave : LogKind × Save :=
  (.warn, ⟨⟨2018, 7, 1, 12, 30, 0⟩, (List.range 16).map UInt8.ofNat⟩)

/-- One less of them than the info rings have slots. -/
theorem warnLog_shifts_optLog_boot :
    AllSteps bothStep SameRet bootTwin (List.replicate 31999 statusSave) ∧
      LogsShifted (run bothStep bootTwin (List.replicate 31999 statusSave)) := by
  have hsmall : statusSave.2.Small := by decide
  have hlen : statusSave.2.buff.length = 16 := rfl
  obtain ⟨hclear, -⟩ := twinAfter_replicate hsmall 31999 (by decide) (by rw [hlen]; decide)
  refine warnLog_shifts_optLog twinReady_boot.shifted (fun a ha => ?_) hclear
  rw [List.eq_of_mem_replicate ha]
  exact Nat.le_trans hsmall (by decide)

/-! ### Where the two logs part -/

/-- `info` with its addresses shifted. -/
def shiftInfo (info : LogInfo) : LogInfo :=
  { info with
    logSysAddr := u32 (info.logSysAddr + logShift)
    currlogAddr := u32 (info.currlogAddr + logShift)
    beforelogAddr := u32 (info.beforelogAddr + logShift) }

theorem infoShifted_shiftInfo (info : LogInfo) : InfoShifted info (shiftInfo info) := by
  constructor
  case beforeAddr =>
    left
    rw [shiftInfo]
  all_goals rw [shiftInfo]

/-- A flash that holds the contents in both logs. -/
def twinMem (L : Contents) (x : Nat) : UInt8 :=
  if x < logShift then L.opt x else L.warn (x - logShift)

theorem shifted_twinMem (L : Contents) : Shifted L (twinMem L) (twinMem L) := by
  intro x hx
  have hge : ¬x + logShift < logShift := Nat.not_lt.mpr (Nat.le_add_left _ _)
  rw [twinMem, twinMem, if_pos hx, if_neg hge, Nat.add_sub_cancel]
  exact ⟨rfl, rfl⟩

/-- A controller whose two logs are the same `logShift` apart. -/
def twin (info : LogInfo) (L : Contents) : Twin where
  board :=
    { commStat := commLink
      optLogInfo := info
      warnLogInfo := shiftInfo info
      flash := { erasedChip with mem := twinMem L } }
  contents := L

theorem logsShifted_twin (info : LogInfo) {L : Contents} (h : Formatted L) :
    LogsShifted (twin info L) where
  info := infoShifted_shiftInfo info
  format := h
  flash := ⟨rfl, rfl, shifted_twinMem L⟩

/-- One save takes the two logs apart. -/
def Parts (s : Twin) (a : LogKind × Save) : Prop := LogsShifted s ∧ ¬LogsShifted (bothStep s a)

/-- After one record of 26 bytes. -/
def oneRecord : LogInfo where
  logSysAddr := 0
  logTotalNum := 1
  currlogAddr := 0xFA000
  currlogSize := 26
  currlogIndex := 1
  beforelogAddr := 0xFA000
  beforelogIndex := 1
  beforelogSize := 26

/-- No log at all. -/
def noLog : Contents := fun _ => .byte 0xFF

theorem formatted_noLog : Formatted noLog := .bytes fun _ => 0xFF

/-- One byte of the second info slot is not blank. -/
def usedSlot : Contents := fun x => .byte (if x = 42 then 0x0F else 0xFF)

/-- An old record, the last two bytes of a sub-sector being the low half of the address
`0x0000FFFF` behind it. -/
def oldRecord : Contents :=
  program noLog 0xFAFEC (recordCells 26 1 ⟨2018, 1, 1, 0, 0, 0⟩ [] 0x0000FFFF 26)

/-- The slot of the first record. -/
def firstSlot : Contents := program noLog 0 (infoCells oneRecord)

/--
The save after an erased flash leaves two different bytes that are no address, the
checksums of the records.  The other boards fall short of one condition of `Clear` each:
the slot is not blank, one of two addresses does not fit in 32 bits once shifted, the
tested range cuts an address, the record of the operation log reaches the warning log.
-/
theorem shifted_logs_part :
    (bothStep bootTwin (.opt, emptySave)).board.flash.mem (0xFA000 + 24) ≠
        (bothStep bootTwin (.opt, emptySave)).board.flash.mem (0xFA000 + 24 + logShift) ∧
      Parts (twin oneRecord usedSlot) (.opt, emptySave) ∧
      Parts (twin { oneRecord with currlogAddr := 0xFFF00000 } noLog) (.opt, emptySave) ∧
      Parts (twin { oneRecord with logSysAddr := 0xFFF00000 } noLog) (.opt, emptySave) ∧
      Parts (twin { oneRecord with currlogAddr := 0xFAFE4 } oldRecord) (.opt, emptySave) ∧
      Parts (twin { oneRecord with currlogAddr := 0x2EDFCC } firstSlot) (.opt, emptySave) := by
  have hused : Formatted usedSlot := .bytes fun x => if x = 42 then 0x0F else 0xFF
  refine ⟨by decide +kernel, ⟨logsShifted_twin _ hused, fun h => ?_⟩,
    ⟨logsShifted_twin _ formatted_noLog, fun h => ?_⟩,
    ⟨logsShifted_twin _ formatted_noLog, fun h => ?_⟩,
    ⟨logsShifted_twin _ (formatted_noLog.record ..), fun h => ?_⟩,
    ⟨logsShifted_twin _ (formatted_noLog.slot ..), fun h => ?_⟩⟩
  · exact absurd h.info.sys (by decide +kernel)
  · exact absurd h.info.addr (by decide +kernel)
  · exact absurd h.info.sys (by decide +kernel)
  · exact absurd h.info.addr (by decide +kernel)
  · exact absurd (h.flash.mem 0 (by decide)).2 (by decide +kernel)

end SwiftAcu.AppLog
