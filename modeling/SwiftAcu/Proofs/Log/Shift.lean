/-
The warning log as the operation log moved up.

The two save functions are one text over two sets of addresses.  What that text does to
the contents of a log is said once, without a base, and this module says when a save of
either log does just that at its own place.  It is wherever the addresses do not run out
of 32 bits, the test for blank flash comes out the same, the record ends inside its data
region, and the bytes that differ between the two records (addresses and checksums) are
programmed into blank flash.
-/
import SwiftAcu.Proofs.Log.Relocate
import SwiftAcu.Acu.LogRun
import SwiftAcu.Proofs.Log.Invariant

namespace SwiftAcu.AppLog

open NorFlash Runs

/-! ### Related states -/

/-- `info'` is `info` with its addresses shifted.  A `beforelogAddr` that was never set is 0 in
both. -/
structure InfoShifted (info info' : LogInfo) : Prop where
  sys : info'.logSysAddr = u32 (info.logSysAddr + logShift)
  total : info'.logTotalNum = info.logTotalNum
  addr : info'.currlogAddr = u32 (info.currlogAddr + logShift)
  size : info'.currlogSize = info.currlogSize
  index : info'.currlogIndex = info.currlogIndex
  beforeAddr : info'.beforelogAddr = u32 (info.beforelogAddr + logShift) ∨
    (info.logTotalNum = 0 ∧ info.beforelogAddr = 0 ∧ info'.beforelogAddr = 0)
  beforeIndex : info'.beforelogIndex = info.beforelogIndex
  beforeSize : info'.beforelogSize = info.beforelogSize

/-! ### The save in its parts -/

/-- The room a save makes for its record. -/
def roomFor (r : LogRegion) (info : LogInfo) (c : FlashChip) (buff : List UInt8) :
    Nat × FlashChip := reserve c (nextDataAddr r info) (buff.length + 26)

/-- The flash on which the slot of `info` is programmed. -/
def slotReady (info : LogInfo) (c : FlashChip) : FlashChip :=
  if subSector (u32 (info.logSysAddr + logSysRecordSize)) ≠ subSector info.logSysAddr then
    c.b3SubSectorErase (u32 (info.logSysAddr + logSysRecordSize))
  else c

/-- What a save takes RAM to when its record has been programmed at `flash_addr`. -/
def nextInfo (r : LogRegion) (info : LogInfo) (buff : List UInt8) (flash_addr : Nat) : LogInfo :=
  advance r (preload r info (buff.length + 26)) flash_addr (nextIndex info) (buff.length + 26)

theorem writeData_eq (r : LogRegion) (info : LogInfo) (c : FlashChip) (now : SysDateTime)
    (buff : List UInt8) :
    writeData r info c now buff =
      (((roomFor r info c buff).2.b3WriteDataBuff (roomFor r info c buff).1
          (dataRecord r info now buff)).1, (roomFor r info c buff).1,
        ((roomFor r info c buff).2.b3WriteDataBuff (roomFor r info c buff).1
          (dataRecord r info now buff)).2) := by
  rw [writeData, dataRecord, nextIndex_preload]
  rfl

/-! ### The save, on the contents -/

/-- The bytes of the record of a save. -/
def dataCells (info : LogInfo) (a : Save) : List LayoutByte :=
  let prev := preload optRegion info (a.buff.length + 26)
  recordCells (a.buff.length + 26) (nextIndex info) a.now a.buff prev.currlogAddr prev.currlogSize

/-- Room is made for `sz` bytes at `a`, or one sub-sector up. -/
def Contents.reserve (L : Contents) (a sz : Nat) : Nat × Contents :=
  let L : Contents := if subSector (a + sz) ≠ subSector a then eraseSector 4096 L (a + sz) else L
  if (readRange L.opt a sz).all (· == 0xFF) then (a, L)
  else (a + spiFlashSectorSize, eraseSector 4096 L (a + spiFlashSectorSize))

/-- Room is made for the record. -/
def Contents.room (L : Contents) (info : LogInfo) (a : Save) : Nat × Contents :=
  L.reserve (nextDataAddr optRegion info) (a.buff.length + 26)

/-- The sub-sector after the slot is erased if the slot is the last of its own. -/
def Contents.slotReady (L : Contents) (info : LogInfo) : Contents :=
  if subSector (info.logSysAddr + logSysRecordSize) ≠ subSector info.logSysAddr then
    eraseSector 4096 L (info.logSysAddr + logSysRecordSize)
  else L

/-- The slot is programmed, and once more behind it where it does not read back. -/
def Contents.writeInfo (L : Contents) (info : LogInfo) : Contents :=
  let slot := program (L.slotReady info) info.logSysAddr (infoCells info)
  if (L.slotReady info).Verifies info.logSysAddr (infoCells info) then slot
  else program slot (info.logSysAddr + logSysRecordSize) (infoCells info)

/-- The record is programmed where there is room for it. -/
def Contents.writeData (L : Contents) (info : LogInfo) (a : Save) : Contents :=
  program (L.room info a).2 (L.room info a).1 (dataCells info a)

/-- The record reads back. -/
def Contents.Recorded (L : Contents) (info : LogInfo) (a : Save) : Prop :=
  (L.room info a).2.Verifies (L.room info a).1 (dataCells info a)

instance (L : Contents) (info : LogInfo) (a : Save) : Decidable (L.Recorded info a) :=
  inferInstanceAs (Decidable (Contents.Verifies _ _ _))

/-- The state of the log once the record is in the flash. -/
def Contents.recorded (L : Contents) (info : LogInfo) (a : Save) : LogInfo :=
  nextInfo optRegion info a.buff (L.room info a).1

/-- The contents after a save. -/
def Contents.save (L : Contents) (commStat : UInt8) (info : LogInfo) (a : Save) : Contents :=
  if commStat = commUnlink then L
  else if L.Recorded info a then (L.writeData info a).writeInfo (L.recorded info a)
  else L.writeData info a

section
variable {L : Contents}

theorem Formatted.reserve (h : Formatted L) (a sz : Nat) : Formatted (L.reserve a sz).2 := by
  have hcross : Formatted
      (if subSector (a + sz) ≠ subSector a then eraseSector 4096 L (a + sz) else L) := by
    split
    · exact h.erase (a + sz)
    · exact h
  unfold Contents.reserve
  dsimp only
  generalize (if subSector (a + sz) ≠ subSector a then eraseSector 4096 L (a + sz) else L) = L₀
    at hcross ⊢
  split
  · exact hcross
  · exact hcross.erase _

/-- Room is made where it was looked for, or above. -/
theorem le_reserve (L : Contents) (a sz : Nat) : a ≤ (L.reserve a sz).1 := by
  unfold Contents.reserve
  dsimp only
  generalize (if subSector (a + sz) ≠ subSector a then eraseSector 4096 L (a + sz) else L) = L₀
  split
  · exact Nat.le_refl a
  · exact Nat.le_add_right a _

theorem Formatted.writeInfo (h : Formatted L) (info : LogInfo) : Formatted (L.writeInfo info) := by
  have hready : Formatted (L.slotReady info) := by
    unfold Contents.slotReady
    split
    · exact h.erase _
    · exact h
  unfold Contents.writeInfo
  dsimp only
  split
  · exact hready.slot _ info
  · exact (hready.slot _ info).slot _ info

/-- What a save adds to the contents is a data record and info slots. -/
theorem Formatted.save (h : Formatted L) (commStat : UInt8) (info : LogInfo) (a : Save) :
    Formatted (L.save commStat info a) := by
  have hdata : Formatted (L.writeData info a) := (h.reserve _ _).record ..
  unfold Contents.save
  split
  · exact h
  · split
    · exact hdata.writeInfo _
    · exact hdata

end

/-! ### Where the two can part -/

/-- The bytes a save tests for blankness before it has erased anything. -/
def TestBlank (m : Nat → UInt8) (a sz : Nat) : Prop := Blank m a (min (a + sz) (sectorEnd a))

/-- The slot, and the slot after it where that is tried, come to the same in both logs. -/
structure SlotsAlike (L : Contents) (info : LogInfo) : Prop where
  slot : Alike (L.slotReady info) info.logSysAddr (infoCells info)
  retry : ¬(L.slotReady info).Verifies info.logSysAddr (infoCells info) →
    Alike (program (L.slotReady info) info.logSysAddr (infoCells info))
      (info.logSysAddr + logSysRecordSize) (infoCells info)

/-- Nothing makes the save come out differently for the two logs, and each log keeps to its part
of the flash. -/
structure Clear (L : Contents) (info : LogInfo) (a : Save) : Prop where
  next : info.logTotalNum ≠ 0 → u32 (info.currlogAddr + info.currlogSize) + logShift < 2 ^ 32
  sys : 1 < u32 (info.logTotalNum + 1) →
    u32 (info.logSysAddr + logSysRecordSize) + logShift < 2 ^ 32
  test : TestBlank L.opt (nextDataAddr optRegion info) (a.buff.length + 26) ↔
    TestBlank L.warn (nextDataAddr optRegion info) (a.buff.length + 26)
  inside : (L.room info a).1 + (a.buff.length + 26) < optRegion.dataEnd
  record : Alike (L.room info a).2 (L.room info a).1 (dataCells info a)
  slots : L.Recorded info a → SlotsAlike (L.writeData info a) (L.recorded info a)

/-! ### The data half -/

section
variable {L : Contents} {info info' : LogInfo} {c c' : FlashChip}

/-- A shifted address moves with its unshifted one as long as neither passes 32 bits. -/
theorem u32_shift_add {a s : Nat} (h : u32 (a + s) + logShift < 2 ^ 32) :
    u32 (u32 (a + logShift) + s) = u32 (a + s) + logShift := by
  rw [u32] at h ⊢
  rw [u32, u32, Nat.mod_add_mod, Nat.add_right_comm, ← Nat.mod_add_mod, Nat.mod_eq_of_lt h]

theorem nextDataAddr_shift (h : InfoShifted info info')
    (hnext : info.logTotalNum ≠ 0 → u32 (info.currlogAddr + info.currlogSize) + logShift < 2 ^ 32) :
    nextDataAddr warnRegion info' = nextDataAddr optRegion info + logShift := by
  unfold nextDataAddr
  rw [h.total]
  by_cases hz : info.logTotalNum = 0
  · rw [if_pos hz, if_pos hz]
    rfl
  · have hlim := hnext hz
    have hu : u32 (info'.currlogAddr + info'.currlogSize) =
        u32 (info.currlogAddr + info.currlogSize) + logShift := by
      rw [h.addr, h.size]
      exact u32_shift_add hlim
    have hend : warnRegion.dataEnd = optRegion.dataEnd + logShift := rfl
    have hbegin : warnRegion.dataBegin = optRegion.dataBegin + logShift := rfl
    rw [if_neg hz, if_neg hz, hu, hend, hbegin]
    dsimp only
    by_cases hge : optRegion.dataEnd ≤ u32 (info.currlogAddr + info.currlogSize)
    · rw [if_pos hge, if_pos (Nat.add_le_add_right hge logShift)]
    · rw [if_neg hge, if_neg (fun hc => hge (Nat.le_of_add_le_add_right hc))]

/-- After the erase of the next sub-sector the whole range is blank if the tested bytes were. -/
theorem testBlank_iff (m : Nat → UInt8) {a sz : Nat} (hsz : sz ≤ 4096) (hlim : a + sz < 2 ^ 32) :
    Blank (if subSector (a + sz) ≠ subSector a then eraseSector 4096 m (a + sz) else m) a
        (a + sz) ↔ TestBlank m a sz := by
  have hiff := subSector_ne_iff (a := a + sz) (b := a) hlim (by omega)
  have hend : sectorEnd a = (a / 4096 + 1) * 4096 := rfl
  unfold TestBlank
  by_cases hcross : (a + sz) / 4096 ≠ a / 4096
  · have hmin : min (a + sz) (sectorEnd a) = sectorEnd a := by omega
    rw [if_pos (hiff.mpr hcross), hmin]
    constructor
    · intro hb x hlo hhi
      have hx := hb x hlo (by omega)
      rwa [erase_outside m (by omega)] at hx
    · intro hb x hlo hhi
      by_cases hx : x < sectorEnd a
      · exact hb.eraseSector 4096 (a + sz) x hlo hx
      · exact erase_inside m (by omega)
  · have hmin : min (a + sz) (sectorEnd a) = a + sz := by omega
    rw [if_neg (fun hc => hcross (hiff.mp hc)), hmin]

/-- The tested bytes are blank in the operation log, and in the warning log. -/
theorem Shifted.blank_iff {m m' : Nat → UInt8} (h : Shifted L m m') {a b : Nat}
    (hb : b ≤ logShift) :
    (Blank m a b ↔ Blank L.opt a b) ∧ (Blank m' (a + logShift) (b + logShift) ↔ Blank L.warn a b) := by
  refine ⟨⟨fun hm x hlo hhi => ?_, fun hL x hlo hhi => ?_⟩,
    ⟨fun hm x hlo hhi => ?_, fun hL x hlo hhi => ?_⟩⟩
  · rw [← (h x (by omega)).1]
    exact hm x hlo hhi
  · rw [(h x (by omega)).1]
    exact hL x hlo hhi
  · rw [← (h x (by omega)).2]
    exact hm (x + logShift) (by omega) (by omega)
  · obtain ⟨y, rfl⟩ : ∃ y, x = y + logShift := ⟨x - logShift, by omega⟩
    rw [(h y (by omega)).2]
    exact hL y (by omega) (by omega)

/-- **Both saves make room at the same place.** -/
theorem reserve_shift (h : ChipShifted L c c') {a sz : Nat} (hsz : sz ≤ 300)
    (hin : (L.reserve a sz).1 + sz < logShift)
    (htest : TestBlank L.opt a sz ↔ TestBlank L.warn a sz) :
    (reserve c a sz).1 = (L.reserve a sz).1 ∧
      (reserve c' (a + logShift) sz).1 = (L.reserve a sz).1 + logShift ∧
      ChipShifted (L.reserve a sz).2 (reserve c a sz).2 (reserve c' (a + logShift) sz).2 := by
  have hshift : logShift = 3072000 := rfl
  have hend : a + sz < logShift :=
    Nat.lt_of_le_of_lt (Nat.add_le_add_right (le_reserve L a sz) sz) hin
  have hu : u32 (a + sz) = a + sz := u32_of_lt (by omega)
  have hu' : u32 (a + logShift + sz) = a + sz + logShift := by
    rw [Nat.add_right_comm]
    exact u32_of_lt (by omega)
  have hv : u32 (a + 4096) = a + 4096 := u32_of_lt (by omega)
  have hv' : u32 (a + logShift + 4096) = a + 4096 + logShift := by
    rw [Nat.add_right_comm]
    exact u32_of_lt (by omega)
  have hcross : subSector (a + sz + logShift) ≠ subSector (a + logShift) ↔
      subSector (a + sz) ≠ subSector a := by
    rw [subSector_ne_iff (by omega) (by omega), subSector_ne_iff (by omega) (by omega), shift_div,
      shift_div]
    omega
  have hopt := testBlank_iff L.opt (a := a) (show sz ≤ 4096 by omega) (by omega)
  have hwarn := testBlank_iff L.warn (a := a) (show sz ≤ 4096 by omega) (by omega)
  -- The contents and the flashes after the erase of the next sub-sector.
  unfold Contents.reserve at hin ⊢
  unfold reserve
  simp only [hu, hu', spiFlashSectorSize, hv, hv'] at hin ⊢
  set L₀ : Contents := if subSector (a + sz) ≠ subSector a then eraseSector 4096 L (a + sz) else L
    with hL₀
  set c₀ := if subSector (a + sz) ≠ subSector a then c.b3SubSectorErase (a + sz) else c with hc₀
  set c₀' := if subSector (a + sz + logShift) ≠ subSector (a + logShift) then
    c'.b3SubSectorErase (a + sz + logShift) else c' with hc₀'
  have h₀ : ChipShifted L₀ c₀ c₀' := by
    rw [hL₀, hc₀, hc₀']
    by_cases hc : subSector (a + sz) ≠ subSector a
    · rw [if_pos hc, if_pos hc, if_pos (hcross.mpr hc)]
      exact h.erase (by omega)
    · rw [if_neg hc, if_neg hc, if_neg (fun hc' => hc (hcross.mp hc'))]
      exact h
  have hL₀opt : Blank L₀.opt a (a + sz) ↔ TestBlank L.opt a sz := by
    rw [← hopt, hL₀]
    split
    · rw [opt_eraseSector]
    · rfl
  have hL₀warn : Blank L₀.warn a (a + sz) ↔ TestBlank L.warn a sz := by
    rw [← hwarn, hL₀]
    split
    · rw [warn_eraseSector]
    · rfl
  obtain ⟨hblank, hblank'⟩ := h₀.mem.blank_iff (a := a) (b := a + sz) (by omega)
  have hread : (readRange L₀.opt a sz).all (· == 0xFF) = true ↔ Blank L₀.opt a (a + sz) := by
    rw [List.all_eq_true, ← readRange_all_erased_iff]
    simp
  have hall : (c₀.b3ReadDataBuff a sz).all (· == 0xFF) = (readRange L₀.opt a sz).all (· == 0xFF) := by
    rw [Bool.eq_iff_iff, all_blank_iff c₀ (by omega), hread, hblank]
  have hall' : (c₀'.b3ReadDataBuff (a + logShift) sz).all (· == 0xFF) =
      (readRange L₀.opt a sz).all (· == 0xFF) := by
    rw [Bool.eq_iff_iff, all_blank_iff c₀' (by omega), hread, Nat.add_right_comm, hblank', hL₀warn,
      ← htest, hL₀opt]
  rw [hall, hall']
  by_cases htest : (readRange L₀.opt a sz).all (· == 0xFF) = true
  · simp only [if_pos htest]
    exact ⟨trivial, trivial, h₀⟩
  · simp only [if_neg htest] at hin ⊢
    exact ⟨trivial, trivial, h₀.erase (by omega)⟩

theorem dataBegin_shift : warnRegion.dataBegin = u32 (optRegion.dataBegin + logShift) := by decide

theorem preload_shift (h : InfoShifted info info') (log_size : Nat) :
    InfoShifted (preload optRegion info log_size) (preload warnRegion info' log_size) := by
  unfold preload
  rw [h.total]
  by_cases hz : info.logTotalNum = 0
  · rw [if_pos hz, if_pos hz]
    exact { h with total := rfl, addr := dataBegin_shift, size := rfl, index := rfl }
  · rw [if_neg hz, if_neg hz]
    exact h

theorem nextIndex_shift (h : InfoShifted info info') : nextIndex info' = nextIndex info := by
  rw [nextIndex, nextIndex, h.total, h.index]

/-- The two records are two readings of one. -/
theorem dataRecord_shift (h : InfoShifted info info') (a : Save) :
    dataRecord optRegion info a.now a.buff = (dataCells info a).map (LayoutByte.read 0) ∧
      dataRecord warnRegion info' a.now a.buff =
        (dataCells info a).map (LayoutByte.read logShift) := by
  have hpre := preload_shift h (a.buff.length + 26)
  unfold dataCells
  dsimp only
  rw [read_recordCells, read_recordCells, Nat.add_zero, record_u32]
  refine ⟨rfl, ?_⟩
  rw [dataRecord, nextIndex_shift h, hpre.addr, hpre.size]

theorem length_dataCells (info : LogInfo) (a : Save) :
    (dataCells info a).length = a.buff.length + 26 := by
  have hlen := congrArg List.length (read_recordCells 0 (a.buff.length + 26) (nextIndex info) a.now
    a.buff (preload optRegion info (a.buff.length + 26)).currlogAddr
    (preload optRegion info (a.buff.length + 26)).currlogSize)
  rwa [List.length_map, length_record] at hlen

/-- **The data half comes to the same for both logs.** -/
theorem writeData_shift (h : InfoShifted info info') (hchip : ChipShifted L c c') {a : Save}
    (hlen : a.buff.length ≤ 230) (hc : Clear L info a) :
    ((writeData optRegion info c a.now a.buff).1 = .SUCC ↔ L.Recorded info a) ∧
      (writeData warnRegion info' c' a.now a.buff).1 =
        (writeData optRegion info c a.now a.buff).1 ∧
      (writeData optRegion info c a.now a.buff).2.1 = (L.room info a).1 ∧
      (writeData warnRegion info' c' a.now a.buff).2.1 = (L.room info a).1 + logShift ∧
      ChipShifted (L.writeData info a) (writeData optRegion info c a.now a.buff).2.2
        (writeData warnRegion info' c' a.now a.buff).2.2 := by
  have hend : optRegion.dataEnd = logShift := rfl
  have hin := hc.inside
  rw [hend] at hin
  have hroom := reserve_shift hchip (by omega) hin hc.test
  rw [← nextDataAddr_shift h hc.next, ← roomFor, ← roomFor] at hroom
  obtain ⟨haddr, haddr', hroomchip⟩ := hroom
  obtain ⟨hbs, hbs'⟩ := dataRecord_shift h a
  obtain ⟨hsucc, hret, hwritten⟩ := hroomchip.write hbs hbs'
    (by rw [length_dataCells]; exact Nat.le_of_lt hin) hc.record
  rw [writeData_eq, writeData_eq]
  dsimp only
  rw [haddr, haddr']
  exact ⟨hsucc, hret, rfl, rfl, hwritten⟩

end

/-! ### The info half -/

section
variable {L : Contents} {info info' : LogInfo} {c c' : FlashChip}

/-- The next slot is at the same place of either ring. -/
theorem nextInfo_sys_shift (h : InfoShifted info info') (buff : List UInt8) (a : Nat)
    (hsys : 1 < u32 (info.logTotalNum + 1) →
      u32 (info.logSysAddr + logSysRecordSize) + logShift < 2 ^ 32) :
    (nextInfo optRegion info buff a).logSysAddr < 1024000 ∧
      (nextInfo warnRegion info' buff (a + logShift)).logSysAddr =
        (nextInfo optRegion info buff a).logSysAddr + logShift := by
  have hbegin : optRegion.infoBegin = 0 := rfl
  have hbegin' : warnRegion.infoBegin = 0 + logShift := rfl
  have hend : optRegion.infoEnd = 1024000 := rfl
  have hend' : warnRegion.infoEnd = 1024000 + logShift := rfl
  simp only [nextInfo, advance, preload_total, preload_sys, h.total, hbegin, hbegin', hend, hend']
  by_cases hone : 1 < u32 (info.logTotalNum + 1)
  · have hstep : u32 (info'.logSysAddr + logSysRecordSize) =
        u32 (info.logSysAddr + logSysRecordSize) + logShift := by
      rw [h.sys]
      exact u32_shift_add (hsys hone)
    simp only [if_pos hone, hstep]
    by_cases hge : 1024000 ≤ u32 (info.logSysAddr + logSysRecordSize)
    · rw [if_pos hge, if_pos (Nat.add_le_add_right hge logShift)]
      exact ⟨by omega, rfl⟩
    · rw [if_neg hge, if_neg (fun hc => hge (Nat.le_of_add_le_add_right hc))]
      exact ⟨by omega, rfl⟩
  · simp only [if_neg hone]
    exact ⟨by decide, by decide⟩

/-- RAM moves on alike. -/
theorem nextInfo_shift (h : InfoShifted info info') (buff : List UInt8) {a : Nat}
    (ha : a < 2 ^ 24)
    (hsys : 1 < u32 (info.logTotalNum + 1) →
      u32 (info.logSysAddr + logSysRecordSize) + logShift < 2 ^ 32) :
    InfoShifted (nextInfo optRegion info buff a) (nextInfo warnRegion info' buff (a + logShift)) ∧
      (nextInfo warnRegion info' buff (a + logShift)).beforelogAddr =
        u32 ((nextInfo optRegion info buff a).beforelogAddr + logShift) := by
  have hpre := preload_shift h (buff.length + 26)
  obtain ⟨hlt, hslot⟩ := nextInfo_sys_shift h buff a hsys
  have hshift : logShift = 3072000 := rfl
  have hu : u32 (a + logShift) = a + logShift := u32_of_lt (by omega)
  refine ⟨?_, hpre.addr⟩
  exact
    { sys := by
        rw [hslot]
        exact (u32_of_lt (by omega)).symm
      total := by
        simp only [nextInfo, advance, preload_total, h.total]
      addr := hu.symm
      size := rfl
      index := nextIndex_shift h
      beforeAddr := Or.inl hpre.addr
      beforeIndex := hpre.index
      beforeSize := hpre.size }

/-- The two slots are two readings of one. -/
theorem infoRecord_shift (h : InfoShifted info info')
    (hbefore : info'.beforelogAddr = u32 (info.beforelogAddr + logShift)) :
    infoRecord info = (infoCells info).map (LayoutByte.read 0) ∧
      infoRecord info' = (infoCells info).map (LayoutByte.read logShift) := by
  constructor
  · rw [read_infoCells, Nat.add_zero, Nat.add_zero, infoRecord_u32]
  · rw [read_infoCells]
    simp only [infoRecord, h.total, h.addr, h.size, h.index, hbefore, h.beforeIndex, h.beforeSize]

theorem slotReady_shift (h : ChipShifted L c c') (hlt : info.logSysAddr < 1024000)
    (hsys : info'.logSysAddr = info.logSysAddr + logShift) :
    ChipShifted (L.slotReady info) (slotReady info c) (slotReady info' c') := by
  have hshift : logShift = 3072000 := rfl
  have hu : u32 (info.logSysAddr + 32) = info.logSysAddr + 32 := u32_of_lt (by omega)
  have hu' : u32 (info.logSysAddr + logShift + 32) = info.logSysAddr + 32 + logShift := by
    rw [Nat.add_right_comm]
    exact u32_of_lt (by omega)
  have hcross : subSector (info.logSysAddr + 32 + logShift) ≠
      subSector (info.logSysAddr + logShift) ↔
        subSector (info.logSysAddr + 32) ≠ subSector info.logSysAddr := by
    rw [subSector_ne_iff (by omega) (by omega), subSector_ne_iff (by omega) (by omega), shift_div,
      shift_div]
    omega
  unfold slotReady Contents.slotReady
  rw [hsys, logSysRecordSize, hu, hu']
  by_cases hc : subSector (info.logSysAddr + 32) ≠ subSector info.logSysAddr
  · rw [if_pos hc, if_pos hc, if_pos (hcross.mpr hc)]
    exact h.erase (by omega)
  · rw [if_neg hc, if_neg hc, if_neg (fun hc' => hc (hcross.mp hc'))]
    exact h

/-- **The info half comes to the same for both logs.** -/
theorem writeInfo_shift (h : ChipShifted L c c') (hinfo : InfoShifted info info')
    (hlt : info.logSysAddr < 1024000) (hsys : info'.logSysAddr = info.logSysAddr + logShift)
    (hbefore : info'.beforelogAddr = u32 (info.beforelogAddr + logShift))
    (hslots : SlotsAlike L info) :
    (writeInfo info' c').1 = (writeInfo info c).1 ∧
      InfoShifted (writeInfo info c).2.1 (writeInfo info' c').2.1 ∧
      ChipShifted (L.writeInfo info) (writeInfo info c).2.2 (writeInfo info' c').2.2 := by
  have hshift : logShift = 3072000 := rfl
  have hlen : (infoCells info).length = 30 := rfl
  obtain ⟨hbs, hbs'⟩ := infoRecord_shift hinfo hbefore
  have hready := slotReady_shift h hlt hsys
  obtain ⟨hslot, hretry⟩ := hslots
  obtain ⟨hsucc₁, hret₁, hchip₁⟩ := hready.write hbs hbs' (by omega) hslot
  rw [← hsys] at hret₁ hchip₁
  unfold writeInfo Contents.writeInfo
  dsimp only
  rw [← slotReady, ← slotReady]
  rcases hfirst : (slotReady info c).b3WriteDataBuff info.logSysAddr (infoRecord info)
    with ⟨ret, c₁⟩
  rcases hfirst' : (slotReady info' c').b3WriteDataBuff info'.logSysAddr (infoRecord info')
    with ⟨ret', c₁'⟩
  rw [hfirst, hfirst'] at hret₁ hchip₁
  rw [hfirst] at hsucc₁
  dsimp only at hsucc₁ hret₁ hchip₁
  subst hret₁
  cases ret' with
  | SUCC =>
      rw [if_pos (hsucc₁.mp rfl)]
      exact ⟨rfl, hinfo, hchip₁⟩
  | FAIL =>
      have hfail : ¬(L.slotReady info).Verifies info.logSysAddr (infoCells info) :=
        fun hv => absurd (hsucc₁.mpr hv) (by decide)
      have hu : u32 (info.logSysAddr + 32) = info.logSysAddr + 32 := u32_of_lt (by omega)
      have hu' : u32 (info'.logSysAddr + 32) = info.logSysAddr + 32 + logShift := by
        rw [hsys, Nat.add_right_comm]
        exact u32_of_lt (by omega)
      obtain ⟨-, hret₂, hchip₂⟩ := hchip₁.write (a := info.logSysAddr + 32) hbs hbs' (by omega)
        (hretry hfail)
      rw [← hu', ← hu] at hret₂ hchip₂
      rw [if_neg hfail]
      dsimp only [logSysRecordSize]
      rcases hsecond : c₁.b3WriteDataBuff (u32 (info.logSysAddr + 32)) (infoRecord info)
        with ⟨ret, c₂⟩
      rcases hsecond' : c₁'.b3WriteDataBuff (u32 (info'.logSysAddr + 32)) (infoRecord info')
        with ⟨ret', c₂'⟩
      rw [hsecond, hsecond'] at hret₂ hchip₂
      dsimp only at hret₂ hchip₂
      rw [hu] at hchip₂
      subst hret₂
      cases ret' with
      | SUCC =>
          refine ⟨rfl, { hinfo with sys := ?_ }, hchip₂⟩
          dsimp only
          rw [hu, hu']
          exact (u32_of_lt (by omega)).symm
      | FAIL => exact ⟨rfl, hinfo, hchip₂⟩

end

/-! ### One save of a log -/

theorem save2Flash_eq (r : LogRegion) (commStat : UInt8) (info : LogInfo) (c : FlashChip)
    (now : SysDateTime) (buff : List UInt8) (hlink : commStat ≠ commUnlink) :
    save2Flash r commStat info c now buff =
      match writeData r info c now buff with
      | (.FAIL, _, c) => (.FAIL, preload r info (buff.length + 26), c)
      | (.SUCC, flash_addr, c) => writeInfo (nextInfo r info buff flash_addr) c := by
  rw [save2Flash, if_neg hlink]
  rfl

/-- `[lo, hi)` is made of whole sub-sectors of the chip. -/
structure Sectors (lo hi : Nat) : Prop where
  first : lo % 4096 = 0
  last : hi % 4096 = 0
  top : hi ≤ 2 ^ 24

section
variable {lo hi : Nat} {c : FlashChip} {x : Nat}

theorem Sectors.erase (h : Sectors lo hi) (c : FlashChip) {e : Nat} (he : lo ≤ e ∧ e < hi)
    (hx : x < lo ∨ hi ≤ x) : (c.b3SubSectorErase e).mem x = c.mem x := by
  obtain ⟨hlo, hhi, htop⟩ := h
  rw [FlashChip.b3SubSectorErase_mem c (by omega), erase_outside _ (by omega)]

theorem Sectors.write (h : Sectors lo hi) (hw : c.weak = []) (a : Nat) (bs : List UInt8)
    (ha : lo ≤ a ∧ a + bs.length ≤ hi) (hx : x < lo ∨ hi ≤ x) :
    (c.b3WriteDataBuff a bs).2.mem x = c.mem x := by
  have htop := h.top
  rw [(FlashChip.b3WriteDataBuff_wrote hw a bs (by omega)).mem, program_outside _ (by omega)]

theorem Sectors.reserve (h : Sectors lo hi) (hw : c.weak = []) {a sz : Nat}
    (ha : lo ≤ a ∧ a + sz < hi) (hin : (AppLog.reserve c a sz).1 + sz < hi)
    (hx : x < lo ∨ hi ≤ x) :
    (AppLog.reserve c a sz).2.weak = [] ∧ (AppLog.reserve c a sz).2.mem x = c.mem x ∧
      lo ≤ (AppLog.reserve c a sz).1 := by
  have htop := h.top
  have hu : u32 (a + sz) = a + sz := u32_of_lt (by omega)
  have hv : u32 (a + 4096) = a + 4096 := u32_of_lt (by omega)
  have hnext (c₀ : FlashChip) (hin : a + 4096 + sz < hi) :
      (c₀.b3SubSectorErase (a + 4096)).mem x = c₀.mem x := h.erase c₀ (by omega) hx
  unfold AppLog.reserve at hin ⊢
  simp only [hu, spiFlashSectorSize, hv] at hin ⊢
  have h₀ : (if subSector (a + sz) ≠ subSector a then c.b3SubSectorErase (a + sz) else c).weak = [] ∧
      (if subSector (a + sz) ≠ subSector a then c.b3SubSectorErase (a + sz) else c).mem x =
        c.mem x := by
    split
    · exact ⟨hw, h.erase c (by omega) hx⟩
    · exact ⟨hw, rfl⟩
  generalize (if subSector (a + sz) ≠ subSector a then c.b3SubSectorErase (a + sz) else c) = c₀
    at h₀ hin ⊢
  by_cases hblank : (c₀.b3ReadDataBuff a sz).all (· == 0xFF) = true
  · rw [if_pos hblank]
    exact ⟨h₀.1, h₀.2, ha.1⟩
  · rw [if_neg hblank] at hin ⊢
    exact ⟨h₀.1, (hnext c₀ hin).trans h₀.2, by dsimp only; omega⟩

/-- The slot is in the log, and so is the one behind it. -/
theorem Sectors.writeInfo (h : Sectors lo hi) (hw : c.weak = []) {info : LogInfo}
    (hsys : lo ≤ info.logSysAddr ∧ info.logSysAddr + 64 ≤ hi) (hx : x < lo ∨ hi ≤ x) :
    (AppLog.writeInfo info c).2.2.mem x = c.mem x := by
  have htop := h.top
  have hu : u32 (info.logSysAddr + 32) = info.logSysAddr + 32 := u32_of_lt (by omega)
  have hready : (slotReady info c).weak = [] ∧ (slotReady info c).mem x = c.mem x := by
    unfold slotReady
    rw [logSysRecordSize, hu]
    split
    · exact ⟨hw, h.erase c (by omega) hx⟩
    · exact ⟨hw, rfl⟩
  have hlen : (infoRecord info).length = 30 := length_infoRecord info
  have hfirst := h.write hready.1 info.logSysAddr (infoRecord info) (by omega) hx
  have hweak := (FlashChip.b3WriteDataBuff_wrote hready.1 info.logSysAddr (infoRecord info)
    (by omega)).weak.trans hready.1
  have hsecond := h.write hweak (info.logSysAddr + 32) (infoRecord info) (by omega) hx
  unfold AppLog.writeInfo
  dsimp only
  rw [← slotReady, logSysRecordSize, hu, ← hready.2, ← hfirst]
  generalize (slotReady info c).b3WriteDataBuff info.logSysAddr (infoRecord info) = w at hsecond ⊢
  rcases w with ⟨ret, c₁⟩
  cases ret with
  | SUCC => rfl
  | FAIL =>
      dsimp only at hsecond ⊢
      rw [← hsecond]
      generalize c₁.b3WriteDataBuff (info.logSysAddr + 32) (infoRecord info) = w'
      rcases w' with ⟨ret, c₂⟩
      cases ret with
      | SUCC => rfl
      | FAIL => rfl

/-- **A save that keeps to its part of the flash** leaves the rest of it alone. -/
theorem Sectors.save2Flash (h : Sectors lo hi) (hw : c.weak = []) {r : LogRegion} {info : LogInfo}
    {a : Save} {commStat : UInt8} (hlink : commStat ≠ commUnlink)
    (hdata : lo ≤ nextDataAddr r info ∧ nextDataAddr r info + (a.buff.length + 26) < hi)
    (hroom : (roomFor r info c a.buff).1 + (a.buff.length + 26) < hi)
    (hsys : lo ≤ (nextInfo r info a.buff (roomFor r info c a.buff).1).logSysAddr ∧
      (nextInfo r info a.buff (roomFor r info c a.buff).1).logSysAddr + 64 ≤ hi)
    (hx : x < lo ∨ hi ≤ x) :
    (AppLog.save2Flash r commStat info c a.now a.buff).2.2.mem x = c.mem x := by
  have htop := h.top
  obtain ⟨hweak, hmem, hge⟩ := h.reserve hw hdata hroom hx
  rw [← roomFor] at hweak hmem hge
  have hlen : (dataRecord r info a.now a.buff).length = a.buff.length + 26 :=
    length_dataRecord a.now a.buff
  have hwritten := h.write hweak (roomFor r info c a.buff).1
    (dataRecord r info a.now a.buff) ⟨hge, hlen.symm ▸ Nat.le_of_lt hroom⟩ hx
  have hweak₁ := (FlashChip.b3WriteDataBuff_wrote hweak (roomFor r info c a.buff).1
    (dataRecord r info a.now a.buff) (by rw [hlen]; omega)).weak.trans hweak
  rw [save2Flash_eq _ _ _ _ _ _ hlink, writeData_eq]
  generalize (roomFor r info c a.buff).2.b3WriteDataBuff (roomFor r info c a.buff).1
    (dataRecord r info a.now a.buff) = w at hwritten hweak₁ ⊢
  rcases w with ⟨ret, c₁⟩
  dsimp only at hwritten hweak₁ ⊢
  cases ret with
  | FAIL => exact hwritten.trans hmem
  | SUCC =>
      have hslot := h.writeInfo hweak₁ hsys hx
      dsimp only
      generalize AppLog.writeInfo (nextInfo r info a.buff (roomFor r info c a.buff).1) c₁ = w' at hslot ⊢
      exact hslot.trans (hwritten.trans hmem)

end

/-! ### One save of either log -/

section
variable {L : Contents} {info info' : LogInfo} {c c' : FlashChip} {a : Save}

/-- **A clear save comes to the same for both logs**, and to what it does to the contents. -/
theorem save2Flash_shift (h : InfoShifted info info') (hchip : ChipShifted L c c')
    (hlen : a.buff.length ≤ 230) {commStat : UInt8}
    (hc : commStat ≠ commUnlink → Clear L info a) :
    (save2Flash warnRegion commStat info' c' a.now a.buff).1 =
        (save2Flash optRegion commStat info c a.now a.buff).1 ∧
      InfoShifted (save2Flash optRegion commStat info c a.now a.buff).2.1
        (save2Flash warnRegion commStat info' c' a.now a.buff).2.1 ∧
      ChipShifted (L.save commStat info a)
        (save2Flash optRegion commStat info c a.now a.buff).2.2
        (save2Flash warnRegion commStat info' c' a.now a.buff).2.2 := by
  unfold Contents.save
  by_cases hlink : commStat = commUnlink
  · rw [save2Flash, save2Flash, if_pos hlink, if_pos hlink, if_pos hlink]
    exact ⟨rfl, h, hchip⟩
  rw [save2Flash_eq _ _ _ _ _ _ hlink, save2Flash_eq _ _ _ _ _ _ hlink, if_neg hlink]
  have hclear := hc hlink
  obtain ⟨hsucc, hret, haddr, haddr', hdata⟩ := writeData_shift h hchip hlen hclear
  rcases hw : writeData optRegion info c a.now a.buff with ⟨ret, flash_addr, c₁⟩
  rcases hw' : writeData warnRegion info' c' a.now a.buff with ⟨ret', flash_addr', c₁'⟩
  rw [hw, hw'] at hret hdata
  rw [hw] at hsucc haddr
  rw [hw'] at haddr'
  dsimp only at hsucc hret haddr haddr' hdata
  subst hret haddr haddr'
  cases ret' with
  | FAIL =>
      rw [if_neg fun hrec => absurd (hsucc.mpr hrec) (by decide)]
      exact ⟨rfl, preload_shift h (a.buff.length + 26), hdata⟩
  | SUCC =>
      have hrec := hsucc.mp rfl
      have hlt : (L.room info a).1 < 2 ^ 24 := by
        have hin := hclear.inside
        have hend : optRegion.dataEnd = 3072000 := rfl
        omega
      obtain ⟨hinfo, hbefore⟩ := nextInfo_shift h a.buff hlt hclear.sys
      obtain ⟨hsyslt, hsys⟩ := nextInfo_sys_shift h a.buff (L.room info a).1 hclear.sys
      have hx := writeInfo_shift hdata hinfo hsyslt hsys hbefore (hclear.slots hrec)
      rw [if_pos hrec, Contents.recorded]
      dsimp only
      generalize writeInfo (nextInfo optRegion info a.buff (L.room info a).1) c₁ = w at hx ⊢
      generalize writeInfo (nextInfo warnRegion info' a.buff ((L.room info a).1 + logShift)) c₁' = w'
        at hx ⊢
      exact hx

end

end SwiftAcu.AppLog
