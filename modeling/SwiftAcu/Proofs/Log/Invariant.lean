/-
The invariant of one log, and the one save that keeps it.

After `n` saves of a log the first `n` slots of its info ring hold records with the
totals `1 … n` and the rest of the ring is blank; the newest slot holds what RAM
holds; and the data region is blank from the end of the newest record to the end of
that sub-sector.  A save made with fewer than 32000 behind it finds room in both
halves, and the invariant holds of what it leaves.
-/
import SwiftAcu.Proofs.Log.Save

namespace SwiftAcu

open NorFlash

/-! ### The layout of a log -/

/-- The info ring of 32000 slots, then 500 sub-sectors of data, then more flash. -/
structure LogRegion.Fits (r : LogRegion) : Prop where
  aligned : r.infoBegin % 4096 = 0
  infoEnd : r.infoEnd = r.infoBegin + 1024000
  dataBegin : r.dataBegin = r.infoBegin + 1024000
  dataEnd : r.dataEnd = r.infoBegin + 3072000
  room : r.dataEnd + 8192 ≤ 2 ^ 24

theorem fits_optRegion : LogRegion.Fits optRegion := ⟨by decide, rfl, rfl, rfl, by decide⟩

theorem fits_warnRegion : LogRegion.Fits warnRegion := ⟨by decide, rfl, rfl, rfl, by decide⟩

namespace AppLog

/-- The slot of the info ring that save number `i` is written to, counting from 0. -/
def slotAddr (r : LogRegion) (i : Nat) : Nat := r.infoBegin + 32 * i

/-- The address after the newest record. -/
def nextAddr (info : LogInfo) : Nat := info.currlogAddr + info.currlogSize

/-- What `APP_LOG_Init` leaves in RAM for a log without records. -/
def emptyInfo (r : LogRegion) : LogInfo := initDefaults r zeroInfo

/-! ### The invariant -/

/-- One log, in RAM and in flash, after `info.logTotalNum` saves. -/
structure LogInv (r : LogRegion) (info : LogInfo) (m : Nat → UInt8) : Prop where
  le : info.logTotalNum ≤ 32000
  first : info.logTotalNum = 0 → info = emptyInfo r
  sys : info.logSysAddr = slotAddr r (info.logTotalNum - 1)
  index : info.logTotalNum ≠ 0 → info.currlogIndex = info.logTotalNum
  low : r.dataBegin ≤ info.currlogAddr
  high : info.currlogAddr < r.dataEnd
  size : info.logTotalNum ≠ 0 → 26 ≤ info.currlogSize ∧ info.currlogSize ≤ 255
  before : info.beforelogAddr < 2 ^ 32 ∧ info.beforelogIndex < 2 ^ 32 ∧
    info.beforelogSize < 2 ^ 32
  ahead : Blank m (slotAddr r info.logTotalNum) r.infoEnd
  slot : ∀ i < info.logTotalNum, ∃ s : LogInfo, s.logTotalNum = i + 1 ∧
    Stores m (slotAddr r i) (infoRecord s)
  last : info.logTotalNum ≠ 0 → Stores m info.logSysAddr (infoRecord info)
  blank : Blank m (nextAddr info) (sectorEnd (nextAddr info))
  /-- The last slot of the ring takes the first data sub-sector with it. -/
  head : info.logTotalNum ≠ 0 → info.logTotalNum < 32000 → m r.dataBegin = 0xBC

theorem logInv_empty {r : LogRegion} (hf : r.Fits) {m : Nat → UInt8} (hm : ∀ x, m x = 0xFF) :
    LogInv r (emptyInfo r) m := by
  have htotal : (emptyInfo r).logTotalNum = 0 := rfl
  have haddr : (emptyInfo r).currlogAddr = r.dataBegin := rfl
  have hd := hf.dataBegin
  have he := hf.dataEnd
  exact
    { le := by omega
      first := fun _ => rfl
      sys := by simp [slotAddr, emptyInfo, initDefaults, zeroInfo]
      index := fun h => absurd htotal h
      low := by omega
      high := by omega
      size := fun h => absurd htotal h
      before := by simp [emptyInfo, initDefaults, zeroInfo]
      ahead := fun x _ _ => hm x
      slot := by
        intro i hi
        omega
      last := fun h => absurd htotal h
      blank := fun x _ _ => hm x
      head := fun h => absurd htotal h }

section
variable {r : LogRegion} {info : LogInfo} {m m' : Nat → UInt8}

/-- The invariant looks at nothing outside its own regions while the log ends inside them. -/
theorem LogInv.congr (hf : r.Fits) (h : LogInv r info m) (hnext : nextAddr info < r.dataEnd)
    (heq : ∀ x, r.infoBegin ≤ x → x < r.dataEnd → m' x = m x) : LogInv r info m' := by
  obtain ⟨hal, hie, hdb, hde, hroom⟩ := hf
  have hle := h.le
  have hend : sectorEnd (nextAddr info) ≤ r.dataEnd := by
    rw [sectorEnd]
    omega
  have hslot : ∀ i s, i < info.logTotalNum → Stores m (slotAddr r i) (infoRecord s) →
      Stores m' (slotAddr r i) (infoRecord s) := by
    intro i s hi hs
    refine hs.congr fun x hlo hhi => heq x ?_ ?_
    · rw [slotAddr] at hlo
      omega
    · rw [slotAddr, length_infoRecord] at hhi
      omega
  exact
    { h with
      ahead := h.ahead.congr fun x hlo hhi => heq x (by rw [slotAddr] at hlo; omega) (by omega)
      slot := by
        intro i hi
        obtain ⟨s, htot, hs⟩ := h.slot i hi
        exact ⟨s, htot, hslot i s hi hs⟩
      last := by
        intro hn
        have hs := h.last hn
        rw [h.sys] at hs ⊢
        exact hslot _ info (by omega) hs
      blank := h.blank.congr fun x hlo hhi => by
        have := h.low
        exact heq x (by rw [nextAddr] at hlo; omega) (by omega)
      head := by
        intro hn hlt
        rw [heq r.dataBegin (by omega) (by omega)]
        exact h.head hn hlt }

/-! ### Where the next record goes -/

/-- Where a save puts its record. -/
def landing (r : LogRegion) (info : LogInfo) : Nat :=
  if info.logTotalNum ≠ 0 ∧ r.dataEnd ≤ nextAddr info then r.dataBegin + 4096 else nextAddr info

/-- The record a save writes. -/
def dataRecord (r : LogRegion) (info : LogInfo) (now : SysDateTime) (buff : List UInt8) :
    List UInt8 :=
  record (buff.length + 26) (nextIndex info) now buff
    (preload r info (buff.length + 26)).currlogAddr (preload r info (buff.length + 26)).currlogSize

/-- What a save leaves in RAM. -/
def savedInfo (r : LogRegion) (info : LogInfo) (buff : List UInt8) : LogInfo :=
  advance r (preload r info (buff.length + 26)) (landing r info) (nextIndex info) (buff.length + 26)

@[simp] theorem length_dataRecord (now : SysDateTime) (buff : List UInt8) :
    (dataRecord r info now buff).length = buff.length + 26 := by simp [dataRecord]

theorem dataRecord_head (now : SysDateTime) (buff : List UInt8)
    (h : 0 < (dataRecord r info now buff).length) : (dataRecord r info now buff)[0] = 0xBC := rfl

theorem preload_of_ne (h : info.logTotalNum ≠ 0) (log_size : Nat) :
    preload r info log_size = info := by rw [preload, if_neg h]

@[simp] theorem preload_total (log_size : Nat) :
    (preload r info log_size).logTotalNum = info.logTotalNum := by
  unfold preload
  split <;> rfl

@[simp] theorem preload_sys (log_size : Nat) :
    (preload r info log_size).logSysAddr = info.logSysAddr := by
  unfold preload
  split <;> rfl

theorem nextIndex_preload (log_size : Nat) :
    nextIndex (preload r info log_size) = nextIndex info := by
  unfold nextIndex
  rw [preload_total]
  split
  · rfl
  · next hn => rw [preload_of_ne hn]

@[simp] theorem savedInfo_addr (buff : List UInt8) :
    (savedInfo r info buff).currlogAddr = landing r info := rfl

@[simp] theorem savedInfo_size (buff : List UInt8) :
    (savedInfo r info buff).currlogSize = buff.length + 26 := rfl

@[simp] theorem savedInfo_index (buff : List UInt8) :
    (savedInfo r info buff).currlogIndex = nextIndex info := rfl

theorem savedInfo_total (h : info.logTotalNum < 32000) (buff : List UInt8) :
    (savedInfo r info buff).logTotalNum = info.logTotalNum + 1 := by
  rw [savedInfo, advance, preload_total]
  exact u32_of_lt (by omega)

/-- The next info slot is the one after the newest, without any wrap. -/
theorem savedInfo_sys (hf : r.Fits) (h : LogInv r info m) (hn : info.logTotalNum < 32000)
    (buff : List UInt8) : (savedInfo r info buff).logSysAddr = slotAddr r info.logTotalNum := by
  obtain ⟨hal, hie, hdb, hde, hroom⟩ := hf
  have hsys := h.sys
  have htot : u32 (info.logTotalNum + 1) = info.logTotalNum + 1 := u32_of_lt (by omega)
  simp only [savedInfo, advance, preload_total, preload_sys, htot, logSysRecordSize]
  by_cases hz : info.logTotalNum = 0
  · have hone : ¬1 < info.logTotalNum + 1 := by omega
    have hin : ¬r.infoEnd ≤ r.infoBegin := by omega
    simp only [if_neg hone, if_neg hin, slotAddr]
    omega
  · rw [slotAddr] at hsys
    have hmore : 1 < info.logTotalNum + 1 := by omega
    have hadd : u32 (info.logSysAddr + 32) = info.logSysAddr + 32 := u32_of_lt (by omega)
    have hin : ¬r.infoEnd ≤ info.logSysAddr + 32 := by omega
    simp only [if_pos hmore, hadd, if_neg hin, slotAddr]
    omega

theorem nextIndex_eq (h : LogInv r info m) : nextIndex info = info.logTotalNum + 1 := by
  unfold nextIndex
  have hle := h.le
  split
  · omega
  · next hn => rw [h.index hn, u32_of_lt (by omega)]

theorem nextAddr_empty (h : LogInv r info m) (hz : info.logTotalNum = 0) :
    nextAddr info = r.dataBegin := by
  rw [h.first hz]
  rfl

theorem landing_bounds (hf : r.Fits) (h : LogInv r info m) :
    r.dataBegin ≤ landing r info ∧ landing r info < r.dataEnd := by
  obtain ⟨hal, hie, hdb, hde, hroom⟩ := hf
  have hlow := h.low
  have hhigh := h.high
  unfold landing
  split
  · omega
  · next hc =>
      rw [not_and_or, not_not, Nat.not_le] at hc
      rcases hc with hz | hc
      · rw [nextAddr_empty h hz]
        omega
      · rw [nextAddr] at hc ⊢
        omega

end

end AppLog

end SwiftAcu
