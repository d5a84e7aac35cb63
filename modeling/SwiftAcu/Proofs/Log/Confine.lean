/-
What the saves touch.

Both logs are saved to in any order.  A save is confined when what it programs and
erases for its record lies in the data region of its own log and what it programs
and erases for its slot lies in the info region of its own log.  That holds of
exactly the saves whose record ends before the end of the data region and whose slot
is not the last of the ring; from the first other save on a sub-sector of the next
region is erased.
-/
import SwiftAcu.Proofs.Log.Runs

namespace SwiftAcu

open NorFlash Runs

/-- Every byte `op` can change lies in `[lo, hi)`. -/
def FlashOp.Within (lo hi : Nat) (op : FlashOp) : Prop := ∀ x, op.Touches x → lo ≤ x ∧ x < hi

/-- What the chip was told between `c` and `c'`. -/
def FlashChip.newOps (c c' : FlashChip) : List FlashOp := c'.ops.take (c'.ops.length - c.ops.length)

theorem FlashChip.newOps_eq {c c' : FlashChip} {new : List FlashOp} (h : c'.ops = new ++ c.ops) :
    c.newOps c' = new := by
  rw [newOps, h, List.length_append, Nat.add_sub_cancel]
  exact List.take_left

namespace AppLog

/-! ### Confinement of one save -/

/-- The save `a` at `b` programs and erases nothing outside the two regions of its log, and each
half of it stays in its own region. -/
def Confined (b : Board) (a : LogKind × Save) : Prop :=
  b.commStat ≠ commUnlink →
    let data := writeData a.1.region (b.logInfo a.1) b.flash a.2.now a.2.buff
    (∀ op ∈ b.flash.newOps data.2.2, op.Within a.1.region.dataBegin a.1.region.dataEnd) ∧
      (data.1 = .SUCC → ∀ op ∈ data.2.2.newOps (logSave2Flash b a.1 a.2).2.flash,
        op.Within a.1.region.infoBegin a.1.region.infoEnd)

/-- The record of the save `a` ends before the end of the data region, and its slot is not the
last of the ring. -/
def RoomFor (b : Board) (a : LogKind × Save) : Prop :=
  nextDataAddr a.1.region (b.logInfo a.1) + (a.2.buff.length + 26) < a.1.region.dataEnd ∧
    (b.logInfo a.1).logTotalNum + 1 < 32000

section
variable {r : LogRegion} {info : LogInfo} {c c₁ c₂ : FlashChip} {now : SysDateTime}
  {buff : List UInt8} {new₁ new₂ : List FlashOp}

/-- The data half stays in the data region exactly when the record ends before its end. -/
theorem SaveTrace.data_within_iff (hf : r.Fits) (hi : LogInv r info c.mem)
    (hlen : buff.length ≤ 229) (h : SaveTrace r info c now buff c₁ c₂ new₁ new₂) :
    (∀ op ∈ new₁, op.Within r.dataBegin r.dataEnd) ↔
      landing r info + (buff.length + 26) < r.dataEnd := by
  have hland := landing_bounds hf hi
  have hreclen : (dataRecord r info now buff).length = buff.length + 26 :=
    length_dataRecord now buff
  have happ := h.appended
  obtain ⟨hal, hie, hdb, hde, hroom⟩ := hf
  constructor
  · intro hall
    by_contra hge
    have herase := happ.crossing (by rw [hreclen]; omega)
    rw [hreclen] at herase
    have hin := hall _ herase (landing r info + (buff.length + 26)) rfl
    omega
  · intro hlt op hop x hx
    rcases happ.within op hop with hprog | ⟨e, rfl, he⟩
    · have hin := hprog.touches hx
      omega
    · rw [FlashOp.Touches, he, hreclen] at hx
      omega

/-- The info half stays in the info region exactly when its slot is not the last. -/
theorem SaveTrace.info_within_iff (hf : r.Fits) (hn : info.logTotalNum < 32000)
    (h : SaveTrace r info c now buff c₁ c₂ new₁ new₂) :
    (∀ op ∈ new₂, op.Within r.infoBegin r.infoEnd) ↔ info.logTotalNum + 1 < 32000 := by
  have hslot := h.slot
  have hslotlen : (infoRecord (savedInfo r info buff)).length = 30 := length_infoRecord _
  obtain ⟨hal, hie, hdb, hde, hroom⟩ := hf
  set s := slotAddr r info.logTotalNum with hs
  rw [slotAddr] at hs
  constructor
  · intro hall
    by_contra hge
    have herase := hslot.crossing (by omega)
    have hin := hall _ herase (s + 32) rfl
    omega
  · intro hlt op hop x hx
    rcases hslot.within op hop with hprog | ⟨rfl, -⟩
    · have hin := hprog.touches hx
      omega
    · rw [FlashOp.Touches] at hx
      omega

/-- A save with room changes nothing outside the regions of its log. -/
theorem SaveTrace.frame (hf : r.Fits) (hi : LogInv r info c.mem)
    (hend : landing r info + (buff.length + 26) < r.dataEnd) (hn : info.logTotalNum + 1 < 32000)
    (h : SaveTrace r info c now buff c₁ c₂ new₁ new₂) {x : Nat}
    (hx : x < r.infoBegin ∨ r.dataEnd ≤ x) : c₂.mem x = c.mem x := by
  have hland := landing_bounds hf hi
  have hreclen : (dataRecord r info now buff).length = buff.length + 26 :=
    length_dataRecord now buff
  have hslotlen : (infoRecord (savedInfo r info buff)).length = 30 := length_infoRecord _
  obtain ⟨hal, hie, hdb, hde, hroom⟩ := hf
  have hs : slotAddr r info.logTotalNum = r.infoBegin + 32 * info.logTotalNum := rfl
  have hsec : sectorEnd (landing r info + (dataRecord r info now buff).length) ≤ r.dataEnd := by
    rw [sectorEnd, hreclen]
    omega
  rw [h.slot.frame (by omega) (Or.inr (by omega))]
  exact h.appended.frame x (by omega)

end

/-! ### Confinement of runs -/

/-- A board on which both logs can be saved to and neither has reached its end. -/
structure BothReady (b : Board) : Prop where
  link : b.commStat = commLink
  weak : b.flash.weak = []
  inv : ∀ k : LogKind, LogInv k.region (b.logInfo k) b.flash.mem
  next : ∀ k : LogKind, nextAddr (b.logInfo k) < k.region.dataEnd
  total : ∀ k : LogKind, (b.logInfo k).logTotalNum < 32000

theorem fits_region (k : LogKind) : k.region.Fits := by
  cases k with
  | opt => exact fits_optRegion
  | warn => exact fits_warnRegion

theorem bothReady_boot : BothReady bootBoard where
  link := rfl
  weak := rfl
  inv k := by cases k <;> exact logInv_empty (fits_region _) fun _ => rfl
  next k := by cases k <;> decide
  total k := by cases k <;> decide

/-- `b` after a save to the log `k`. -/
def Board.saved (b : Board) (k : LogKind) (info : LogInfo) (c : FlashChip) : Board :=
  match k with
  | .opt => { b with optLogInfo := info, flash := c }
  | .warn => { b with warnLogInfo := info, flash := c }

@[simp] theorem Board.saved_flash (b : Board) (k : LogKind) (info : LogInfo) (c : FlashChip) :
    (b.saved k info c).flash = c := by cases k <;> rfl

@[simp] theorem Board.saved_commStat (b : Board) (k : LogKind) (info : LogInfo) (c : FlashChip) :
    (b.saved k info c).commStat = b.commStat := by cases k <;> rfl

@[simp] theorem Board.saved_info (b : Board) (k : LogKind) (info : LogInfo) (c : FlashChip) :
    (b.saved k info c).logInfo k = info := by cases k <;> rfl

theorem Board.saved_other (b : Board) {k k' : LogKind} (h : k' ≠ k) (info : LogInfo)
    (c : FlashChip) : (b.saved k info c).logInfo k' = b.logInfo k' := by
  cases k <;> cases k' <;> first | rfl | exact absurd rfl h

/-- Either save is the common text on the fields of its log. -/
theorem logSave2Flash_eq (b : Board) (k : LogKind) (a : Save) :
    logSave2Flash b k a =
      ((save2Flash k.region b.commStat (b.logInfo k) b.flash a.now a.buff).1,
        b.saved k (save2Flash k.region b.commStat (b.logInfo k) b.flash a.now a.buff).2.1
          (save2Flash k.region b.commStat (b.logInfo k) b.flash a.now a.buff).2.2) := by
  cases k <;> rfl

section
variable {b : Board} {k : LogKind} {a : Save}

theorem BothReady.trace (h : BothReady b) (k : LogKind) (ha : a.Small) :
    ∃ c₁ c₂ new₁ new₂,
      SaveTrace k.region (b.logInfo k) b.flash a.now a.buff c₁ c₂ new₁ new₂ :=
  save_trace (fits_region k) h.weak (h.inv k) (h.total k) a.now ha

theorem BothReady.save_eq (h : BothReady b) {c₁ c₂ : FlashChip} {new₁ new₂ : List FlashOp}
    (ht : SaveTrace k.region (b.logInfo k) b.flash a.now a.buff c₁ c₂ new₁ new₂) :
    logSave2Flash b k a = (.SUCC, b.saved k (savedInfo k.region (b.logInfo k) a.buff) c₂) := by
  rw [logSave2Flash_eq, h.link, ht.save2Flash]

theorem BothReady.landing_eq (h : BothReady b) (k : LogKind) :
    landing k.region (b.logInfo k) = nextDataAddr k.region (b.logInfo k) := by
  have hnext := h.next k
  rw [nextDataAddr_eq (fits_region k) (h.inv k), landing, if_neg (by omega), if_neg (by omega)]

/-- **One save is confined exactly when there is room for it.** -/
theorem BothReady.confined_iff (h : BothReady b) (ha : a.Small) :
    Confined b (k, a) ↔ RoomFor b (k, a) := by
  obtain ⟨c₁, c₂, new₁, new₂, ht⟩ := h.trace k ha
  have hlink : b.commStat ≠ commUnlink := by
    rw [h.link]
    decide
  have hdata := ht.data_within_iff (fits_region k) (h.inv k) ha
  have hinfo := ht.info_within_iff (fits_region k) (h.total k)
  rw [h.landing_eq k] at hdata
  unfold Confined RoomFor
  dsimp only
  rw [ht.data, h.save_eq ht]
  dsimp only
  rw [Board.saved_flash, FlashChip.newOps_eq ht.appended.ops, FlashChip.newOps_eq ht.slot.ops, hdata,
    hinfo]
  exact ⟨fun hc => ⟨(hc hlink).1, (hc hlink).2 rfl⟩, fun hr _ => ⟨hr.1, fun _ => hr.2⟩⟩

/-- The two logs lie apart. -/
theorem region_apart {k k' : LogKind} (h : k' ≠ k) :
    k'.region.dataEnd ≤ k.region.infoBegin ∨ k.region.dataEnd ≤ k'.region.infoBegin := by
  cases k <;> cases k' <;> first | exact absurd rfl h | decide

/-- **A save with room for it leaves both logs ready.** -/
theorem BothReady.step (h : BothReady b) (ha : a.Small) (hroom : RoomFor b (k, a)) :
    BothReady (logStep b (k, a)) := by
  obtain ⟨c₁, c₂, new₁, new₂, ht⟩ := h.trace k ha
  obtain ⟨hend, hn⟩ := hroom
  dsimp only at hend hn
  rw [← h.landing_eq k] at hend
  have hframe : ∀ k', k' ≠ k → LogInv k'.region (b.logInfo k') c₂.mem := by
    intro k' hne
    refine (h.inv k').congr (fits_region k') (h.next k') fun x hlo hhi => ?_
    have hapart := region_apart hne
    exact ht.frame (fits_region k) (h.inv k) hend hn (by omega)
  rw [logStep, h.save_eq ht]
  dsimp only
  exact
    { link := by rw [Board.saved_commStat, h.link]
      weak := by rw [Board.saved_flash, ht.weak, h.weak]
      inv := by
        intro k'
        by_cases heq : k' = k
        · rw [heq, Board.saved_info, Board.saved_flash]
          exact ht.inv (fits_region k) (h.inv k) (h.total k) ha
        · rw [Board.saved_other b heq, Board.saved_flash]
          exact hframe k' heq
      next := by
        intro k'
        by_cases heq : k' = k
        · rw [heq, Board.saved_info]
          exact hend
        · rw [Board.saved_other b heq]
          exact h.next k'
      total := by
        intro k'
        by_cases heq : k' = k
        · rw [heq, Board.saved_info, savedInfo_total (h.total k)]
          exact hn
        · rw [Board.saved_other b heq]
          exact h.total k' }

end

/-- **Confinement.**  However saves to the two logs are interleaved, every save of the run is
confined exactly when there was room for every save of the run. -/
theorem allConfined_iff {calls : List (LogKind × Save)} (hsmall : ∀ a ∈ calls, a.2.Small) :
    AllSteps logStep Confined bootBoard calls ↔ AllSteps logStep RoomFor bootBoard calls :=
  allSteps_iff_of_inv (fun _ a ha h => h.confined_iff (hsmall a ha))
    (fun _ a ha h hroom => h.step (hsmall a ha) hroom) bothReady_boot

theorem allConfined_both_logs :
    AllSteps logStep Confined bootBoard [(.opt, emptySave), (.warn, emptySave)] ↔
      AllSteps logStep RoomFor bootBoard [(.opt, emptySave), (.warn, emptySave)] :=
  allConfined_iff (by decide)

/-! ### The first record over the end -/

/-- Saves to the operation log alone. -/
theorem run_opt (calls : List Save) :
    run logStep bootBoard (calls.map fun a => (.opt, a)) = optRun calls := by
  rw [run, List.foldl_map]
  rfl

/-- A save that is not confined, after saves that leave too little room for it. -/
theorem not_confined_of_end {b : Board} {n : Nat} (h : OptReady n b) (hn : n < 32000) {a : Save}
    (ha : a.Small) (hnext : nextAddr b.optLogInfo < optRegion.dataEnd)
    (hend : optRegion.dataEnd ≤ nextAddr b.optLogInfo + (a.buff.length + 26)) :
    ¬Confined b (.opt, a) := by
  intro hc
  obtain ⟨c₁, c₂, new₁, new₂, ht⟩ := h.trace hn ha
  have hto : landing optRegion b.optLogInfo = nextAddr b.optLogInfo := by
    rw [landing, if_neg (by omega)]
  have hwithin := (hc (by rw [h.link]; decide)).1
  have hdata : writeData LogKind.opt.region (b.logInfo .opt) b.flash a.now a.buff =
    (.SUCC, landing optRegion b.optLogInfo, c₁) := ht.data
  dsimp only at hwithin
  rw [hdata, FlashChip.newOps_eq ht.appended.ops] at hwithin
  have hlt := (ht.data_within_iff fits_optRegion h.inv ha).mp hwithin
  omega

/-- The 8032nd long save to the operation log erases the first sub-sector of the warning log. -/
theorem longSaves_not_confined :
    ¬AllSteps logStep Confined bootBoard
      ((List.replicate 8032 longSave).map fun a => (LogKind.opt, a)) := by
  intro h
  rw [List.replicate_succ', List.map_append, List.map_singleton, allSteps_concat, run_opt] at h
  obtain ⟨hready, hnext⟩ := longSaves_end rfl
  have hlen : longSave.buff.length = 229 := List.length_replicate
  have hend : optRegion.dataEnd = 3072000 := rfl
  exact not_confined_of_end hready (by decide) longSave_small (by rw [hnext]; decide)
    (by rw [hnext, hlen, hend]; decide) h.2

end AppLog

end SwiftAcu
