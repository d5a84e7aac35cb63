/-
The chain of records a run leaves.

A run is followed together with the list of the records it has written, newest
first.  The records link up, and as long as no byte of the last `k` of them has been
erased since it was written they are all stored and lie apart: a save programs blank
bytes only, so it can meet an older record only by landing inside it, and where a
save lands is either erased by the save or just behind the newest record.
-/
import SwiftAcu.Proofs.Log.Confine
import SwiftAcu.Proofs.Log.Walk

namespace SwiftAcu.AppLog

open NorFlash Runs

/-! ### Histories -/

/-- The record that the save `a` at `b` writes. -/
def entryOf (b : Board) (a : Save) : Entry where
  addr := (writeData optRegion b.optLogInfo b.flash a.now a.buff).2.1
  index := nextIndex b.optLogInfo
  save := a
  prevAddr := (preload optRegion b.optLogInfo (a.buff.length + 26)).currlogAddr
  prevSize := (preload optRegion b.optLogInfo (a.buff.length + 26)).currlogSize
  written := (writeData optRegion b.optLogInfo b.flash a.now a.buff).2.2

/-- A save, and its record in front of the records before it. -/
def historyStep (s : Board × List Entry) (a : Save) : Board × List Entry :=
  (optStep s.1 a, entryOf s.1 a :: s.2)

/-- The records of a run, newest first. -/
def history (calls : List Save) : List Entry := (run historyStep (bootBoard, []) calls).2

/-- No byte of the record has been erased since the record was written. -/
def Entry.Unerased (e : Entry) (c : FlashChip) : Prop :=
  ∀ op ∈ e.written.newOps c, ∀ x, e.addr ≤ x → x < e.addr + e.size → ¬op.Erases x

/-- Two records have no byte in common. -/
def Entry.Apart (e e' : Entry) : Prop := e.addr + e.size ≤ e'.addr ∨ e'.addr + e'.size ≤ e.addr

/-- The history follows the run. -/
theorem run_history (calls : List Save) :
    (run historyStep (bootBoard, []) calls).1 = optRun calls := by
  induction calls using List.reverseRecOn with
  | nil => rfl
  | append_singleton calls a ih =>
      rw [run_concat, optRun, run_concat, ← optRun, ← ih]
      rfl

theorem history_concat (calls : List Save) (a : Save) :
    history (calls ++ [a]) = entryOf (optRun calls) a :: history calls := by
  rw [history, run_concat, historyStep, run_history]
  rfl

theorem history_saves (calls : List Save) : (history calls).map Entry.save = calls.reverse := by
  induction calls using List.reverseRecOn with
  | nil => rfl
  | append_singleton calls a ih =>
      rw [history_concat, List.map_cons, ih, List.reverse_append]
      rfl

theorem length_history (calls : List Save) : (history calls).length = calls.length := by
  rw [← List.length_map Entry.save, history_saves, List.length_reverse]

/-- The records of a run have the indices from its length down to 1. -/
theorem history_indices {calls : List Save} (hsmall : ∀ a ∈ calls, a.Small)
    (hlen : calls.length ≤ 32000) :
    (history calls).map Entry.index = ((List.range calls.length).map (· + 1)).reverse := by
  induction calls using List.reverseRecOn with
  | nil => rfl
  | append_singleton calls a ih =>
      rw [List.length_append, List.length_singleton] at hlen
      have hsmall' : ∀ a ∈ calls, a.Small := fun a ha => hsmall a (by simp [ha])
      have hready := (optReady_run calls hsmall' (by omega)).2
      have hindex : (entryOf (optRun calls) a).index = calls.length + 1 := by
        rw [← hready.total]
        exact nextIndex_eq hready.inv
      rw [history_concat, List.map_cons, ih hsmall' (by omega), List.length_append,
        List.length_singleton, List.range_succ, List.map_append, List.reverse_append, hindex]
      rfl

/-! ### Erases since a record was written -/

theorem FlashChip_newOps_append {c c₁ c₂ : FlashChip} {old new : List FlashOp}
    (h₁ : c₁.ops = old ++ c.ops) (h₂ : c₂.ops = new ++ c₁.ops) :
    c.newOps c₂ = new ++ c.newOps c₁ := by
  have h : c₂.ops = (new ++ old) ++ c.ops := by rw [h₂, h₁, List.append_assoc]
  rw [FlashChip.newOps_eq h, FlashChip.newOps_eq h₁]

/-- The record was written before the chip was told what it has been told since. -/
def Entry.Before (e : Entry) (c : FlashChip) : Prop := ∃ old, c.ops = old ++ e.written.ops

theorem Entry.Before.trans {e : Entry} {c c' : FlashChip} {new : List FlashOp} (h : e.Before c)
    (hops : c'.ops = new ++ c.ops) : e.Before c' := by
  obtain ⟨old, hold⟩ := h
  exact ⟨new ++ old, by rw [hops, hold, List.append_assoc]⟩

/-- What is unerased later was unerased before, and nothing in between erases it. -/
theorem Entry.Unerased.split {e : Entry} {c c' : FlashChip} {new : List FlashOp}
    (h : e.Unerased c') (hbefore : e.Before c) (hops : c'.ops = new ++ c.ops) :
    e.Unerased c ∧ ∀ op ∈ new, ∀ x, e.addr ≤ x → x < e.addr + e.size → ¬op.Erases x := by
  obtain ⟨old, hold⟩ := hbefore
  have hsplit := FlashChip_newOps_append hold hops
  constructor
  · intro op hop
    exact h op (by rw [hsplit]; exact List.mem_append_right new hop)
  · intro op hop
    exact h op (by rw [hsplit]; exact List.mem_append_left _ hop)

/-! ### The invariant -/

/-- The records `es` of a run that has come to `b`. -/
structure Chain (b : Board) (es : List Entry) : Prop where
  length : es.length = b.optLogInfo.logTotalNum
  linked : Linked b.optLogInfo.currlogAddr b.optLogInfo.currlogSize es
  small : ∀ e ∈ es, e.save.Small
  low : ∀ e ∈ es, optRegion.dataBegin ≤ e.addr
  lim : ∀ e ∈ es, e.addr + e.size ≤ 2 ^ 24
  prev : ∀ e ∈ es, e.prevAddr < 2 ^ 32 ∧ e.prevSize < 2 ^ 32
  before : ∀ e ∈ es, e.Before b.flash
  kept : ∀ k, (∀ e ∈ es.take k, e.Unerased b.flash) →
    (∀ e ∈ es.take k, Stores b.flash.mem e.addr e.bytes) ∧ (es.take k).Pairwise Entry.Apart

theorem chain_boot : Chain bootBoard [] where
  length := rfl
  linked := trivial
  small := by simp
  low := by simp
  lim := by simp
  prev := by simp
  before := by simp
  kept := by simp

section
variable {b : Board} {n : Nat} {a : Save} {c₁ c₂ : FlashChip} {new₁ new₂ : List FlashOp}
  {es : List Entry}

theorem entryOf_addr (ht : SaveTrace optRegion b.optLogInfo b.flash a.now a.buff c₁ c₂ new₁ new₂) :
    (entryOf b a).addr = landing optRegion b.optLogInfo := by rw [entryOf, ht.data]

theorem entryOf_written
    (ht : SaveTrace optRegion b.optLogInfo b.flash a.now a.buff c₁ c₂ new₁ new₂) :
    (entryOf b a).written = c₁ := by rw [entryOf, ht.data]

theorem Linked.take : ∀ {es : List Entry} {addr size : Nat}, Linked addr size es → ∀ k,
    Linked addr size (es.take k)
  | [], _, _, _, k => by simp [Linked]
  | _ :: _, _, _, _, 0 => trivial
  | _ :: _, _, _, h, k + 1 => ⟨h.1, h.2.1, h.2.2.take k⟩

theorem Entry.bytes_head (e : Entry) (h : 0 < e.bytes.length) : e.bytes[0] = 0xBC := rfl

/-- **A save lands clear of every older record that is still there.** -/
theorem landing_apart
    (ht : SaveTrace optRegion b.optLogInfo b.flash a.now a.buff c₁ c₂ new₁ new₂)
    (hlink : Linked b.optLogInfo.currlogAddr b.optLogInfo.currlogSize es)
    (hstores : ∀ e ∈ es, Stores b.flash.mem e.addr e.bytes) (hapart : es.Pairwise Entry.Apart)
    (hno : ∀ e ∈ es, ∀ op ∈ new₁, ∀ x, e.addr ≤ x → x < e.addr + e.size → ¬op.Erases x) :
    ∀ e ∈ es, e.addr + e.size ≤ landing optRegion b.optLogInfo ∨
      landing optRegion b.optLogInfo + (a.buff.length + 26) ≤ e.addr := by
  intro e he
  have hpos : 0 < e.size := Nat.lt_of_lt_of_le (by decide) (Nat.le_add_left 26 _)
  have hlen : (dataRecord optRegion b.optLogInfo a.now a.buff).length = a.buff.length + 26 :=
    length_dataRecord a.now a.buff
  by_contra hc
  rw [not_or, Nat.not_le, Nat.not_le] at hc
  by_cases hstart : landing optRegion b.optLogInfo ≤ e.addr
  · -- The head of the record would have been blank.
    have hblank := ht.appended.wasBlank e.addr hstart (by omega)
      fun op hop => hno e he op hop e.addr (Nat.le_refl _) (by omega)
    have hhead := hstores e he 0 (by rw [Entry.length_bytes]; exact hpos)
    rw [Nat.add_zero, hblank, e.bytes_head] at hhead
    exact absurd hhead (by decide)
  · by_cases hbump : b.optLogInfo.logTotalNum ≠ 0 ∧
      optRegion.dataEnd ≤ nextAddr b.optLogInfo
    · exact hno e he _ (ht.bumped hbump.1 hbump.2) (landing optRegion b.optLogInfo) (by omega)
        (by omega) ⟨_, rfl, rfl⟩
    · -- The record would reach over the end of the newest one.
      have hto : landing optRegion b.optLogInfo = nextAddr b.optLogInfo := by
        rw [landing, if_neg hbump]
      cases es with
      | nil => exact absurd he (by simp)
      | cons e₁ es =>
          obtain ⟨haddr, hsize, -⟩ := hlink
          rw [nextAddr, ← haddr, ← hsize] at hto
          rcases List.mem_cons.mp he with rfl | he
          · omega
          · have hpos₁ : 0 < e₁.size := Nat.lt_of_lt_of_le (by decide) (Nat.le_add_left 26 _)
            have hdis := (List.pairwise_cons.mp hapart).1 e he
            rw [Entry.Apart] at hdis
            omega

/-- The info half writes below every record. -/
theorem SlotWritten.record_kept (h : SlotWritten c₁ (slotAddr optRegion n)
    (infoRecord (savedInfo optRegion b.optLogInfo a.buff)) c₂ new₂) (hn : n < 32000) {e : Entry}
    (hlow : optRegion.dataBegin ≤ e.addr)
    (hno : ∀ op ∈ new₂, ∀ x, e.addr ≤ x → x < e.addr + e.size → ¬op.Erases x)
    (hs : Stores c₁.mem e.addr e.bytes) : Stores c₂.mem e.addr e.bytes := by
  refine hs.congr fun x hlo hhi => ?_
  rw [Entry.length_bytes] at hhi
  have hslot : slotAddr optRegion n + 30 ≤ x := by
    have hbegin : optRegion.dataBegin = optRegion.infoBegin + 1024000 := rfl
    rw [slotAddr]
    omega
  exact h.kept x (Or.inr (by rw [length_infoRecord]; exact hslot))
    fun op hop => hno op hop x hlo hhi

/-- Records that were not erased are there after a save, and the new one is clear of them. -/
theorem Chain.kept_step (h : OptReady n b) (hn : n < 32000) (hc : Chain b es)
    (ht : SaveTrace optRegion b.optLogInfo b.flash a.now a.buff c₁ c₂ new₁ new₂) (k : Nat)
    (hk : ∀ e ∈ (entryOf b a :: es).take k, e.Unerased c₂) :
    (∀ e ∈ (entryOf b a :: es).take k, Stores c₂.mem e.addr e.bytes) ∧
      ((entryOf b a :: es).take k).Pairwise Entry.Apart := by
  have hland := landing_bounds fits_optRegion h.inv
  have haddr := entryOf_addr ht
  have hsize : (entryOf b a).size = a.buff.length + 26 := rfl
  have hslot := ht.slot
  rw [h.total] at hslot
  cases k with
  | zero => simp
  | succ k =>
      rw [List.take_succ_cons] at hk ⊢
      obtain ⟨hnew, hold⟩ := List.forall_mem_cons.mp hk
      have hmem : ∀ e ∈ es.take k, e ∈ es := fun e he => List.mem_of_mem_take he
      have hsplit : ∀ e ∈ es.take k, e.Unerased b.flash ∧
          ∀ op ∈ new₂ ++ new₁, ∀ x, e.addr ≤ x → x < e.addr + e.size → ¬op.Erases x :=
        fun e he => (hold e he).split (hc.before e (hmem e he)) ht.ops
      obtain ⟨hstores, hapart⟩ := hc.kept k fun e he => (hsplit e he).1
      have hclear := landing_apart ht (hc.linked.take k) hstores hapart
        fun e he op hop => (hsplit e he).2 op (List.mem_append_right new₂ hop)
      constructor
      · intro e he
        rcases List.mem_cons.mp he with rfl | he
        · refine hslot.record_kept hn (haddr ▸ hland.1) ?_ (haddr ▸ ht.appended.stores)
          have hops : (entryOf b a).written.newOps c₂ = new₂ := by
            rw [entryOf_written ht]
            exact FlashChip.newOps_eq ht.slot.ops
          rw [Entry.Unerased, hops] at hnew
          exact hnew
        · refine hslot.record_kept hn (hc.low e (hmem e he))
            (fun op hop => (hsplit e he).2 op (List.mem_append_left new₁ hop)) ?_
          refine (hstores e he).congr fun x hlo hhi => ?_
          rw [Entry.length_bytes] at hhi
          have hcl := hclear e he
          refine ht.appended.kept x (by rw [length_dataRecord]; omega) fun op hop => ?_
          exact (hsplit e he).2 op (List.mem_append_right new₂ hop) x hlo hhi
      · refine List.pairwise_cons.mpr ⟨fun e he => ?_, hapart⟩
        rw [Entry.Apart, haddr, hsize]
        exact (hclear e he).symm

/-- **The chain grows by the record of each save.** -/
theorem Chain.step (h : OptReady n b) (hn : n < 32000) (ha : a.Small) (hc : Chain b es) :
    Chain (optStep b a) (entryOf b a :: es) := by
  obtain ⟨c₁, c₂, new₁, new₂, ht⟩ := h.trace hn ha
  have hland := landing_bounds fits_optRegion h.inv
  have haddr := entryOf_addr ht
  have hsize : (entryOf b a).size = a.buff.length + 26 := rfl
  have hroom : optRegion.dataEnd + 8192 ≤ 2 ^ 24 := fits_optRegion.room
  have hsmall : a.buff.length ≤ 229 := ha
  have hinv := h.inv
  rw [optStep, h.save_eq ht]
  dsimp only
  exact
    { length := by
        rw [List.length_cons, hc.length, savedInfo_total (h.total.symm ▸ hn)]
      linked := by
        refine ⟨haddr, rfl, ?_⟩
        by_cases hz : b.optLogInfo.logTotalNum = 0
        · have hnil : es = [] := List.eq_nil_of_length_eq_zero (hc.length.trans hz)
          rw [hnil]
          trivial
        · have hpre := preload_of_ne (r := optRegion) hz (a.buff.length + 26)
          simp only [entryOf, hpre]
          exact hc.linked
      small := by
        intro e he
        rcases List.mem_cons.mp he with rfl | he
        · exact ha
        · exact hc.small e he
      low := by
        intro e he
        rcases List.mem_cons.mp he with rfl | he
        · rw [haddr]
          exact hland.1
        · exact hc.low e he
      lim := by
        intro e he
        rcases List.mem_cons.mp he with rfl | he
        · rw [haddr, hsize]
          omega
        · exact hc.lim e he
      prev := by
        intro e he
        rcases List.mem_cons.mp he with rfl | he
        · have hbefore := (ht.inv fits_optRegion hinv (h.total.symm ▸ hn) ha).before
          exact ⟨hbefore.1, hbefore.2.2⟩
        · exact hc.prev e he
      before := by
        intro e he
        rcases List.mem_cons.mp he with rfl | he
        · exact ⟨new₂, by rw [entryOf_written ht]; exact ht.slot.ops⟩
        · exact (hc.before e he).trans ht.ops
      kept := hc.kept_step h hn ht }

end

/-- The chain of a run. -/
theorem chain_run {calls : List Save} (hsmall : ∀ a ∈ calls, a.Small)
    (hlen : calls.length ≤ 32000) : Chain (optRun calls) (history calls) := by
  induction calls using List.reverseRecOn with
  | nil => exact chain_boot
  | append_singleton calls a ih =>
      rw [List.length_append, List.length_singleton] at hlen
      have hsmall' : ∀ a ∈ calls, a.Small := fun a ha => hsmall a (by simp [ha])
      have hready := (optReady_run calls hsmall' (by omega)).2
      rw [history_concat, optRun, run_concat, ← optRun]
      exact (ih hsmall' (by omega)).step hready (by omega) (hsmall a (by simp))

/--
**Chain integrity.**  After saves that all succeeded, a query of the last `k` records
answers with exactly their frames, provided no byte of them has been erased since it
was written.  They carry the payloads of the last `k` saves, newest first, under
consecutive indices, and no two of them overlap.
-/
theorem optLogQue_history {calls : List Save} (hsmall : ∀ a ∈ calls, a.Small)
    (hall : AllSaved calls) {k : Nat} (hk : k ≤ calls.length)
    (hun : ∀ e ∈ (history calls).take k, e.Unerased (optRun calls).flash) :
    (optLogQue (optRun calls) k).map List.flatten =
        some (((history calls).take k).flatMap Entry.frame) ∧
      ((history calls).take k).map Entry.save = calls.reverse.take k ∧
      ((history calls).take k).map Entry.index =
        ((List.range calls.length).map (· + 1)).reverse.take k ∧
      ((history calls).take k).Pairwise Entry.Apart := by
  have hlen := hall.length_le hsmall
  have hready := hall.ready hsmall
  have hchain := chain_run hsmall hlen
  obtain ⟨hstores, hapart⟩ := hchain.kept k hun
  refine ⟨?_, ?_, ?_, hapart⟩
  · refine optLogQue_linked hready.link ?_ hchain.length.symm hchain.linked fun e he => ?_
    · rw [length_history]
      exact hk
    · have hmem := List.mem_of_mem_take he
      exact ⟨hchain.small e hmem, hchain.lim e hmem, hchain.prev e hmem, hstores e he⟩
  · rw [List.map_take, history_saves]
  · rw [List.map_take, history_indices hsmall hlen]

/-- Two saves with a payload, for queries on fixed input. -/
def twoSaves : List Save :=
  [⟨⟨2018, 1, 1, 0, 0, 0⟩, [1, 2, 3, 4]⟩, ⟨⟨2018, 1, 2, 0, 0, 0⟩, [5, 6, 7, 8]⟩]

/-- Nothing is erased between two saves. -/
theorem twoSaves_unerased :
    ∀ e ∈ (history twoSaves).take 2, e.Unerased (optRun twoSaves).flash := by
  have hops : ((history twoSaves).take 2).all (fun e =>
      (e.written.newOps (optRun twoSaves).flash).all fun op => !op.isErase) = true := by
    decide +kernel
  rintro e he op hop x - - ⟨a, rfl, -⟩
  exact absurd (List.all_eq_true.mp (List.all_eq_true.mp hops e he) _ hop) Bool.false_ne_true

theorem optLogQue_twoSaves :
    (optLogQue (optRun twoSaves) 2).map List.flatten =
        some (((history twoSaves).take 2).flatMap Entry.frame) ∧
      ((history twoSaves).take 2).map Entry.save = twoSaves.reverse.take 2 ∧
      ((history twoSaves).take 2).map Entry.index =
        ((List.range twoSaves.length).map (· + 1)).reverse.take 2 ∧
      ((history twoSaves).take 2).Pairwise Entry.Apart := by
  have hsmall : ∀ a ∈ twoSaves, a.Small := by decide
  exact optLogQue_history hsmall (optReady_run twoSaves hsmall (by decide)).1 (by decide)
    twoSaves_unerased

/-- A save whose record has 256 bytes. -/
def overlongSave : Save := ⟨⟨2018, 1, 1, 0, 0, 0⟩, List.replicate 230 0⟩

/-- The length of a record of 256 bytes is read back as 0, and the query copies `0 - 15` bytes. -/
theorem overlongSave_not_answered :
    AllSaved [overlongSave] ∧
      (history [overlongSave]).all (fun e =>
        e.written.newOps (optRun [overlongSave]).flash == [.program 0 30]) = true ∧
      optLogQue (optRun [overlongSave]) 1 = none := by
  have hsaved : (optLogSave2Flash bootBoard overlongSave.now overlongSave.buff).1 = .SUCC := by
    decide +kernel
  exact ⟨⟨hsaved, trivial⟩, by decide +kernel, by decide +kernel⟩

end SwiftAcu.AppLog
