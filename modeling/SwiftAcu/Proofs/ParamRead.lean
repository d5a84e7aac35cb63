/-
How `APP_PARAM_Read` cuts a range into calls, and what the calls read of it.

The loop counts in `sun_len2`, which nobody else writes to, and so its address, its index and its
remainder are those of the next piece whatever has become of `sun_len1`: it ends after as many
passes as there are pieces, and the pieces it asks for tile the range.  Whether a call reads what
it is asked for is another matter.  It takes the length from `sun_len1` when the bus is free, and
if the interrupt of an earlier transfer has come in between it finds 0 there and reads one byte.
So the range is read if such an interrupt meets pieces of one byte at most, and otherwise there is
a gap and the call succeeds all the same.
-/
import SwiftAcu.Acu.ParamRead
import SwiftAcu.Lib.Tiling

namespace SwiftAcu.ParamRead

open Tiling

variable {m : Eeprom} {evs : Nat → Event} {readbuff : Nat → UInt8} {addr n k : Nat} {l : Locals}

/-! ### One pass -/

/-- How many bytes a call reads that is asked for so many. -/
def Event.readNum (ev : Event) (asked : Nat) : Nat := if ev.late ∨ asked < 2 then 1 else asked

theorem toNat_byteNum (ev : Event) (asked : UInt32) :
    (byteNum (ev.length asked)).toNat = ev.readNum asked.toNat := by
  unfold byteNum Event.readNum Event.length
  by_cases hlate : ev.late = true
  · rw [if_pos hlate, if_pos (by decide), if_pos (Or.inl hlate)]
    rfl
  rw [if_neg hlate]
  by_cases hshort : asked < 2
  · have hnat : asked.toNat < 2 := UInt32.lt_iff_toNat_lt.mp hshort
    rw [if_pos hshort, if_pos (Or.inr hnat)]
    rfl
  · have hnat : ¬ asked.toNat < 2 := fun h => hshort (UInt32.lt_iff_toNat_lt.mpr h)
    rw [if_neg hshort, if_neg (not_or.mpr ⟨hlate, hnat⟩)]

theorem toNat_sunLen (readlen : UInt32) : (sunLen readlen).toNat = min 256 readlen.toNat := by
  unfold sunLen
  by_cases hlong : 256 < readlen
  · have hnat : 256 < readlen.toNat := UInt32.lt_iff_toNat_lt.mp hlong
    rw [if_pos hlong, Nat.min_eq_left (Nat.le_of_lt hnat)]
    rfl
  · have hnat : ¬ 256 < readlen.toNat := fun h => hlong (UInt32.lt_iff_toNat_lt.mpr h)
    rw [if_neg hlong, Nat.min_eq_right (Nat.not_lt.mp hnat)]

/-- The call for piece `k`. -/
def request (evs : Nat → Event) (addr n k : Nat) : Request :=
  ⟨addr + 256 * k, 256 * k, piece 256 n k, (evs k).readNum (piece 256 n k)⟩

/-- The loop is in front of piece `k`: `n` bytes from `addr` on go to `readbuff`. -/
structure Passed (m : Eeprom) (evs : Nat → Event) (readbuff : Nat → UInt8) (addr n k : Nat)
    (l : Locals) : Prop where
  readlen : l.readlen.toNat = n - 256 * k
  index : l.index.toNat = min n (256 * k)
  aAddr : l.aAddr.toNat = (addr + min n (256 * k)) % 2 ^ 16
  calls : l.calls = (List.range k).map (request evs addr n)
  stored : l.readbuff = l.calls.foldl (Request.store m) readbuff

theorem readBuffer_calls (m : Eeprom) (ev : Event) (l : Locals) :
    (readBuffer m ev l).2.calls = l.calls ++ [l.request ev] := by
  unfold readBuffer
  split
  · rfl
  · rfl

theorem readBuffer_fst (m : Eeprom) (ev : Event) (l : Locals) :
    (readBuffer m ev l).1 = if ev.timeout then .FAIL else .SUCC := by
  unfold readBuffer
  split
  · rfl
  · rfl

/-- The call in front of piece `k` is the one for it. -/
theorem Passed.request_eq (h : Passed m evs readbuff addr n k l) (hk : 256 * k < n)
    (hend : addr + n ≤ 2 ^ 16) :
    { l with sunLen1 := sunLen l.readlen }.request (evs k) = request evs addr n k := by
  have haddr : l.aAddr.toNat = addr + 256 * k := by
    have haAddr := h.aAddr
    omega
  have hindex : l.index.toNat = 256 * k := by
    have hindex := h.index
    omega
  have hasked : (sunLen l.readlen).toNat = piece 256 n k := by
    rw [toNat_sunLen, h.readlen, piece]
  rw [Locals.request, toNat_byteNum, haddr, hindex, hasked, request]

/-- The calls up to the one for piece `k`. -/
theorem Passed.calls_succ (h : Passed m evs readbuff addr n k l) (hk : 256 * k < n)
    (hend : addr + n ≤ 2 ^ 16) :
    (readBuffer m (evs k) { l with sunLen1 := sunLen l.readlen }).2.calls =
      (List.range (k + 1)).map (request evs addr n) := by
  rw [readBuffer_calls, h.request_eq hk hend, h.calls, List.range_succ, List.map_append,
    List.map_singleton]

/-- A call that succeeds leads to the next piece. -/
theorem Passed.next (h : Passed m evs readbuff addr n k l) (hk : 256 * k < n)
    (hend : addr + n ≤ 2 ^ 16) (hquiet : (evs k).timeout = false) :
    Passed m evs readbuff addr n (k + 1)
      { (readBuffer m (evs k) { l with sunLen1 := sunLen l.readlen }).2 with
        aAddr := l.aAddr + (sunLen l.readlen).toUInt16
        index := l.index + sunLen l.readlen
        readlen := l.readlen - sunLen l.readlen } := by
  have hlen := h.readlen
  have hindex := h.index
  have haAddr := h.aAddr
  have hasked := toNat_sunLen l.readlen
  have hcalls := h.calls_succ hk hend
  have hno : ¬ (evs k).timeout = true := by
    rw [hquiet]
    exact Bool.false_ne_true
  refine ⟨?_, ?_, ?_, hcalls, ?_⟩
  · show (l.readlen - sunLen l.readlen).toNat = _
    rw [UInt32.toNat_sub_of_le _ _ (UInt32.le_iff_toNat_le.mpr (by omega))]
    omega
  · show (l.index + sunLen l.readlen).toNat = _
    rw [UInt32.toNat_add]
    omega
  · show (l.aAddr + (sunLen l.readlen).toUInt16).toNat = _
    rw [UInt16.toNat_add, UInt32.toNat_toUInt16]
    omega
  · show (readBuffer m (evs k) { l with sunLen1 := sunLen l.readlen }).2.readbuff =
      (readBuffer m (evs k) { l with sunLen1 := sunLen l.readlen }).2.calls.foldl _ readbuff
    rw [readBuffer_calls, List.foldl_append]
    show _ = Request.store m (l.calls.foldl (Request.store m) readbuff) _
    rw [← h.stored, readBuffer, if_neg hno]

/-! ### The loop -/

/-- How the loop ends: all pieces are asked for, or those up to one whose call fails. -/
inductive Ends (m : Eeprom) (evs : Nat → Event) (readbuff : Nat → UInt8) (addr n k : Nat) :
    Ret × Locals → Prop
  | all {l : Locals} (hquiet : ∀ j, k ≤ j → j < pieceNum 256 n → (evs j).timeout = false)
      (hpassed : Passed m evs readbuff addr n (pieceNum 256 n) l) :
      Ends m evs readbuff addr n k (.SUCC, l)
  | failed {l : Locals} {j : Nat} (hkj : k ≤ j) (hj : j < pieceNum 256 n)
      (htimeout : (evs j).timeout = true)
      (hcalls : l.calls = (List.range (j + 1)).map (request evs addr n)) :
      Ends m evs readbuff addr n k (.FAIL, l)

theorem Ends.of_next {r : Ret × Locals} (hquiet : (evs k).timeout = false)
    (h : Ends m evs readbuff addr n (k + 1) r) : Ends m evs readbuff addr n k r := by
  cases h with
  | all hrest hpassed =>
      refine .all (fun j hkj hj => ?_) hpassed
      rcases Nat.eq_or_lt_of_le hkj with rfl | hlt
      · exact hquiet
      · exact hrest j hlt hj
  | failed hkj hj htimeout hcalls => exact .failed (Nat.le_of_succ_le hkj) hj htimeout hcalls

/-- **The loop ends**, after one pass for each piece at most. -/
theorem loop_ends (hend : addr + n ≤ 2 ^ 16) (hk : k ≤ pieceNum 256 n)
    (h : Passed m evs readbuff addr n k l) : Ends m evs readbuff addr n k (loop m evs l) := by
  have hpieces : n ≤ 256 * pieceNum 256 n := pieceNum_mul (by decide)
  -- by induction on the pieces that are left
  induction hleft : pieceNum 256 n - k generalizing k l with
  | zero =>
      obtain rfl : k = pieceNum 256 n := by omega
      have hzero : l.readlen = 0 := UInt32.toNat_inj.mp (by
        rw [h.readlen]
        exact Nat.sub_eq_zero_of_le hpieces)
      rw [loop, if_pos hzero]
      exact .all (fun j hj hj' => absurd hj' (Nat.not_lt.mpr hj)) h
  | succ left ih =>
      have hlt : k < pieceNum 256 n := by omega
      have hmore : 256 * k < n := (lt_pieceNum_iff (by decide)).mp hlt
      have hne : l.readlen ≠ 0 := by
        intro hzero
        have hlen := h.readlen
        rw [hzero] at hlen
        exact absurd (Nat.sub_eq_zero_iff_le.mp hlen.symm) (Nat.not_le.mpr hmore)
      have hcount : l.calls.length = k := by
        rw [h.calls, List.length_map, List.length_range]
      have hret := readBuffer_fst m (evs k) { l with sunLen1 := sunLen l.readlen }
      have hcalls := h.calls_succ hmore hend
      have hnext := h.next hmore hend
      rw [loop, if_neg hne, hcount]
      generalize readBuffer m (evs k) { l with sunLen1 := sunLen l.readlen } = r
        at hret hcalls hnext
      obtain ⟨ret, l'⟩ := r
      by_cases htimeout : (evs k).timeout = true
      · rw [if_pos htimeout] at hret
        obtain rfl : ret = .FAIL := hret
        exact .failed (Nat.le_refl k) hlt htimeout hcalls
      · rw [if_neg htimeout] at hret
        obtain rfl : ret = .SUCC := hret
        have hquiet : (evs k).timeout = false := Bool.eq_false_iff.mpr htimeout
        exact Ends.of_next hquiet (ih hlt (hnext hquiet) (by omega))

/-! ### What is asked for, and what is read -/

/-- The range that a call is asked for … -/
def Request.askedRange (q : Request) : Nat × Nat := (q.readAddr, q.asked)

/-- … and the one it reads. -/
def Request.readRange (q : Request) : Nat × Nat := (q.readAddr, q.read)

/-- Ranges of at most 256 bytes, each at its place of the buffer. -/
def InPlace (addr : Nat) (range : Request → Nat × Nat) (calls : List Request) : Prop :=
  ∀ q ∈ calls, (range q).2 ≤ 256 ∧ (range q).1 = addr + q.index

/-- They cover `[addr, addr + n)` in order, without a gap or an overlap. -/
def Covers (addr n : Nat) (range : Request → Nat × Nat) (calls : List Request) : Prop :=
  Tiles addr (addr + n) (calls.map range) ∧ InPlace addr range calls

/-- Every call succeeds. -/
def Quiet (evs : Nat → Event) (n : Nat) : Prop :=
  ∀ k < pieceNum 256 n, (evs k).timeout = false

/-- No interrupt comes late, or only where one byte is to be read. -/
def Punctual (evs : Nat → Event) (n : Nat) : Prop :=
  ∀ k < pieceNum 256 n, (evs k).late = true → piece 256 n k = 1

instance (evs : Nat → Event) (n : Nat) : Decidable (Quiet evs n) :=
  inferInstanceAs (Decidable (∀ k < pieceNum 256 n, (evs k).timeout = false))

instance (evs : Nat → Event) (n : Nat) : Decidable (Punctual evs n) :=
  inferInstanceAs (Decidable (∀ k < pieceNum 256 n, (evs k).late = true → piece 256 n k = 1))

theorem piece_le (n k : Nat) : piece 256 n k ≤ 256 := Nat.min_le_left _ _

theorem covers_asked (evs : Nat → Event) (addr n : Nat) :
    Covers addr n Request.askedRange ((List.range (pieceNum 256 n)).map (request evs addr n)) := by
  refine ⟨?_, fun q hq => ?_⟩
  · rw [List.map_map]
    exact tiles_pieces (by decide) addr n
  · obtain ⟨k, -, rfl⟩ := List.mem_map.mp hq
    exact ⟨piece_le n k, rfl⟩

/-- A call reads what it is asked for unless it comes too late for more than one byte. -/
theorem readNum_eq_iff (ev : Event) {asked : Nat} (hpos : 0 < asked) :
    ev.readNum asked = asked ↔ (ev.late = true → asked = 1) := by
  unfold Event.readNum
  by_cases hshort : asked < 2
  · have hone : asked = 1 := by omega
    rw [if_pos (Or.inr hshort)]
    exact iff_of_true hone.symm fun _ => hone
  by_cases hlate : ev.late = true
  · rw [if_pos (Or.inl hlate)]
    exact ⟨fun h _ => h.symm, fun h => (h hlate).symm⟩
  · rw [if_neg (not_or.mpr ⟨hlate, hshort⟩)]
    exact iff_of_true rfl fun h => absurd h hlate

/-- The range is read if every late interrupt meets a piece of one byte, and only then. -/
theorem covers_read_iff (evs : Nat → Event) (addr n : Nat) :
    Covers addr n Request.readRange ((List.range (pieceNum 256 n)).map (request evs addr n)) ↔
      Punctual evs n := by
  have hasked := covers_asked evs addr n
  have hread {k : Nat} (hk : k < pieceNum 256 n) :
      (request evs addr n k).readRange = (request evs addr n k).askedRange ↔
        ((evs k).late = true → piece 256 n k = 1) := by
    have hmore : 256 * k < n := (lt_pieceNum_iff (by decide)).mp hk
    have hpos : 0 < piece 256 n k := by
      unfold piece
      omega
    rw [← readNum_eq_iff (evs k) hpos]
    exact ⟨congrArg Prod.snd, congrArg (Prod.mk _)⟩
  constructor
  · intro hcovers k hk
    have hsame := Tiles.eq_of_starts hcovers.1 hasked.1 (by simp only [List.map_map]; rfl)
    have hmem := List.mem_map_of_mem (f := request evs addr n) (List.mem_range.mpr hk)
    exact (hread hk).mp (List.map_inj_left.mp hsame _ hmem)
  · intro hlate
    have hranges (q : Request)
        (hq : q ∈ (List.range (pieceNum 256 n)).map (request evs addr n)) :
        q.readRange = q.askedRange := by
      obtain ⟨k, hk, rfl⟩ := List.mem_map.mp hq
      exact (hread (List.mem_range.mp hk)).mpr (hlate k (List.mem_range.mp hk))
    refine ⟨?_, fun q hq => ?_⟩
    · rw [List.map_congr_left hranges]
      exact hasked.1
    · rw [hranges q hq]
      exact hasked.2 q hq

/-- Requests that cover a range leave what is there in the buffer. -/
theorem store_of_tiles {calls : List Request} {lo hi i : Nat} (hlo : lo = addr + i)
    (h : Tiles lo hi (calls.map Request.readRange))
    (hplace : ∀ q ∈ calls, q.readAddr = addr + q.index) :
    calls.foldl (Request.store m) readbuff =
      Memory.write readbuff i (Memory.read m lo (hi - lo)) := by
  induction calls generalizing lo i readbuff with
  | nil =>
      obtain rfl : lo = hi := h
      rw [Nat.sub_self]
      exact ((Memory.write_eq_self_iff readbuff i []).mpr rfl).symm
  | cons q calls ih =>
      obtain ⟨hstart, -, htiles⟩ := h
      have haddr : q.readAddr = lo := hstart
      have hrest : Tiles (lo + q.read) hi (calls.map Request.readRange) := htiles
      have hindex : q.index = i := by
        have hq := hplace q List.mem_cons_self
        omega
      have hsplit : hi - lo = q.read + (hi - (lo + q.read)) := by
        have hle := hrest.le
        omega
      have hread : (Memory.read m lo q.read).length = q.read := Memory.length_read m lo q.read
      have htail : calls.foldl (Request.store m) (q.store m readbuff) =
          Memory.write (q.store m readbuff) (i + q.read)
            (Memory.read m (lo + q.read) (hi - (lo + q.read))) :=
        ih (by omega) hrest fun q' hq' => hplace q' (List.mem_cons_of_mem _ hq')
      rw [List.foldl_cons, htail, hsplit, Memory.read_add]
      show Memory.write (Memory.write readbuff q.index (Memory.read m q.readAddr q.read)) _ _ = _
      rw [hindex, haddr, ← Memory.write_append, hread]

/-! ### APP_PARAM_Read -/

section
variable (m : Eeprom) (evs : Nat → Event) (stack : UInt32) (readbuff : Nat → UInt8) (s : CommStat)
  {addr len : UInt16}

theorem paramRead_ends (hend : addr.toNat + len.toNat ≤ 65536) :
    Ends m evs readbuff addr.toNat len.toNat 0
      ((paramRead m evs stack addr readbuff len s).1,
        (paramRead m evs stack addr readbuff len s).2.1) := by
  have hstart : Passed m evs readbuff addr.toNat len.toNat 0
      ⟨len.toUInt32, stack, 0, addr, readbuff, []⟩ := by
    have haddr := addr.toNat_lt
    refine ⟨rfl, (Nat.min_eq_right (Nat.zero_le _)).symm, ?_, rfl, rfl⟩
    show addr.toNat = _
    omega
  have hloop := loop_ends hend (Nat.zero_le _) hstart
  unfold paramRead
  generalize loop m evs ⟨len.toUInt32, stack, 0, addr, readbuff, []⟩ = r at hloop
  obtain ⟨ret, l⟩ := r
  cases ret with
  | FAIL => exact hloop
  | SUCC => exact hloop

/-- All pieces have been asked for if every call succeeds, and those up to one whose call fails
otherwise. -/
theorem paramRead_cases (hend : addr.toNat + len.toNat ≤ 65536) :
    (Quiet evs len.toNat ∧ (paramRead m evs stack addr readbuff len s).1 = .SUCC ∧
        Passed m evs readbuff addr.toNat len.toNat (pieceNum 256 len.toNat)
          (paramRead m evs stack addr readbuff len s).2.1) ∨
      (¬ Quiet evs len.toNat ∧ (paramRead m evs stack addr readbuff len s).1 = .FAIL ∧
        ∃ j < pieceNum 256 len.toNat, (paramRead m evs stack addr readbuff len s).2.1.calls =
          (List.range (j + 1)).map (request evs addr.toNat len.toNat)) := by
  have hends := paramRead_ends m evs stack readbuff s hend
  generalize paramRead m evs stack addr readbuff len s = r at hends
  obtain ⟨ret, l, s'⟩ := r
  cases hends with
  | all hquiet hpassed => exact Or.inl ⟨fun k hk => hquiet k (Nat.zero_le k) hk, rfl, hpassed⟩
  | failed _ hj htimeout hcalls =>
      refine Or.inr ⟨fun hquiet => ?_, rfl, _, hj, hcalls⟩
      rw [hquiet _ hj] at htimeout
      exact Bool.false_ne_true htimeout

theorem paramRead_quiet (hend : addr.toNat + len.toNat ≤ 65536) (hquiet : Quiet evs len.toNat) :
    (paramRead m evs stack addr readbuff len s).1 = .SUCC ∧
      Passed m evs readbuff addr.toNat len.toNat (pieceNum 256 len.toNat)
        (paramRead m evs stack addr readbuff len s).2.1 := by
  rcases paramRead_cases m evs stack readbuff s hend with h | h
  · exact h.2
  · exact absurd hquiet h.1

/-- There is at most one call for each piece, and it is asked for the right range. -/
theorem paramRead_asked (hend : addr.toNat + len.toNat ≤ 65536) :
    (paramRead m evs stack addr readbuff len s).2.1.calls.length ≤ pieceNum 256 len.toNat ∧
      InPlace addr.toNat Request.askedRange
        (paramRead m evs stack addr readbuff len s).2.1.calls := by
  have hinPlace := (covers_asked evs addr.toNat len.toNat).2
  rcases paramRead_cases m evs stack readbuff s hend with ⟨-, -, hpassed⟩ | ⟨-, -, j, hj, hcalls⟩
  · rw [hpassed.calls]
    exact ⟨by rw [List.length_map, List.length_range], hinPlace⟩
  · rw [hcalls]
    refine ⟨by rw [List.length_map, List.length_range]; exact hj, fun q hq => hinPlace q ?_⟩
    obtain ⟨k, hk, rfl⟩ := List.mem_map.mp hq
    have hlt := List.mem_range.mp hk
    exact List.mem_map_of_mem (List.mem_range.mpr (by omega))

/-- What reading in chunks should do: everything is read if all calls succeed, and otherwise the
failure is reported. -/
def Chunked (addr len : UInt16) : Prop :=
  (Quiet evs len.toNat → (paramRead m evs stack addr readbuff len s).1 = .SUCC ∧
    Covers addr.toNat len.toNat Request.readRange
      (paramRead m evs stack addr readbuff len s).2.1.calls) ∧
  (¬ Quiet evs len.toNat → (paramRead m evs stack addr readbuff len s).1 = .FAIL)

/--
**Reading in chunks.**  The loop ends, and what its calls are asked for is right whatever they
leave in the length.  What they read is right if no interrupt comes late, and then the buffer holds
the parameter.
-/
theorem paramRead_chunked_iff (addr len : UInt16) (hend : addr.toNat + len.toNat ≤ 65536) :
    (paramRead m evs stack addr readbuff len s).2.1.calls.length ≤ pieceNum 256 len.toNat ∧
      InPlace addr.toNat Request.askedRange
        (paramRead m evs stack addr readbuff len s).2.1.calls ∧
      (Quiet evs len.toNat → Covers addr.toNat len.toNat Request.askedRange
        (paramRead m evs stack addr readbuff len s).2.1.calls) ∧
      (Chunked m evs stack readbuff s addr len ↔
        (Quiet evs len.toNat → Punctual evs len.toNat)) ∧
      (Quiet evs len.toNat → Punctual evs len.toNat →
        (paramRead m evs stack addr readbuff len s).2.1.readbuff =
          Memory.write readbuff 0 (SwiftAcu.paramRead m addr.toNat len.toNat)) := by
  have hasked := paramRead_asked m evs stack readbuff s hend
  have hquiet := paramRead_quiet m evs stack readbuff s hend
  refine ⟨hasked.1, hasked.2, fun hq => ?_, ⟨fun h hq => ?_, fun h => ⟨fun hq => ?_, ?_⟩⟩, ?_⟩
  · rw [(hquiet hq).2.calls]
    exact covers_asked evs addr.toNat len.toNat
  · have hcovers := (h.1 hq).2
    rw [(hquiet hq).2.calls] at hcovers
    exact (covers_read_iff evs addr.toNat len.toNat).mp hcovers
  · refine ⟨(hquiet hq).1, ?_⟩
    rw [(hquiet hq).2.calls]
    exact (covers_read_iff evs addr.toNat len.toNat).mpr (h hq)
  · intro hno
    exact ((paramRead_cases m evs stack readbuff s hend).resolve_left fun h => hno h.1).2.1
  · intro hq hpunctual
    have hcovers := (covers_read_iff evs addr.toNat len.toNat).mpr hpunctual
    have haddr : addr16 addr.toNat = addr.toNat := by
      have hlt := addr.toNat_lt
      unfold addr16
      omega
    rw [(hquiet hq).2.stored, (hquiet hq).2.calls, SwiftAcu.paramRead, haddr,
      store_of_tiles (Nat.add_zero _).symm hcovers.1 fun q hq => (hcovers.2 q hq).2,
      Nat.add_sub_cancel_left]

end

/-- Nothing happens. -/
def onTime (_ : Nat) : Event := ⟨false, false, false, 0⟩

/-- The transfer of the first call ends while the second one waits for the bus. -/
def lateSecond (k : Nat) : Event := ⟨k == 1, false, false, 0⟩

/-- Six hundred bytes in three calls, up to the last one that an address can name. -/
theorem chunked_onTime :
    Chunked (fun _ => 0) onTime 0 (fun _ => 0xFF) ⟨0, commLink⟩ 0xFDA8 600 :=
  (paramRead_chunked_iff (fun _ => 0) onTime 0 (fun _ => 0xFF) ⟨0, commLink⟩ 0xFDA8 600
    (by decide)).2.2.2.1.mpr fun _ => by decide

/-- Of 512 bytes the second call reads one, and the read succeeds. -/
theorem not_chunked_lateSecond :
    (paramRead (fun _ => 0) lateSecond 0 0 (fun _ => 0xFF) 512 ⟨0, commLink⟩).1 = .SUCC ∧
      (paramRead (fun _ => 0) lateSecond 0 0 (fun _ => 0xFF) 512 ⟨0, commLink⟩).2.1.calls =
        [⟨0, 0, 256, 256⟩, ⟨256, 256, 256, 1⟩] ∧
      ¬ ∀ (m : Eeprom) (evs : Nat → Event) (stack : UInt32) (readbuff : Nat → UInt8)
        (s : CommStat) (addr len : UInt16), addr.toNat + len.toNat ≤ 65536 →
          Chunked m evs stack readbuff s addr len := by
  have hquiet : Quiet lateSecond 512 := by decide
  have hrequests : (List.range (pieceNum 256 512)).map (request lateSecond 0 512) =
      [⟨0, 0, 256, 256⟩, ⟨256, 256, 256, 1⟩] := by decide
  obtain ⟨hsucc, hpassed⟩ := @paramRead_quiet (fun _ => 0) lateSecond 0 (fun _ => 0xFF)
    ⟨0, commLink⟩ 0 512 (by decide) hquiet
  refine ⟨hsucc, hpassed.calls.trans hrequests, fun hall => ?_⟩
  have hcovers := ((hall (fun _ => 0) lateSecond 0 (fun _ => 0xFF) ⟨0, commLink⟩ 0 512
    (by decide)).1 hquiet).2
  rw [hpassed.calls] at hcovers
  exact absurd ((covers_read_iff lateSecond 0 512).mp hcovers) (by decide)

end SwiftAcu.ParamRead
