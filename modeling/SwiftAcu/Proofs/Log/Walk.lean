/-
The walk over stored records.

A query reads the record RAM points at and follows the pointer in the last ten bytes
of each record to the one before it.  Where the records of a linked list are stored
the walk answers with their frames, newest first.
-/
import SwiftAcu.Acu.LogQuery
import SwiftAcu.Acu.LogRun
import SwiftAcu.Proofs.Log.Record

namespace SwiftAcu.AppLog

open NorFlash

/-- A record of the operation log, and the chip when the record had been written. -/
structure Entry where
  addr : Nat
  index : Nat
  save : Save
  prevAddr : Nat
  prevSize : Nat
  written : FlashChip

namespace Entry

def size (e : Entry) : Nat := e.save.buff.length + 26

/-- The record as it was programmed. -/
def bytes (e : Entry) : List UInt8 :=
  record e.size e.index e.save.now e.save.buff e.prevAddr e.prevSize

/-- What a query sends of the record: its index, its date and time and its payload. -/
def payload (e : Entry) : List UInt8 := be32 e.index ++ dateTime2Bytebuff e.save.now ++ e.save.buff

/-- The frame a query of the operation log sends for the record. -/
def frame (e : Entry) : List UInt8 := logFrame operationLogQueID e.payload

@[simp] theorem length_bytes (e : Entry) : e.bytes.length = e.size := by
  simp [bytes, size]

@[simp] theorem length_payload (e : Entry) : e.payload.length = e.size - 15 := by
  simp [payload, size]
  omega

/-- The record around what a query sends of it. -/
theorem bytes_eq_payload (e : Entry) :
    e.bytes = ([0xBC] ++ be32 e.size) ++ (e.payload ++ (be32 e.prevAddr ++ be32 e.prevSize ++
      [checkSum8BitGet (recordBody e.size e.index e.save.now e.save.buff e.prevAddr e.prevSize),
        0xCB])) := by
  simp only [bytes, record, recordBody, payload, List.append_assoc]

/-- The record before its back-pointer. -/
theorem bytes_eq_pointer (e : Entry) :
    ∃ front rest, e.bytes = front ++ (be32 e.prevAddr ++ (be32 e.prevSize ++ rest)) ∧
      front.length = e.size - 10 := by
  refine ⟨[0xBC] ++ be32 e.size ++ e.payload, [checkSum8BitGet (recordBody e.size e.index
    e.save.now e.save.buff e.prevAddr e.prevSize), 0xCB], ?_, ?_⟩
  · simp only [bytes_eq_payload, List.append_assoc]
  · simp [size]
    omega

end Entry

/-! ### Reading one record -/

/-- **A stored record is read back.** -/
theorem read1Log_stored {c : FlashChip} {info : LogInfo} {e : Entry} (logbuff : List UInt8)
    (hsmall : e.save.Small) (haddr : info.currlogAddr = e.addr) (hsize : info.currlogSize = e.size)
    (hlim : e.addr + e.size ≤ 2 ^ 24) (hstores : Stores c.mem e.addr e.bytes) :
    read1Log commLink info c logbuff =
      .succ (e.bytes ++ logbuff.drop e.size) (UInt8.ofNat e.size) := by
  have hlen : e.bytes.length = e.size := e.length_bytes
  have hrange : 26 ≤ e.size ∧ e.size ≤ 255 := by
    rw [Save.Small] at hsmall
    rw [Entry.size]
    omega
  have hread : c.b3ReadDataBuff e.addr e.size = e.bytes := by
    rw [FlashChip.b3ReadDataBuff_eq c hlim, ← hlen]
    exact readRange_eq_iff.mpr hstores
  set body := recordBody e.size e.index e.save.now e.save.buff e.prevAddr e.prevSize with hbody
  have hsplit : e.bytes = body ++ [checkSum8BitGet body, 0xCB] := rfl
  have hbodylen : body.length = e.size - 2 := by
    rw [hsplit, List.length_append] at hlen
    simp only [List.length_cons, List.length_nil] at hlen
    omega
  have hhead : (e.bytes ++ logbuff.drop e.size)[0]? = some 0xBC := by
    rw [List.getElem?_append_left (by omega)]
    rfl
  have htake : (e.bytes ++ logbuff.drop e.size).take (e.size - 2) = body := by
    rw [hsplit, List.append_assoc, ← hbodylen]
    exact List.take_left
  have hsum : (e.bytes ++ logbuff.drop e.size)[e.size - 2]? = some (checkSum8BitGet body) := by
    rw [hsplit, List.append_assoc, ← hbodylen, List.getElem?_append_right (Nat.le_refl _),
      Nat.sub_self]
    rfl
  unfold read1Log
  simp only [haddr, hsize, hread]
  rw [if_neg (by decide), if_neg (by omega), if_neg (by omega), if_neg (not_not.mpr hhead),
    if_neg (by omega), htake, hsum, if_neg (not_not.mpr rfl)]

/-! ### The walk -/

/-- The entries are linked from a pointer to the newest of them. -/
def Linked : Nat → Nat → List Entry → Prop
  | _, _, [] => True
  | addr, size, e :: es => e.addr = addr ∧ e.size = size ∧ Linked e.prevAddr e.prevSize es

/-- The entry can be read and its pointer followed. -/
structure Entry.Readable (m : Nat → UInt8) (e : Entry) : Prop where
  small : e.save.Small
  lim : e.addr + e.size ≤ 2 ^ 24
  prev : e.prevAddr < 2 ^ 32 ∧ e.prevSize < 2 ^ 32
  stores : Stores m e.addr e.bytes

theorem getD_append_at (front back : List UInt8) (j : Nat) (d : UInt8) :
    (front ++ back).getD (front.length + j) d = back.getD j d := by
  rw [List.getD_append_right _ _ _ _ (Nat.le_add_right _ _), Nat.add_sub_cancel_left]

/-- The pointer read from the end of a record is the one that was stored. -/
theorem pointer_stored {e : Entry} (hprev : e.prevAddr < 2 ^ 32)
    (hprev' : e.prevSize < 2 ^ 32) (rest : List UInt8) :
    (ofBe32 ((e.bytes ++ rest).getD (e.size - 10) 0) ((e.bytes ++ rest).getD (e.size - 9) 0)
        ((e.bytes ++ rest).getD (e.size - 8) 0) ((e.bytes ++ rest).getD (e.size - 7) 0) =
      e.prevAddr) ∧
    (ofBe32 ((e.bytes ++ rest).getD (e.size - 6) 0) ((e.bytes ++ rest).getD (e.size - 5) 0)
        ((e.bytes ++ rest).getD (e.size - 4) 0) ((e.bytes ++ rest).getD (e.size - 3) 0) =
      e.prevSize) := by
  obtain ⟨front, tail, hbytes, hfront⟩ := e.bytes_eq_pointer
  have hsize : 26 ≤ e.size := Nat.le_add_left 26 _
  have hat : ∀ i j, i + j = 10 → (e.bytes ++ rest).getD (e.size - i) 0 =
      (be32 e.prevAddr ++ (be32 e.prevSize ++ (tail ++ rest))).getD j 0 := by
    intro i j hij
    have hpos : e.size - i = front.length + j := by omega
    rw [hbytes, hpos, List.append_assoc, getD_append_at]
    simp only [List.append_assoc]
  constructor
  · rw [hat 10 0 rfl, hat 9 1 rfl, hat 8 2 rfl, hat 7 3 rfl]
    exact ofBe32_be32 hprev rfl
  · rw [hat 6 4 rfl, hat 5 5 rfl, hat 4 6 rfl, hat 3 7 rfl]
    exact ofBe32_be32 hprev' rfl

/-- What a query sends of a record is between the length and the back-pointer. -/
theorem payload_stored (e : Entry) (rest : List UInt8) :
    ((e.bytes ++ rest).drop 5).take (e.size - 15) = e.payload := by
  have hlen : e.payload.length = e.size - 15 := e.length_payload
  rw [e.bytes_eq_payload, List.append_assoc, List.append_assoc e.payload]
  rw [List.drop_left' (by rfl), ← hlen]
  exact List.take_left

theorem LogReply.flush_all (q : LogReply) :
    q.flush.sent.flatten ++ q.flush.waiting = q.sent.flatten ++ q.waiting := by
  unfold LogReply.flush
  split
  · simp
  · rfl

/-- **The walk answers with the frames of the linked entries.**  Induction on the number of
records still to send; the reply grows by one frame a round, wherever the datagrams end. -/
theorem logQueLoop_linked {c : FlashChip} :
    ∀ (k : Nat) (es : List Entry) (scan : LogInfo) (logbuff : List UInt8) (q : LogReply),
      k ≤ es.length → Linked scan.currlogAddr scan.currlogSize es →
      (∀ e ∈ es.take k, e.Readable c.mem) →
      ∃ q', logQueLoop operationLogQueID commLink c k scan logbuff q = some q' ∧
        q'.sent.flatten ++ q'.waiting =
          q.sent.flatten ++ q.waiting ++ (es.take k).flatMap Entry.frame := by
  intro k
  induction k with
  | zero =>
      intro es scan logbuff q _ _ _
      exact ⟨q, rfl, by simp⟩
  | succ k ih =>
      intro es scan logbuff q hk hlink hread
      cases es with
      | nil => exact absurd hk (Nat.not_succ_le_zero k)
      | cons e es =>
          obtain ⟨haddr, hsize, hrest⟩ := hlink
          have he := hread e (by simp)
          have hrange : 26 ≤ e.size ∧ e.size ≤ 255 := by
            have hsmall := he.small
            rw [Save.Small] at hsmall
            rw [Entry.size]
            omega
          have hread1 := read1Log_stored logbuff he.small haddr.symm hsize.symm he.lim
            he.stores
          have hlen : (UInt8.ofNat e.size).toNat = e.size := by
            rw [UInt8.toNat_ofNat']
            omega
          obtain ⟨hpaddr, hpsize⟩ :=
            pointer_stored he.prev.1 he.prev.2 (logbuff.drop e.size)
          rw [logQueLoop, hread1]
          dsimp only
          rw [hlen, if_neg (by omega), payload_stored, hpaddr, hpsize]
          obtain ⟨q', hloop, hq'⟩ := ih es
            { scan with currlogAddr := e.prevAddr, currlogSize := e.prevSize }
            (e.bytes ++ logbuff.drop e.size)
            (LogReply.flush { q with waiting := q.waiting ++ e.frame }) (by simpa using hk) hrest
            (fun e' he' => hread e' (by simp [he']))
          refine ⟨q', hloop, ?_⟩
          rw [hq', LogReply.flush_all]
          simp

/-- **A query of the last `k` records**, when they are stored. -/
theorem optLogQue_linked {b : Board} (hlink : b.commStat = commLink) {es : List Entry} {k : Nat}
    (hk : k ≤ es.length) (htotal : b.optLogInfo.logTotalNum = es.length)
    (hes : Linked b.optLogInfo.currlogAddr b.optLogInfo.currlogSize es)
    (hread : ∀ e ∈ es.take k, e.Readable b.flash.mem) :
    (optLogQue b k).map List.flatten = some ((es.take k).flatMap Entry.frame) := by
  obtain ⟨q, hloop, hq⟩ := logQueLoop_linked k es b.optLogInfo (List.replicate 256 0) ⟨[], []⟩ hk
    hes hread
  unfold optLogQue logQue
  dsimp only
  rw [if_neg (by omega), hlink, hloop]
  simp only [List.flatten_nil, List.nil_append] at hq
  rw [← hq]
  simp only [Option.map_some]
  split
  · simp
  · next hnone =>
      have hempty : q.waiting = [] := List.eq_nil_of_length_eq_zero (by omega)
      rw [hempty, List.append_nil]

end SwiftAcu.AppLog
