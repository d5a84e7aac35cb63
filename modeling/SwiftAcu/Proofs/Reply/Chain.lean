/-
What the flash must hold for a log query.

The walk of a query goes from record to record by the address and the size in the last
ten bytes of each.  Whether it stays inside `logbuff[256]` and `PCCOMMTxBuff[1500]` is a
matter of the links it comes by: a size of up to 1000 passes the check, but only a record
of 15 to 255 bytes can be read and sent.  `ChainSound` says it of the flash alone.
-/
import SwiftAcu.Proofs.Reply.Log

namespace SwiftAcu.Reply

open AppLog

/-! ### Links -/

/-- The bytes are what `APP_LOG_Read1Log` takes for a record. -/
def IsRecord (bytes : List UInt8) : Prop :=
  bytes[0]? = some 0xBC ∧ 2 ≤ bytes.length ∧
    some (checkSum8BitGet (bytes.take (bytes.length - 2))) = bytes[bytes.length - 2]?

/-- A link of the chain that can be read, and sent if a record is found there. -/
structure LinkSound (c : FlashChip) (addr size : Nat) : Prop where
  /-- It fits `logbuff`. -/
  fits : size ≤ 256
  /-- A single byte is not the first one of a record. -/
  single : size = 1 → c.b3ReadDataByte addr ≠ 0xBC
  /-- A record has the 15 bytes that are not sent, and a length of one byte. -/
  record : IsRecord (c.b3ReadDataBuff addr size) → 15 ≤ size ∧ size ≤ 255

/-- Where a record of `size` bytes says the one before it is. -/
def linkOf (bytes : List UInt8) : Nat × Nat :=
  let at_ i := bytes.getD (bytes.length - i) 0
  (ofBe32 (at_ 10) (at_ 9) (at_ 8) (at_ 7), ofBe32 (at_ 6) (at_ 5) (at_ 4) (at_ 3))

/-- The first `n` links from `(addr, size)` on are sound; a size that is refused or a place
without a record ends the chain. -/
def ChainSound (c : FlashChip) : Nat → Nat × Nat → Prop
  | 0, _ => True
  | n + 1, (addr, size) =>
    0 < size → size ≤ 1000 → LinkSound c addr size ∧
      (IsRecord (c.b3ReadDataBuff addr size) →
        ChainSound c n (linkOf (c.b3ReadDataBuff addr size)))

/-- `APP_LOG_Read1Log` reads in its buffer and finds a record exactly if there is one. -/
theorem read1Log_eq {info : LogInfo} {c : FlashChip} {commStat : UInt8} {logbuff : List UInt8}
    (hlink : commStat ≠ commUnlink) (hpos : 0 < info.currlogSize) (hfit : info.currlogSize ≤ 256)
    (hsingle : info.currlogSize = 1 → c.b3ReadDataByte info.currlogAddr ≠ 0xBC) :
    let bytes := c.b3ReadDataBuff info.currlogAddr info.currlogSize
    (IsRecord bytes → read1Log commStat info c logbuff =
        .succ (bytes ++ logbuff.drop info.currlogSize) (UInt8.ofNat info.currlogSize)) ∧
      (¬IsRecord bytes → read1Log commStat info c logbuff = .fail) := by
  intro bytes
  have hlen : bytes.length = info.currlogSize := by simp [bytes, FlashChip.b3ReadDataBuff]
  have hhead : (bytes ++ logbuff.drop info.currlogSize)[0]? = bytes[0]? :=
    List.getElem?_append_left (by omega)
  unfold read1Log
  rw [if_neg hlink, if_neg (by omega), if_neg (by omega)]
  dsimp only
  rw [show c.b3ReadDataBuff info.currlogAddr info.currlogSize = bytes from rfl, hhead]
  by_cases hfirst : bytes[0]? = some 0xBC
  · have htwo : 2 ≤ info.currlogSize := by
      by_contra hc
      obtain hone : info.currlogSize = 1 := by omega
      refine hsingle hone ?_
      have hzero : bytes[0]? = some (c.b3ReadDataByte info.currlogAddr) := by
        simp [bytes, FlashChip.b3ReadDataBuff, FlashChip.b3ReadDataByte, hone]
      exact Option.some.inj (hzero.symm.trans hfirst)
    have htake : (bytes ++ logbuff.drop info.currlogSize).take (info.currlogSize - 2) =
        bytes.take (bytes.length - 2) := by
      rw [List.take_append_of_le_length (by omega), hlen]
    have hsum : (bytes ++ logbuff.drop info.currlogSize)[info.currlogSize - 2]? =
        bytes[bytes.length - 2]? := by
      rw [List.getElem?_append_left (by omega), hlen]
    rw [if_neg (not_not.mpr hfirst), if_neg (by omega), htake, hsum]
    by_cases hok : some (checkSum8BitGet (bytes.take (bytes.length - 2))) = bytes[bytes.length - 2]?
    · rw [if_neg (not_not.mpr hok)]
      exact ⟨fun _ => rfl, fun hc => absurd ⟨hfirst, by omega, hok⟩ hc⟩
    · rw [if_pos hok]
      exact ⟨fun hc => absurd hc.2.2 hok, fun _ => rfl⟩
  · rw [if_pos hfirst]
    exact ⟨fun hc => absurd hc.1 hfirst, fun _ => rfl⟩

/-- A size that does not fit, or a single first byte of a record, is read outside the buffer. -/
theorem read1Log_overrun {info : LogInfo} {c : FlashChip} {commStat : UInt8} {logbuff : List UInt8}
    (hlink : commStat ≠ commUnlink) (hpos : 0 < info.currlogSize) (hle : info.currlogSize ≤ 1000)
    (h : 256 < info.currlogSize ∨
      info.currlogSize = 1 ∧ c.b3ReadDataByte info.currlogAddr = 0xBC) :
    read1Log commStat info c logbuff = .overrun := by
  unfold read1Log
  rw [if_neg hlink, if_neg (by omega)]
  by_cases hbig : 256 < info.currlogSize
  · rw [if_pos hbig]
  · obtain ⟨hone, hfirst⟩ := h.resolve_left hbig
    have hzero : (c.b3ReadDataBuff info.currlogAddr info.currlogSize ++
        logbuff.drop info.currlogSize)[0]? = some 0xBC := by
      simp only [hone, FlashChip.b3ReadDataBuff, List.range_one, List.map_cons, List.map_nil,
        Nat.add_zero, List.cons_append, List.getElem?_cons_zero, ← hfirst, FlashChip.b3ReadDataByte]
    rw [if_neg hbig]
    dsimp only
    rw [if_neg (not_not.mpr hzero), if_pos (by omega)]

/-- What stands behind a record in `logbuff` does not change its link. -/
theorem nextLog_append {scan : LogInfo} {bytes rest : List UInt8} (h : 10 ≤ bytes.length) :
    ((nextLog scan (bytes ++ rest) bytes.length).currlogAddr,
      (nextLog scan (bytes ++ rest) bytes.length).currlogSize) = linkOf bytes := by
  have hget : ∀ i, 3 ≤ i → i ≤ 10 →
      (bytes ++ rest).getD (bytes.length - i) 0 = bytes.getD (bytes.length - i) 0 :=
    fun i hlo hhi => List.getD_append _ _ _ _ (by omega)
  simp only [nextLog, linkOf, hget 10 (by decide) (by decide), hget 9 (by decide) (by decide),
    hget 8 (by decide) (by decide), hget 7 (by decide) (by decide),
    hget 6 (by decide) (by decide), hget 5 (by decide) (by decide),
    hget 4 (by decide) (by decide), hget 3 (by decide) (by decide)]

/-! ### The walk follows the chain -/

/-- **The walk fits exactly if its chain is sound.**  Induction on the number of records; the
buffer keeps its 256 bytes. -/
theorem walkFits_iff {c : FlashChip} {commStat : UInt8} (hlink : commStat ≠ commUnlink) :
    ∀ (n : Nat) (scan : LogInfo) (logbuff : List UInt8), logbuff.length = 256 →
      (WalkFits commStat c n scan logbuff ↔
        ChainSound c n (scan.currlogAddr, scan.currlogSize)) := by
  intro n
  induction n with
  | zero => exact fun _ _ _ => Iff.rfl
  | succ n ih =>
      intro scan logbuff hbuff
      rw [WalkFits, ChainSound]
      by_cases hsize : scan.currlogSize = 0 ∨ 1000 < scan.currlogSize
      · have hfail : read1Log commStat scan c logbuff = .fail := by
          rw [read1Log, if_neg hlink, if_pos hsize]
        rw [hfail]
        exact iff_of_true trivial fun hpos hle => by omega
      have hpos : 0 < scan.currlogSize := by omega
      have hle : scan.currlogSize ≤ 1000 := by omega
      simp only [hpos, hle, true_implies]
      by_cases hout : 256 < scan.currlogSize ∨
          scan.currlogSize = 1 ∧ c.b3ReadDataByte scan.currlogAddr = 0xBC
      · rw [read1Log_overrun hlink hpos hle hout]
        refine iff_of_false id fun hc => ?_
        rcases hout with hbig | ⟨hone, hfirst⟩
        · exact absurd hc.1.fits (by omega)
        · exact hc.1.single hone hfirst
      have hfit : scan.currlogSize ≤ 256 := by
        by_contra hc
        exact hout (Or.inl (by omega))
      have hsingle : scan.currlogSize = 1 → c.b3ReadDataByte scan.currlogAddr ≠ 0xBC :=
        fun hone hfirst => hout (Or.inr ⟨hone, hfirst⟩)
      obtain ⟨hrec, hnot⟩ := @read1Log_eq scan c commStat logbuff hlink hpos hfit hsingle
      set bytes := c.b3ReadDataBuff scan.currlogAddr scan.currlogSize with hbytes
      have hlen : bytes.length = scan.currlogSize := by simp [bytes, FlashChip.b3ReadDataBuff]
      by_cases hr : IsRecord bytes
      · rw [hrec hr]
        dsimp only
        by_cases hsend : 15 ≤ scan.currlogSize ∧ scan.currlogSize ≤ 255
        · have hnum : (UInt8.ofNat scan.currlogSize).toNat = bytes.length := by
            rw [UInt8.toNat_ofNat', Nat.mod_eq_of_lt (by omega), hlen]
          have hkeep : (bytes ++ logbuff.drop scan.currlogSize).length = 256 := by
            rw [List.length_append, List.length_drop]
            omega
          have hnext := @nextLog_append scan _ (logbuff.drop scan.currlogSize)
            (show 10 ≤ bytes.length by omega)
          rw [hnum, ih _ _ hkeep, hnext]
          have hsound : LinkSound c scan.currlogAddr scan.currlogSize := ⟨hfit, hsingle, fun _ => hsend⟩
          simp only [hsound, hr, true_implies, true_and, show 15 ≤ bytes.length by omega]
        · have hshort : ¬15 ≤ (UInt8.ofNat scan.currlogSize).toNat := by
            rw [UInt8.toNat_ofNat']
            omega
          exact iff_of_false (fun hc => hshort hc.1) fun hc => hsend (hc.1.record hr)
      · rw [hnot hr]
        exact iff_of_true trivial ⟨⟨hfit, hsingle, fun hc => absurd hc hr⟩, fun hc => absurd hc hr⟩

/-- The frame of a payload declares the payload's length, and the length of what follows it. -/
def Declares (cmd_id : Nat) (payload : List UInt8) : Prop :=
  (logFrame cmd_id payload).length = payload.length + 7 ∧
    ((logFrame cmd_id payload).getD 1 0).toNat = payload.length + 3 ∧
    ((logFrame cmd_id payload).getD 4 0).toNat = payload.length

theorem declares_of_le {cmd_id : Nat} {payload : List UInt8} (h : payload.length ≤ 240) :
    Declares cmd_id payload := by
  have hone : (logFrame cmd_id payload).getD 1 0 = UInt8.ofNat (payload.length + 3) := rfl
  have hfour : (logFrame cmd_id payload).getD 4 0 = UInt8.ofNat payload.length := rfl
  refine ⟨by simp [logFrame], ?_, ?_⟩
  · rw [hone, UInt8.toNat_ofNat', Nat.mod_eq_of_lt (by omega)]
  · rw [hfour, UInt8.toNat_ofNat', Nat.mod_eq_of_lt (by omega)]

/-- A log query stayed in its buffers, and sent datagrams that fit `PCCOMMTxBuff` and consist of
log frames with the lengths they declare. -/
def Robust (cmd_id : Nat) (reply : Option (List (List UInt8))) : Prop :=
  ∃ datagrams, reply = some datagrams ∧ ∀ s ∈ datagrams, s.length ≤ 1500 ∧
    ∃ payloads : List (List UInt8), s = (payloads.map (logFrame cmd_id)).flatten ∧
      ∀ p ∈ payloads, Declares cmd_id p

/-- The flash is not linked, or the part of the chain that a query walks is sound. -/
def QueSound (commStat : UInt8) (info : LogInfo) (c : FlashChip) (que_log_num : Nat) : Prop :=
  commStat = commUnlink ∨
    ChainSound c (if info.logTotalNum < que_log_num then info.logTotalNum else que_log_num)
      (info.currlogAddr, info.currlogSize)

/-- The condition of the walk, said of the flash. -/
theorem queFits_iff (commStat : UInt8) (info : LogInfo) (c : FlashChip) (que_log_num : Nat) :
    QueFits commStat info c que_log_num ↔ QueSound commStat info c que_log_num := by
  rw [QueFits, QueSound]
  by_cases hlink : commStat = commUnlink
  · refine iff_of_true ?_ (Or.inl hlink)
    generalize (if info.logTotalNum < que_log_num then info.logTotalNum else que_log_num) = n
    cases n with
    | zero => trivial
    | succ n =>
        rw [WalkFits, read1Log, if_pos hlink]
        trivial
  · rw [walkFits_iff hlink _ _ _ (List.length_replicate ..)]
    exact ⟨Or.inr, fun h => h.resolve_left hlink⟩

theorem robust_logQue_iff (cmd_id : Nat) (commStat : UInt8) (info : LogInfo) (c : FlashChip)
    (que_log_num : Nat) :
    Robust cmd_id (logQue cmd_id commStat info c que_log_num) ↔
      QueSound commStat info c que_log_num := by
  obtain ⟨hfits, hnot⟩ := @logQue_logFramed cmd_id commStat c info que_log_num
  rw [← queFits_iff]
  refine ⟨fun ⟨datagrams, heq, _⟩ => ?_, fun h => ?_⟩
  · by_contra hc
    rw [hnot hc] at heq
    cases heq
  · obtain ⟨datagrams, heq, hall⟩ := hfits h
    refine ⟨datagrams, heq, fun s hs => ⟨(hall s hs).1.trans (by decide), ?_⟩⟩
    obtain ⟨payloads, hlen, hsplit⟩ := (hall s hs).2
    exact ⟨payloads, hsplit, fun p hp => declares_of_le (hlen p hp)⟩

/--
**When the log queries are robust.**  Exactly if the flash is not linked, or every link
on the walked part of the chain is sound.
-/
theorem logQues_robust_iff (b : Board) (que_log_num : Nat) :
    (Robust operationLogQueID (AppLog.optLogQue b que_log_num) ↔
      QueSound b.commStat b.optLogInfo b.flash que_log_num) ∧
    (Robust warnLogQueID (AppLog.warnLogQue b que_log_num) ↔
      QueSound b.commStat b.warnLogInfo b.flash que_log_num) :=
  ⟨robust_logQue_iff _ _ _ _ _, robust_logQue_iff _ _ _ _ _⟩

/-- A chain whose newest record is 300 bytes long. -/
theorem not_robust_logQue :
    ¬Robust operationLogQueID (logQue operationLogQueID 0 ⟨0, 1, 4096, 300, 1, 0, 0, 0⟩
      ⟨(0x20, 0xBA, 0x18), fun _ => 0xFF, [], []⟩ 1) := by
  rintro ⟨datagrams, heq, -⟩
  cases heq

end SwiftAcu.Reply
