/-
What a log query comes to.

The walk follows the records of the flash wherever they point.  It stays inside its
buffers exactly if every record it reads fits the 256 bytes it is read to and has the 15
bytes that are not sent; then what is sent are datagrams of frames, none of them much over
the 700 bytes at which a datagram goes out.
-/
import SwiftAcu.Proofs.Reply.Handlers

namespace SwiftAcu.Reply

open AppLog

/-! ### The walk -/

/-- Where the walk goes on behind a record of `len` bytes. -/
def nextLog (scan : LogInfo) (logbuff : List UInt8) (len : Nat) : LogInfo :=
  let at_ i := logbuff.getD (len - i) 0
  { scan with
    currlogAddr := ofBe32 (at_ 10) (at_ 9) (at_ 8) (at_ 7)
    currlogSize := ofBe32 (at_ 6) (at_ 5) (at_ 4) (at_ 3) }

/-- The next `n` records of the walk can be read into their buffer, and have 15 bytes. -/
def WalkFits (commStat : UInt8) (c : FlashChip) : Nat → LogInfo → List UInt8 → Prop
  | 0, _, _ => True
  | n + 1, scan, logbuff =>
    match read1Log commStat scan c logbuff with
    | .overrun => False
    | .fail => True
    | .succ logbuff len =>
      15 ≤ len.toNat ∧ WalkFits commStat c n (nextLog scan logbuff len.toNat) logbuff

/-- The walk of a query for `que_log_num` records fits. -/
def QueFits (commStat : UInt8) (info : LogInfo) (c : FlashChip) (que_log_num : Nat) : Prop :=
  WalkFits commStat c (if info.logTotalNum < que_log_num then info.logTotalNum else que_log_num)
    info (List.replicate 256 0)

/-! ### Datagrams -/

/-- Frames one behind the other, the length of each in one byte. -/
def Framed (datagram : List UInt8) : Prop :=
  ∃ datas : List (List UInt8), (∀ data ∈ datas, data.length ≤ 255) ∧
    datagram = (datas.map frameOf).flatten

theorem framed_nil : Framed [] := ⟨[], by simp, rfl⟩

theorem framed_frameOf {data : List UInt8} (h : data.length ≤ 255) : Framed (frameOf data) :=
  ⟨[data], by simpa using h, by simp⟩

theorem Framed.append {s s' : List UInt8} (h : Framed s) (h' : Framed s') : Framed (s ++ s') := by
  obtain ⟨datas, hlen, rfl⟩ := h
  obtain ⟨datas', hlen', rfl⟩ := h'
  refine ⟨datas ++ datas', fun data hdata => ?_, by simp⟩
  exact (List.mem_append.mp hdata).elim (hlen data) (hlen' data)

theorem framed_flatten {frames : List (List UInt8)} (h : ∀ f ∈ frames, Framed f) :
    Framed frames.flatten := by
  induction frames with
  | nil => exact framed_nil
  | cons f frames ih =>
      rw [List.flatten_cons]
      exact (h f (by simp)).append (ih fun f' hf' => h f' (List.mem_cons_of_mem _ hf'))

/-- The frame of a log record carries an answer. -/
theorem logFrame_eq (cmd_id : Nat) (payload : List UInt8) :
    logFrame cmd_id payload =
      frameOf (PcComm.answerId cmd_id ++ [UInt8.ofNat payload.length] ++ payload) := by
  have hlen : (PcComm.answerId cmd_id ++ [UInt8.ofNat payload.length] ++ payload).length =
      payload.length + 3 := by
    simp [PcComm.answerId]
  rw [frameOf, hlen]
  rfl

/-- Log frames one behind the other: a payload of at most 240 bytes in each, with its length in
front of it. -/
def LogFramed (cmd_id : Nat) (datagram : List UInt8) : Prop :=
  ∃ payloads : List (List UInt8), (∀ p ∈ payloads, p.length ≤ 240) ∧
    datagram = (payloads.map (logFrame cmd_id)).flatten

theorem LogFramed.append {cmd_id : Nat} {s s' : List UInt8} (h : LogFramed cmd_id s)
    (h' : LogFramed cmd_id s') : LogFramed cmd_id (s ++ s') := by
  obtain ⟨payloads, hlen, rfl⟩ := h
  obtain ⟨payloads', hlen', rfl⟩ := h'
  refine ⟨payloads ++ payloads', fun p hp => ?_, by simp⟩
  exact (List.mem_append.mp hp).elim (hlen p) (hlen' p)

theorem LogFramed.framed {cmd_id : Nat} {s : List UInt8} (h : LogFramed cmd_id s) : Framed s := by
  obtain ⟨payloads, hlen, rfl⟩ := h
  refine framed_flatten fun f hf => ?_
  obtain ⟨p, hp, rfl⟩ := List.mem_map.mp hf
  have hshort := hlen p hp
  rw [logFrame_eq]
  exact framed_frameOf (by simp [PcComm.answerId]; omega)

/-- What a query has sent and what waits, between two records. -/
structure Batching (cmd_id : Nat) (q : LogReply) : Prop where
  waiting : q.waiting.length < 700
  framed : LogFramed cmd_id q.waiting
  sent : ∀ s ∈ q.sent, s.length ≤ 946 ∧ LogFramed cmd_id s

/-- A frame of at most 247 bytes is put behind what waits. -/
theorem Batching.put {cmd_id : Nat} {q : LogReply} (h : Batching cmd_id q) {f : List UInt8}
    (hlen : f.length ≤ 247) (hf : LogFramed cmd_id f) :
    Batching cmd_id ({ q with waiting := q.waiting ++ f } : LogReply).flush := by
  have hwaiting := h.waiting
  have hall : (q.waiting ++ f).length ≤ 946 := by
    rw [List.length_append]
    omega
  unfold LogReply.flush
  split
  · refine ⟨by simp, ⟨[], by simp, rfl⟩, fun s hs => ?_⟩
    rcases List.mem_append.mp hs with hs | hs
    · exact h.sent s hs
    · rw [List.mem_singleton.mp hs]
      exact ⟨hall, h.framed.append hf⟩
  · next hless => exact ⟨by omega, h.framed.append hf, h.sent⟩

section
variable {cmd_id : Nat} {commStat : UInt8} {c : FlashChip}

/-- The walk comes to an end, with its datagrams, exactly if it fits. -/
theorem logQueLoop_iff {n : Nat} {scan : LogInfo} {logbuff : List UInt8} {q : LogReply}
    (hq : Batching cmd_id q) :
    (WalkFits commStat c n scan logbuff →
      ∃ q', logQueLoop cmd_id commStat c n scan logbuff q = some q' ∧ Batching cmd_id q') ∧
    (¬ WalkFits commStat c n scan logbuff →
      logQueLoop cmd_id commStat c n scan logbuff q = none) := by
  induction n generalizing scan logbuff q with
  | zero => exact ⟨fun _ => ⟨q, rfl, hq⟩, fun h => absurd trivial h⟩
  | succ n ih =>
      rw [WalkFits, logQueLoop]
      cases read1Log commStat scan c logbuff with
      | overrun => exact ⟨fun h => h.elim, fun _ => rfl⟩
      | fail => exact ⟨fun _ => ⟨q, rfl, hq⟩, fun h => absurd trivial h⟩
      | succ logbuff' len =>
          have hlen : len.toNat < 256 := len.toNat_lt
          set payload := (logbuff'.drop 5).take (len.toNat - 15) with hpayload
          have hpay : payload.length ≤ 240 := by
            rw [hpayload, List.length_take]
            omega
          have hframe : (logFrame cmd_id payload).length ≤ 247 := by
            rw [logFrame_eq]
            simp [PcComm.answerId]
            omega
          have hframed : LogFramed cmd_id (logFrame cmd_id payload) :=
            ⟨[payload], by simpa using hpay, by simp⟩
          have hnext := @ih (nextLog scan logbuff' len.toNat) logbuff' _ (hq.put hframe hframed)
          by_cases hshort : len.toNat < 15
          · have hnot : ¬ 15 ≤ len.toNat := by omega
            simp only [if_pos hshort, hnot, false_and, false_implies, not_false_eq_true,
              true_implies, and_self]
          · have hok : 15 ≤ len.toNat := by omega
            simp only [if_neg hshort, hok, true_and]
            exact hnext

/-- **A log query answers exactly if its walk fits**, in datagrams of at most 946 bytes. -/
theorem logQue_logFramed (info : LogInfo) (que_log_num : Nat) :
    (QueFits commStat info c que_log_num →
      ∃ datagrams, logQue cmd_id commStat info c que_log_num = some datagrams ∧
        ∀ s ∈ datagrams, s.length ≤ 946 ∧ LogFramed cmd_id s) ∧
    (¬ QueFits commStat info c que_log_num →
      logQue cmd_id commStat info c que_log_num = none) := by
  have hstart : Batching cmd_id ⟨[], []⟩ := ⟨by simp, ⟨[], by simp, rfl⟩, by simp⟩
  have hloop := @logQueLoop_iff cmd_id commStat c
    (if info.logTotalNum < que_log_num then info.logTotalNum else que_log_num) info
    (List.replicate 256 0) _ hstart
  refine ⟨fun hfits => ?_, fun hfits => ?_⟩
  · obtain ⟨q, hq, hbatching⟩ := hloop.1 hfits
    refine ⟨_, by rw [logQue, hq, Option.map_some], fun s hs => ?_⟩
    have hwaiting := hbatching.waiting
    split at hs
    · rcases List.mem_append.mp hs with hs | hs
      · exact hbatching.sent s hs
      · rw [List.mem_singleton.mp hs]
        exact ⟨by omega, hbatching.framed⟩
    · exact hbatching.sent s hs
  · rw [logQue, hloop.2 hfits, Option.map_none]

/-- The same with the frames as the other answers have them. -/
theorem logQue_iff (info : LogInfo) (que_log_num : Nat) :
    (QueFits commStat info c que_log_num →
      ∃ datagrams, logQue cmd_id commStat info c que_log_num = some datagrams ∧
        ∀ s ∈ datagrams, s.length ≤ 946 ∧ Framed s) ∧
    (¬ QueFits commStat info c que_log_num →
      logQue cmd_id commStat info c que_log_num = none) := by
  obtain ⟨hfits, hnot⟩ := @logQue_logFramed cmd_id commStat c info que_log_num
  refine ⟨fun h => ?_, hnot⟩
  obtain ⟨datagrams, heq, hall⟩ := hfits h
  exact ⟨datagrams, heq, fun s hs => ⟨(hall s hs).1, (hall s hs).2.framed⟩⟩

end

end SwiftAcu.Reply
