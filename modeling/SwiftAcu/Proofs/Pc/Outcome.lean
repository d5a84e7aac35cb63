/-
What a datagram comes to.

The outcome of a datagram is what can be seen of it: the status, the device behind it
and the datagrams sent.  The static buffers are not part of it.  A datagram is refused,
or unknown, or dealt with by a handler; in each case the outcome is written down in
terms of the bytes that were read.  What a frame carries has been put into
`PCCOMMTxBuff` on the way, so that an answer is free of what was there before, but for
the query whose handler gives up without one.
-/
import SwiftAcu.Proofs.Pc.Extent

namespace SwiftAcu.PcComm

/-! ### Frames -/

theorem overlay_inside {m : Nat → UInt8} {a i : Nat} {bs : List UInt8} (hi : i < bs.length) :
    overlay m a bs (a + i) = bs.getD i 0 := by
  unfold overlay
  rw [if_pos ⟨by omega, by omega⟩, Nat.add_sub_cancel_left]

theorem overlay_front {m : Nat → UInt8} {i : Nat} {bs : List UInt8} (hi : i < bs.length) :
    overlay m 0 bs i = bs.getD i 0 := by
  simpa using overlay_inside (m := m) (a := 0) hi

/-- The frame that carries `data`; its length byte is all that limits it. -/
def frame (data : List UInt8) : List UInt8 :=
  let datalen := UInt8.ofNat data.length
  let front := [0xBC, datalen] ++ data.take datalen.toNat
  front ++ [checkSum8BitGet front, 0xCB]

/-- **What is sent is what was filled in.** -/
theorem sent_fill_txBuffSend (b : Buffers) (data : List UInt8) :
    (b.fill data).txBuffSend.sent = b.sent ++ [frame data] := by
  have hle : (UInt8.ofNat data.length).toNat ≤ data.length := by
    rw [UInt8.toNat_ofNat']
    exact Nat.mod_le _ _
  have hdata : (List.range (UInt8.ofNat data.length).toNat).map
      (fun i => overlay b.txBuff 2 data (2 + i)) = data.take (UInt8.ofNat data.length).toNat := by
    refine List.ext_getElem ?_ fun i hi hi' => ?_
    · rw [List.length_map, List.length_range, List.length_take, Nat.min_eq_left hle]
    have hlen : i < data.length := (by simpa using hi : i < _).trans_le hle
    rw [List.getElem_map, List.getElem_range, overlay_inside hlen, List.getElem_take]
    simp [hlen]
  simp only [Buffers.fill, Buffers.txBuffSend, hdata, frame]

/-- The frame of a result. -/
def resultFrame (cmd_id : Nat) (status : Ret) : List UInt8 :=
  frame (answerId cmd_id ++ [1, if status = .SUCC then 0 else 1])

theorem sent_setResultSend (b : Buffers) (cmd_id : Nat) (status : Ret) :
    (b.setResultSend cmd_id status).sent = b.sent ++ [resultFrame cmd_id status] :=
  sent_fill_txBuffSend b _

theorem sent_after {ρ : Type} (b : Buffers) (r : Answer ρ) :
    (b.after r).sent = b.sent ++ r.sends := by
  unfold Buffers.after
  cases r.reply with
  | none => rfl
  | some data => rfl

/-- A reply that was filled in is sent as it is. -/
theorem sent_after_some {ρ : Type} (b : Buffers) (r : Answer ρ) {reply : List UInt8}
    (hreply : r.reply = some reply) :
    (b.after r).txBuffSend.sent = b.sent ++ r.sends ++ [frame reply] := by
  unfold Buffers.after
  simp only [hreply]
  exact sent_fill_txBuffSend _ reply

/-- A reply that was not filled in is as long as the one before. -/
theorem sent_after_none {ρ : Type} (b : Buffers) (r : Answer ρ) (hreply : r.reply = none) :
    ∃ f, f.length = b.txDatalen.toNat + 4 ∧
      (b.after r).txBuffSend.sent = b.sent ++ r.sends ++ [f] := by
  refine ⟨_, ?_, by unfold Buffers.after Buffers.txBuffSend; simp only [hreply]; rfl⟩
  simp

/-- The classes of the table are answered, and in one way only. -/
theorem class_of_cmdId (c : CmdId) : IsSet c.id ∨ (¬IsSet c.id ∧ IsQuery c.id) := by
  cases c <;> decide

/-! ### Outcomes -/

section
variable {ρ : Type}

/-- The status of a datagram, the device behind it, and the datagrams sent. -/
def outcome (h : PcHandlers ρ) (a : Acu ρ) (b : Buffers) (p : List UInt8) :
    Ret × Acu ρ × List (List UInt8) :=
  let r := deal h a { b with sent := [] } p
  (r.1, r.2.1, r.2.2.sent)

/-- The buffers of a datagram, when its payload has been received. -/
def Buffers.recv (b : Buffers) (data : List UInt8) : Buffers :=
  { b with rxBuff := overlay b.rxBuff 0 data, sent := [] }

variable {h : PcHandlers ρ} {a : Acu ρ} {b : Buffers} {p data : List UInt8} {c : CmdId}

theorem outcome_bad (hbad : rxBuffRecv p = none) : outcome h a b p = (.FAIL, a, []) := by
  simp [outcome, deal, hbad]

theorem outcome_refused (hdata : rxBuffRecv p = some data)
    (href : Refused (cmdIdOf (b.recv data).rxBuff) a) :
    outcome h a b p =
      (.FAIL, setMcuBusy 1 a, [resultFrame (cmdIdOf (b.recv data).rxBuff) .FAIL]) := by
  have hbusy : Refused (cmdIdOf (b.recv data).rxBuff) (setMcuBusy 1 a) := href
  have hdeal : deal h a { b with sent := [] } p = cmdDeal h a (b.recv data) := by
    simp only [deal, hdata, Buffers.recv]
  simp only [outcome, hdeal, cmdDeal, hbusy, if_true, sent_setResultSend]
  rfl

theorem outcome_unknown (hdata : rxBuffRecv p = some data)
    (href : ¬Refused (cmdIdOf (b.recv data).rxBuff) a)
    (hfind : findCmd (cmdIdOf (b.recv data).rxBuff) = none) :
    outcome h a b p = (.FAIL, setMcuBusy 0 a, []) := by
  have hbusy : ¬Refused (cmdIdOf (b.recv data).rxBuff) (setMcuBusy 1 a) := href
  have hdeal : deal h a { b with sent := [] } p = cmdDeal h a (b.recv data) := by
    simp only [deal, hdata, Buffers.recv]
  simp only [outcome, hdeal, cmdDeal, hbusy, if_false, hfind]
  rfl

/-- A command that is neither refused nor unknown. -/
theorem outcome_known (hdata : rxBuffRecv p = some data)
    (href : ¬Refused (cmdIdOf (b.recv data).rxBuff) a)
    (hfind : findCmd (cmdIdOf (b.recv data).rxBuff) = some c) :
    outcome h a b p =
      let s := funcDeal h c (setMcuBusy 1 a) (b.recv data)
      (s.1, setMcuBusy 0 s.2.1, (s.2.2.answer (cmdIdOf (b.recv data).rxBuff) s.1).sent) := by
  have hbusy : ¬Refused (cmdIdOf (b.recv data).rxBuff) (setMcuBusy 1 a) := href
  have hdeal : deal h a { b with sent := [] } p = cmdDeal h a (b.recv data) := by
    simp only [deal, hdata, Buffers.recv]
  simp only [outcome, hdeal, cmdDeal, hbusy, if_false, hfind]

/-- `PCHighAdminID` is answered with its result. -/
theorem outcome_admin (hdata : rxBuffRecv p = some data)
    (href : ¬Refused (cmdIdOf (b.recv data).rxBuff) a)
    (hfind : findCmd (cmdIdOf (b.recv data).rxBuff) = some .pcHighAdmin) :
    outcome h a b p =
      let s := Admin.pcAdminSet (b.recv data).rxBuff (setMcuBusy 1 a)
      (s.1, setMcuBusy 0 s.2, [resultFrame pcHighAdminID s.1]) := by
  have hid : cmdIdOf (b.recv data).rxBuff = pcHighAdminID := (id_of_findCmd hfind).symm
  have hset : IsSet pcHighAdminID := by decide
  rw [outcome_known hdata href hfind, hid]
  simp only [funcDeal, if_true, Buffers.answer, hset, sent_setResultSend]
  rfl

section
variable (hdata : rxBuffRecv p = some data) (href : ¬Refused (cmdIdOf (b.recv data).rxBuff) a)
  (hfind : findCmd (cmdIdOf (b.recv data).rxBuff) = some c) (hc : c ≠ .pcHighAdmin)

include hdata href hfind hc

/-- A set command is answered with its result. -/
theorem outcome_set (hset : IsSet c.id) :
    outcome h a b p =
      let r := h.deal c ((handler a.rest c).values (b.recv data).cells) (setMcuBusy 1 a)
      (r.status, setMcuBusy 0 { a with rest := r.rest },
        r.sends ++ [resultFrame c.id r.status]) := by
  have hid : cmdIdOf (b.recv data).rxBuff = c.id := (id_of_findCmd hfind).symm
  rw [outcome_known hdata href hfind, hid]
  simp only [funcDeal, hc, if_false, Buffers.answer, hset, if_true, sent_setResultSend,
    sent_after]
  rfl

/-- A query that fills its reply is answered with it. -/
theorem outcome_query (hset : ¬IsSet c.id) (hquery : IsQuery c.id) {reply : List UInt8}
    (hreply : (h.deal c ((handler a.rest c).values (b.recv data).cells)
      (setMcuBusy 1 a)).reply = some reply) :
    outcome h a b p =
      let r := h.deal c ((handler a.rest c).values (b.recv data).cells) (setMcuBusy 1 a)
      (r.status, setMcuBusy 0 { a with rest := r.rest }, r.sends ++ [frame reply]) := by
  have hid : cmdIdOf (b.recv data).rxBuff = c.id := (id_of_findCmd hfind).symm
  have hsent := sent_after_some (b.recv data) _ hreply
  rw [outcome_known hdata href hfind, hid]
  simp only [funcDeal, hc, if_false, Buffers.answer, hset, hquery, if_true]
  exact congrArg (fun sent => (_, _, sent)) hsent

/-- A query that does not is answered with a frame as long as the one before. -/
theorem outcome_unfilled (hset : ¬IsSet c.id) (hquery : IsQuery c.id)
    (hreply : (h.deal c ((handler a.rest c).values (b.recv data).cells)
      (setMcuBusy 1 a)).reply = none) :
    ∃ f, f.length = b.txDatalen.toNat + 4 ∧ (outcome h a b p).2.2 =
      (h.deal c ((handler a.rest c).values (b.recv data).cells) (setMcuBusy 1 a)).sends ++ [f] := by
  have hid : cmdIdOf (b.recv data).rxBuff = c.id := (id_of_findCmd hfind).symm
  obtain ⟨f, hlen, hsent⟩ := sent_after_none (b.recv data) _ hreply
  refine ⟨f, hlen, ?_⟩
  rw [outcome_known hdata href hfind, hid]
  simp only [funcDeal, hc, if_false, Buffers.answer, hset, hquery, if_true]
  exact hsent

end

end

end SwiftAcu.PcComm
