/-
What the device sends, the device would accept.

`…_TxBuffSend` and `…_RxBuffCheck` find the checksum and the end byte by different
arithmetic: the one counts up behind the data, the other down from the end of what it was
given, which it first cuts to the declared length.  What comes behind a complete frame is
therefore cut away, whatever it is.
-/
import SwiftAcu.Proofs.Frame.Accept
import SwiftAcu.Proofs.Reply.Frame

namespace SwiftAcu.RxFrame

open Reply (frameOf Tx)

section
variable {data : List UInt8} (rest : List UInt8)

theorem frameOf_append :
    frameOf data ++ rest = 0xBC :: UInt8.ofNat data.length ::
      (data ++ checkSum8BitGet (0xBC :: UInt8.ofNat data.length :: data) :: 0xCB :: rest) := by
  simp [frameOf]

theorem declared_frameOf_append (hdata : data.length ≤ 255) :
    declared (frameOf data ++ rest) = data.length := by
  rw [frameOf_append]
  exact UInt8.toNat_ofNat_of_lt' (show data.length < 256 by omega)

/-- **A frame that is built is complete**, whatever follows it. -/
theorem complete_frameOf_append (hdata : data.length ≤ 255) :
    Complete (frameOf data ++ rest) := by
  rw [Complete, declared_frameOf_append rest hdata]
  refine ⟨by rw [frameOf_append]; rfl, ?_, ?_, ?_⟩
  · rw [List.length_append, Reply.length_frameOf]
    exact Nat.le_add_right _ _
  · refine (checkSum_take_eq_iff _ _ _).mp ?_
    rw [frameOf_append]
    simp
  · rw [frameOf_append]
    simp

theorem payload_frameOf_append : ((frameOf data ++ rest).drop 2).take data.length = data := by
  rw [frameOf_append]
  exact List.take_left

end

/-- A complete frame that there is room for is received, and nothing else is changed. -/
theorem pcRxBuffRecv_complete {b : List UInt8} (hb : b.length ≤ 255) (h : Complete b)
    (hroom : declared b ≤ 50) (rx : Rx) :
    ∃ rx', pcRxBuffRecv b rx = some (.SUCC, rx') ∧ rx'.datalen = b.getD 1 0 ∧
      rx'.databuff.toList =
        (b.drop 2).take (declared b) ++ rx.databuff.toList.drop (declared b) := by
  have hdatalen : index (padded b) 1 = some (b.getD 1 0) := index_padded hb rfl (by omega)
  obtain ⟨v, hv, hbuff⟩ := memcpy_padded hb rx.databuff hroom
  refine ⟨⟨b.getD 1 0, v⟩, ?_, rfl, hbuff h.2.1⟩
  rw [pcRxBuffRecv, if_pos hb]
  simp only [receive, pcRxBuffCheck_padded hb, if_pos (Or.inl h : Complete b ∨ Truncated b),
    hdatalen, Option.bind_eq_bind, Option.bind_some, Option.pure_def]
  rw [declared] at hv
  rw [hv]
  rfl

/--
**What is sent is accepted.**  Whatever lay in the transmit buffer before, and whatever
bytes follow the frame in the datagram: the payload and its length are received.
-/
theorem sent_accepted (t : Tx) (data trailer : List UInt8) (hdata : data.length ≤ 50)
    (htrailer : trailer.length ≤ 255 - (data.length + 4)) (rx : Rx) :
    ∃ frame rx',
      (Tx.txBuffSend ⟨Emit.step t.line (.store 2 data), UInt8.ofNat data.length⟩).line.sent =
        t.line.sent ++ [frame] ∧
      pcRxBuffRecv (frame ++ trailer) rx = some (.SUCC, rx') ∧
      rx'.datalen.toNat = data.length ∧
      rx'.databuff.toList = data ++ rx.databuff.toList.drop data.length := by
  have hnat : (UInt8.ofNat data.length).toNat = data.length :=
    UInt8.toNat_ofNat_of_lt' (show data.length < 256 by omega)
  have hlen : (frameOf data ++ trailer).length ≤ 255 := by
    rw [List.length_append, Reply.length_frameOf]
    omega
  have hdeclared := @declared_frameOf_append data trailer (by omega)
  obtain ⟨rx', hrecv, hdatalen, hbuff⟩ := pcRxBuffRecv_complete hlen
    (complete_frameOf_append trailer (by omega)) (by omega) rx
  refine ⟨frameOf data, rx', ?_, hrecv, ?_, ?_⟩
  · rw [Reply.sent_txBuffSend, hnat]
    show t.line.sent ++ [frameOf (Memory.read (Memory.write _ 2 data) 2 data.length)] = _
    rw [Memory.read_write_same]
  · rw [hdatalen]
    exact hdeclared
  · rw [hbuff, hdeclared, payload_frameOf_append]

/-- A payload made of head and end bytes, with two end bytes behind the frame. -/
theorem sent_accepted_delimiters : ∃ frame rx',
    (Tx.txBuffSend ⟨Emit.step Tx.init.line (.store 2 [0xCB, 0xBC, 0xCB]), 3⟩).line.sent =
      Tx.init.line.sent ++ [frame] ∧
    pcRxBuffRecv (frame ++ [0xCB, 0xCB]) ⟨0, Vector.replicate 50 0⟩ = some (.SUCC, rx') ∧
    rx'.datalen.toNat = 3 ∧
    rx'.databuff.toList = [0xCB, 0xBC, 0xCB] ++ (Vector.replicate 50 0).toList.drop 3 :=
  sent_accepted Tx.init [0xCB, 0xBC, 0xCB] [0xCB, 0xCB] (by decide) (by decide)
    ⟨0, Vector.replicate 50 0⟩

end SwiftAcu.RxFrame
