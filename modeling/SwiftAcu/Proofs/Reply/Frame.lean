/-
What one frame does to the transmit side.

The frame that is sent carries what lies in `txbuff`, as many bytes as the last reply had
or this one has.  Its stores end four bytes behind its data.
-/
import SwiftAcu.Acu.Reply

namespace SwiftAcu.Reply

open Memory

/-! ### Frames -/

@[simp] theorem length_frameOf (data : List UInt8) : (frameOf data).length = data.length + 4 := by
  simp [frameOf]

/-- A frame tells what it carries. -/
theorem frameOf_injective {data data' : List UInt8} (h : frameOf data = frameOf data') :
    data = data' := by
  have hlen : data.length = data'.length := by
    have := congrArg List.length h
    simpa using this
  simp only [frameOf] at h
  have hfront := List.append_inj_left h (by simp [hlen])
  exact (List.append_inj hfront (by simp)).2

theorem ofNat_datalen (b : UInt8) : UInt8.ofNat b.toNat = b := UInt8.ofNat_toNat

variable {t : Tx} {h : Handled} {data : List UInt8}

/-- **What is sent is the frame of what lies in `txbuff`.** -/
theorem sent_txBuffSend (t : Tx) :
    t.txBuffSend.line.sent = t.line.sent ++ [frameOf (read t.line.buff 2 t.datalen.toNat)] := by
  set data := read t.line.buff 2 t.datalen.toNat with hdata
  have hlen : data.length = t.datalen.toNat := length_read _ _ _
  set m := write t.line.buff 0 [0xBC, t.datalen] with hm
  set tail := [checkSum8BitGet ([0xBC, t.datalen] ++ data), 0xCB] with htail
  have hfront : read (write m (2 + t.datalen.toNat) tail) 0 2 = [0xBC, t.datalen] := by
    rw [read_write_disjoint (Or.inr (by omega)), hm]
    exact read_write_same _ 0 [0xBC, t.datalen]
  have hmid : read (write m (2 + t.datalen.toNat) tail) 2 t.datalen.toNat = data := by
    rw [read_write_disjoint (Or.inr (Nat.le_refl _)), hm, read_write_disjoint (Or.inl (by simp))]
  have hend : read (write m (2 + t.datalen.toNat) tail) (2 + t.datalen.toNat) 2 = tail :=
    read_write_same _ _ tail
  show t.line.sent ++ [read (write m (2 + t.datalen.toNat) tail) 0 (t.datalen.toNat + 4)] = _
  have hread : read (write m (2 + t.datalen.toNat) tail) 0 (t.datalen.toNat + 4) =
      [0xBC, t.datalen] ++ data ++ tail := by
    rw [show t.datalen.toNat + 4 = 2 + t.datalen.toNat + 2 from by omega, read_add, read_add,
      Nat.zero_add, Nat.zero_add, hfront, hmid, hend]
  rw [hread, frameOf, hlen, ofNat_datalen]

@[simp] theorem datalen_txBuffSend (t : Tx) : t.txBuffSend.datalen = t.datalen := rfl

theorem top_txBuffSend (t : Tx) :
    t.txBuffSend.line.top = max t.line.top (t.datalen.toNat + 4) := by
  rw [Tx.txBuffSend, Emit.top_run, Tx.frameActs]
  simp only [Emit.reach, List.length_cons, List.length_nil]
  omega

/-! ### Behind a handler -/

/-- A handler that leaves nothing in `txbuff`. -/
theorem after_none (hnone : h.txbuff = none) :
    t.after h = { t with line := Emit.run t.line h.acts } := by
  simp only [Tx.after, hnone]

theorem after_some (hsome : h.txbuff = some data) :
    t.after h = ⟨Emit.step (Emit.run t.line h.acts) (.store 2 data), UInt8.ofNat data.length⟩ := by
  simp only [Tx.after, hsome]

/-- A reply of at most 255 bytes is sent as it was left in `txbuff`. -/
theorem sent_txBuffSend_after (hsome : h.txbuff = some data) (hlen : data.length ≤ 255) :
    (t.after h).txBuffSend.line.sent =
      (Emit.run t.line h.acts).sent ++ [frameOf data] := by
  have hdatalen : (UInt8.ofNat data.length).toNat = data.length := by
    rw [UInt8.toNat_ofNat']
    omega
  rw [sent_txBuffSend, after_some hsome, hdatalen]
  show (Emit.run t.line h.acts).sent ++ [frameOf (read (write _ 2 data) 2 data.length)] = _
  rw [read_write_same]

/-- **The result of a set command is sent** whatever the handler left behind. -/
theorem sent_setResultSend (t : Tx) (cmd_id : Nat) (status : Ret) :
    (t.setResultSend cmd_id status).line.sent = t.line.sent ++
      [frameOf (PcComm.answerId cmd_id ++ [1, if status = .SUCC then 0 else 1])] :=
  sent_txBuffSend_after (h := setResult cmd_id status) rfl (by simp [PcComm.answerId])

end SwiftAcu.Reply
