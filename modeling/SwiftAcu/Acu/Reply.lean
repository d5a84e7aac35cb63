/-
Sending: `…_TxBuffSend` and `…_SetResult_Send` of `app_pccomm.c` and `app_oledcomm.c`.

Both protocols keep one transmit buffer and one length for all replies.  `txbuff` is the
buffer from its third byte on; what a handler leaves there with a length is sent behind
a head and in front of a checksum and an end byte, whether it was put there for this
request or not.
-/
import SwiftAcu.Acu.PcComm
import SwiftAcu.Lib.Emit

namespace SwiftAcu.Reply

/-- What is done to a transmit buffer. -/
abbrev Act := Emit.Act UInt8

/-- `PCCOMMTx` with `PCCOMMTxBuff`, or `OLEDCOMMTx` with `OLEDCOMMTxBuff`. -/
structure Tx where
  line : Emit.Line UInt8
  datalen : UInt8

/-- `…_Init`. -/
def Tx.init : Tx := ⟨⟨fun _ => 0, 0, []⟩, 0⟩

/-- The frame that carries `data`. -/
def frameOf (data : List UInt8) : List UInt8 :=
  let front := [0xBC, UInt8.ofNat data.length] ++ data
  front ++ [checkSum8BitGet front, 0xCB]

/-- The stores of `…_TxBuffSend`, and the send. -/
def Tx.frameActs (t : Tx) : List Act :=
  let datalen := t.datalen.toNat
  let front := [0xBC, t.datalen] ++ Memory.read t.line.buff 2 datalen
  [.store 0 [0xBC, t.datalen], .store (2 + datalen) [checkSum8BitGet front, 0xCB],
    .send (datalen + 4)]

/-- `…_TxBuffSend`. -/
def Tx.txBuffSend (t : Tx) : Tx := { t with line := Emit.run t.line t.frameActs }

/-- What a handler does for a reply. -/
structure Handled where
  status : Ret
  /-- What it does to the transmit buffer besides. -/
  acts : List Act
  /-- What it puts in `txbuff` and counts in `*txbufflen`; `none` if it returns before. -/
  txbuff : Option (List UInt8)

/-- The transmit side behind a handler. -/
def Tx.after (t : Tx) (h : Handled) : Tx :=
  let line := Emit.run t.line h.acts
  match h.txbuff with
  | none => { t with line }
  | some data => ⟨Emit.step line (.store 2 data), UInt8.ofNat data.length⟩

/-- What `…_SetResult_Send` puts in `txbuff`. -/
def setResult (cmd_id : Nat) (status : Ret) : Handled :=
  ⟨status, [], some (PcComm.answerId cmd_id ++ [1, if status = .SUCC then 0 else 1])⟩

/-- `…_SetResult_Send`. -/
def Tx.setResultSend (t : Tx) (cmd_id : Nat) (status : Ret) : Tx :=
  (t.after (setResult cmd_id status)).txBuffSend

/-- The transmit side when a handler has returned and the command is answered by its class. -/
def Tx.answer (IsQuery : Nat → Prop) [DecidablePred IsQuery] (t : Tx) (cmd_id : Nat) (h : Handled) :
    Tx :=
  if PcComm.IsSet cmd_id then (t.after h).setResultSend cmd_id h.status
  else if IsQuery cmd_id then (t.after h).txBuffSend
  else t.after h

end SwiftAcu.Reply
