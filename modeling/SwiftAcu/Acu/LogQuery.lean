/-
The log queries of the PC protocol, `APP_PCCOMM_OptLogQue` and
`APP_PCCOMM_WarnLogQue` of `app_pccomm.c`.

The walk starts at the newest record and follows the back-pointer in the last ten
bytes of each record it reads.  Records are sent as frames, several to a datagram;
a datagram goes out once 700 bytes are waiting.
-/
import SwiftAcu.Acu.Log

namespace SwiftAcu.AppLog

/-- `OperationLogQueID`. -/
abbrev operationLogQueID : Nat := 0x0902

/-- `WarnLogQueID`. -/
abbrev warnLogQueID : Nat := 0x0901

/-- The frame that carries `payload` as the answer to `cmd_id`. -/
def logFrame (cmd_id : Nat) (payload : List UInt8) : List UInt8 :=
  let n := payload.length
  let frame := [0xBC, UInt8.ofNat (n + 3), UInt8.ofNat (((cmd_id ||| 0x8000) &&& 0xFF00) >>> 8),
    UInt8.ofNat ((cmd_id ||| 0x8000) &&& 0x00FF), UInt8.ofNat n] ++ payload
  frame ++ [checkSum8BitGet frame, 0xCB]

/-- What a query has sent: whole datagrams, and the bytes still waiting in `PCCOMMTxBuff`. -/
structure LogReply where
  sent : List (List UInt8)
  waiting : List UInt8
  deriving DecidableEq, Repr

/-- `if(index >= 700)`: send what is waiting. -/
def LogReply.flush (q : LogReply) : LogReply :=
  if 700 ≤ q.waiting.length then ⟨q.sent ++ [q.waiting], []⟩ else q

/--
The loop over `que_log_num` records.  `none` is a read, a copy or a store outside a
buffer; `len - 15` below zero is such a copy.
-/
def logQueLoop (cmd_id : Nat) (commStat : UInt8) (c : FlashChip) :
    Nat → LogInfo → List UInt8 → LogReply → Option LogReply
  | 0, _, _, q => some q
  | n + 1, scan, logbuff, q =>
    match read1Log commStat scan c logbuff with
    | .overrun => none
    | .fail => some q
    | .succ logbuff len =>
      if len.toNat < 15 then none
      else
        let len := len.toNat
        let q := { q with waiting := q.waiting ++ logFrame cmd_id ((logbuff.drop 5).take (len - 15)) }
        let at_ i := logbuff.getD (len - i) 0
        let scan := { scan with
          currlogAddr := ofBe32 (at_ 10) (at_ 9) (at_ 8) (at_ 7)
          currlogSize := ofBe32 (at_ 6) (at_ 5) (at_ 4) (at_ 3) }
        logQueLoop cmd_id commStat c n scan logbuff q.flush

/-- The common text of the two queries: the datagrams that carry the log frames. -/
def logQue (cmd_id : Nat) (commStat : UInt8) (info : LogInfo) (c : FlashChip)
    (que_log_num : Nat) : Option (List (List UInt8)) :=
  let que_log_num := if info.logTotalNum < que_log_num then info.logTotalNum else que_log_num
  (logQueLoop cmd_id commStat c que_log_num info (List.replicate 256 0) ⟨[], []⟩).map fun q =>
    if 0 < q.waiting.length then q.sent ++ [q.waiting] else q.sent

/-- `APP_PCCOMM_OptLogQue`, for a query of `que_log_num` records. -/
def optLogQue (b : Board) (que_log_num : Nat) : Option (List (List UInt8)) :=
  logQue operationLogQueID b.commStat b.optLogInfo b.flash que_log_num

/-- `APP_PCCOMM_WarnLogQue`, for a query of `que_log_num` records. -/
def warnLogQue (b : Board) (que_log_num : Nat) : Option (List (List UInt8)) :=
  logQue warnLogQueID b.commStat b.warnLogInfo b.flash que_log_num

end SwiftAcu.AppLog
