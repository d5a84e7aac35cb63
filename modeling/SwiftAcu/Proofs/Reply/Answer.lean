/-
Which requests are answered.

A reply answers its request if it carries the request's command id, is as long as it
says, and is free of what an earlier reply left in the transmit buffer.  The last is said
without following the bytes: whatever the buffer held when the request came, the same
frame is sent.  A handler that fills `txbuff` answers; one that does not sends what is
there, and that is fresh only as far as the handler has put a list together over it.
-/
import SwiftAcu.Proofs.Reply.Deal

namespace SwiftAcu.Reply

open Memory

/-! ### Answers -/

/-- The link with nothing sent. -/
def Link.unsent (l : Link) : Link :=
  { l with tx := { l.tx with line := { l.tx.line with sent := [] } } }

/-- The link with another content of the transmit buffer. -/
def Link.holding (l : Link) (buff : Nat → UInt8) : Link :=
  { l with tx := { l.tx with line := { l.tx.line with buff } } }

/-- The last frame that is sent while the request is dealt with. -/
def lastFrame (P : Protocol) (l : Link) (r : Request) : Option (List UInt8) :=
  (P.deal l.unsent r).bind fun l' => l'.tx.line.sent.getLast?

/-- The frame carries the command id as an answer, and the length of what is behind it. -/
def AnswersId (cmd_id : Nat) (f : List UInt8) : Prop :=
  ∃ payload : List UInt8, payload.length ≤ 252 ∧
    f = frameOf (PcComm.answerId cmd_id ++ [UInt8.ofNat payload.length] ++ payload)

/-- A request for a command of the table is answered, with nothing left over. -/
def Answered (P : Protocol) (l : Link) (r : Request) : Prop :=
  ∀ c, P.command l r = some c → ∃ f, lastFrame P l r = some f ∧ AnswersId c.id f ∧
    ∀ buff, lastFrame P (l.holding buff) r = some f

/-- The handler leaves a whole answer in `txbuff`, of at most `n` bytes behind its length. -/
def Handled.Fills (h : Handled) (cmd_id n : Nat) : Prop :=
  ∃ payload : List UInt8, payload.length ≤ n ∧
    h.txbuff = some (PcComm.answerId cmd_id ++ [UInt8.ofNat payload.length] ++ payload)

/-! ### The last frame -/

section
variable {P : Protocol} {Q : Nat → Prop} [DecidablePred Q] {H : Handlers} (hP : DealsBy P Q H)
  {l : Link} {r : Request} {c : CmdId} (hc : P.command l r = some c)

include hP hc

/-- The last frame of a command, from any content of the transmit buffer. -/
theorem lastFrame_eq (buff : Nat → UInt8) :
    lastFrame P (l.holding buff) r = (H c (P.received l r) r).bind fun h =>
      ((l.holding buff).unsent.tx.answer Q c.id h).line.sent.getLast? := by
  have hc' : P.command (l.holding buff).unsent r = some c := hc
  rw [lastFrame, hP.deal _ _ c hc', Option.bind_map]
  rfl

/-- A set command is answered with its result. -/
theorem answered_of_set (hset : PcComm.IsSet c.id) {h : Handled}
    (hh : H c (P.received l r) r = some h) : Answered P l r := by
  intro c' hc'
  obtain rfl : c = c' := Option.some.inj (hc.symm.trans hc')
  have hlast (buff : Nat → UInt8) : lastFrame P (l.holding buff) r =
      some (frameOf (PcComm.answerId c.id ++ [1, if h.status = .SUCC then 0 else 1])) := by
    rw [lastFrame_eq hP hc, hh, Option.bind_some, Tx.answer, if_pos hset, sent_setResultSend,
      List.getLast?_concat]
  refine ⟨_, hlast l.tx.line.buff, ⟨[if h.status = .SUCC then 0 else 1], by simp, ?_⟩, hlast⟩
  simp

/-- A query that leaves a buffer does not answer. -/
theorem not_answered_of_none (hh : H c (P.received l r) r = none) : ¬ Answered P l r := by
  intro hans
  obtain ⟨f, hlast, -⟩ := hans c hc
  have hnone : lastFrame P (l.holding l.tx.line.buff) r = none := by
    rw [lastFrame_eq hP hc, hh, Option.bind_none]
  exact absurd (hlast.symm.trans hnone) (by simp)

variable (hset : ¬ PcComm.IsSet c.id)

include hset

theorem isQuery_of_not_set : Q c.id := ((hP.set_or_query l r c hc).resolve_left hset).2

/-- A query whose handler fills `txbuff` is answered. -/
theorem answered_of_fills {h : Handled} (hh : H c (P.received l r) r = some h)
    {n : Nat} (hfills : h.Fills c.id n) (hn : n ≤ 252) : Answered P l r := by
  intro c' hc'
  obtain rfl : c = c' := Option.some.inj (hc.symm.trans hc')
  obtain ⟨payload, hlen, htxbuff⟩ := hfills
  have hlen : payload.length ≤ 252 := hlen.trans hn
  have hquery := isQuery_of_not_set hP hc hset
  have hlast (buff : Nat → UInt8) : lastFrame P (l.holding buff) r =
      some (frameOf (PcComm.answerId c.id ++ [UInt8.ofNat payload.length] ++ payload)) := by
    rw [lastFrame_eq hP hc, hh, Option.bind_some, Tx.answer, if_neg hset, if_pos hquery,
      sent_txBuffSend_after htxbuff (by simp [PcComm.answerId]; omega), List.getLast?_concat]
  exact ⟨_, hlast l.tx.line.buff, ⟨payload, hlen, rfl⟩, hlast⟩

/-! ### Replies that are left over -/

section
variable {h : Handled} (hh : H c (P.received l r) r = some h) (hnone : h.txbuff = none)

include hh hnone

/-- What a query sends whose handler leaves nothing in `txbuff`. -/
theorem lastFrame_of_unfilled (buff : Nat → UInt8) :
    lastFrame P (l.holding buff) r = some (frameOf
      (read (Emit.run (l.holding buff).unsent.tx.line h.acts).buff 2 l.tx.datalen.toNat)) := by
  have hquery := isQuery_of_not_set hP hc hset
  rw [lastFrame_eq hP hc, hh, Option.bind_some, Tx.answer, if_neg hset, if_pos hquery,
    sent_txBuffSend, List.getLast?_concat, after_none hnone]
  rfl

/-- **A handler that has stored nothing does not answer**: what is sent is left over, or empty. -/
theorem not_answered_of_untouched (hacts : ∀ i, ¬ Emit.Stores h.acts i) : ¬ Answered P l r := by
  intro hans
  obtain ⟨f, -, ⟨payload, -, hf⟩, hfresh⟩ := hans c hc
  have hread (buff : Nat → UInt8) : frameOf (read buff 2 l.tx.datalen.toNat) = f := by
    have hsame : read (Emit.run (l.holding buff).unsent.tx.line h.acts).buff 2 l.tx.datalen.toNat =
        read buff 2 l.tx.datalen.toNat :=
      read_congr fun i _ _ => Emit.buff_run_of_not (hacts i)
    have hlast := lastFrame_of_unfilled hP hc hset hh hnone buff
    rw [hfresh buff, hsame] at hlast
    exact (Option.some.inj hlast).symm
  have hdata (x : UInt8) : read (fun _ => x) 2 l.tx.datalen.toNat =
      PcComm.answerId c.id ++ [UInt8.ofNat payload.length] ++ payload :=
    frameOf_injective ((hread _).trans hf)
  have hpos : 0 < l.tx.datalen.toNat := by
    have hlen := congrArg List.length (hdata 0)
    simp [PcComm.answerId] at hlen
    omega
  -- The first byte of the answer would be whatever the buffer was filled with.
  have hbyte (x : UInt8) :
      x = (PcComm.answerId c.id ++ [UInt8.ofNat payload.length] ++ payload).getD 0 0 := by
    rw [← hdata x, getD_read hpos]
  exact absurd ((hbyte 0).trans (hbyte 1).symm) (by decide)

/-- **A handler that has left a frame of its own at the front** sends it again if it is as long. -/
theorem answered_of_front {data : List UInt8} (hdata : data.length ≤ 252)
    (hfront : ∀ line, read (Emit.run line h.acts).buff 2 (data.length + 3) =
      PcComm.answerId c.id ++ [UInt8.ofNat data.length] ++ data) :
    Answered P l r ↔ l.tx.datalen.toNat = data.length + 3 := by
  constructor
  · intro hans
    obtain ⟨f, -, ⟨payload, hlen, hf⟩, hfresh⟩ := hans c hc
    have hlast := lastFrame_of_unfilled hP hc hset hh hnone l.tx.line.buff
    rw [hfresh, hf] at hlast
    have heq := frameOf_injective (Option.some.inj hlast)
    set line := (l.holding l.tx.line.buff).unsent.tx.line
    have hlength : l.tx.datalen.toNat = payload.length + 3 := by
      have := congrArg List.length heq
      simp [PcComm.answerId] at this
      omega
    -- The third byte is the inner length of both.
    have hthird : UInt8.ofNat payload.length = UInt8.ofNat data.length := by
      have h1 := congrArg (fun s => s.getD 2 0) heq
      have h2 := congrArg (fun s => s.getD 2 0) (hfront line)
      simp only [getD_read (show 2 < l.tx.datalen.toNat by omega)] at h1
      simp only [getD_read (show 2 < data.length + 3 by omega)] at h2
      simpa [PcComm.answerId] using h1.trans h2
    have hnat := congrArg UInt8.toNat hthird
    rw [UInt8.toNat_ofNat', UInt8.toNat_ofNat'] at hnat
    omega
  · intro hlength c' hc'
    obtain rfl : c = c' := Option.some.inj (hc.symm.trans hc')
    have hlast (buff : Nat → UInt8) : lastFrame P (l.holding buff) r =
        some (frameOf (PcComm.answerId c.id ++ [UInt8.ofNat data.length] ++ data)) := by
      rw [lastFrame_of_unfilled hP hc hset hh hnone, hlength, hfront]
    exact ⟨_, hlast l.tx.line.buff, ⟨data, hdata, rfl⟩, hlast⟩

end

end

end SwiftAcu.Reply
