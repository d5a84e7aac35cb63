/-
What dealing with a request comes to.

Both dispatchers look a command up, let its handler return, and answer by the class of
the command; a PC that is refused is answered as if the handler had failed.  What is
proved of replies is proved of `DealsBy`, once for both.
-/
import SwiftAcu.Acu.CmdDeal
import SwiftAcu.Proofs.Pc.Outcome
import SwiftAcu.Proofs.Reply.Frame

namespace SwiftAcu.Reply

/-- The handlers of a protocol, where a refusal counts as one. -/
abbrev Handlers := CmdId → (Nat → UInt8) → Request → Option Handled

/--
`P` deals with its commands by `H` and the classes `Q`.  What is not a command of it is
not answered, or with a result.
-/
structure DealsBy (P : Protocol) (Q : Nat → Prop) [DecidablePred Q] (H : Handlers) : Prop where
  deal : ∀ l r c, P.command l r = some c →
    P.deal l r = (H c (P.received l r) r).map fun h => ⟨P.received l r, l.tx.answer Q c.id h⟩
  idle : ∀ l r, P.command l r = none → ∃ rxbuff t, P.deal l r = some ⟨rxbuff, t⟩ ∧
    (t = l.tx ∨ ∃ cmd_id status, t = l.tx.setResultSend cmd_id status)
  set_or_query : ∀ l r c, P.command l r = some c →
    PcComm.IsSet c.id ∨ (¬ PcComm.IsSet c.id ∧ Q c.id)

variable {P : Protocol} {l : Link} {r : Request} {c : CmdId}

/-- A command is dealt with behind a reception. -/
theorem deal_of_command (h : P.command l r = some c) :
    P.find (cmdIdOf (P.received l r)) = some c ∧
      P.deal l r = (P.cmdDeal (P.received l r) r l.tx).map fun s => ⟨P.received l r, s.2⟩ := by
  unfold Protocol.command at h
  cases hrecv : P.recv r.p with
  | none => simp [hrecv] at h
  | some data =>
      have hreceived : P.received l r = PcComm.overlay l.rxbuff 0 data := by
        simp [Protocol.received, hrecv]
      refine ⟨by simpa [hrecv] using h, ?_⟩
      simp only [Protocol.deal, hrecv, hreceived]

/-- What is not a command was not accepted, or is not in the table. -/
theorem deal_of_no_command (h : P.command l r = none) :
    P.deal l r = some l ∨ (P.find (cmdIdOf (P.received l r)) = none ∧
      P.deal l r = (P.cmdDeal (P.received l r) r l.tx).map fun s => ⟨P.received l r, s.2⟩) := by
  unfold Protocol.command at h
  cases hrecv : P.recv r.p with
  | none =>
      left
      simp only [Protocol.deal, hrecv]
  | some data =>
      right
      have hreceived : P.received l r = PcComm.overlay l.rxbuff 0 data := by
        simp [Protocol.received, hrecv]
      refine ⟨by simpa [hrecv] using h, ?_⟩
      simp only [Protocol.deal, hrecv, hreceived]

@[simp] theorem after_setHandled (t : Tx) (status : Ret) : t.after (setHandled status) = t := rfl

/-! ### The PC -/

/-- The handlers of the PC protocol. -/
def pcHandlers [SoftFloat] : Handlers := fun c rxbuff r =>
  if PcComm.Refused c.id r.acu then some (setHandled .FAIL) else pcFuncDeal c rxbuff r

/-- Only commands of class 1 and 2 are refused. -/
theorem isSet_of_refused {a : Acu DevInfo} (h : PcComm.Refused c.id a) : PcComm.IsSet c.id := by
  have hclass := h.1
  revert hclass
  cases c <;> decide

theorem dealsBy_pc [SoftFloat] : DealsBy pcComm PcComm.IsQuery pcHandlers where
  deal := fun l r c hc => by
    obtain ⟨hfind, hdeal⟩ := deal_of_command hc
    have hid : c.id = cmdIdOf (pcComm.received l r) := id_of_findCmd hfind
    have hfind : findCmd c.id = some c := by rw [hid]; exact hfind
    rw [hdeal]
    show (pcCmdDeal _ r l.tx).map _ = _
    simp only [pcCmdDeal, pcHandlers, ← hid, hfind]
    split
    · next href =>
        have hset := isSet_of_refused href
        simp only [Option.map_some, Tx.answer, hset, if_true, after_setHandled]
        rfl
    · rw [Option.map_map]
      rfl
  idle := fun l r hc => by
    rcases deal_of_no_command hc with hdeal | ⟨hfind, hdeal⟩
    · exact ⟨l.rxbuff, l.tx, hdeal, Or.inl rfl⟩
    · have hfind : findCmd (cmdIdOf (pcComm.received l r)) = none := hfind
      rw [hdeal]
      show ∃ rxbuff t, (pcCmdDeal _ r l.tx).map _ = _ ∧ _
      simp only [pcCmdDeal, hfind]
      split
      · exact ⟨_, _, rfl, Or.inr ⟨_, _, rfl⟩⟩
      · exact ⟨_, _, rfl, Or.inl rfl⟩
  set_or_query := fun _ _ c _ => PcComm.class_of_cmdId c

/-! ### The front panel -/

/-- The handlers of the front panel. -/
def oledHandlers [SoftFloat] : Handlers := fun c rxbuff r => some (oledFuncDeal c rxbuff r)

theorem id_of_oledFindCmd {cmd_id : Nat} (h : oledFindCmd cmd_id = some c) : c.id = cmd_id := by
  simpa using List.find?_some h

theorem mem_of_oledFindCmd {cmd_id : Nat} (h : oledFindCmd cmd_id = some c) :
    c ∈ oledcommCmdDealTbl := List.mem_of_find?_eq_some h

theorem dealsBy_oled [SoftFloat] : DealsBy oledComm OledIsQuery oledHandlers where
  deal := fun l r c hc => by
    obtain ⟨hfind, hdeal⟩ := deal_of_command hc
    have hid : c.id = cmdIdOf (oledComm.received l r) := id_of_oledFindCmd hfind
    have hfind : oledFindCmd c.id = some c := by rw [hid]; exact hfind
    rw [hdeal]
    show (some (oledCmdDeal _ r l.tx)).map _ = _
    simp only [oledCmdDeal, oledHandlers, ← hid, hfind, Option.map_some]
  idle := fun l r hc => by
    rcases deal_of_no_command hc with hdeal | ⟨hfind, hdeal⟩
    · exact ⟨l.rxbuff, l.tx, hdeal, Or.inl rfl⟩
    · have hfind : oledFindCmd (cmdIdOf (oledComm.received l r)) = none := hfind
      rw [hdeal]
      show ∃ rxbuff t, (some (oledCmdDeal _ r l.tx)).map _ = _ ∧ _
      simp only [oledCmdDeal, hfind]
      exact ⟨_, _, rfl, Or.inl rfl⟩
  set_or_query := fun l r c hc => by
    have hmem := mem_of_oledFindCmd (deal_of_command hc).1
    have hall : ∀ c ∈ oledcommCmdDealTbl,
        PcComm.IsSet c.id ∨ (¬ PcComm.IsSet c.id ∧ OledIsQuery c.id) := by decide
    exact hall c hmem

end SwiftAcu.Reply
