/-
Replies fit their buffers, but for one.

`top` is one past the highest cell of the transmit buffer that has ever been stored to.
A reply reaches seven bytes beyond its payload and a list as far as its longest datagram,
so `top` stays below what the handlers put together, on the PC's side with much to spare.
The versions of both units take 64 bytes; the whole buffer of the front panel has no more.
-/
import SwiftAcu.Proofs.Reply.Command
import SwiftAcu.Proofs.Sat.Query

namespace SwiftAcu.Reply

open Memory

/-- `sizeof(OLEDCOMMTxBuff)`. -/
abbrev oledcommTxBuffSize : Nat := 64

/-- `sizeof(PCCOMMTxBuff)`. -/
abbrev pccommTxBuffSize : Nat := 1500

/-! ### What fits -/

/-- Nothing has been stored behind the first `n` cells, and frames have been sent. -/
structure Tx.Fits (t : Tx) (n : Nat) : Prop where
  top : t.line.top ≤ n
  framed : ∀ s ∈ t.line.sent, Framed s

/-- The next frame fits as well, if it is as long as the last. -/
structure Tx.Room (t : Tx) (n : Nat) : Prop extends Tx.Fits t n where
  next : t.datalen.toNat + 4 ≤ n

/-- A handler stays in the first `n` cells, together with what is put around its reply. -/
structure Handled.Fits (h : Handled) (n : Nat) : Prop where
  acts : Emit.reach h.acts ≤ n
  framed : ∀ line : Emit.Line UInt8, (∀ s ∈ line.sent, Framed s) →
    ∀ s ∈ (Emit.run line h.acts).sent, Framed s
  txbuff : ∀ data, h.txbuff = some data → data.length ≤ 255 ∧ data.length + 4 ≤ n

variable {t : Tx} {h : Handled} {n : Nat}

theorem Tx.Room.after (hroom : t.Room n) (hfits : h.Fits n) : (t.after h).Room n := by
  have htop : (Emit.run t.line h.acts).top ≤ n := by
    rw [Emit.top_run]
    exact max_le hroom.top hfits.acts
  have hsent := hfits.framed t.line hroom.framed
  cases htxbuff : h.txbuff with
  | none =>
      rw [after_none htxbuff]
      exact ⟨⟨htop, hsent⟩, hroom.next⟩
  | some data =>
      obtain ⟨hlen, hn⟩ := hfits.txbuff data htxbuff
      rw [after_some htxbuff]
      refine ⟨⟨max_le htop (show 2 + data.length ≤ n by omega), hsent⟩, ?_⟩
      show (UInt8.ofNat data.length).toNat + 4 ≤ n
      rw [UInt8.toNat_ofNat']
      omega

theorem Tx.Room.txBuffSend (hroom : t.Room n) : t.txBuffSend.Room n := by
  have hdatalen := t.datalen.toNat_lt
  refine ⟨⟨?_, ?_⟩, hroom.next⟩
  · rw [top_txBuffSend]
    exact max_le hroom.top hroom.next
  · rw [sent_txBuffSend]
    intro s hs
    rcases List.mem_append.mp hs with hs | hs
    · exact hroom.framed s hs
    · rw [List.mem_singleton.mp hs]
      exact framed_frameOf (by rw [length_read]; omega)

/-- A handler that leaves the buffer to its reply. -/
theorem fits_of_nil (status : Ret) {txbuff : Option (List UInt8)}
    (hlen : ∀ data, txbuff = some data → data.length ≤ 255 ∧ data.length + 4 ≤ n) :
    (⟨status, [], txbuff⟩ : Handled).Fits n :=
  ⟨Nat.zero_le n, fun _ hline => hline, hlen⟩

theorem fits_setResult (cmd_id : Nat) (status : Ret) (hn : 8 ≤ n) :
    (setResult cmd_id status).Fits n :=
  fits_of_nil status fun data hdata => by
    rw [← Option.some.inj hdata]
    simp [PcComm.answerId]
    omega

theorem Tx.Room.setResultSend (hroom : t.Room n) (hn : 8 ≤ n) (cmd_id : Nat) (status : Ret) :
    (t.setResultSend cmd_id status).Room n :=
  (hroom.after (fits_setResult cmd_id status hn)).txBuffSend

theorem Tx.Room.answer {Q : Nat → Prop} [DecidablePred Q] (hroom : t.Room n) (hfits : h.Fits n)
    (hn : 8 ≤ n) (cmd_id : Nat) : (t.answer Q cmd_id h).Room n := by
  have hafter := hroom.after hfits
  unfold Tx.answer
  split
  · exact hafter.setResultSend hn cmd_id h.status
  · split
    · exact hafter.txBuffSend
    · exact hafter

/-- **A request whose handler fits leaves room.** -/
theorem room_deal {P : Protocol} {Q : Nat → Prop} [DecidablePred Q] {H : Handlers}
    (hP : DealsBy P Q H) (hn : 8 ≤ n) {l : Link} {r : Request} (hroom : l.tx.Room n)
    (hfits : ∀ c, P.command l r = some c → ∃ h, H c (P.received l r) r = some h ∧ h.Fits n) :
    ∃ l', P.deal l r = some l' ∧ l'.tx.Room n := by
  cases hc : P.command l r with
  | none =>
      obtain ⟨rxbuff, t, hdeal, ht⟩ := hP.idle l r hc
      refine ⟨_, hdeal, ?_⟩
      rcases ht with rfl | ⟨cmd_id, status, rfl⟩
      · exact hroom
      · exact hroom.setResultSend hn cmd_id status
  | some c =>
      obtain ⟨h, hh, hfits⟩ := hfits c hc
      exact ⟨_, by rw [hP.deal l r c hc, hh, Option.map_some], hroom.answer hfits hn c.id⟩

/-! ### Handlers -/

theorem fits_of_bursts {datagrams : List (List UInt8)} (status : Ret)
    {txbuff : Option (List UInt8)} (hsent : ∀ s ∈ datagrams, s.length ≤ n ∧ Framed s)
    (hlen : ∀ data, txbuff = some data → data.length ≤ 255 ∧ data.length + 4 ≤ n) :
    (⟨status, Emit.bursts datagrams, txbuff⟩ : Handled).Fits n where
  acts := Emit.reach_bursts_le fun s hs => (hsent s hs).1
  framed := fun line hline s hs => by
    rw [Emit.sent_run_bursts] at hs
    rcases List.mem_append.mp hs with hs | hs
    · exact hline s hs
    · exact (hsent s hs).2
  txbuff := hlen

theorem fits_setHandled (status : Ret) : (setHandled status).Fits n :=
  fits_of_nil status fun _ hdata => absurd hdata (by simp)

/-- An answer takes seven bytes besides its payload. -/
theorem Handled.Fills.lengths {cmd_id m : Nat} (hfills : h.Fills cmd_id m) (hm : m ≤ 248)
    (hn : m + 7 ≤ n) (data : List UInt8) (hdata : h.txbuff = some data) :
    data.length ≤ 255 ∧ data.length + 4 ≤ n := by
  obtain ⟨payload, hlen, htxbuff⟩ := hfills
  rw [← Option.some.inj (htxbuff.symm.trans hdata)]
  simp [PcComm.answerId]
  omega

theorem Handled.Fills.fits {cmd_id m : Nat} (hfills : h.Fills cmd_id m) (hm : m ≤ 248)
    (hn : m + 7 ≤ n) (hacts : h.acts = []) : h.Fits n := by
  have hlengths := hfills.lengths hm hn
  obtain ⟨status, acts, txbuff⟩ := h
  obtain rfl : acts = [] := hacts
  exact fits_of_nil status hlengths

theorem Handled.Fills.fits_bursts {cmd_id m : Nat} (hfills : h.Fills cmd_id m) (hm : m ≤ 248)
    (hn : m + 7 ≤ n) {datagrams : List (List UInt8)} (hacts : h.acts = Emit.bursts datagrams)
    (hsent : ∀ s ∈ datagrams, s.length ≤ n ∧ Framed s) : h.Fits n := by
  have hlengths := hfills.lengths hm hn
  obtain ⟨status, acts, txbuff⟩ := h
  obtain rfl : acts = Emit.bursts datagrams := hacts
  exact fits_of_bursts status hsent hlengths

/-! ### Satellites -/

section
variable [SoftFloat]

/-- The frame of a satellite carries an answer. -/
theorem satFrame_eq_frameOf (cmd_id : Nat) (p : SatParam) :
    satFrame cmd_id p = frameOf (PcComm.answerId cmd_id ++ [27] ++ [p.id] ++ satParamBytes p) := by
  have hlen : (PcComm.answerId cmd_id ++ [27] ++ [p.id] ++ satParamBytes p).length = 30 := by
    simp [PcComm.answerId]
  rw [frameOf, hlen]
  rfl

theorem length_satFrame (cmd_id : Nat) (p : SatParam) : (satFrame cmd_id p).length = 34 := by
  rw [satFrame_eq_frameOf]
  simp [PcComm.answerId]

theorem framed_satFrame (cmd_id : Nat) (p : SatParam) : Framed (satFrame cmd_id p) := by
  rw [satFrame_eq_frameOf]
  exact framed_frameOf (by simp [PcComm.answerId])

/-- What the PC's query has put together are frames of satellites. -/
def SatsOnly (cmd_id : Nat) (q : SatQue) : Prop :=
  ∃ ps : List SatParam,
    Batches.Sending 40 (ps.map (satFrame cmd_id)) q.sent q.buff q.satNum.toNat

theorem SatsOnly.step {cmd_id : Nat} {d : Device} {q : SatQue} (hq : SatsOnly cmd_id q) (i : Nat) :
    SatsOnly cmd_id (satQueStep cmd_id d q i) := by
  obtain ⟨ps, hsending⟩ := hq
  unfold satQueStep
  split
  · exact ⟨ps, hsending⟩
  · split
    · exact ⟨ps, hsending⟩
    · next p _ =>
        refine ⟨ps ++ [p], ?_⟩
        rw [List.map_append]
        exact Sat.sending_flush hsending (q.satTotalNum + 1)

/-- The datagrams of the PC's query are of at most 40 satellites, whatever the list counts. -/
theorem saveAllSatParamQue_datagrams (cmd_id : Nat) (d : Device) :
    ∀ s ∈ (saveAllSatParamQue cmd_id d).1, s.length ≤ 1360 ∧ Framed s := by
  have hrun (is : List Nat) (q : SatQue) (hq : SatsOnly cmd_id q) :
      SatsOnly cmd_id (is.foldl (satQueStep cmd_id d) q) := by
    induction is generalizing q with
    | nil => exact hq
    | cons i is ih => exact ih _ (hq.step i)
  obtain ⟨ps, hsending⟩ := hrun (List.range satMax) ⟨[], 0, 0, [], false⟩ ⟨[], .start (by decide)⟩
  unfold saveAllSatParamQue
  generalize (List.range satMax).foldl (satQueStep cmd_id d) ⟨[], 0, 0, [], false⟩ = q at hsending
  have hroom : q.satNum < 40 := UInt8.lt_iff_toNat_lt.mpr hsending.room
  have hpos : 0 < q.satNum ↔ 0 < q.satNum.toNat := UInt8.lt_iff_toNat_lt
  simp only [hroom, true_and, hpos]
  intro s hs
  obtain ⟨batch, rfl, hlen, hitems⟩ := hsending.finish.mem hs
  have hsat (f : List UInt8) (hf : f ∈ batch) : ∃ p, satFrame cmd_id p = f := by
    obtain ⟨p, -, hp⟩ := List.mem_map.mp (hitems f hf)
    exact ⟨p, hp⟩
  constructor
  · have hle : (batch.flatMap id).length ≤ 34 * batch.length := length_flatMap_le fun f hf => by
      obtain ⟨p, rfl⟩ := hsat f hf
      exact (length_satFrame cmd_id p).le
    rw [List.flatMap_id] at hle
    omega
  · refine framed_flatten fun f hf => ?_
    obtain ⟨p, rfl⟩ := hsat f hf
    exact framed_satFrame cmd_id p

theorem fits_pcSaveAllSatParamQue (d : DevInfo) :
    (pcSaveAllSatParamQue d).Fits pccommTxBuffSize := by
  unfold pcSaveAllSatParamQue
  refine fits_of_bursts .SUCC (fun s hs => ?_) fun data hdata => ?_
  · obtain ⟨hlen, hframed⟩ := saveAllSatParamQue_datagrams _ _ s hs
    exact ⟨hlen.trans (by decide), hframed⟩
  · have hend : (satQueEnd CmdId.allSaveSatParamQue.id).length = 30 := by decide
    rw [← Option.some.inj hdata]
    exact ⟨hend.le.trans (by decide), (Nat.add_le_add_right hend.le 4).trans (by decide)⟩

/-- The front panel is sent one satellite at a time. -/
theorem oledSatQue_datagrams (cmd_id : Nat) (d : Device) (is : List Nat) (q : SatQue)
    (hq : ∀ s ∈ q.sent, s.length ≤ 64 ∧ Framed s) :
    ∀ s ∈ (is.foldl (oledSatQueStep cmd_id d) q).sent, s.length ≤ 64 ∧ Framed s := by
  induction is generalizing q with
  | nil => exact hq
  | cons i is ih =>
      refine ih _ ?_
      unfold oledSatQueStep
      split
      · exact hq
      · split
        · exact hq
        · next p _ =>
            intro s hs
            rcases List.mem_append.mp hs with hs | hs
            · exact hq s hs
            · rw [List.mem_singleton.mp hs, length_satFrame]
              exact ⟨by decide, framed_satFrame cmd_id p⟩

end

/-! ### Antenna records -/

section
variable {d : DevInfo} {ids : List UInt8}

theorem recordQueLoop_datagrams :
    ∀ f ∈ (recordQueLoop d ids).1, f.length = 45 ∧ Framed f := by
  intro f hf
  obtain ⟨readbuff, hlen, rfl⟩ := recordQueLoop_frames hf
  have hdata := length_recordData hlen
  refine ⟨length_recordFrame hlen, ?_⟩
  rw [recordFrame_eq hlen]
  exact framed_frameOf (by simp [PcComm.answerId, hdata])

/-- Every entry of the list makes at most one frame. -/
theorem length_recordQueLoop_le : (recordQueLoop d ids).1.length ≤ ids.length := by
  induction ids with
  | nil => exact Nat.le_refl 0
  | cons id ids ih =>
      by_cases hid : Listed id
      · by_cases hans : d.answers (antennaRecordAddr id) = true
        · rw [recordQueLoop_read hid hans]
          simpa using ih
        · rw [recordQueLoop_stop hid hans]
          simp
      · rw [recordQueLoop_skip hid, List.length_cons]
        omega

/-- The PC is sent the records in one datagram, of at most 10 frames. -/
theorem length_records_le : (recordQueLoop d (recordIds d)).1.flatten.length ≤ 450 := by
  have hle : ((recordQueLoop d (recordIds d)).1.flatMap id).length ≤
      45 * (recordQueLoop d (recordIds d)).1.length :=
    length_flatMap_le fun f hf => (recordQueLoop_datagrams f hf).1.le
  rw [List.flatMap_id] at hle
  have hcount := @length_recordQueLoop_le d (recordIds d)
  have hids : (recordIds d).length = antennaRecordMax := by simp [recordIds]
  have hmax : antennaRecordMax = 10 := rfl
  omega

theorem framed_records : Framed (recordQueLoop d ids).1.flatten :=
  framed_flatten fun f hf => (recordQueLoop_datagrams f hf).2

theorem fits_pcAntennaRecordQue (d : DevInfo) :
    (pcAntennaRecordQue d).Fits pccommTxBuffSize := by
  have hlen := length_records_le (d := d)
  by_cases hall : RecordsAnswer d (recordIds d)
  · rw [pcAntennaRecordQue_complete hall]
    have hburst : Emit.burst (recordQueLoop d (recordIds d)).1.flatten =
        Emit.bursts [(recordQueLoop d (recordIds d)).1.flatten] := by simp
    rw [hburst]
    refine fits_of_bursts .SUCC (fun s hs => ?_) fun data hdata => ?_
    · rw [List.mem_singleton.mp hs]
      exact ⟨hlen.trans (by decide), framed_records⟩
    · rw [← Option.some.inj hdata]
      decide
  · rw [pcAntennaRecordQue_giveUp hall]
    refine ⟨?_, fun _ hline => hline, fun data hdata => absurd hdata (by simp)⟩
    rw [Emit.reach, Nat.zero_add]
    exact max_le (hlen.trans (by decide)) (Nat.zero_le _)

theorem fits_oledAntennaRecordQue (d : DevInfo) :
    (oledAntennaRecordQue d).Fits oledcommTxBuffSize := by
  have hsent : ∀ s ∈ (recordQueLoop d (recordIds d)).1,
      s.length ≤ oledcommTxBuffSize ∧ Framed s := fun s hs => by
    obtain ⟨hlen, hframed⟩ := recordQueLoop_datagrams s hs
    exact ⟨hlen.le.trans (by decide), hframed⟩
  by_cases hall : RecordsAnswer d (recordIds d)
  · rw [oledAntennaRecordQue_complete hall]
    refine fits_of_bursts .SUCC hsent fun data hdata => ?_
    rw [← Option.some.inj hdata]
    decide
  · rw [oledAntennaRecordQue_giveUp hall]
    exact fits_of_bursts .FAIL hsent fun data hdata => absurd hdata (by simp)

end

/-! ### The PC -/

/-- The walk of a log query stays inside its buffers; of other commands nothing is asked. -/
def LogFits (c : CmdId) (rxbuff : Nat → UInt8) (d : DevInfo) : Prop :=
  match c with
  | .warnLogQue => QueFits d.board.commStat d.board.warnLogInfo d.board.flash (queLogNum rxbuff)
  | .operationLogQue => QueFits d.board.commStat d.board.optLogInfo d.board.flash (queLogNum rxbuff)
  | _ => True

section
variable [SoftFloat] {c : CmdId} {rxbuff : Nat → UInt8} {r : Request}

/-- The plain queries but for the satellites put nothing together besides their reply. -/
theorem acts_pcFuncDeal (hc : CmdId.Plain c) (hsat : c ≠ .allSaveSatParamQue)
    (hh : pcFuncDeal c rxbuff r = some h) : h.acts = [] := by
  obtain ⟨hset, hadjust, hrecord, hwarn, hopt⟩ := hc
  cases c <;>
    first
      | exact absurd rfl hsat
      | exact absurd rfl hadjust
      | exact absurd rfl hrecord
      | exact absurd rfl hwarn
      | exact absurd rfl hopt
      | (rw [← Option.some.inj hh]; rfl)

omit [SoftFloat] in
/-- A log query fits if its walk does, and does not return otherwise. -/
theorem fits_logQue_iff (c : CmdId) (cmd_id : Nat) (commStat : UInt8) (info : LogInfo)
    (flash : FlashChip) (k : Nat) :
    (QueFits commStat info flash k →
      ∃ h, (AppLog.logQue cmd_id commStat info flash k).map (logReply c) = some h ∧
        h.Fits pccommTxBuffSize) ∧
    (¬ QueFits commStat info flash k →
      (AppLog.logQue cmd_id commStat info flash k).map (logReply c) = none) := by
  obtain ⟨hfits, hnot⟩ := @logQue_iff cmd_id commStat flash info k
  refine ⟨fun h => ?_, fun h => by rw [hnot h, Option.map_none]⟩
  obtain ⟨datagrams, hsome, hsent⟩ := hfits h
  refine ⟨_, by rw [hsome, Option.map_some], ?_⟩
  have hfills : (logReply c datagrams).Fills c.id 32 := fills_replicate _ _ _ 32
  refine hfills.fits_bursts (by decide) (by decide) rfl fun s hs => ?_
  obtain ⟨hlen, hframed⟩ := hsent s hs
  exact ⟨hlen.trans (by decide), hframed⟩

/-- **The handlers of the PC fit**, if the walk of a log does. -/
theorem fits_pcHandlers (hlog : LogFits c rxbuff r.acu.rest.others) :
    ∃ h, pcHandlers c rxbuff r = some h ∧ h.Fits pccommTxBuffSize := by
  by_cases hset : PcComm.IsSet c.id
  · obtain ⟨status, hh⟩ := pcHandlers_of_set hset rxbuff r
    exact ⟨_, hh, fits_setHandled status⟩
  rw [pcHandlers_of_query hset]
  by_cases hadjust : c = .antennaAdjustParamQue
  · subst hadjust
    exact ⟨_, rfl, fits_setHandled .SUCC⟩
  by_cases hrecord : c = .antennaRecordQue
  · subst hrecord
    exact ⟨_, rfl, fits_pcAntennaRecordQue _⟩
  by_cases hwarn : c = .warnLogQue
  · subst hwarn
    exact (fits_logQue_iff _ _ _ _ _ _).1 hlog
  by_cases hopt : c = .operationLogQue
  · subst hopt
    exact (fits_logQue_iff _ _ _ _ _ _).1 hlog
  have hplain : CmdId.Plain c := ⟨hset, hadjust, hrecord, hwarn, hopt⟩
  obtain ⟨h, hh, hfills⟩ := fills_pcFuncDeal hplain
  refine ⟨h, hh, ?_⟩
  by_cases hsat : c = .allSaveSatParamQue
  · subst hsat
    rw [← Option.some.inj hh]
    exact fits_pcSaveAllSatParamQue _
  · exact hfills.fits (by decide) (by decide) (acts_pcFuncDeal hplain hsat hh)

/-- Without, there is no answer. -/
theorem pcHandlers_of_not_logFits (hlog : ¬ LogFits c rxbuff r.acu.rest.others) :
    pcHandlers c rxbuff r = none := by
  by_cases hwarn : c = .warnLogQue
  · subst hwarn
    rw [pcHandlers_of_query (by decide)]
    exact (fits_logQue_iff _ _ _ _ _ _).2 hlog
  by_cases hopt : c = .operationLogQue
  · subst hopt
    rw [pcHandlers_of_query (by decide)]
    exact (fits_logQue_iff _ _ _ _ _ _).2 hlog
  · exact absurd (by cases c <;> trivial) hlog

end

/-! ### The front panel -/

section
variable [SoftFloat] {c : CmdId} {rxbuff : Nat → UInt8} {r : Request}

theorem acts_oledFuncDeal (hc : CmdId.Plain c) (hsat : c ≠ .allSaveSatParamQue) :
    (oledFuncDeal c rxbuff r).acts = [] := by
  obtain ⟨hset, hadjust, hrecord, hwarn, hopt⟩ := hc
  cases c <;>
    first
      | exact absurd rfl hsat
      | exact absurd rfl hadjust
      | exact absurd rfl hrecord
      | exact absurd rfl hwarn
      | exact absurd rfl hopt
      | exact absurd (by decide) hset
      | rfl

omit [SoftFloat] in
/-- The third byte of an answer to the front panel is put down, but not counted. -/
theorem fits_oledPcAdminSet (rxbuff : Nat → UInt8) (a : Acu DevInfo) :
    (oledPcAdminSet rxbuff a).Fits oledcommTxBuffSize := by
  have htxbuff : (Admin.oledPcAdminSet rxbuff a).2.2 = none ∨
      (Admin.oledPcAdminSet rxbuff a).2.2 = some [0x82, 0x1A, 0xFF] := by
    unfold Admin.oledPcAdminSet
    split
    · exact Or.inl rfl
    · exact Or.inr rfl
  rcases htxbuff with hnone | hsome
  · simp only [oledPcAdminSet, hnone]
    exact fits_setHandled _
  · simp only [oledPcAdminSet, hsome]
    have hreach : Emit.reach [Emit.Act.store 4 [(0xFF : UInt8)]] ≤ oledcommTxBuffSize := by decide
    refine ⟨hreach, fun _ hline => hline, fun data hdata => ?_⟩
    rw [← Option.some.inj hdata]
    decide

theorem fits_oledSaveAllSatParamQue (d : DevInfo) :
    (oledSaveAllSatParamQue d).Fits oledcommTxBuffSize := by
  unfold oledSaveAllSatParamQue
  refine fits_of_bursts .SUCC ?_ fun data hdata => ?_
  · exact oledSatQue_datagrams _ _ _ _ fun s hs => absurd hs (by simp)
  · rw [← Option.some.inj hdata]
    decide

/-- **The handlers of the front panel fit**, but for the version. -/
theorem fits_oledFuncDeal (hmem : c ∈ oledcommCmdDealTbl) (hversion : c ≠ .versionQue) :
    (oledFuncDeal c rxbuff r).Fits oledcommTxBuffSize := by
  by_cases hset : PcComm.IsSet c.id
  · by_cases hadmin : c = .pcHighAdmin
    · subst hadmin
      exact fits_oledPcAdminSet rxbuff r.acu
    · have hhandled : oledFuncDeal c rxbuff r = setHandled r.setStatus := by
        cases c <;> first | exact absurd rfl hadmin | exact absurd hset (by decide) | rfl
      rw [hhandled]
      exact fits_setHandled r.setStatus
  by_cases hadjust : c = .antennaAdjustParamQue
  · subst hadjust
    exact fits_setHandled .SUCC
  by_cases hrecord : c = .antennaRecordQue
  · subst hrecord
    exact fits_oledAntennaRecordQue _
  by_cases hsat : c = .allSaveSatParamQue
  · subst hsat
    exact fits_oledSaveAllSatParamQue _
  have hlogs : ∀ c ∈ oledcommCmdDealTbl, c ≠ .warnLogQue ∧ c ≠ .operationLogQue := by decide
  have hplain : CmdId.Plain c :=
    ⟨hset, hadjust, hrecord, (hlogs c hmem).1, (hlogs c hmem).2⟩
  exact (fills_oledFuncDeal hplain hmem hversion).fits (by decide) (by decide)
    (acts_oledFuncDeal hplain hsat)

end

/-- The versions take 71 bytes. -/
theorem top_versionQue (t : Tx) (d : DevInfo) :
    71 ≤ (t.answer OledIsQuery CmdId.versionQue.id (versionQue d)).line.top := by
  obtain ⟨data, htxbuff, hlen⟩ :
      ∃ data, (versionQue d).txbuff = some data ∧ data.length = 67 :=
    ⟨_, rfl, by simp [PcComm.answerId]⟩
  have hanswer : t.answer OledIsQuery CmdId.versionQue.id (versionQue d) =
      (t.after (versionQue d)).txBuffSend := by
    rw [Tx.answer, if_neg (by decide), if_pos (by decide)]
  have hdata : (t.after (versionQue d)).datalen = 67 := by
    rw [after_some htxbuff, hlen]
    rfl
  rw [hanswer, top_txBuffSend, hdata]
  exact le_max_right _ _

/-! ### Runs -/

/-- The run has come to a state in which everything has fitted the buffer. -/
def AllFit (n : Nat) (s : Option Link) : Prop := ∃ l, s = some l ∧ l.tx.Fits n

/-- The run has come to a state in which the next request can be answered as well. -/
def AllRoom (n : Nat) (s : Option Link) : Prop := ∃ l, s = some l ∧ l.tx.Room n

theorem allRoom_init (hn : 4 ≤ n) : AllRoom n (some Link.init) :=
  ⟨Link.init, rfl, ⟨⟨Nat.zero_le n, fun _ hs => absurd hs (by simp [Link.init, Tx.init])⟩, hn⟩⟩

theorem allFit_of_allRoom {s : Option Link} (h : AllRoom n s) : AllFit n s := by
  obtain ⟨l, hl, hroom⟩ := h
  exact ⟨l, hl, hroom.toFits⟩

/--
Runs in which everything fits are those whose requests are of the kind `A`, if the
handlers fit exactly for those.
-/
theorem allFit_iff {P : Protocol} {Q : Nat → Prop} [DecidablePred Q] {H : Handlers}
    (hP : DealsBy P Q H) (hn : 8 ≤ n) {A : Link → Request → Prop}
    (hfits : ∀ l r c, A l r → P.command l r = some c →
      ∃ h, H c (P.received l r) r = some h ∧ h.Fits n)
    (hleave : ∀ l r, ¬ A l r → ∀ l', P.deal l r = some l' → n < l'.tx.line.top)
    (rs : List Request) :
    Runs.AllStates P.step (AllFit n) (some Link.init) rs ↔
      Runs.AllSteps P.step (AtState A) (some Link.init) rs := by
  have hkeep : ∀ s r, AllRoom n s → AtState A s r → AllRoom n (P.step s r) := by
    rintro _ r ⟨l, rfl, hroom⟩ hA
    exact room_deal hP hn hroom fun c => hfits l r c (hA l rfl)
  have hgone : ∀ s r, AllRoom n s → ¬ AtState A s r → ¬ AllFit n (P.step s r) := by
    rintro _ r ⟨l, rfl, hroom⟩ hA ⟨l', hdeal, hfit⟩
    have hnot : ¬ A l r := fun h => hA fun l' hl' => by
      rw [← Option.some.inj hl']
      exact h
    have hover := hleave l r hnot l' hdeal
    have htop := hfit.top
    omega
  exact Runs.allStates_iff_of_inv (fun _ => allFit_of_allRoom) hkeep hgone
    (allRoom_init (by omega)) rs

/-- A request of the PC whose log fits, if it asks for one. -/
def LogsFit [SoftFloat] (l : Link) (r : Request) : Prop :=
  ∀ c, pcComm.command l r = some c → LogFits c (pcComm.received l r) r.acu.rest.others

/-- A request of the front panel, but not for the versions. -/
def NotVersion [SoftFloat] (l : Link) (r : Request) : Prop :=
  oledComm.command l r ≠ some .versionQue

/--
**Replies fit their buffers**, those of the front panel in exactly the runs in which it
does not ask for the versions, those of the PC in exactly the runs whose log queries stay
inside their buffers, from start-up on and whatever state the device is in at each request.
The length of a reply to the PC always fits in one byte.
-/
theorem allFit_pc_oled [SoftFloat] (rs : List Request) :
    (Runs.AllStates oledComm.step (AllFit oledcommTxBuffSize) (some Link.init) rs ↔
      Runs.AllSteps oledComm.step (AtState NotVersion) (some Link.init) rs) ∧
    (Runs.AllStates pcComm.step (AllFit pccommTxBuffSize) (some Link.init) rs ↔
      Runs.AllSteps pcComm.step (AtState LogsFit) (some Link.init) rs) ∧
    ∀ c rxbuff r h data, pcHandlers c rxbuff r = some h → h.txbuff = some data →
      data.length ≤ 255 := by
  refine ⟨allFit_iff dealsBy_oled (by decide) ?_ ?_ rs,
    allFit_iff dealsBy_pc (by decide) ?_ ?_ rs, ?_⟩
  · intro l r c hversion hc
    refine ⟨_, rfl, fits_oledFuncDeal (mem_of_oledFindCmd (deal_of_command hc).1) ?_⟩
    rintro rfl
    exact hversion hc
  · intro l r hversion l' hdeal
    have hc : oledComm.command l r = some .versionQue := not_not.mp hversion
    rw [dealsBy_oled.deal l r _ hc] at hdeal
    rw [← Option.some.inj hdeal]
    exact Nat.lt_of_lt_of_le (by decide) (top_versionQue l.tx r.acu.rest.others)
  · intro l r c hlogs hc
    exact fits_pcHandlers (hlogs c hc)
  · intro l r hlogs l' hdeal
    obtain ⟨c, hc⟩ := not_forall.mp hlogs
    obtain ⟨hc, hlog⟩ := Classical.not_imp.mp hc
    rw [dealsBy_pc.deal l r c hc, pcHandlers_of_not_logFits hlog] at hdeal
    exact absurd hdeal (by simp)
  · intro c rxbuff r h data hh hdata
    by_cases hlog : LogFits c rxbuff r.acu.rest.others
    · obtain ⟨h', hh', hfits⟩ := fits_pcHandlers hlog
      obtain rfl := Option.some.inj (hh.symm.trans hh')
      exact (hfits.txbuff data hdata).1
    · rw [pcHandlers_of_not_logFits hlog] at hh
      exact absurd hh (by simp)

section
attribute [local instance] SoftFloat.single

/-- The query of the versions, from the front panel. -/
def versionsQue : Request := ⟨[0xBC, 3, 0x0A, 0x01, 0, 0xCA, 0xCB], benchAcu, .SUCC⟩

/-- Its answer does not fit. -/
theorem versionsQue_not_fits :
    ¬ ∀ rs, Runs.AllStates oledComm.step (AllFit oledcommTxBuffSize) (some Link.init) rs := by
  intro hall
  have hcommand : oledComm.command Link.init versionsQue = some .versionQue := by decide +kernel
  obtain ⟨l, hl, hfit⟩ := hall [versionsQue] [versionsQue] [] rfl
  have hdeal : oledComm.deal Link.init versionsQue = some l := hl
  rw [dealsBy_oled.deal _ _ _ hcommand] at hdeal
  rw [← Option.some.inj hdeal] at hfit
  have hover := top_versionQue Link.init.tx versionsQue.acu.rest.others
  exact absurd (hover.trans hfit.top) (by decide)

end

end SwiftAcu.Reply
