/-
Every reply answers its request, but for three.

The query of the adjustment parameters is never answered: its handler leaves the reply of
an earlier request in the buffer.  The query of the records is answered unless the EEPROM
fails: then the frames put together so far are what is sent, cut to the length of the last
reply, which comes to an answer only if that length is the length of a frame of a record.
A log query is answered if its walk stays inside its buffers.
-/
import SwiftAcu.Acu.LogRun
import SwiftAcu.Proofs.Reply.Log

namespace SwiftAcu.Reply

open Memory

/-- The condition under which a command is answered. -/
def AnswerReady (c : CmdId) (rxbuff : Nat → UInt8) (d : DevInfo) (datalen : UInt8) : Prop :=
  match c with
  | .antennaAdjustParamQue => False
  | .antennaRecordQue =>
    RecordsAnswer d (recordIds d) ∨ (FirstAnswers d (recordIds d) ∧ datalen = 41)
  | .warnLogQue => QueFits d.board.commStat d.board.warnLogInfo d.board.flash (queLogNum rxbuff)
  | .operationLogQue => QueFits d.board.commStat d.board.optLogInfo d.board.flash (queLogNum rxbuff)
  | _ => True

/-! ### Records -/

/-- The frame of a record at the front of the buffer, as `txbuff` sees it. -/
theorem read_of_recordFrame {m : Nat → UInt8} {readbuff : List UInt8}
    (hlen : readbuff.length = 80) (hread : read m 0 45 = recordFrame readbuff) :
    read m 2 ((recordData readbuff).length + 3) = PcComm.answerId CmdId.antennaRecordQue.id ++
      [UInt8.ofNat (recordData readbuff).length] ++ recordData readbuff := by
  have hdata := length_recordData hlen
  set data := PcComm.answerId CmdId.antennaRecordQue.id ++
    [UInt8.ofNat (recordData readbuff).length] ++ recordData readbuff with hdef
  have hlen41 : data.length = 41 := by simp [hdef, hdata, PcComm.answerId]
  rw [recordFrame_eq hlen, ← hdef, frameOf] at hread
  have hall : ([0xBC, UInt8.ofNat data.length] ++ data ++
      [checkSum8BitGet ([0xBC, UInt8.ofNat data.length] ++ data), 0xCB]).length = 45 := by
    simp [hlen41]
  have hmid := read_of_append (by rw [hall]; exact hread)
  rw [hlen41] at hmid
  rw [hdata]
  exact hmid

/-- What the two queries do when they give up: the frames so far lie at the front. -/
structure GivesUp (frames : List (List UInt8)) (h : Handled) : Prop where
  unfilled : h.txbuff = none
  untouched : frames = [] → ∀ i, ¬ Emit.Stores h.acts i
  front : frames ≠ [] → ∃ f ∈ frames, ∀ line, read (Emit.run line h.acts).buff 0 f.length = f

theorem givesUp_pc (frames : List (List UInt8)) :
    GivesUp frames ⟨.FAIL, [.store 0 frames.flatten], none⟩ where
  unfilled := rfl
  untouched := fun hnil i => by
    simp [hnil, Emit.stores_store_cons]
  front := fun hne => by
    obtain ⟨f, fs, rfl⟩ := List.exists_cons_of_ne_nil hne
    refine ⟨f, by simp, fun line => ?_⟩
    show read (write line.buff 0 (f :: fs).flatten) 0 f.length = f
    rw [read_write_take _ _ (by simp), List.flatten_cons, List.take_left]

theorem givesUp_oled (frames : List (List UInt8)) :
    GivesUp frames ⟨.FAIL, Emit.bursts frames, none⟩ where
  unfilled := rfl
  untouched := fun hnil i => by
    simp [hnil]
  front := fun hne =>
    ⟨frames.getLast hne, List.getLast_mem hne, fun line => Emit.read_run_bursts line hne⟩

section
variable {P : Protocol} {Q : Nat → Prop} [DecidablePred Q] {H : Handlers} (hP : DealsBy P Q H)
  {l : Link} {r : Request} (hc : P.command l r = some .antennaRecordQue) {h : Handled}
  (hh : H .antennaRecordQue (P.received l r) r = some h)

include hP hc hh

/-- **A record query that gives up** answers only with a frame of a record, cut to its length. -/
theorem answered_record_iff {d : DevInfo} {ids : List UInt8} (hfail : ¬ RecordsAnswer d ids)
    (hup : GivesUp (recordQueLoop d ids).1 h) :
    Answered P l r ↔ FirstAnswers d ids ∧ l.tx.datalen = 41 := by
  have hset : ¬ PcComm.IsSet CmdId.antennaRecordQue.id := by decide
  by_cases hnil : (recordQueLoop d ids).1 = []
  · have hno := (recordQueLoop_nil_iff hfail).mp hnil
    have hnot := not_answered_of_untouched hP hc hset hh hup.unfilled (hup.untouched hnil)
    simp [hnot, hno]
  · have hyes : FirstAnswers d ids := by
      by_contra hno
      exact hnil ((recordQueLoop_nil_iff hfail).mpr hno)
    obtain ⟨f, hf, hfront⟩ := hup.front hnil
    obtain ⟨readbuff, hlen, rfl⟩ := recordQueLoop_frames hf
    have hdata := length_recordData hlen
    have hread (line : Emit.Line UInt8) := read_of_recordFrame hlen
      (show read (Emit.run line h.acts).buff 0 45 = recordFrame readbuff by
        rw [← length_recordFrame hlen]
        exact hfront line)
    rw [answered_of_front hP hc hset hh hup.unfilled (by omega) hread, hdata, ← UInt8.toNat_inj]
    simp [hyes]

end

/-! ### One request -/

/-- Every request for a command is ready to be answered. -/
def Ready (P : Protocol) (l : Link) (r : Request) : Prop :=
  ∀ c, P.command l r = some c →
    AnswerReady c (P.received l r) r.acu.rest.others l.tx.datalen

/-- The commands whose answer is certain. -/
theorem answerReady_of_plain {c : CmdId} (hc : CmdId.Plain c) (rxbuff : Nat → UInt8) (d : DevInfo)
    (datalen : UInt8) : AnswerReady c rxbuff d datalen := by
  obtain ⟨-, hadjust, hrecord, hwarn, hopt⟩ := hc
  cases c <;> trivial

theorem answerReady_of_set {c : CmdId} (hc : PcComm.IsSet c.id) (rxbuff : Nat → UInt8)
    (d : DevInfo) (datalen : UInt8) : AnswerReady c rxbuff d datalen := by
  cases c <;> trivial

/-- What the handlers of a protocol do for the commands it has. -/
structure Replying (P : Protocol) (H : Handlers) : Prop where
  set : ∀ l r c, P.command l r = some c → PcComm.IsSet c.id → ∃ h, H c (P.received l r) r = some h
  plain : ∀ l r c, P.command l r = some c → CmdId.Plain c →
    ∃ h, H c (P.received l r) r = some h ∧ h.Fills c.id 64
  adjust : ∀ rxbuff r, H .antennaAdjustParamQue rxbuff r = some antennaAdjustParamQue
  record : ∀ rxbuff r, RecordsAnswer r.acu.rest.others (recordIds r.acu.rest.others) →
    ∃ h, H .antennaRecordQue rxbuff r = some h ∧ h.Fills CmdId.antennaRecordQue.id 64
  giveUp : ∀ rxbuff r, ¬ RecordsAnswer r.acu.rest.others (recordIds r.acu.rest.others) →
    ∃ h, H .antennaRecordQue rxbuff r = some h ∧
      GivesUp (recordQueLoop r.acu.rest.others (recordIds r.acu.rest.others)).1 h
  log : ∀ l r c, P.command l r = some c → c = .warnLogQue ∨ c = .operationLogQue →
    (AnswerReady c (P.received l r) r.acu.rest.others 0 →
      ∃ h, H c (P.received l r) r = some h ∧ h.Fills c.id 64) ∧
    (¬ AnswerReady c (P.received l r) r.acu.rest.others 0 → H c (P.received l r) r = none)

/-- **A request is answered exactly if it is ready to be.** -/
theorem answered_iff {P : Protocol} {Q : Nat → Prop} [DecidablePred Q] {H : Handlers}
    (hP : DealsBy P Q H) (hH : Replying P H) (l : Link) (r : Request) :
    Answered P l r ↔ Ready P l r := by
  cases hc : P.command l r with
  | none => simp [Answered, Ready, hc]
  | some c =>
      set d := r.acu.rest.others with hd
      have hready : Ready P l r ↔ AnswerReady c (P.received l r) d l.tx.datalen := by
        simp only [Ready, hc, Option.some.injEq, forall_eq']
        exact Iff.rfl
      rw [hready]
      by_cases hset : PcComm.IsSet c.id
      · obtain ⟨h, hh⟩ := hH.set l r c hc hset
        simp only [answered_of_set hP hc hset hh, answerReady_of_set hset]
      by_cases hadjust : c = .antennaAdjustParamQue
      · subst hadjust
        have hnot := not_answered_of_untouched hP hc hset (hH.adjust _ r) rfl
          (fun i => Emit.stores_nil i)
        simp only [hnot, AnswerReady]
      by_cases hrecord : c = .antennaRecordQue
      · subst hrecord
        by_cases hall : RecordsAnswer d (recordIds d)
        · obtain ⟨h, hh, hfills⟩ := hH.record (P.received l r) r hall
          simp only [answered_of_fills hP hc hset hh hfills (by decide), AnswerReady, hall, true_or]
        · obtain ⟨h, hh, hup⟩ := hH.giveUp (P.received l r) r hall
          simp only [AnswerReady, hall, false_or]
          exact answered_record_iff hP hc hh hall hup
      by_cases hlog : c = .warnLogQue ∨ c = .operationLogQue
      · have hsame : AnswerReady c (P.received l r) d l.tx.datalen ↔
            AnswerReady c (P.received l r) d 0 := by
          rcases hlog with rfl | rfl <;> exact Iff.rfl
        rw [hsame]
        by_cases hfits : AnswerReady c (P.received l r) d 0
        · obtain ⟨h, hh, hfills⟩ := (hH.log l r c hc hlog).1 hfits
          simp only [answered_of_fills hP hc hset hh hfills (by decide), hfits]
        · have hnot := not_answered_of_none hP hc ((hH.log l r c hc hlog).2 hfits)
          simp only [hnot, hfits]
      · have hplain : CmdId.Plain c :=
          ⟨hset, hadjust, hrecord, fun h => hlog (Or.inl h), fun h => hlog (Or.inr h)⟩
        obtain ⟨h, hh, hfills⟩ := hH.plain l r c hc hplain
        simp only [answered_of_fills hP hc hset hh hfills (by decide), answerReady_of_plain hplain]

/-! ### The two protocols -/

theorem pcHandlers_of_query [SoftFloat] {c : CmdId} (hset : ¬ PcComm.IsSet c.id)
    (rxbuff : Nat → UInt8) (r : Request) : pcHandlers c rxbuff r = pcFuncDeal c rxbuff r :=
  if_neg fun href => hset (isSet_of_refused href)

theorem pcHandlers_of_set [SoftFloat] {c : CmdId} (hset : PcComm.IsSet c.id) (rxbuff : Nat → UInt8)
    (r : Request) : ∃ status, pcHandlers c rxbuff r = some (setHandled status) := by
  unfold pcHandlers
  split
  · exact ⟨.FAIL, rfl⟩
  · cases c <;> first | exact absurd hset (by decide) | exact ⟨_, rfl⟩

theorem pcAntennaRecordQue_complete {d : DevInfo} (hall : RecordsAnswer d (recordIds d)) :
    pcAntennaRecordQue d = ⟨.SUCC, Emit.burst (recordQueLoop d (recordIds d)).1.flatten,
      some (recordQueEnd 0x26)⟩ := if_pos (recordQueLoop_complete_iff.mpr hall)

theorem pcAntennaRecordQue_giveUp {d : DevInfo} (hfail : ¬ RecordsAnswer d (recordIds d)) :
    pcAntennaRecordQue d = ⟨.FAIL, [.store 0 (recordQueLoop d (recordIds d)).1.flatten], none⟩ :=
  if_neg fun h => hfail (recordQueLoop_complete_iff.mp h)

theorem oledAntennaRecordQue_complete {d : DevInfo} (hall : RecordsAnswer d (recordIds d)) :
    oledAntennaRecordQue d = ⟨.SUCC, Emit.bursts (recordQueLoop d (recordIds d)).1,
      some (recordQueEnd 0x22)⟩ := if_pos (recordQueLoop_complete_iff.mpr hall)

theorem oledAntennaRecordQue_giveUp {d : DevInfo} (hfail : ¬ RecordsAnswer d (recordIds d)) :
    oledAntennaRecordQue d = ⟨.FAIL, Emit.bursts (recordQueLoop d (recordIds d)).1, none⟩ :=
  if_neg fun h => hfail (recordQueLoop_complete_iff.mp h)

/-- A log query fills its reply if its walk fits, and does not return otherwise. -/
theorem fills_log_iff (c : CmdId) (cmd_id : Nat) (commStat : UInt8) (info : LogInfo)
    (flash : FlashChip) (n : Nat) :
    (QueFits commStat info flash n →
      ∃ h, (AppLog.logQue cmd_id commStat info flash n).map (logReply c) = some h ∧
        h.Fills c.id 64) ∧
    (¬ QueFits commStat info flash n →
      (AppLog.logQue cmd_id commStat info flash n).map (logReply c) = none) := by
  obtain ⟨hfits, hnot⟩ := @logQue_iff cmd_id commStat flash info n
  refine ⟨fun h => ?_, fun h => by rw [hnot h, Option.map_none]⟩
  obtain ⟨datagrams, hsome, -⟩ := hfits h
  have hfills : (logReply c datagrams).Fills c.id 32 := fills_replicate _ _ _ 32
  exact ⟨_, by rw [hsome, Option.map_some], hfills.mono (by decide)⟩

theorem replying_pc [SoftFloat] : Replying pcComm pcHandlers where
  set := fun l r c _ hset => by
    obtain ⟨status, hh⟩ := pcHandlers_of_set hset (pcComm.received l r) r
    exact ⟨_, hh⟩
  plain := fun l r c _ hplain => by
    rw [pcHandlers_of_query hplain.1]
    exact fills_pcFuncDeal hplain
  adjust := fun rxbuff r => pcHandlers_of_query (by decide) rxbuff r
  record := fun rxbuff r hall => by
    refine ⟨_, pcHandlers_of_query (by decide) rxbuff r, ?_⟩
    rw [pcAntennaRecordQue_complete hall]
    exact (fills_replicate _ _ _ 0x26).mono (by decide)
  giveUp := fun rxbuff r hfail => by
    refine ⟨_, pcHandlers_of_query (by decide) rxbuff r, ?_⟩
    rw [pcAntennaRecordQue_giveUp hfail]
    exact givesUp_pc _
  log := fun l r c _ hlog => by
    rcases hlog with rfl | rfl
    · rw [pcHandlers_of_query (by decide)]
      exact fills_log_iff _ _ _ _ _ _
    · rw [pcHandlers_of_query (by decide)]
      exact fills_log_iff _ _ _ _ _ _

theorem replying_oled [SoftFloat] : Replying oledComm oledHandlers where
  set := fun l r c _ _ => ⟨_, rfl⟩
  plain := fun l r c hc hplain => by
    have hmem := mem_of_oledFindCmd (deal_of_command hc).1
    by_cases hversion : c = .versionQue
    · subst hversion
      exact ⟨_, rfl, fills_versionQue _⟩
    · exact ⟨_, rfl, (fills_oledFuncDeal hplain hmem hversion).mono (by decide)⟩
  adjust := fun _ _ => rfl
  record := fun rxbuff r hall => by
    refine ⟨_, rfl, ?_⟩
    show (oledAntennaRecordQue _).Fills _ _
    rw [oledAntennaRecordQue_complete hall]
    exact (fills_replicate _ _ _ 0x22).mono (by decide)
  giveUp := fun rxbuff r hfail => by
    refine ⟨_, rfl, ?_⟩
    show GivesUp _ (oledAntennaRecordQue _)
    rw [oledAntennaRecordQue_giveUp hfail]
    exact givesUp_oled _
  log := fun l r c hc hlog => by
    have hmem := mem_of_oledFindCmd (deal_of_command hc).1
    rcases hlog with rfl | rfl <;> exact absurd hmem (by decide)

/-! ### Runs -/

/-- The property of a request at a state; behind an access outside a buffer nothing is asked. -/
def AtState (A : Link → Request → Prop) (s : Option Link) (r : Request) : Prop :=
  ∀ l, s = some l → A l r

/--
**Every reply answers its request**, in exactly those runs in which every request is ready
to be answered, from start-up on and whatever state the device is in at each request.
-/
theorem allAnswered_iff [SoftFloat] (rs : List Request) :
    (Runs.AllSteps pcComm.step (AtState (Answered pcComm)) (some Link.init) rs ↔
      Runs.AllSteps pcComm.step (AtState (Ready pcComm)) (some Link.init) rs) ∧
    (Runs.AllSteps oledComm.step (AtState (Answered oledComm)) (some Link.init) rs ↔
      Runs.AllSteps oledComm.step (AtState (Ready oledComm)) (some Link.init) rs) := by
  have hstep {P : Protocol} (h : ∀ l r, Answered P l r ↔ Ready P l r) (s : Option Link)
      (r : Request) : AtState (Answered P) s r ↔ AtState (Ready P) s r :=
    forall₂_congr fun l _ => h l r
  have hpc := hstep (answered_iff dealsBy_pc replying_pc)
  have holed := hstep (answered_iff dealsBy_oled replying_oled)
  exact ⟨⟨.imp fun s r => (hpc s r).mp, .imp fun s r => (hpc s r).mpr⟩,
    ⟨.imp fun s r => (holed s r).mp, .imp fun s r => (holed s r).mpr⟩⟩

section
attribute [local instance] SoftFloat.single

/-- A device with erased memories, all zero besides, under its own control. -/
def benchAcu : Acu DevInfo where
  devAdmin := ⟨0, 0, 0, 0, 0, 0, 0, 0⟩
  pcCommStat := ⟨0, 0⟩
  rest :=
    { seekSatMode := 0
      devWorkSta := 0
      antennaPositionSta := 0
      antennaCabrageSta := 0
      antennaPolarSta := 0
      pduCommStat := 0
      pduLinkStat := 0
      gpsValid := 0
      satTotalNum := 0
      recordsReadable := true
      optLog := []
      others :=
        { device := paramInit fun _ => 0xFF
          board := AppLog.bootBoard
          localPosition := ⟨0, 0, 0, 0, 0, 0, 0⟩
          sysDateTime := ⟨0, 0, 0, 0, 0, 0⟩
          srcFlag := 0
          aim := ⟨0, 0, 0⟩
          softLimit := ⟨⟨0, 0, 0⟩, ⟨0, 0, 0⟩⟩
          netWork := ⟨0, 0, 0⟩
          currSta := ⟨⟨0, 0, 0⟩, 0, 0, 0, 0, 0, fun _ => 0, fun _ => 0, fun _ => 0⟩
          aimAtSatLimitMv := 0
          acuVersion := ⟨Vector.replicate 16 0, Vector.replicate 16 0⟩
          pduVersion := ⟨Vector.replicate 16 0, Vector.replicate 16 0⟩
          answers := fun _ => true
          pduAnswer := none } }

/-- The query of the adjustment parameters, from the PC. -/
def adjustQue : Request := ⟨[0xBC, 3, 0x08, 0x04, 0, 0xCB, 0xCB], benchAcu, .SUCC⟩

/-- It is not answered. -/
theorem adjustQue_not_answered :
    ¬ ∀ rs, Runs.AllSteps pcComm.step (AtState (Answered pcComm)) (some Link.init) rs := by
  intro hall
  have hans : Answered pcComm Link.init adjustQue := (hall [adjustQue]).1 Link.init rfl
  have hcommand : pcComm.command Link.init adjustQue = some .antennaAdjustParamQue := by
    decide +kernel
  exact (answered_iff dealsBy_pc replying_pc _ _).mp hans _ hcommand

end

end SwiftAcu.Reply
