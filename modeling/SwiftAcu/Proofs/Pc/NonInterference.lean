/-
What earlier datagrams have left, and who reads it.

A datagram is free of interference if its outcome does not depend on what the static
buffers hold when it arrives, whatever the handlers do with the bytes they have read.
That is so if its payload carries the command id and reaches as far as the handler of
the command reads, and the handler neither looks at `AntennaDir` nor leaves its reply
as it was; and only if it is.
-/
import SwiftAcu.Proofs.Pc.Outcome
import SwiftAcu.Acu.AdminRun

namespace SwiftAcu.PcComm

open Admin

/-! ### The datagrams that carry what is read -/

/-- The payload, followed by zeros. -/
def payload (data : List UInt8) : Nat → UInt8 := fun i => data.getD i 0

section
variable {ρ : Type}

/-- The bytes of the payload that `APP_PCCOMM_PCAdminSet` reads; the switch only in four states. -/
def adminExtent (d : DevAdmin) (rx : Nat → UInt8) : Nat :=
  if rx 2 ≠ 1 then 3
  else if d.devAdminSta = 0x02 ∨ d.devAdminSta = 0x01 ∨ d.devAdminSta = 0x00 ∨
    d.devAdminSta = 0x11 then 4
  else 3

/-- The payload holds all that the handler of `c` reads, and the answer is its own. -/
def Suffices (a : Acu ρ) (data : List UInt8) (c : CmdId) : Prop :=
  if c = .pcHighAdmin then adminExtent a.devAdmin (payload data) ≤ data.length
  else extent a.rest (payload data) c ≤ data.length ∧ ¬ComparesDir (payload data) c ∧
    (IsQuery c.id → FillsReply c a.rest)

/--
The payload carries all that is read.  A payload of one byte does only if no command
begins with that byte, nor is any refused that does; an empty one never.
-/
def SelfContained (a : Acu ρ) : List UInt8 → Prop
  | [] => False
  | [hi] => ∀ lo, ¬Refused (cmdIdOf (payload [hi, lo])) a ∧
      findCmd (cmdIdOf (payload [hi, lo])) = none
  | hi :: lo :: args => Refused (cmdIdOf (payload (hi :: lo :: args))) a ∨
      ∀ c, findCmd (cmdIdOf (payload (hi :: lo :: args))) = some c →
        Suffices a (hi :: lo :: args) c

/-- A datagram that is rejected, or carries all that is read. -/
def Covered (a : Acu ρ) (p : List UInt8) : Prop :=
  ∀ data, rxBuffRecv p = some data → SelfContained a data

/-- The outcome does not depend on what earlier datagrams have left in the static buffers. -/
def NonInterfering (a : Acu ρ) (p : List UInt8) : Prop :=
  ∀ (h : PcHandlers ρ) (b b' : Buffers), outcome h a b p = outcome h a b' p

/-! ### A datagram that carries all is free of interference -/

section
variable {h : PcHandlers ρ} {a : Acu ρ} {b b' : Buffers} {p data : List UInt8} {c : CmdId}

theorem recv_rxBuff {i : Nat} (hi : i < data.length) :
    (b.recv data).rxBuff i = payload data i := overlay_front hi

theorem cmdIdOf_recv (hlen : 2 ≤ data.length) :
    cmdIdOf (b.recv data).rxBuff = cmdIdOf (payload data) := by
  rw [cmdIdOf, cmdIdOf, recv_rxBuff (by omega), recv_rxBuff (by omega)]

theorem recv_cells (cell : Cell) (hcell : Received data.length cell) :
    (b.recv data).cells cell = (b'.recv data).cells cell := by
  cases cell with
  | rx i => exact (recv_rxBuff hcell).trans (recv_rxBuff hcell).symm
  | antennaDir high => exact absurd hcell (received_antennaDir high)

/-- The cells when nothing but the payload is known. -/
def payloadCells (data : List UInt8) : Cell → UInt8
  | .rx i => payload data i
  | .antennaDir _ => 0

/-- What the extent says of the payload, it says of the buffer. -/
theorem handler_within_recv (hlen : 2 ≤ data.length) (s : AcuRest ρ) (c : CmdId) :
    (handler s c).Within (Received data.length) (b.recv data).cells ↔
      extent s (payload data) c ≤ data.length ∧ ¬ComparesDir (payload data) c := by
  have heq : ∀ cell, Received data.length cell →
      (b.recv data).cells cell = payloadCells data cell := by
    intro cell hcell
    cases cell with
    | rx i => exact recv_rxBuff hcell
    | antennaDir high => exact absurd hcell (received_antennaDir high)
  have hpayload : (handler s c).Within (Received data.length) (payloadCells data) ↔
      extent s (payload data) c ≤ data.length ∧ ¬ComparesDir (payload data) c :=
    handler_within_iff s hlen c
  rw [← hpayload]
  constructor
  · intro hwithin
    exact hwithin.congr fun cell hcell => (heq cell hcell).symm
  · intro hwithin
    exact hwithin.congr heq

/-- The switch of `APP_PCCOMM_PCAdminSet` is only looked at in four states. -/
theorem pcAdminSwitch_default {dst : Nat} {d : DevAdmin} (x y : UInt8)
    (hsta : ¬(d.devAdminSta = 0x02 ∨ d.devAdminSta = 0x01 ∨ d.devAdminSta = 0x00 ∨
      d.devAdminSta = 0x11)) :
    pcAdminSwitch dst x d = pcAdminSwitch dst y d := by
  obtain ⟨h2, h1, h0, h11⟩ : d.devAdminSta ≠ 0x02 ∧ d.devAdminSta ≠ 0x01 ∧ d.devAdminSta ≠ 0x00 ∧
      d.devAdminSta ≠ 0x11 := by simpa using hsta
  simp [pcAdminSwitch, h2, h1, h0, h11]

theorem pcAdminSet_recv (hlen : 2 ≤ data.length)
    (hext : adminExtent a.devAdmin (payload data) ≤ data.length) :
    pcAdminSet (b.recv data).rxBuff a = pcAdminSet (b'.recv data).rxBuff a := by
  have hlen3 : 2 < data.length := by
    unfold adminExtent at hext
    grind
  unfold pcAdminSet
  rw [cmdIdOf_recv hlen, cmdIdOf_recv hlen, recv_rxBuff hlen3, recv_rxBuff hlen3]
  by_cases hone : payload data 2 = 1
  · by_cases hsta : a.devAdmin.devAdminSta = 0x02 ∨ a.devAdmin.devAdminSta = 0x01 ∨
      a.devAdmin.devAdminSta = 0x00 ∨ a.devAdmin.devAdminSta = 0x11
    · have hlen4 : 3 < data.length := by
        have hfour : 4 ≤ data.length := by simpa [adminExtent, hone, hsta] using hext
        exact hfour
      rw [recv_rxBuff hlen4, recv_rxBuff hlen4]
    · rw [pcAdminSwitch_default _ ((b'.recv data).rxBuff 3) hsta]
  · simp [hone]

/-- **What carries all that is read is free of interference.** -/
theorem outcome_of_suffices (hdata : rxBuffRecv p = some data) (hlen : 2 ≤ data.length)
    (href : ¬Refused (cmdIdOf (payload data)) a)
    (hfind : findCmd (cmdIdOf (payload data)) = some c) (hsuff : Suffices a data c) :
    outcome h a b p = outcome h a b' p := by
  have hid : ∀ b : Buffers, cmdIdOf (b.recv data).rxBuff = cmdIdOf (payload data) :=
    fun b => cmdIdOf_recv hlen
  unfold Suffices at hsuff
  by_cases hc : c = .pcHighAdmin
  · subst hc
    rw [if_pos rfl] at hsuff
    rw [outcome_admin hdata (by rwa [hid]) (by rwa [hid]),
      outcome_admin hdata (by rwa [hid]) (by rwa [hid]),
      pcAdminSet_recv (a := setMcuBusy 1 a) hlen hsuff]
  · rw [if_neg hc] at hsuff
    obtain ⟨hext, hdir, hfills⟩ := hsuff
    have hwithin := (handler_within_recv (b := b') hlen a.rest c).mpr ⟨hext, hdir⟩
    have hvalues := hwithin.values_eq fun cell hcell => recv_cells (b := b) cell hcell
    rcases class_of_cmdId c with hset | ⟨hset, hquery⟩
    · rw [outcome_set hdata (by rwa [hid]) (by rwa [hid]) hc hset,
        outcome_set hdata (by rwa [hid]) (by rwa [hid]) hc hset, hvalues]
    · have hsome := (h.fills c ((handler a.rest c).values (b'.recv data).cells) (setMcuBusy 1 a)
        hquery).mpr (hfills hquery)
      obtain ⟨reply, hreply⟩ := Option.isSome_iff_exists.mp hsome
      rw [outcome_query hdata (by rwa [hid]) (by rwa [hid]) hc hset hquery (hvalues ▸ hreply),
        outcome_query hdata (by rwa [hid]) (by rwa [hid]) hc hset hquery hreply, hvalues]

/-- **A covered datagram is free of interference.** -/
theorem nonInterfering_of_covered (hcov : Covered a p) : NonInterfering a p := by
  intro h b b'
  obtain hbad | ⟨data, hdata⟩ := Option.eq_none_or_eq_some (rxBuffRecv p)
  · rw [outcome_bad hbad, outcome_bad hbad]
  · have hself := hcov data hdata
    rcases data with _ | ⟨hi, _ | ⟨lo, args⟩⟩
    · exact absurd hself id
    · -- Whatever the second byte of the id is, the command is unknown.
      rw [outcome_unknown hdata (hself (b.rxBuff 1)).1 (hself (b.rxBuff 1)).2,
        outcome_unknown hdata (hself (b'.rxBuff 1)).1 (hself (b'.rxBuff 1)).2]
    · have hid : ∀ b : Buffers, cmdIdOf (b.recv (hi :: lo :: args)).rxBuff =
          cmdIdOf (payload (hi :: lo :: args)) := fun b => cmdIdOf_recv (by simp)
      by_cases href : Refused (cmdIdOf (payload (hi :: lo :: args))) a
      · rw [outcome_refused hdata (by rwa [hid]), outcome_refused hdata (by rwa [hid]), hid, hid]
      · obtain hfind | ⟨c, hfind⟩ :=
          Option.eq_none_or_eq_some (findCmd (cmdIdOf (payload (hi :: lo :: args))))
        · rw [outcome_unknown hdata (by rwa [hid]) (by rwa [hid]),
            outcome_unknown hdata (by rwa [hid]) (by rwa [hid])]
        · exact outcome_of_suffices hdata (by simp) href hfind
            (hself.resolve_left href c hfind)

/-! ### A datagram that does not is not -/

/-- The two bytes of a halfword. -/
theorem halves_of_bytes (hi lo : UInt8) :
    (UInt16.ofNat (hi.toNat * 256 + lo.toNat) >>> 8).toUInt8 = hi ∧
      (UInt16.ofNat (hi.toNat * 256 + lo.toNat)).toUInt8 = lo := by
  have hhi := hi.toNat_lt
  have hlo := lo.toNat_lt
  constructor
  · rw [← UInt8.toNat_inj]
    simp [Nat.shiftRight_eq_div_pow]
    omega
  · rw [← UInt8.toNat_inj]
    simp

/-- Buffers that hold what one likes. -/
theorem exists_buffers (m : Cell → UInt8) : ∃ b : Buffers, b.cells = m := by
  refine ⟨{ rxBuff := fun i => m (.rx i)
            txBuff := fun _ => 0
            txDatalen := 0
            antennaDir :=
              UInt16.ofNat ((m (.antennaDir true)).toNat * 256 + (m (.antennaDir false)).toNat)
            sent := [] }, ?_⟩
  funext cell
  cases cell with
  | rx i => rfl
  | antennaDir high =>
      cases high with
      | true => exact (halves_of_bytes _ _).1
      | false => exact (halves_of_bytes _ _).2

/-- Handlers that send what they have read. -/
def exposing : PcHandlers ρ where
  deal := fun c args a =>
    { status := .SUCC
      rest := a.rest
      sends := [args]
      scratch := []
      reply := if FillsReply c a.rest then some [] else none
      antennaDir := none }
  fills := by
    intro c args a hquery
    dsimp only
    split <;> simp [*]

section
variable (hdata : rxBuffRecv p = some data) (href : ¬Refused (cmdIdOf (b.recv data).rxBuff) a)
  (hfind : findCmd (cmdIdOf (b.recv data).rxBuff) = some c)

include hdata href hfind

/-- A handler that sends what it has read shows it. -/
theorem outcome_exposing (hc : c ≠ .pcHighAdmin) :
    ∃ fs, (outcome exposing a b p).2.2 =
      (handler a.rest c).values (b.recv data).cells :: fs := by
  rcases class_of_cmdId c with hset | ⟨hset, hquery⟩
  · rw [outcome_set hdata href hfind hc hset]
    exact ⟨_, rfl⟩
  · obtain hreply | ⟨reply, hreply⟩ := Option.eq_none_or_eq_some
      ((exposing : PcHandlers ρ).deal c ((handler a.rest c).values (b.recv data).cells)
        (setMcuBusy 1 a)).reply
    · obtain ⟨f, -, hsent⟩ := outcome_unfilled hdata href hfind hc hset hquery hreply
      exact ⟨[f], hsent⟩
    · rw [outcome_query hdata href hfind hc hset hquery hreply]
      exact ⟨_, rfl⟩

/-- A known command is answered. -/
theorem outcome_known_answers : (outcome exposing a b p).2.2 ≠ [] := by
  by_cases hc : c = .pcHighAdmin
  · subst hc
    rw [outcome_admin hdata href hfind]
    simp
  · obtain ⟨fs, hsent⟩ := outcome_exposing hdata href hfind hc
    simp [hsent]

end

/-- Buffers that make the command `hi lo` of what is received of it. -/
def bufferOf (rx : Nat → UInt8) : Buffers :=
  { rxBuff := rx, txBuff := fun _ => 0, txDatalen := 0, antennaDir := 0, sent := [] }

/-- **An empty payload repeats the command before it.** -/
theorem interferes_empty (hdata : rxBuffRecv p = some []) : ¬NonInterfering a p := by
  intro hfree
  have hunknown : outcome exposing a (bufferOf fun _ => 0) p = (.FAIL, setMcuBusy 0 a, []) :=
    outcome_unknown hdata (fun href => absurd href.1 (by decide)) (by decide)
  have hanswers : (outcome exposing a (bufferOf fun i => [0x0A, 0x01].getD i 0) p).2.2 ≠ [] :=
    outcome_known_answers (c := .versionQue) hdata (fun href => absurd href.1 (by decide))
      (by decide)
  rw [hfree exposing (bufferOf fun i => [0x0A, 0x01].getD i 0) (bufferOf fun _ => 0),
    hunknown] at hanswers
  exact hanswers rfl

/-- The class of a command is in its first byte. -/
theorem and_0F00_cmdId (hi lo : UInt8) :
    ((hi.toNat <<< 8) + lo.toNat) &&& 0x0F00 = (hi.toNat <<< 8) &&& 0x0F00 := by
  have hlow : ∀ b < 256, b &&& 0x0F00 = 0 := by decide +kernel
  rw [Nat.shiftLeft_add_eq_or_of_lt lo.toNat_lt, Nat.and_or_distrib_right, hlow _ lo.toNat_lt,
    Nat.or_zero]

/-- The second byte of a command is in its answer. -/
theorem getD_answerId (hi lo : UInt8) :
    (answerId ((hi.toNat <<< 8) + lo.toNat)).getD 1 0 = lo := by
  have hlo := lo.toNat_lt
  have hmask := Nat.and_two_pow_sub_one_eq_mod (((hi.toNat <<< 8) + lo.toNat) ||| 0x8000) 8
  have hbyte : (((hi.toNat <<< 8) + lo.toNat) ||| 0x8000) % 2 ^ 8 = lo.toNat := by
    rw [Nat.or_mod_two_pow, Nat.shiftLeft_eq]
    have hmod : (hi.toNat * 2 ^ 8 + lo.toNat) % 2 ^ 8 = lo.toNat := by omega
    rw [hmod]
    exact Nat.or_zero _
  have hlow : (((hi.toNat <<< 8) + lo.toNat) ||| 0x8000) &&& 0x00FF = lo.toNat := hmask.trans hbyte
  simp [answerId, hlow]

/-- No command ends in 0xFF. -/
theorem findCmd_ff (hi : UInt8) : findCmd ((hi.toNat <<< 8) + 0xFF) = none := by
  have hids : ∀ c ∈ pccommCmdDealTbl, c.id % 256 ≠ 255 := by decide
  rw [findCmd, List.find?_eq_none]
  intro c hc
  have hid := hids c hc
  simp only [decide_eq_true_eq, Nat.shiftLeft_eq]
  omega

theorem refused_of_refused {hi lo lo' : UInt8} (hne : lo' ≠ 0x1A)
    (href : Refused ((hi.toNat <<< 8) + lo.toNat) a) :
    Refused ((hi.toNat <<< 8) + lo'.toNat) a := by
  obtain ⟨hclass, -, hauth⟩ := href
  rw [and_0F00_cmdId] at hclass
  refine ⟨by rwa [and_0F00_cmdId], fun hid => hne ?_, hauth⟩
  have hlo := congrArg (fun id => (answerId id).getD 1 0) hid
  simp only [getD_answerId] at hlo
  exact hlo

/-- **One byte of payload repeats half of the command before it.** -/
theorem interferes_one {hi : UInt8} (hdata : rxBuffRecv p = some [hi])
    (hself : ¬SelfContained a [hi]) : ¬NonInterfering a p := by
  intro hfree
  have hid : ∀ lo : UInt8, cmdIdOf ((bufferOf fun _ => lo).recv [hi]).rxBuff =
      (hi.toNat <<< 8) + lo.toNat := fun lo => rfl
  by_cases hany : ∃ lo : UInt8, Refused ((hi.toNat <<< 8) + lo.toNat) a
  · -- Two commands of the same class are refused, each by its own id.
    obtain ⟨lo, href⟩ := hany
    obtain ⟨lo', hlo', hne⟩ : ∃ lo' : UInt8, lo' ≠ 0x1A ∧ lo ≠ lo' := by
      by_cases hzero : lo = 0
      · exact ⟨1, by decide, by rw [hzero]; decide⟩
      · exact ⟨0, by decide, hzero⟩
    have hout := hfree exposing (bufferOf fun _ => lo) (bufferOf fun _ => lo')
    rw [outcome_refused hdata (by rwa [hid]),
      outcome_refused hdata (by rw [hid]; exact refused_of_refused hlo' href), hid, hid] at hout
    have hframe := congrArg (fun r => (r.2.2.headD []).getD 3 0) hout
    have hbyte : (answerId ((hi.toNat <<< 8) + lo.toNat)).getD 1 0 =
        (answerId ((hi.toNat <<< 8) + lo'.toNat)).getD 1 0 := hframe
    rw [getD_answerId, getD_answerId] at hbyte
    exact hne hbyte
  · -- One command is known, and the one that ends in 0xFF is not.
    have hnone : ∀ lo : UInt8, ¬Refused ((hi.toNat <<< 8) + lo.toNat) a :=
      fun lo href => hany ⟨lo, href⟩
    obtain ⟨lo, hknown⟩ : ∃ lo : UInt8, findCmd ((hi.toNat <<< 8) + lo.toNat) ≠ none := by
      by_contra hall
      exact hself fun lo => ⟨hnone lo, by_contra fun hknown => hall ⟨lo, hknown⟩⟩
    obtain ⟨c, hfind⟩ := Option.ne_none_iff_exists'.mp hknown
    have hanswers : (outcome exposing a (bufferOf fun _ => lo) p).2.2 ≠ [] :=
      outcome_known_answers hdata (hnone lo) hfind
    have hunknown : outcome exposing a (bufferOf fun _ => 0xFF) p = (.FAIL, setMcuBusy 0 a, []) :=
      outcome_unknown hdata (hnone 0xFF) (findCmd_ff hi)
    rw [hfree exposing _ (bufferOf fun _ => 0xFF), hunknown] at hanswers
    exact hanswers rfl

/-! ### Handlers that read on -/

section
variable (hdata : rxBuffRecv p = some data) (hlen : 2 ≤ data.length)
  (href : ¬Refused (cmdIdOf (payload data)) a)

include hdata hlen href

/-- **A handler that reads behind the payload shows what it finds there.** -/
theorem interferes_handler (hfind : findCmd (cmdIdOf (payload data)) = some c)
    (hc : c ≠ .pcHighAdmin)
    (hext : ¬(extent a.rest (payload data) c ≤ data.length ∧ ¬ComparesDir (payload data) c)) :
    ¬NonInterfering a p := by
  intro hfree
  have hid : ∀ b : Buffers, cmdIdOf (b.recv data).rxBuff = cmdIdOf (payload data) :=
    fun b => cmdIdOf_recv hlen
  have hout := (handler_within_recv (b := bufferOf fun _ => 0) hlen a.rest c).not.mpr hext
  have hbytes : Nontrivial UInt8 := ⟨0, 1, by decide⟩
  obtain ⟨m, heq, hne⟩ := Reads.exists_values_ne hout
  obtain ⟨b, rfl⟩ := exists_buffers m
  have hcells : (b.recv data).cells = b.cells := by
    funext cell
    by_cases hcell : Received data.length cell
    · exact (recv_cells cell hcell).trans (heq cell hcell).symm
    · cases cell with
      | rx i => exact if_neg fun hi => hcell (by simpa using hi.2)
      | antennaDir high => rfl
  obtain ⟨fs, hsent⟩ := outcome_exposing (b := b) hdata (by rwa [hid]) (by rwa [hid]) hc
  obtain ⟨fs', hsent'⟩ :=
    outcome_exposing (b := bufferOf fun _ => 0) hdata (by rwa [hid]) (by rwa [hid]) hc
  rw [hfree exposing b (bufferOf fun _ => 0), hsent', hcells] at hsent
  exact hne (List.cons.inj hsent).1.symm

/-- **A query that leaves its reply answers with the one before.** -/
theorem interferes_unfilled (hfind : findCmd (cmdIdOf (payload data)) = some c)
    (hquery : IsQuery c.id) (hfills : ¬FillsReply c a.rest) : ¬NonInterfering a p := by
  intro hfree
  have hid : ∀ b : Buffers, cmdIdOf (b.recv data).rxBuff = cmdIdOf (payload data) :=
    fun b => cmdIdOf_recv hlen
  have hc : c ≠ .pcHighAdmin := by
    rintro rfl
    exact absurd hquery (by decide)
  have hset : ¬IsSet c.id := by
    revert hquery
    cases c <;> decide
  have hreply : ∀ args, ((default : PcHandlers ρ).deal c args (setMcuBusy 1 a)).reply = none := by
    intro args
    exact if_neg hfills
  let b : Buffers := { bufferOf (fun _ => 0) with txDatalen := 1 }
  obtain ⟨f, hf, hsent⟩ := outcome_unfilled (h := default) (b := bufferOf fun _ => 0) hdata
    (by rwa [hid]) (by rwa [hid]) hc hset hquery (hreply _)
  obtain ⟨f', hf', hsent'⟩ := outcome_unfilled (h := default) (b := b) hdata
    (by rwa [hid]) (by rwa [hid]) hc hset hquery (hreply _)
  rw [hfree default _ b, hsent'] at hsent
  have hframe : [f'] = [f] := hsent
  rw [← (List.cons.inj hframe).1, hf'] at hf
  exact absurd hf (by decide)

omit hdata hlen href in
/-- Without a switch, nothing goes wrong. -/
theorem pcAdminSwitch_zero (dst : Nat) (d : DevAdmin) : (pcAdminSwitch dst 0 d).1 = .SUCC := by
  unfold pcAdminSwitch
  simp
  grind

omit hdata hlen href in
/-- Where the switch is looked at, it makes a difference. -/
theorem pcAdminSwitch_ne {dst : Nat} {d : DevAdmin}
    (hsta : d.devAdminSta = 0x02 ∨ d.devAdminSta = 0x01 ∨ d.devAdminSta = 0x00 ∨
      d.devAdminSta = 0x11) :
    (pcAdminSwitch dst 0 d).1 ≠ (pcAdminSwitch dst 1 d).1 ∨
      (pcAdminSwitch dst 0 d).2.1.devAdminSta ≠ (pcAdminSwitch dst 1 d).2.1.devAdminSta := by
  unfold pcAdminSwitch
  rcases hsta with hsta | hsta | hsta | hsta
  · simp [hsta]
  · by_cases hip : dst = d.pcAdminIpAddr
    · simp [hsta, hip]
    · simp [hsta, hip]
  · by_cases hask : d.pcAdminAskIpAddr = 0
    · simp [hsta, hask]
    · simp [hsta, hask]
  · by_cases hask : dst = d.pcAdminAskIpAddr
    · simp [hsta, hask]
    · simp [hsta, hask]

/-- **`PCHighAdminID` without its switch does what the switch before it said.** -/
theorem interferes_admin (hfind : findCmd (cmdIdOf (payload data)) = some .pcHighAdmin)
    (hext : data.length < adminExtent a.devAdmin (payload data)) : ¬NonInterfering a p := by
  intro hfree
  have hid : ∀ b : Buffers, cmdIdOf (b.recv data).rxBuff = cmdIdOf (payload data) :=
    fun b => cmdIdOf_recv hlen
  have hadmin : cmdIdOf (payload data) = pcHighAdminID := (id_of_findCmd hfind).symm
  have hout : ∀ b b' : Buffers,
      (pcAdminSet (b.recv data).rxBuff (setMcuBusy 1 a)).1 =
          (pcAdminSet (b'.recv data).rxBuff (setMcuBusy 1 a)).1 ∧
        (pcAdminSet (b.recv data).rxBuff (setMcuBusy 1 a)).2.devAdmin =
          (pcAdminSet (b'.recv data).rxBuff (setMcuBusy 1 a)).2.devAdmin := by
    intro b b'
    have hsame := hfree exposing b b'
    rw [outcome_admin hdata (by rwa [hid]) (by rwa [hid]),
      outcome_admin hdata (by rwa [hid]) (by rwa [hid])] at hsame
    exact ⟨congrArg (fun r => r.1) hsame, congrArg (fun r => r.2.1.devAdmin) hsame⟩
  have hbehind : ∀ (b : Buffers) (i : Nat), data.length ≤ i →
      (b.recv data).rxBuff i = b.rxBuff i := by
    intro b i hi
    exact if_neg fun hin => absurd hin.2 (by omega)
  by_cases hthree : 2 < data.length
  · -- The payload ends in front of the switch, which is looked at.
    obtain ⟨hone, hsta, hfour⟩ : payload data 2 = 1 ∧
        (a.devAdmin.devAdminSta = 0x02 ∨ a.devAdmin.devAdminSta = 0x01 ∨
          a.devAdmin.devAdminSta = 0x00 ∨ a.devAdmin.devAdminSta = 0x11) ∧ data.length ≤ 3 := by
      unfold adminExtent at hext
      grind
    have hswitch := hout (bufferOf fun _ => 0) (bufferOf fun _ => 1)
    simp only [pcAdminSet, cmdIdOf_recv hlen, hadmin, recv_rxBuff hthree, hone,
      hbehind _ 3 hfour] at hswitch
    rcases @pcAdminSwitch_ne a.pcCommStat.dstIpAddr _ hsta with hne | hne
    · exact hne hswitch.1
    · exact hne (congrArg DevAdmin.devAdminSta hswitch.2)
  · -- The payload ends in front of the inner length.
    have hswitch := (hout (bufferOf fun _ => 0) (bufferOf fun i => if i = 2 then 1 else 0)).1
    simp only [pcAdminSet, cmdIdOf_recv hlen, hadmin, hbehind _ 2 (not_lt.mp hthree),
      hbehind _ 3 (by omega)] at hswitch
    have hsucc := pcAdminSwitch_zero a.pcCommStat.dstIpAddr a.devAdmin
    have hfail : Ret.FAIL = Ret.SUCC := hswitch.trans hsucc
    cases hfail

end

/-- **A datagram that is not covered is not free of interference.** -/
theorem covered_of_nonInterfering (hfree : NonInterfering a p) : Covered a p := by
  intro data hdata
  by_contra hself
  rcases data with _ | ⟨hi, _ | ⟨lo, args⟩⟩
  · exact interferes_empty hdata hfree
  · exact interferes_one hdata hself hfree
  · obtain ⟨href, hsuff⟩ := not_or.mp hself
    simp only [not_forall] at hsuff
    obtain ⟨c, hfind, hsuff⟩ := hsuff
    have hlen : 2 ≤ (hi :: lo :: args).length := by simp
    unfold Suffices at hsuff
    by_cases hc : c = .pcHighAdmin
    · subst hc
      rw [if_pos rfl] at hsuff
      exact interferes_admin hdata hlen href hfind (not_le.mp hsuff) hfree
    · rw [if_neg hc] at hsuff
      by_cases hext : extent a.rest (payload (hi :: lo :: args)) c ≤ (hi :: lo :: args).length ∧
          ¬ComparesDir (payload (hi :: lo :: args)) c
      · have hfills : ¬(IsQuery c.id → FillsReply c a.rest) := fun hfills =>
          hsuff ⟨hext.1, hext.2, hfills⟩
        obtain ⟨hquery, hfills⟩ := Classical.not_imp.mp hfills
        exact interferes_unfilled hdata hlen href hfind hquery hfills hfree
      · exact interferes_handler hdata hlen href hfind hc hext hfree

end

end

/--
**A datagram is free of interference exactly if its payload carries all that is read**
of it, for every device and every datagram.
-/
theorem nonInterfering_iff {ρ : Type} (a : Acu ρ) (p : List UInt8) :
    NonInterfering a p ↔ Covered a p :=
  ⟨covered_of_nonInterfering, nonInterfering_of_covered⟩

/-! ### A datagram that is not free of interference -/

/-- `LOG_OPT_SET_FOLLOW_STATR_MIN_LIMIT_PARAM`. -/
abbrev logOptSetFollowStatrMinLimitParam : Nat := 0x021501

/--
`APP_PCCOMM_AimAtSatParamSet` on a device whose other data is `AimAtSat_Limit_mv`; the
other handlers do nothing but fill their replies.
-/
def aimHandlers : PcHandlers Nat where
  deal := fun c args a =>
    { status := .SUCC
      rest :=
        if c = .aimAtSatParamSet then
          saveCodes [logOptSetFollowStatrMinLimitParam]
            { a.rest with
              others := ofBe32 (args.getD 0 0) (args.getD 1 0) (args.getD 2 0) (args.getD 3 0) }
        else a.rest
      sends := []
      scratch := []
      reply := if FillsReply c a.rest then some [] else none
      antennaDir := none }
  fills := by
    intro c args a hquery
    have hc : c ≠ .aimAtSatParamSet := by
      rintro rfl
      exact absurd hquery (by decide)
    dsimp only
    split <;> simp [*]

/-- A device under the control of PC 7. -/
def controlledSys : Sys Nat where
  acu :=
    { devAdmin := ⟨1, 1, 0, 0, 0, 7, 0, 0⟩
      pcCommStat := ⟨0, 7⟩
      rest := ⟨0, 0, 0, 0, 0, 0, 0, 0, 0, true, [], 3000⟩ }
  buffers := bufferOf fun _ => 0
  timer := ⟨0, 0, 0⟩

/-- PC 7 sends an unknown command with four bytes behind the inner length. -/
def longHistory : List Event := [.datagram 7 (frame [0x00, 0x00, 0x04, 0x00, 0x00, 0x13, 0x88])]

/-- PC 7 sends the same unknown command without. -/
def shortHistory : List Event := [.datagram 7 (frame [0x00, 0x00])]

/--
Two histories that leave the same device.  `AimAtSatParamSetID` with an inner length
of 4 and nothing behind it then sets the limit to what the first of them has left.
-/
theorem aimAtSatParamSet_interferes :
    (Runs.run (step aimHandlers) controlledSys longHistory).acu =
        (Runs.run (step aimHandlers) controlledSys shortHistory).acu ∧
      outcome aimHandlers
          (udpRecv 7 (Runs.run (step aimHandlers) controlledSys longHistory).acu)
          (Runs.run (step aimHandlers) controlledSys longHistory).buffers
          (frame [0x01, 0x0A, 0x04]) ≠
        outcome aimHandlers
          (udpRecv 7 (Runs.run (step aimHandlers) controlledSys shortHistory).acu)
          (Runs.run (step aimHandlers) controlledSys shortHistory).buffers
          (frame [0x01, 0x0A, 0x04]) := by
  constructor
  · decide +kernel
  · decide +kernel

end SwiftAcu.PcComm
