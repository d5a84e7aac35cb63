/-
What an encoder's port delivers, whatever bytes come between the actions of the task.

Between the command that goes out and the copy of the buffer the port is a window: the buffer
holds the bytes that came since, and the semaphore has been posted once for each of them from
the last byte of a frame on.  A post that nobody waited for stays: the next task that asks
finds the semaphore up, looks at the buffer too early, and fails.  So a reading that starts
with the semaphore down is accepted exactly if one whole frame came, and each post that was
left over costs one reading.
-/
import Mathlib.Data.List.GetD
import SwiftAcu.Acu.EncoderPort
import SwiftAcu.Lib.Memory
import SwiftAcu.Lib.Runs

namespace SwiftAcu.EncoderPort

open Runs

/-- The bytes among what happens. -/
def bytesOf : List Event → List UInt8
  | [] => []
  | .byte b :: es => b :: bytesOf es
  | _ :: es => bytesOf es

/-- Bytes come in. -/
abbrev arrive (bs : List UInt8) : List Event := bs.map Event.byte

/-- How many bytes the answer to a command has. -/
def answerLen (i : Info) (c : Cmd) : Nat := (c.predict i).toNat

/-- The frame of a reading: as long as it must be, with its head and its check. -/
structure IsFrame (i : Info) (bs : List UInt8) : Prop where
  length : bs.length = answerLen i .currDataGet
  head : bs.getD 0 0 = 0x5A
  check : (bs.dropLast.sum &&& 0x7F) = bs.getLastD 0

theorem answerLen_pos (i : Info) (c : Cmd) : 0 < answerLen i c := by
  cases c with
  | currDataGet =>
      by_cases hwide : 16 < i.bitNum
      · rw [answerLen, Cmd.predict, if_pos hwide]
        decide
      · rw [answerLen, Cmd.predict, if_neg hwide]
        decide
  | dataAddDirSet => exact (by decide : 0 < (1 : UInt8).toNat)
  | dataAddDirQue => exact (by decide : 0 < (1 : UInt8).toNat)
  | addrSet => exact (by decide : 0 < (1 : UInt8).toNat)
  | addrQue => exact (by decide : 0 < (1 : UInt8).toNat)

/-! ### The window -/

/-- A task has asked, `bs` has come since, and the semaphore was at `stale` then. -/
structure Window (i : Info) (c : Cmd) (stale : Nat) (bs : List UInt8) (p : Port) : Prop where
  info : p.info = i
  predict : p.predict = c.predict i
  writeP : p.writeP = bs.length
  buff : Memory.read p.pbuff 0 bs.length = bs
  sem : p.pc = .sent c ∧ p.rev = stale + (bs.length + 1 - answerLen i c) ∨
    p.pc = .got c ∧ p.rev + 1 = stale + (bs.length + 1 - answerLen i c)

/-- No task waits for an answer, or has just got the semaphore. -/
structure Port.Shut (p : Port) : Prop where
  sent : ∀ c, p.pc ≠ .sent c
  got : ∀ c, p.pc ≠ .got c

section
variable {i : Info} {c : Cmd} {stale : Nat} {bs : List UInt8} {p : Port}

@[simp] theorem pc_intHandler (b : UInt8) (p : Port) : (p.intHandler b).pc = p.pc := rfl

@[simp] theorem info_intHandler (b : UInt8) (p : Port) : (p.intHandler b).info = p.info := rfl

@[simp] theorem predict_intHandler (b : UInt8) (p : Port) : (p.intHandler b).predict = p.predict :=
  rfl

@[simp] theorem ret_intHandler (b : UInt8) (p : Port) : (p.intHandler b).ret = p.ret := rfl

theorem writeP_intHandler {b : UInt8} (h : p.writeP + 1 < swiftUart5BuffSize) :
    (p.intHandler b).writeP = p.writeP + 1 := if_neg (Nat.not_le.mpr h)

/-- The semaphore is posted for the last byte of an answer, and for each behind it. -/
theorem rev_intHandler {b : UInt8} (hpos : 0 < p.predict)
    (h : p.writeP + 1 < swiftUart5BuffSize) :
    (p.intHandler b).rev =
      p.rev + ((p.writeP + 1 + 1 - p.predict.toNat) - (p.writeP + 1 - p.predict.toNat)) := by
  have hrev : (p.intHandler b).rev =
      if p.predict.toNat ≤ (p.intHandler b).writeP ∧ 0 < p.predict then p.rev + 1 else p.rev := rfl
  rw [hrev, writeP_intHandler h]
  by_cases hle : p.predict.toNat ≤ p.writeP + 1
  · rw [if_pos ⟨hle, hpos⟩]
    omega
  · rw [if_neg fun hand => hle hand.1]
    omega

theorem predict_pos (i : Info) (c : Cmd) : 0 < c.predict i :=
  UInt8.lt_iff_toNat_lt.mpr (answerLen_pos i c)

theorem Window.byte (h : Window i c stale bs p) (b : UInt8)
    (hlen : bs.length + 1 < swiftUart5BuffSize) :
    Window i c stale (bs ++ [b]) (p.intHandler b) := by
  have hroom : p.writeP + 1 < swiftUart5BuffSize := by rw [h.writeP]; exact hlen
  have hrev := rev_intHandler (b := b) (h.predict ▸ predict_pos i c) hroom
  have hpredict : p.predict.toNat = answerLen i c := congrArg UInt8.toNat h.predict
  rw [h.writeP, hpredict] at hrev
  refine ⟨h.info, h.predict, ?_, ?_, ?_⟩
  · rw [writeP_intHandler hroom, h.writeP, List.length_append]
    rfl
  · show Memory.read (Function.update p.pbuff p.writeP b) 0 (bs ++ [b]).length = bs ++ [b]
    have hlow : Memory.read (Function.update p.pbuff bs.length b) 0 bs.length =
        Memory.read p.pbuff 0 bs.length :=
      Memory.read_congr fun x _ hx => Function.update_of_ne (by omega) ..
    rw [h.writeP, List.length_append, List.length_singleton, Memory.read_add, hlow, h.buff]
    simp [Memory.read]
  · rw [List.length_append, List.length_singleton, pc_intHandler, hrev]
    rcases h.sem with ⟨hpc, hsem⟩ | ⟨hpc, hsem⟩
    · exact Or.inl ⟨hpc, by omega⟩
    · exact Or.inr ⟨hpc, by omega⟩

theorem Port.Shut.step (h : p.Shut) {e : Event} (he : e ≠ .send) : (p.step e).Shut := by
  cases e with
  | byte b => exact ⟨h.sent, h.got⟩
  | giveUp c' => exact h
  | send => exact absurd rfl he
  | call c' =>
      cases hpc : p.pc <;> simp only [Port.step, hpc]
      case idle => exact ⟨fun c => by simp, fun c => by simp⟩
      all_goals exact h
  | wake =>
      cases hpc : p.pc <;> simp only [Port.step, hpc]
      case sent c' => exact absurd hpc (h.sent c')
      all_goals exact h
  | expire =>
      cases hpc : p.pc <;> simp only [Port.step, hpc]
      case sent c' => exact absurd hpc (h.sent c')
      all_goals exact h
  | recv =>
      cases hpc : p.pc <;> simp only [Port.step, hpc]
      case got c' => exact absurd hpc (h.got c')
      all_goals exact h
  | clear =>
      cases hpc : p.pc <;> simp only [Port.step, hpc]
      case copied => exact ⟨fun c => by simp, fun c => by simp⟩
      all_goals exact h
  | finish =>
      cases hpc : p.pc <;> simp only [Port.step, hpc]
      case expired => exact ⟨fun c => by simp [Port.failed], fun c => by simp [Port.failed]⟩
      case received =>
        split
        · exact ⟨fun c => by simp [Port.failed], fun c => by simp [Port.failed]⟩
        · exact ⟨fun c => by simp, fun c => by simp⟩
      all_goals exact h

/-- **One step** of a window leaves it open, or shuts it. -/
theorem Window.step (h : Window i c stale bs p) {e : Event} (he : e ≠ .send)
    (hlen : (bs ++ bytesOf [e]).length < swiftUart5BuffSize) :
    Window i c stale (bs ++ bytesOf [e]) (p.step e) ∨ (p.step e).Shut := by
  have hstay : bytesOf [e] = [] → p.step e = p →
      Window i c stale (bs ++ bytesOf [e]) (p.step e) := by
    intro hnil hsame
    rw [hnil, hsame, List.append_nil]
    exact h
  cases e with
  | byte b =>
      rw [bytesOf, bytesOf, List.length_append] at hlen
      exact Or.inl (h.byte b hlen)
  | giveUp c' => exact Or.inl (hstay rfl rfl)
  | send => exact absurd rfl he
  | call c' =>
      refine Or.inl (hstay rfl ?_)
      rcases h.sem with ⟨hpc, -⟩ | ⟨hpc, -⟩ <;> simp only [Port.step, hpc]
  | wake =>
      rcases h.sem with ⟨hpc, hsem⟩ | ⟨hpc, -⟩
      · by_cases hrev : p.rev = 0
        · exact Or.inl (hstay rfl (by simp only [Port.step, hpc, if_pos hrev]))
        · have hwake : p.step .wake = { p with rev := p.rev - 1, pc := .got c } := by
            simp only [Port.step, hpc, if_neg hrev]
          refine Or.inl ?_
          rw [hwake, show bytesOf [Event.wake] = [] from rfl, List.append_nil]
          refine ⟨h.info, h.predict, h.writeP, h.buff, Or.inr ⟨rfl, ?_⟩⟩
          show p.rev - 1 + 1 = _
          omega
      · exact Or.inl (hstay rfl (by simp only [Port.step, hpc]))
  | expire =>
      rcases h.sem with ⟨hpc, -⟩ | ⟨hpc, -⟩
      · by_cases hrev : p.rev = 0
        · refine Or.inr ?_
          simp only [Port.step, hpc, if_pos hrev]
          exact ⟨fun c => by simp, fun c => by simp⟩
        · exact Or.inl (hstay rfl (by simp only [Port.step, hpc, if_neg hrev]))
      · exact Or.inl (hstay rfl (by simp only [Port.step, hpc]))
  | recv =>
      rcases h.sem with ⟨hpc, -⟩ | ⟨hpc, -⟩
      · exact Or.inl (hstay rfl (by simp only [Port.step, hpc]))
      · refine Or.inr ?_
        simp only [Port.step, hpc]
        split
        · exact ⟨fun c => by simp, fun c => by simp⟩
        · exact ⟨fun c => by simp, fun c => by simp⟩
  | clear =>
      refine Or.inl (hstay rfl ?_)
      rcases h.sem with ⟨hpc, -⟩ | ⟨hpc, -⟩ <;> simp only [Port.step, hpc]
  | finish =>
      refine Or.inl (hstay rfl ?_)
      rcases h.sem with ⟨hpc, -⟩ | ⟨hpc, -⟩ <;> simp only [Port.step, hpc]

theorem bytesOf_append (es fs : List Event) : bytesOf (es ++ fs) = bytesOf es ++ bytesOf fs := by
  induction es with
  | nil => rfl
  | cons e es ih => cases e <;> simp [bytesOf, ih]

@[simp] theorem bytesOf_arrive (bs : List UInt8) : bytesOf (arrive bs) = bs := by
  induction bs with
  | nil => rfl
  | cons b bs ih => exact congrArg (b :: ·) ih

theorem Port.Shut.run {es : List Event} (hes : .send ∉ es) (h : p.Shut) :
    (Runs.run Port.step p es).Shut := by
  induction es generalizing p with
  | nil => exact h
  | cons e es ih =>
      obtain ⟨he, hes⟩ := not_or.mp (mt List.mem_cons.mpr hes)
      exact ih hes (h.step (Ne.symm he))

/-- **A window stays open until it is shut**, as long as the buffer does not wrap. -/
theorem Window.run {es : List Event} (hes : .send ∉ es) (h : Window i c stale bs p)
    (hlen : (bs ++ bytesOf es).length < swiftUart5BuffSize) :
    Window i c stale (bs ++ bytesOf es) (Runs.run Port.step p es) ∨
      (Runs.run Port.step p es).Shut := by
  induction es generalizing p bs with
  | nil =>
      rw [bytesOf, List.append_nil]
      exact Or.inl h
  | cons e es ih =>
      obtain ⟨he, hes⟩ := not_or.mp (mt List.mem_cons.mpr hes)
      have hsplit : bytesOf (e :: es) = bytesOf [e] ++ bytesOf es := bytesOf_append [e] es
      rw [hsplit, ← List.append_assoc] at hlen ⊢
      have hhead : (bs ++ bytesOf [e]).length < swiftUart5BuffSize := by
        rw [List.length_append] at hlen
        omega
      rcases h.step (Ne.symm he) hhead with hopen | hshut
      · exact ih hes hopen hlen
      · exact Or.inr (Port.Shut.run (p := p.step e) hes hshut)

end

/-! ### What is accepted -/

/-- The copy of what has come. -/
theorem copied_getD {p : Port} {bs : List UInt8} (hlen : p.writeP = bs.length)
    (hbuff : Memory.read p.pbuff 0 bs.length = bs) :
    copied p.pbuff p.writeP = fun j => bs.getD j 0 := by
  funext j
  rw [copied, hlen]
  by_cases hj : j < bs.length
  · rw [if_pos hj, ← hbuff, Memory.getD_read hj, Nat.zero_add]
  · rw [if_neg hj, List.getD_eq_default _ _ (Nat.not_lt.mp hj)]

theorem accepts_iff_frame {i : Info} {bs : List UInt8}
    (hlen : bs.length = answerLen i .currDataGet) :
    Cmd.Accepts i (fun j => bs.getD j 0) .currDataGet ↔ IsFrame i bs := by
  have hcheck : ∀ n, bs.length = n + 1 →
      (Cmd.checknum n (fun j => bs.getD j 0) = bs.getD n 0 ↔
        (bs.dropLast.sum &&& 0x7F) = bs.getLastD 0) := by
    intro n hn
    have hne : bs ≠ [] := List.ne_nil_of_length_eq_add_one hn
    have hfront : (List.range n).map (fun j => bs.getD j 0) = bs.dropLast := by
      refine List.ext_getElem (by simp [hn]) fun j hj _ => ?_
      have hj : j < bs.length := by simp at hj; omega
      simp [hj]
    have hlast : bs.getLastD 0 = bs.getD n 0 := by
      rw [List.getLastD_eq_getLast?, List.getLast?_eq_getElem?, hn, List.getD_eq_getElem?_getD]
      rfl
    rw [Cmd.checknum, hfront, hlast]
  have hwide : answerLen i .currDataGet = if 16 < i.bitNum then 6 else 5 := by
    by_cases h : 16 < i.bitNum
    · rw [answerLen, Cmd.predict, if_pos h, if_pos h]
      rfl
    · rw [answerLen, Cmd.predict, if_neg h, if_neg h]
      rfl
  rw [hwide] at hlen
  unfold Cmd.Accepts
  by_cases h : 16 < i.bitNum
  · rw [if_pos h] at hlen ⊢
    rw [hcheck 5 hlen]
    exact ⟨fun ha => ⟨by rw [hwide, if_pos h, hlen], ha.1, ha.2⟩, fun hf => ⟨hf.head, hf.check⟩⟩
  · rw [if_neg h] at hlen ⊢
    rw [hcheck 4 hlen]
    exact ⟨fun ha => ⟨by rw [hwide, if_neg h, hlen], ha.1, ha.2⟩, fun hf => ⟨hf.head, hf.check⟩⟩

/-! ### One query -/

section
variable {p : Port} {c : Cmd}

/-- Bytes that come in leave the task where it is. -/
structure SameTask (p q : Port) : Prop where
  pc : q.pc = p.pc
  info : q.info = p.info
  predict : q.predict = p.predict
  ret : q.ret = p.ret

theorem sameTask_arrive (p : Port) (bs : List UInt8) :
    SameTask p (run Port.step p (arrive bs)) := by
  induction bs generalizing p with
  | nil => exact ⟨rfl, rfl, rfl, rfl⟩
  | cons b bs ih =>
      have hrest := ih (p.intHandler b)
      exact ⟨hrest.pc, hrest.info, hrest.predict, hrest.ret⟩

/-- With the command out the window is open, and empty. -/
theorem window_send (hpc : p.pc = .armed c) (hpredict : p.predict = c.predict p.info) :
    Window p.info c p.rev [] (p.step .send) := by
  have hpos := answerLen_pos p.info c
  simp only [Port.step, hpc]
  refine ⟨rfl, hpredict, rfl, rfl, Or.inl ⟨rfl, ?_⟩⟩
  show p.rev = p.rev + (0 + 1 - answerLen p.info c)
  omega

/-- The copy of a window. -/
theorem Window.recv {i : Info} {stale : Nat} {bs : List UInt8} (h : Window i c stale bs p)
    (hgot : p.pc = .got c) :
    p.step .recv = if 8 < bs.length then { p with pc := .overrun }
      else { p with pc := .copied c (fun j => bs.getD j 0) bs.length } := by
  rw [← copied_getD h.writeP h.buff, ← h.writeP]
  simp only [Port.step, hgot]

theorem call_idle (hidle : p.pc = .idle) (c : Cmd) :
    p.step (.call c) = { p with predict := c.predict p.info, pc := .armed c } := by
  simp only [Port.step, hidle]

/-- Nothing is left to happen behind an overrun. -/
theorem overrun_run (es : List Event) (h : p.pc = .overrun) :
    (run Port.step p es).pc = .overrun := by
  induction es generalizing p with
  | nil => exact h
  | cons e es ih =>
      refine ih ?_
      cases e <;> simp only [Port.step, h, pc_intHandler]

/-- The end of a query, with the answer copied. -/
theorem finish_copied {revbuff : Nat → UInt8} {len : Nat} (hpc : p.pc = .copied c revbuff len)
    (l₁ l₂ : List UInt8) :
    ∃ q : Port, run Port.step p (arrive l₁ ++ .clear :: arrive l₂) = q ∧
      q.pc = .received c revbuff len ∧ q.info = p.info ∧ q.predict = p.predict ∧
      q.ret = p.ret := by
  have h₁ := sameTask_arrive p l₁
  rw [run_append, run_cons]
  generalize run Port.step p (arrive l₁) = p₁ at h₁ ⊢
  have hclear : p₁.step .clear = { p₁ with writeP := 0, pc := .received c revbuff len } := by
    simp only [Port.step, h₁.pc, hpc]
  have h₂ := sameTask_arrive (p₁.step .clear) l₂
  rw [hclear] at h₂ ⊢
  exact ⟨_, rfl, h₂.pc, h₂.info.trans h₁.info, h₂.predict.trans h₁.predict, h₂.ret.trans h₁.ret⟩

end

/-- What `APP_ElecEncoder_Position_CurrData_Get` has made of the bytes `bs`. -/
structure Judged (i : Info) (bs : List UInt8) (q : Port) : Prop where
  pc : q.pc = .idle
  succ : IsFrame i bs → q.ret = .SUCC ∧ q.info = Cmd.succeed i (fun j => bs.getD j 0) .currDataGet
  fail : ¬IsFrame i bs → q.ret = .FAIL ∧ q.info = Cmd.fail i .currDataGet

/-- What the end of a query makes of the bytes that were copied. -/
theorem finish_judged {i : Info} {bs : List UInt8} {r : Port}
    (hpc : r.pc = .received .currDataGet (fun j => bs.getD j 0) bs.length) (hinfo : r.info = i)
    (hpredict : r.predict.toNat = answerLen i .currDataGet)
    (hlong : answerLen i .currDataGet ≤ bs.length) : Judged i bs (r.step .finish) := by
  subst hinfo
  have hfinish : r.step .finish =
      if answerLen r.info .currDataGet < bs.length ∨
        ¬Cmd.Accepts r.info (fun j => bs.getD j 0) .currDataGet then
        r.failed .currDataGet
      else
        { r with
          info := Cmd.succeed r.info (fun j => bs.getD j 0) .currDataGet
          pc := .idle
          ret := .SUCC } := by
    rw [← hpredict]
    simp only [Port.step, hpc]
  have hiff : (answerLen r.info .currDataGet < bs.length ∨
      ¬Cmd.Accepts r.info (fun j => bs.getD j 0) .currDataGet) ↔ ¬IsFrame r.info bs := by
    constructor
    · rintro (hlt | hacc) hframe
      · exact absurd hframe.length (by omega)
      · exact hacc ((accepts_iff_frame hframe.length).mpr hframe)
    · intro hnot
      by_cases hlt : answerLen r.info .currDataGet < bs.length
      · exact Or.inl hlt
      · have heq : bs.length = answerLen r.info .currDataGet := by omega
        exact Or.inr fun hacc => hnot ((accepts_iff_frame heq).mp hacc)
  rw [hfinish]
  refine ⟨?_, fun hframe => ?_, fun hframe => ?_⟩
  · split <;> rfl
  · rw [if_neg (fun h => hiff.mp h hframe)]
    exact ⟨rfl, rfl⟩
  · rw [if_pos (hiff.mpr hframe)]
    exact ⟨rfl, rfl⟩

/-- The window of a reading, up to the copy. -/
theorem window_reading {p : Port} (hidle : p.pc = .idle) (l₀ : List UInt8) {mid : List Event}
    (hmid : .send ∉ mid) (hdown : (run Port.step p (.call .currDataGet :: arrive l₀)).rev = 0)
    (hgot : (run Port.step p (.call .currDataGet :: arrive l₀ ++ .send :: mid)).pc =
      .got .currDataGet)
    (hlen : (bytesOf mid).length < swiftUart5BuffSize) :
    Window p.info .currDataGet 0 (bytesOf mid)
      (run Port.step p (.call .currDataGet :: arrive l₀ ++ .send :: mid)) := by
  have hcall := call_idle hidle .currDataGet
  have harmed := sameTask_arrive (p.step (.call .currDataGet)) l₀
  rw [run_cons] at hdown
  rw [List.cons_append, run_cons, run_append, run_cons] at hgot ⊢
  generalize run Port.step (p.step (.call .currDataGet)) (arrive l₀) = a at harmed hdown hgot ⊢
  have ha : a.pc = .armed .currDataGet := by rw [harmed.pc, hcall]
  have hinfo : a.info = p.info := by rw [harmed.info, hcall]
  have hpredict : a.predict = Cmd.currDataGet.predict a.info := by
    rw [harmed.predict, hinfo, hcall]
  have hopen := (window_send ha hpredict).run hmid hlen
  rw [List.nil_append, hinfo, hdown] at hopen
  exact hopen.resolve_right fun hshut => hshut.got _ hgot

/-- With the semaphore got, the bytes that were expected are there. -/
theorem Window.long {i : Info} {c : Cmd} {bs : List UInt8} {p : Port} (h : Window i c 0 bs p)
    (hgot : p.pc = .got c) : answerLen i c ≤ bs.length := by
  rcases h.sem with ⟨hpc, -⟩ | ⟨-, hsem⟩
  · rw [hgot] at hpc
    cases hpc
  · omega

/--
**A reading is one whole frame that came behind its command.**  Bytes may come in between any
two actions of the task, and other tasks may try to ask.  If the semaphore was down when the
command went out, and fewer than 32 bytes came from there to the copy: with more than 8 of them
the copy runs over its buffer, and else the query succeeds exactly if they are one frame, whole,
with its head and its check, and then the data are those of that frame.
-/
theorem reading_is_one_frame (p : Port) (hidle : p.pc = .idle) (l₀ l₁ l₂ : List UInt8)
    (mid : List Event) (hmid : .send ∉ mid)
    (hdown : (run Port.step p (.call .currDataGet :: arrive l₀)).rev = 0)
    (hgot : (run Port.step p (.call .currDataGet :: arrive l₀ ++ .send :: mid)).pc =
      .got .currDataGet)
    (hlen : (bytesOf mid).length < swiftUart5BuffSize) (q : Port)
    (hq : q = run Port.step p (.call .currDataGet :: arrive l₀ ++ .send :: mid ++
      .recv :: arrive l₁ ++ .clear :: arrive l₂ ++ [.finish])) :
    (8 < (bytesOf mid).length → q.pc = .overrun) ∧
      ((bytesOf mid).length ≤ 8 → Judged p.info (bytesOf mid) q) := by
  have hwin := window_reading hidle l₀ hmid hdown hgot hlen
  have hqsplit : q = run Port.step
      ((run Port.step p (.call .currDataGet :: arrive l₀ ++ .send :: mid)).step .recv)
      (arrive l₁ ++ .clear :: arrive l₂ ++ [.finish]) := by
    rw [hq]
    simp only [List.cons_append, run_cons, run_append, List.append_assoc, run_nil]
  generalize run Port.step p (.call .currDataGet :: arrive l₀ ++ .send :: mid) = b
    at hgot hwin hqsplit
  have hrecv := hwin.recv hgot
  rw [hqsplit]
  constructor
  · intro hover
    rw [if_pos hover] at hrecv
    exact overrun_run _ (by rw [hrecv])
  · intro hfits
    rw [if_neg (Nat.not_lt.mpr hfits)] at hrecv
    rw [run_append]
    obtain ⟨r, hr, hpc, hri, hrp, -⟩ := finish_copied
      (show (b.step .recv).pc = .copied .currDataGet (fun j => (bytesOf mid).getD j 0)
        (bytesOf mid).length by rw [hrecv]) l₁ l₂
    rw [hr, run_cons, run_nil]
    rw [hrecv] at hri hrp
    exact finish_judged hpc (hri.trans hwin.info) (congrArg UInt8.toNat (hrp.trans hwin.predict))
      (hwin.long hgot)

/-- A port at rest, for the 17 bits of the azimuth encoder. -/
def portAtRest (rev : Nat) : Port where
  pbuff := fun _ => 0
  writeP := 0
  predict := 0
  rev
  info := ⟨1, 17, 0xE1, commLink, workstaNormal, 0, 0, 0⟩
  pc := .idle
  ret := .SUCC

/-- The frame of 0x001234, with a byte of noise in front of the command. -/
theorem reading_is_one_frame_once :
    Judged (portAtRest 0).info [0x5A, 0x01, 0x00, 0x12, 0x34, 0x21]
      (run Port.step (portAtRest 0) (.call .currDataGet :: arrive [0xFF] ++
        .send :: (arrive [0x5A, 0x01, 0x00, 0x12, 0x34, 0x21] ++ [.wake]) ++
        .recv :: arrive [] ++ .clear :: arrive [] ++ [.finish])) :=
  (reading_is_one_frame (portAtRest 0) rfl [0xFF] [] []
    (arrive [0x5A, 0x01, 0x00, 0x12, 0x34, 0x21] ++ [Event.wake]) (by decide) rfl rfl (by decide) _
    rfl).2 (by decide)

/-! ### Posts that are left over -/

/-- The answer to a reading: what of its frame comes before the task looks, and what after. -/
structure Answer (i : Info) where
  early : List UInt8
  late : List UInt8
  frame : IsFrame i (early ++ late)

/-- A reading with its answer, and no byte between the actions of the task from `wake` on. -/
def Answer.events {i : Info} (a : Answer i) : List Event :=
  .call .currDataGet :: .send :: arrive a.early ++ .wake :: .recv :: .clear :: .finish ::
    arrive a.late

/-- The data that are read are those of the answer. -/
def Answer.ReadBy {i : Info} (a : Answer i) (q : Port) : Prop :=
  q.ret = .SUCC ∧ q.info.data = Cmd.dataOf i fun j => (a.early ++ a.late).getD j 0

instance {i : Info} (a : Answer i) (q : Port) : Decidable (a.ReadBy q) :=
  inferInstanceAs (Decidable (_ ∧ _))

section
variable {p : Port}

/-- Bytes post nothing where none are expected, or too few come. -/
theorem rev_arrive {bs : List UInt8}
    (h : p.predict = 0 ∨ p.writeP + bs.length < p.predict.toNat ∧ p.predict.toNat ≤ 6) :
    (run Port.step p (arrive bs)).rev = p.rev := by
  induction bs generalizing p with
  | nil => rfl
  | cons b bs ih =>
      have hrest : (p.intHandler b).predict = 0 ∨ (p.intHandler b).writeP + bs.length <
          (p.intHandler b).predict.toNat ∧ (p.intHandler b).predict.toNat ≤ 6 := by
        rcases h with h | ⟨hlt, hle⟩
        · exact Or.inl h
        · rw [List.length_cons] at hlt
          have hroom : p.writeP + 1 < swiftUart5BuffSize := by
            show p.writeP + 1 < 32
            omega
          rw [writeP_intHandler hroom, predict_intHandler]
          exact Or.inr ⟨by omega, hle⟩
      have hrev : (p.intHandler b).rev = p.rev := by
        refine if_neg fun hpost => ?_
        rcases h with h | ⟨hlt, hle⟩
        · rw [h] at hpost
          exact absurd hpost.2 (by decide)
        · rw [List.length_cons] at hlt
          have hroom : ¬swiftUart5BuffSize ≤ p.writeP + 1 := by
            show ¬32 ≤ p.writeP + 1
            omega
          rw [if_neg hroom] at hpost
          omega
      exact (ih hrest).trans hrev

theorem answerLen_le (i : Info) (c : Cmd) : answerLen i c ≤ 6 := by
  cases c with
  | currDataGet =>
      by_cases hwide : 16 < i.bitNum
      · rw [answerLen, Cmd.predict, if_pos hwide]
        decide
      · rw [answerLen, Cmd.predict, if_neg hwide]
        decide
  | dataAddDirSet => exact (by decide : (1 : UInt8).toNat ≤ 6)
  | dataAddDirQue => exact (by decide : (1 : UInt8).toNat ≤ 6)
  | addrSet => exact (by decide : (1 : UInt8).toNat ≤ 6)
  | addrQue => exact (by decide : (1 : UInt8).toNat ≤ 6)

/-- A window while bytes come in, and the task has not yet looked. -/
theorem Window.fill {i : Info} {c : Cmd} {stale : Nat} (h : Window i c stale [] p)
    (hsent : p.pc = .sent c) {bs : List UInt8} (hlen : bs.length < swiftUart5BuffSize) :
    Window i c stale bs (Runs.run Port.step p (arrive bs)) ∧
      (Runs.run Port.step p (arrive bs)).pc = .sent c := by
  have hpc := (sameTask_arrive p bs).pc.trans hsent
  have hsend : Event.send ∉ arrive bs := by simp [arrive]
  have hopen := h.run hsend (by rw [List.nil_append, bytesOf_arrive]; exact hlen)
  rw [List.nil_append, bytesOf_arrive] at hopen
  exact ⟨hopen.resolve_right fun hshut => hshut.sent c hpc, hpc⟩

/-- The task gets the semaphore and takes out what has come. -/
theorem Window.look {i : Info} {c : Cmd} {stale : Nat} {bs : List UInt8}
    (h : Window i c stale bs p) (hsent : p.pc = .sent c) (hrev : p.rev ≠ 0)
    (hfits : bs.length ≤ 8) :
    ((p.step .wake).step .recv).step .clear =
      { p with
        rev := p.rev - 1
        writeP := 0
        pc := .received c (fun j => bs.getD j 0) bs.length } := by
  have hwake : p.step .wake = { p with rev := p.rev - 1, pc := .got c } := by
    simp only [Port.step, hsent, if_neg hrev]
  have hsem : p.rev = stale + (bs.length + 1 - answerLen i c) := by
    rcases h.sem with ⟨-, hsem⟩ | ⟨hpc, -⟩
    · exact hsem
    · rw [hsent] at hpc
      cases hpc
  have hwoken : Window i c stale bs (p.step .wake) := by
    rw [hwake]
    refine ⟨h.info, h.predict, h.writeP, h.buff, Or.inr ⟨rfl, ?_⟩⟩
    show p.rev - 1 + 1 = _
    omega
  have hrecv := hwoken.recv (by rw [hwake])
  rw [if_neg (Nat.not_lt.mpr hfits), hwake] at hrecv
  rw [hwake, hrecv]
  rfl

/-- The end of a reading that was taken out: what is missing in an answer is 0. -/
theorem finish_received {i : Info} {bs : List UInt8}
    (hpc : p.pc = .received .currDataGet (fun j => bs.getD j 0) bs.length)
    (hpredict : p.predict = Cmd.currDataGet.predict i) (hinfo : p.info = i) :
    p.step .finish =
      if answerLen i .currDataGet < bs.length ∨
        ¬Cmd.Accepts i (fun j => bs.getD j 0) .currDataGet then p.failed .currDataGet
      else
        { p with
          info := Cmd.succeed i (fun j => bs.getD j 0) .currDataGet
          pc := .idle
          ret := .SUCC } := by
  have hlen : p.predict.toNat = answerLen i .currDataGet := congrArg UInt8.toNat hpredict
  rw [← hlen, ← hinfo]
  simp only [Port.step, hpc]

end

section
variable {i : Info}

theorem IsFrame.congr {j : Info} (h : i.bitNum = j.bitNum) {bs : List UInt8} :
    IsFrame i bs ↔ IsFrame j bs := by
  have hlen : answerLen i .currDataGet = answerLen j .currDataGet := by
    simp only [answerLen, Cmd.predict, h]
  exact ⟨fun hf => ⟨hf.length.trans hlen, hf.head, hf.check⟩,
    fun hf => ⟨hf.length.trans hlen.symm, hf.head, hf.check⟩⟩

theorem dataOf_congr {j : Info} (h : i.bitNum = j.bitNum) (revbuff : Nat → UInt8) :
    Cmd.dataOf i revbuff = Cmd.dataOf j revbuff := by
  simp only [Cmd.dataOf, h]

/-- The task has taken out the early part of an answer, at a port that was `p`. -/
structure Taken (a : Answer i) (p d : Port) : Prop where
  bits : p.info.bitNum = i.bitNum
  pc : d.pc = .received .currDataGet (fun j => a.early.getD j 0) a.early.length
  info : d.info = p.info
  predict : d.predict = Cmd.currDataGet.predict p.info
  writeP : d.writeP = 0
  rev : d.rev + 1 = p.rev + (a.early.length + 1 - answerLen p.info .currDataGet)

theorem Answer.taken (a : Answer i) {p : Port} (hidle : p.pc = .idle)
    (hbits : p.info.bitNum = i.bitNum)
    (hwoken : (run Port.step p (.call .currDataGet :: .send :: arrive a.early)).rev ≠ 0) :
    ∃ d, Taken a p d ∧
      run Port.step p a.events = run Port.step (d.step .finish) (arrive a.late) := by
  have hframe : IsFrame p.info (a.early ++ a.late) := (IsFrame.congr hbits).mpr a.frame
  have htotal := hframe.length
  have hsix := answerLen_le p.info .currDataGet
  rw [List.length_append] at htotal
  have hcall := call_idle hidle .currDataGet
  have hsend := window_send (p := p.step (.call .currDataGet)) (c := .currDataGet)
    (by rw [hcall]) (by rw [hcall])
  have hsent : ((p.step (.call .currDataGet)).step .send).pc = .sent .currDataGet := by
    rw [hcall]
    rfl
  obtain ⟨hwin, hpc⟩ := hsend.fill hsent
    (show a.early.length < swiftUart5BuffSize from show a.early.length < 32 by omega)
  have hstale : (p.step (.call .currDataGet)).rev = p.rev := by rw [hcall]
  have hinfo : (p.step (.call .currDataGet)).info = p.info := by rw [hcall]
  rw [hstale, hinfo] at hwin
  have hrun : run Port.step p a.events = run Port.step ((((((run Port.step
      ((p.step (.call .currDataGet)).step .send) (arrive a.early)).step .wake).step
        .recv).step .clear).step .finish)) (arrive a.late) := by
    rw [Answer.events]
    simp only [List.cons_append, run_cons, run_append]
  rw [run_cons, run_cons] at hwoken
  generalize run Port.step ((p.step (.call .currDataGet)).step .send) (arrive a.early) = b
    at hwin hpc hwoken hrun
  have hsem : b.rev = p.rev + (a.early.length + 1 - answerLen p.info .currDataGet) := by
    rcases hwin.sem with ⟨-, hsem⟩ | ⟨hgot, -⟩
    · exact hsem
    · rw [hpc] at hgot
      cases hgot
  refine ⟨((b.step .wake).step .recv).step .clear, ?_, hrun⟩
  rw [hwin.look hpc hwoken (by omega)]
  refine ⟨hbits, rfl, hwin.info, hwin.predict, rfl, ?_⟩
  show b.rev - 1 + 1 = _
  omega

/-- What a reading with its answer comes to. -/
structure Served (a : Answer i) (p q : Port) : Prop where
  pc : q.pc = .idle
  bits : q.info.bitNum = i.bitNum
  cost : a.ReadBy q ∧ q.rev = p.rev ∨ q.rev + 1 = p.rev

section
variable {a : Answer i} {p d : Port}

theorem Taken.length (h : Taken a p d) :
    a.early.length + a.late.length = answerLen p.info .currDataGet := by
  rw [← List.length_append]
  exact ((IsFrame.congr h.bits).mpr a.frame).length

/-- What was taken out is accepted: it was the whole frame, or a post was left over. -/
theorem Taken.accepted (h : Taken a p d)
    (hacc : Cmd.Accepts p.info (fun j => a.early.getD j 0) .currDataGet) :
    Served a p (run Port.step (d.step .finish) (arrive a.late)) := by
  have htotal := h.length
  have hrev := h.rev
  have hfinish := finish_received h.pc h.predict h.info
  rw [if_neg fun hn => hn.elim (by omega) fun hn => hn hacc] at hfinish
  have hlate := sameTask_arrive (d.step .finish) a.late
  rw [hfinish] at hlate ⊢
  refine ⟨hlate.pc, ?_, ?_⟩
  · rw [hlate.info]
    exact h.bits
  by_cases hwhole : a.late = []
  · refine Or.inl ⟨⟨hlate.ret, ?_⟩, ?_⟩
    · rw [hlate.info, hwhole, List.append_nil, ← dataOf_congr h.bits]
      rfl
    · rw [hwhole, List.length_nil] at htotal
      rw [hwhole]
      show d.rev = p.rev
      omega
  · have hpos : 0 < a.late.length := List.length_pos_iff.mpr hwhole
    have hearly : 0 < a.early.length := by
      rcases Nat.eq_zero_or_pos a.early.length with hzero | hpos
      · have hnil := List.eq_nil_of_length_eq_zero hzero
        rw [hnil] at hacc
        exact absurd hacc.1 (by decide)
      · exact hpos
    have hquiet : d.writeP + a.late.length < d.predict.toNat ∧ d.predict.toNat ≤ 6 := by
      have hn : d.predict.toNat = answerLen p.info .currDataGet := congrArg UInt8.toNat h.predict
      have hsix := answerLen_le p.info .currDataGet
      have hzero := h.writeP
      omega
    refine Or.inr ?_
    rw [rev_arrive (p := { d with
      info := Cmd.succeed p.info (fun j => a.early.getD j 0) .currDataGet
      pc := .idle
      ret := .SUCC }) (Or.inr hquiet)]
    show d.rev + 1 = p.rev
    omega

/-- What was taken out is refused: it was not the whole frame. -/
theorem Taken.refused (h : Taken a p d)
    (hacc : ¬Cmd.Accepts p.info (fun j => a.early.getD j 0) .currDataGet) :
    Served a p (run Port.step (d.step .finish) (arrive a.late)) := by
  have htotal := h.length
  have hrev := h.rev
  have hfinish := finish_received h.pc h.predict h.info
  rw [if_pos (Or.inr hacc)] at hfinish
  have hlate := sameTask_arrive (d.step .finish) a.late
  rw [hfinish] at hlate ⊢
  have hshort : a.early.length < answerLen p.info .currDataGet := by
    by_contra hwhole
    have hframe : IsFrame p.info (a.early ++ a.late) := (IsFrame.congr h.bits).mpr a.frame
    have hnil : a.late = [] := List.eq_nil_of_length_eq_zero (by omega)
    rw [hnil, List.append_nil] at hframe
    exact hacc ((accepts_iff_frame hframe.length).mpr hframe)
  refine ⟨hlate.pc, ?_, Or.inr ?_⟩
  · rw [hlate.info]
    show d.info.bitNum = i.bitNum
    rw [h.info, h.bits]
  · rw [rev_arrive (Or.inl rfl)]
    show d.rev + 1 = p.rev
    omega

end

/-- **One reading** and its answer: it is read, or a post that was left over is gone. -/
theorem Answer.served (a : Answer i) {p : Port} (hidle : p.pc = .idle)
    (hbits : p.info.bitNum = i.bitNum)
    (hwoken : (run Port.step p (.call .currDataGet :: .send :: arrive a.early)).rev ≠ 0) :
    Served a p (run Port.step p a.events) := by
  obtain ⟨d, htaken, hrun⟩ := a.taken hidle hbits hwoken
  rw [hrun]
  by_cases hacc : Cmd.Accepts p.info (fun j => a.early.getD j 0) .currDataGet
  · exact htaken.accepted hacc
  · exact htaken.refused hacc

/-- A run of readings, each of them with its answer. -/
def readings (p : Port) (as : List (Answer i)) : Port :=
  run (fun p (a : Answer i) => run Port.step p a.events) p as

/-- Every task that asks is woken: by its answer, or by a post that was left over. -/
def AllWoken (p : Port) (as : List (Answer i)) : Prop :=
  AllSteps (fun p (a : Answer i) => run Port.step p a.events)
    (fun p a => (run Port.step p (.call .currDataGet :: .send :: arrive a.early)).rev ≠ 0) p as

/-- How many of the readings are not those of their answers. -/
def missed (p : Port) : List (Answer i) → Nat
  | [] => 0
  | a :: as =>
    (if a.ReadBy (run Port.step p a.events) then 0 else 1) + missed (run Port.step p a.events) as

/--
**A post that is left over costs one reading, once.**  Let any number of readings each be
answered by a frame, of which any part may come before the task looks and the rest behind it.
As many readings at most are missed as the semaphore had posts left over, less those it still
has; from a semaphore that is down every reading is that of its answer.
-/
theorem leftover_posts_cost (p : Port) (hidle : p.pc = .idle) (as : List (Answer p.info))
    (hwoken : AllWoken p as) : missed p as + (readings p as).rev ≤ p.rev := by
  suffices h : ∀ (i : Info) (as : List (Answer i)) (p : Port), p.pc = .idle →
      p.info.bitNum = i.bitNum → AllWoken p as → missed p as + (readings p as).rev ≤ p.rev from
    h p.info as p hidle rfl hwoken
  intro i as
  induction as with
  | nil =>
      intro p _ _ _
      exact (Nat.zero_add _).le
  | cons a as ih =>
      intro p hidle hbits hwoken
      obtain ⟨hfirst, hwoken⟩ := hwoken
      have hserved := a.served hidle hbits hfirst
      have hrest := ih (run Port.step p a.events) hserved.pc hserved.bits hwoken
      show (if a.ReadBy (run Port.step p a.events) then 0 else 1) +
        missed (run Port.step p a.events) as + (readings (run Port.step p a.events) as).rev ≤ p.rev
      rcases hserved.cost with ⟨hread, hrev⟩ | hrev
      · rw [if_pos hread]
        omega
      · split <;> omega

end

theorem isFrame_portAtRest :
    IsFrame (portAtRest 1).info [0x5A, 0x01, 0x00, 0x12, 0x34, 0x21] := ⟨rfl, rfl, rfl⟩

/-- A post left over, an answer that comes too late for the task, and one that does not. -/
theorem leftover_posts_cost_one :
    missed (portAtRest 1)
        [⟨[], [0x5A, 0x01, 0x00, 0x12, 0x34, 0x21], isFrame_portAtRest⟩,
          ⟨[0x5A, 0x01, 0x00, 0x12, 0x34, 0x21], [], isFrame_portAtRest⟩] +
      (readings (portAtRest 1)
        [⟨[], [0x5A, 0x01, 0x00, 0x12, 0x34, 0x21], isFrame_portAtRest⟩,
          ⟨[0x5A, 0x01, 0x00, 0x12, 0x34, 0x21], [], isFrame_portAtRest⟩]).rev ≤ 1 :=
  leftover_posts_cost (portAtRest 1) rfl _ ⟨by decide, by decide, trivial⟩

/-! ### The link -/

/-- The command whose query ends with the next `finish`. -/
def Pc.ending : Pc → Option Cmd
  | .expired c => some c
  | .received c _ _ => some c
  | _ => none

/-- What the queries of a run have returned. -/
def outcomes (p : Port) : List Event → List Ret
  | [] => []
  | e :: es =>
    (if e = .finish ∧ p.pc.ending.isSome then [(p.step e).ret] else []) ++ outcomes (p.step e) es

/-- How many failed in a row at the end. -/
def failsSince (fails : Nat) (rs : List Ret) : Nat :=
  rs.foldl (fun n r => if r = .FAIL then n + 1 else 0) fails

/-- The command of a query that is under way. -/
def Pc.cmd : Pc → Option Cmd
  | .armed c => some c
  | .sent c => some c
  | .expired c => some c
  | .got c => some c
  | .copied c _ _ => some c
  | .received c _ _ => some c
  | _ => none

/-- What the count and the link say behind a number of failures in a row. -/
structure Counted (fails : Nat) (p : Port) : Prop where
  cmd : ∀ c, p.pc.cmd = some c → c = .currDataGet
  cnt : p.info.ulinkCnt = UInt8.ofNat fails
  link : p.info.linkStat = if 4 ≤ fails then commUnlink else commLink

section
variable {fails : Nat} {p : Port}

theorem Counted.failed (h : Counted fails p) : Counted (fails + 1) (p.failed .currDataGet) := by
  have hcnt : (p.failed .currDataGet).info.ulinkCnt = UInt8.ofNat (fails + 1) := by
    show p.info.ulinkCnt + 1 = _
    rw [h.cnt, UInt8.ofNat_add]
    rfl
  refine ⟨fun c hc => absurd hc (Option.some_ne_none c).symm, hcnt, ?_⟩
  show (if elecEncoderUnlinkNum < (p.failed .currDataGet).info.ulinkCnt then commUnlink
    else p.info.linkStat) = _
  rw [hcnt, h.link]
  rcases Nat.lt_trichotomy fails 3 with hlt | rfl | hgt
  · have hsmall : ¬elecEncoderUnlinkNum < UInt8.ofNat (fails + 1) := by
      rw [UInt8.lt_iff_toNat_lt, UInt8.toNat_ofNat']
      show ¬3 < (fails + 1) % 2 ^ 8
      omega
    rw [if_neg hsmall, if_neg (by omega), if_neg (by omega)]
  · rfl
  · rw [if_pos (show 4 ≤ fails by omega), if_pos (show 4 ≤ fails + 1 by omega), ite_self]

theorem Counted.same (h : Counted fails p) {q : Port} (hinfo : q.info = p.info)
    (hcmd : ∀ c, q.pc.cmd = some c → c = .currDataGet) : Counted fails q :=
  ⟨hcmd, by rw [hinfo, h.cnt], by rw [hinfo, h.link]⟩

theorem Counted.succeeded (p : Port) (revbuff : Nat → UInt8) :
    Counted 0 { p with
      info := Cmd.succeed p.info revbuff .currDataGet
      pc := .idle
      ret := .SUCC } :=
  ⟨fun c hc => absurd hc (Option.some_ne_none c).symm, rfl, rfl⟩

/-- **One step**: the end of a query is counted, anything else changes nothing. -/
theorem Counted.step (h : Counted fails p) {e : Event} (he : ∀ c, e = .call c → c = .currDataGet) :
    Counted (failsSince fails (if e = .finish ∧ p.pc.ending.isSome then [(p.step e).ret] else []))
      (p.step e) := by
  have hcmd := h.cmd
  by_cases hfinish : e = .finish
  · subst hfinish
    cases hpc : p.pc
    case expired c =>
      obtain rfl : c = .currDataGet := hcmd c (by rw [hpc]; rfl)
      simp only [Port.step, hpc, Pc.ending]
      exact h.failed
    case received c revbuff len =>
      obtain rfl : c = .currDataGet := hcmd c (by rw [hpc]; rfl)
      have hstep : p.step .finish =
          if p.predict.toNat < len ∨ ¬Cmd.Accepts p.info revbuff .currDataGet then
            p.failed .currDataGet
          else { p with
            info := Cmd.succeed p.info revbuff .currDataGet
            pc := .idle
            ret := .SUCC } := by
        simp only [Port.step, hpc]
      by_cases hbad : p.predict.toNat < len ∨ ¬Cmd.Accepts p.info revbuff .currDataGet
      · rw [hstep, if_pos hbad]
        exact h.failed
      · rw [hstep, if_neg hbad]
        exact Counted.succeeded p revbuff
    all_goals
      simp only [Port.step, hpc, Pc.ending]
      exact h
  · rw [if_neg fun hand => hfinish hand.1]
    show Counted fails (p.step e)
    cases e with
    | finish => exact absurd rfl hfinish
    | byte b => exact h.same rfl hcmd
    | giveUp c => exact h
    | call c =>
        obtain rfl := he c rfl
        cases hpc : p.pc <;> simp only [Port.step, hpc]
        case idle => exact h.same rfl fun c hc => (Option.some.inj hc).symm
        all_goals exact h
    | send =>
        cases hpc : p.pc <;> simp only [Port.step, hpc]
        case armed => exact h.same rfl fun c hc => hcmd c (by rw [hpc]; exact hc)
        all_goals exact h
    | wake =>
        cases hpc : p.pc <;> simp only [Port.step, hpc]
        case sent =>
          split
          · exact h
          · exact h.same rfl fun c hc => hcmd c (by rw [hpc]; exact hc)
        all_goals exact h
    | expire =>
        cases hpc : p.pc <;> simp only [Port.step, hpc]
        case sent =>
          split
          · exact h.same rfl fun c hc => hcmd c (by rw [hpc]; exact hc)
          · exact h
        all_goals exact h
    | recv =>
        cases hpc : p.pc <;> simp only [Port.step, hpc]
        case got =>
          split
          · exact h.same rfl fun c hc => absurd hc (Option.some_ne_none c).symm
          · exact h.same rfl fun c hc => hcmd c (by rw [hpc]; exact hc)
        all_goals exact h
    | clear =>
        cases hpc : p.pc <;> simp only [Port.step, hpc]
        case copied => exact h.same rfl fun c hc => hcmd c (by rw [hpc]; exact hc)
        all_goals exact h

theorem Counted.run {es : List Event} (h : Counted fails p)
    (hes : ∀ c, .call c ∈ es → c = .currDataGet) :
    Counted (failsSince fails (outcomes p es)) (run Port.step p es) := by
  induction es generalizing p fails with
  | nil => exact h
  | cons e es ih =>
      have hstep := h.step (e := e) fun c hc => hes c (hc ▸ List.mem_cons_self ..)
      have hrest := ih hstep fun c hc => hes c (List.mem_cons_of_mem _ hc)
      rw [outcomes, run_cons, failsSince, List.foldl_append]
      exact hrest

/--
**The link is down behind four failures in a row, and only then.**  Whatever bytes come, as long
as the encoder is asked for its data alone: from a link that is up `link_stat` says that it is
down exactly if the last four readings failed, also where the 8 bits of the count have wrapped.
-/
theorem link_down_iff (p : Port) (hidle : p.pc = .idle) (hlink : p.info.linkStat = commLink)
    (hcnt : p.info.ulinkCnt = 0) (es : List Event)
    (hes : ∀ c, .call c ∈ es → c = .currDataGet) :
    (run Port.step p es).info.linkStat = commUnlink ↔ 4 ≤ failsSince 0 (outcomes p es) := by
  have hstart : Counted 0 p := by
    refine ⟨fun c hc => ?_, hcnt, hlink⟩
    rw [hidle] at hc
    exact absurd hc (Option.some_ne_none c).symm
  rw [(hstart.run hes).link]
  by_cases hdown : 4 ≤ failsSince 0 (outcomes p es)
  · rw [if_pos hdown]
    exact iff_of_true rfl hdown
  · rw [if_neg hdown]
    exact iff_of_false (by decide) hdown

/-- Four readings that nothing answers. -/
theorem link_down_iff_four :
    (run Port.step (portAtRest 0)
      (List.replicate 4 [Event.call .currDataGet, .send, .expire, .finish]).flatten).info.linkStat =
        commUnlink :=
  (link_down_iff (portAtRest 0) rfl rfl rfl _ (by
    intro c hc
    simpa [List.replicate] using hc)).mpr (by decide)

end

end SwiftAcu.EncoderPort
