/-
When the frames on a line reach the task behind the port.

There is one buffer and the interrupt goes on writing to it, so that a frame is safe only
until the next byte comes: as long as every frame is taken out before the next one begins,
each is posted once, at its last byte, and obtained whole.  A byte that comes earlier is
written behind the frame, which is then posted a second time and obtained with the byte at
its end.  A frame that fills the buffer is never posted, because the write index is set back
before the test.
-/
import SwiftAcu.Proofs.Serial.Index

namespace SwiftAcu.Serial

open Runs

/-! ### What is in the buffer -/

/-- The buffer begins with `bs`, and the write index is behind them. -/
structure Holds (r : Rx) (bs : List UInt8) : Prop where
  index : r.writeP = bs.length
  cells : ∀ i, i < bs.length → r.pbuff[i]? = bs[i]?

theorem holds_nil {r : Rx} (h : r.writeP = 0) : Holds r [] where
  index := h
  cells := fun i hi => absurd hi (Nat.not_lt_zero i)

/-- A byte put in behind them is one more. -/
theorem Holds.stored {r : Rx} {bs : List UInt8} (h : Holds r bs) (b : UInt8)
    (hroom : bs.length + 1 < 64) : Holds (stored b r) (bs ++ [b]) where
  index := by
    rw [Serial.stored, h.index, if_neg (Nat.not_le.mpr hroom), List.length_append]
    rfl
  cells := by
    intro i hi
    rw [List.length_append, List.length_singleton] at hi
    rw [Serial.stored, Vector.getElem?_setIfInBounds, h.index]
    by_cases hlast : bs.length = i
    · subst hlast
      rw [if_pos rfl, if_pos (by omega), List.getElem?_concat_length]
    · rw [if_neg hlast, h.cells i (by omega), List.getElem?_append_left (by omega)]

theorem length_bytes (f : Frame) : f.bytes.length = f.data.length + 4 := by
  simp [Frame.bytes]

/-- What the interrupt looks at in a frame. -/
theorem bytes_getElem? (f : Frame) :
    f.bytes[0]? = some 0xBC ∧ f.bytes[1]? = some (UInt8.ofNat f.data.length) ∧
      f.bytes[f.data.length + 3]? = some 0xCB := by
  refine ⟨rfl, rfl, ?_⟩
  have hsplit : f.bytes = ([0xBC, UInt8.ofNat f.data.length] ++ f.data ++ [f.sum]) ++ [0xCB] := by
    simp [Frame.bytes]
  have hlen : ([0xBC, UInt8.ofNat f.data.length] ++ f.data ++ [f.sum]).length =
      f.data.length + 3 := by simp
  rw [hsplit, ← hlen, List.getElem?_concat_length]

theorem toNat_len (f : Frame) : (UInt8.ofNat f.data.length).toNat = f.data.length := by
  have hsmall := f.small
  rw [UInt8.toNat_ofNat', Nat.mod_eq_of_lt (by omega)]

/--
**A byte of a frame**, behind those that came before it: the last one posts the frame, and
every other is only kept.
-/
theorem intHandler_frame {port : Port} {f : Frame} (hplain : f.Plain port) {r : Rx} {cur : Nat}
    {b : UInt8} (h : Holds r (f.bytes.take cur)) (hb : f.bytes[cur]? = some b)
    (hroom : cur + 1 < 64) :
    ∃ rx, intHandler port b r = some rx ∧ Holds rx (f.bytes.take (cur + 1)) ∧
      rx.sem = if cur + 1 = f.bytes.length then r.sem + 1 else r.sem := by
  have hcur : cur < f.bytes.length := (List.getElem?_eq_some_iff.mp hb).1
  have htake : (f.bytes.take cur).length = cur := List.length_take_of_le (Nat.le_of_lt hcur)
  have hnext : Holds (stored b r) (f.bytes.take (cur + 1)) := by
    have hstored := h.stored b (by rw [htake]; exact hroom)
    rwa [List.take_add_one, hb]
  have htake' : (f.bytes.take (cur + 1)).length = cur + 1 := List.length_take_of_le hcur
  have hcell : ∀ i, i < cur + 1 → (stored b r).pbuff[i]? = f.bytes[i]? := by
    intro i hi
    rw [hnext.cells i (by omega), List.getElem?_take_of_lt hi]
  have hindex : (stored b r).writeP = cur + 1 := hnext.index.trans htake'
  obtain ⟨hhead, hlen, hlast⟩ := bytes_getElem? f
  have htotal := length_bytes f
  have hopens : cur + 1 < f.bytes.length → FrameOpen (stored b r) := by
    intro hmid
    refine ⟨(hcell 0 (by omega)).trans hhead, fun htwo len hget => ?_⟩
    rw [hcell 1 (by omega), hlen] at hget
    obtain rfl := Option.some.inj hget
    rw [toNat_len]
    omega
  have hends : FrameEnds (stored b r) ↔ cur + 1 = f.bytes.length := by
    constructor
    · rintro ⟨-, htwo, len, hget, hlong, -⟩
      rw [hcell 1 (by omega), hlen] at hget
      obtain rfl := Option.some.inj hget
      rw [toNat_len] at hlong
      omega
    · intro hend
      refine ⟨(hcell 0 (by omega)).trans hhead, by omega, _, (hcell 1 (by omega)).trans hlen, ?_, ?_⟩
      · rw [toNat_len]
        omega
      · rw [toNat_len, hcell _ (by omega)]
        exact hlast
  have hnot : ¬Urgent port (stored b r) := by
    rintro ⟨hport, hend, cmd, hget, hcmd⟩
    have hlong := hends.mp hend
    rw [hcell 2 (by omega)] at hget
    exact hplain hport (by rw [List.getD_eq_getElem?_getD, hget]; exact hcmd)
  rw [intHandler_eq port b (by rw [h.index, htake]; omega)]
  obtain ⟨hurgent, -⟩ | ⟨hend, -, htest⟩ | ⟨hend, -, htest⟩ | ⟨hend, hopen, -⟩ :=
    frameTest_cases port (writeP_stored b r)
  · exact absurd hurgent hnot
  · exact ⟨_, htest, ⟨hnext.index, hnext.cells⟩, by rw [if_pos (hends.mp hend)]; rfl⟩
  · exact ⟨_, htest, hnext, by rw [if_neg (mt hends.mpr hend)]; rfl⟩
  · exact absurd (hopens (by have := mt hends.mpr hend; omega)) hopen

/-! ### The statement -/

section
variable (port : Port)

/-- The consumer left alone for `k` of its steps. -/
def alone (l : Link) (k : Nat) : Link := run (Link.step port) l (List.replicate k .consume)

/--
Every frame that has come is obtained, or will be, once, in order and unaltered: what has been
obtained are the first of them, one turn of the consumer is due for each of the others, and
left alone it obtains them.
-/
structure Delivered (l : Link) : Prop where
  order : l.sta.obtained <+: l.line.done.map Frame.bytes
  count : l.sta.obtained.length + l.sta.rx.sem + (if l.sta.pc = .pend then 0 else 1) =
    l.line.done.length
  settles : ∃ k, (alone port l k).sta.obtained = l.line.done.map Frame.bytes

end

/-- A byte comes only when no frame waits to be taken out, and is not the 64th of its frame. -/
def Calm (l : Link) : Turn → Prop
  | .deliver => l.line.todo ≠ [] →
      l.sta.rx.sem = 0 ∧ l.sta.pc = .pend ∧ l.line.cur + 1 < buffSize
  | .consume => True

instance (l : Link) (t : Turn) : Decidable (Calm l t) := by
  cases t with
  | deliver => exact inferInstanceAs (Decidable (_ → _))
  | consume => exact isTrue trivial

/-! ### The states of a calm run -/

/-- No frame is in the buffer, but what has come of the next one. -/
structure Receiving (l : Link) : Prop where
  pc : l.sta.pc = .pend
  sem : l.sta.rx.sem = 0
  obtained : l.sta.obtained = l.line.done.map Frame.bytes
  cur : ∀ f rest, l.line.todo = f :: rest → l.line.cur < f.bytes.length
  holds : Holds l.sta.rx (l.line.part Frame.bytes)

/-- How far the consumer is with the frame `f`. -/
def Turning (f : Frame) (sem : Nat) : Pc → Prop
  | .pend => sem = 1
  | .len => sem = 0
  | .copy bufflen buff => sem = 0 ∧ bufflen = f.bytes.length ∧ buff <+: f.bytes
  | .reset buff => sem = 0 ∧ buff = f.bytes

/-- The frame `f` is in the buffer, and the consumer takes it out. -/
structure Unread (l : Link) (f : Frame) : Prop where
  cur : l.line.cur = 0
  obtained : ∃ pre, l.line.done = pre ++ [f] ∧ l.sta.obtained = pre.map Frame.bytes
  fits : f.bytes.length < buffSize
  holds : Holds l.sta.rx f.bytes
  turning : Turning f l.sta.rx.sem l.sta.pc

/-- A state of a calm run that hears `frames`. -/
def InOrder (frames : List Frame) (l : Link) : Prop :=
  l.line.done ++ l.line.todo = frames ∧ (Receiving l ∨ ∃ f, Unread l f)

theorem Unread.all {l : Link} {f : Frame} (h : Unread l f) :
    l.line.done.map Frame.bytes = l.sta.obtained ++ [f.bytes] := by
  obtain ⟨pre, hdone, hobtained⟩ := h.obtained
  rw [hdone, hobtained, List.map_append]
  rfl

theorem Unread.mem {l : Link} {f : Frame} (h : Unread l f) : f ∈ l.line.done := by
  obtain ⟨pre, hdone, -⟩ := h.obtained
  rw [hdone]
  exact List.mem_append_right _ (List.mem_singleton.mpr rfl)

theorem bytes_pos (f : Frame) : 0 < f.bytes.length := by
  rw [length_bytes]
  omega

theorem inOrder_start (frames : List Frame) : InOrder frames (Link.start frames) := by
  refine ⟨rfl, Or.inl ⟨rfl, rfl, rfl, fun f _ _ => bytes_pos f, ?_⟩⟩
  rw [Link.start, Line.part_eq_nil rfl]
  exact holds_nil rfl

section
variable {port : Port} {frames : List Frame} {l : Link}

/-! ### Turns -/

theorem step_deliver {b : UInt8} {line : Line Frame}
    (h : l.line.next Frame.bytes = some (b, line)) :
    l.step port .deliver = ⟨(Serial.step port l.sta (.byte b)).getD l.sta, line⟩ := by
  simp only [Link.step, h]

/-- **A byte in a calm run.** -/
theorem inOrder_deliver (hplain : ∀ f ∈ frames, f.Plain port) (h : InOrder frames l)
    (hcalm : Calm l .deliver) : InOrder frames (l.step port .deliver) := by
  obtain hnone | ⟨⟨b, line⟩, hnext⟩ := Option.eq_none_or_eq_some (l.line.next Frame.bytes)
  · have hstay : l.step port .deliver = l := by simp only [Link.step, hnone]
    rwa [hstay]
  rw [step_deliver hnext]
  obtain ⟨f, rest, htodo, hb, hwhere⟩ := Line.next_cases hnext
  obtain ⟨hsem, hpc, hroom⟩ := hcalm (by rw [htodo]; exact List.cons_ne_nil f rest)
  obtain ⟨hall, hstate⟩ := h
  have hall' : line.done ++ line.todo = frames := (Line.msgs_next hnext).trans hall
  have hf : f.Plain port := hplain f (by rw [← hall, htodo]; simp)
  obtain hrecv | ⟨g, hunread⟩ := hstate
  · have hpart : l.line.part Frame.bytes = f.bytes.take l.line.cur := by rw [Line.part, htodo]
    obtain ⟨rx, hrx, hholds, hposted⟩ :=
      intHandler_frame hf (hpart ▸ hrecv.holds) hb hroom
    have hstep : Serial.step port l.sta (.byte b) = some { l.sta with rx } := by
      simp only [Serial.step, hrx, Option.map_some]
    rw [hstep, Option.getD_some]
    rcases hwhere with ⟨hend, rfl⟩ | ⟨hmid, rfl⟩
    · -- the last byte: the frame waits for the consumer
      rw [if_pos hend, hsem] at hposted
      rw [hend, List.take_length] at hholds
      refine ⟨hall', Or.inr ⟨f, rfl, ⟨l.line.done, rfl, hrecv.obtained⟩, hend ▸ hroom, hholds, ?_⟩⟩
      rw [hpc]
      exact hposted
    · rw [if_neg (by omega), hsem] at hposted
      refine ⟨hall', Or.inl ⟨hpc, hposted, hrecv.obtained, ?_, ?_⟩⟩
      · intro f' rest' htodo'
        obtain ⟨rfl, -⟩ := List.cons.inj (htodo.symm.trans htodo')
        exact hmid
      · unfold Line.part
        dsimp only
        rw [htodo]
        exact hholds
  · -- a frame that waits leaves no calm byte
    have hturn := hunread.turning
    rw [hpc, Turning, hsem] at hturn
    exact absurd hturn (by decide)

/-- The consumer waits where nothing has come. -/
theorem receiving_consume (h : Receiving l) : l.step port .consume = l := by
  have hstay : Serial.step port l.sta .consume = some l.sta := by
    simp only [Serial.step, consume, h.pc, h.sem, Nat.lt_irrefl, if_false]
  simp only [Link.step, hstay, Option.getD_some]

/-- How many steps the consumer has still to go at most. -/
def due (f : Frame) : Pc → Nat
  | .pend => f.bytes.length + 4
  | .len => f.bytes.length + 3
  | .copy _ buff => f.bytes.length - buff.length + 2
  | .reset _ => 1

/-- A longer first part of a list. -/
theorem prefix_concat {bs cs : List UInt8} {b : UInt8} (h : bs <+: cs) (hb : cs[bs.length]? = some b) :
    bs ++ [b] <+: cs := by
  rw [List.prefix_iff_eq_take.mp h] at hb ⊢
  rw [List.length_take, Nat.min_eq_left h.length_le] at hb
  rw [show cs.take bs.length ++ [b] = cs.take (bs.length + 1) by rw [List.take_add_one, hb]; rfl]
  exact List.take_prefix _ cs

section
variable {rx : Rx} {obtained : List (List UInt8)} {line : Line Frame} {f : Frame}

/-- A byte is copied, or the copy is complete. -/
theorem unread_copy {bufflen : Nat} {buff : List UInt8}
    (h : Unread ⟨⟨rx, .copy bufflen buff, obtained⟩, line⟩ f) :
    Unread (Link.step port ⟨⟨rx, .copy bufflen buff, obtained⟩, line⟩ .consume) f ∧
      due f (Link.step port ⟨⟨rx, .copy bufflen buff, obtained⟩, line⟩ .consume).sta.pc <
        due f (.copy bufflen buff) := by
  obtain ⟨hcur, hobtained, hfits, hholds, hturn⟩ := h
  obtain ⟨hsem, hlen, hpre⟩ : rx.sem = 0 ∧ bufflen = f.bytes.length ∧ buff <+: f.bytes := hturn
  subst hlen
  by_cases hmore : buff.length < f.bytes.length
  · have hcell := hholds.cells buff.length hmore
    rw [List.getElem?_eq_getElem hmore] at hcell
    have hstep : Serial.step port ⟨rx, .copy f.bytes.length buff, obtained⟩ .consume =
        some ⟨rx, .copy f.bytes.length (buff ++ [f.bytes[buff.length]]), obtained⟩ := by
      simp only [Serial.step, consume, hmore, if_true, hcell]
      rfl
    simp only [Link.step, hstep, Option.getD_some]
    refine ⟨⟨hcur, hobtained, hfits, hholds, hsem, rfl, ?_⟩, ?_⟩
    · exact prefix_concat hpre (List.getElem?_eq_getElem hmore)
    · simp only [due, List.length_append, List.length_singleton]
      omega
  · have hwhole : buff = f.bytes := hpre.eq_of_length_le (Nat.not_lt.mp hmore)
    have hstep : Serial.step port ⟨rx, .copy f.bytes.length buff, obtained⟩ .consume =
        some ⟨rx, .reset buff, obtained⟩ := by
      simp only [Serial.step, consume, hmore, if_false]
    simp only [Link.step, hstep, Option.getD_some]
    refine ⟨⟨hcur, hobtained, hfits, hholds, hsem, hwhole⟩, ?_⟩
    simp only [due]
    omega

/-- The buffer is given free, and the frame is obtained. -/
theorem receiving_reset {buff : List UInt8}
    (h : Unread ⟨⟨rx, .reset buff, obtained⟩, line⟩ f) :
    Receiving (Link.step port ⟨⟨rx, .reset buff, obtained⟩, line⟩ .consume) := by
  obtain ⟨hcur, ⟨pre, hdone, hpre⟩, -, -, hturn⟩ := h
  obtain ⟨hsem, hwhole⟩ : rx.sem = 0 ∧ buff = f.bytes := hturn
  dsimp only at hcur hdone hpre
  simp only [Link.step, Serial.step, consume, Option.getD_some]
  refine ⟨rfl, hsem, ?_, ?_, ?_⟩
  · dsimp only
    rw [hwhole, hpre, hdone, List.map_append]
    rfl
  · intro g rest _
    dsimp only
    rw [hcur]
    exact bytes_pos g
  · dsimp only
    rw [Line.part_eq_nil hcur]
    exact holds_nil rfl

end

/-- **A step of the consumer** brings it nearer to the end of its turn, or ends it. -/
theorem unread_consume {f : Frame} (h : Unread l f) :
    (Unread (l.step port .consume) f ∧ due f (l.step port .consume).sta.pc < due f l.sta.pc) ∨
      Receiving (l.step port .consume) := by
  obtain ⟨⟨rx, pc, obtained⟩, line⟩ := l
  cases pc with
  | pend =>
      obtain ⟨hcur, hobtained, hfits, hholds, hturn⟩ := h
      have hsem : rx.sem = 1 := hturn
      have hstep : Serial.step port ⟨rx, .pend, obtained⟩ .consume =
          some ⟨{ rx with sem := 0 }, .len, obtained⟩ := by
        simp only [Serial.step, consume, hsem, Nat.lt_add_one, if_true, Nat.sub_self]
      simp only [Link.step, hstep, Option.getD_some]
      exact Or.inl ⟨⟨hcur, hobtained, hfits, ⟨hholds.index, hholds.cells⟩, rfl⟩, Nat.lt_add_one _⟩
  | len =>
      obtain ⟨hcur, hobtained, hfits, hholds, hturn⟩ := h
      have hsem : rx.sem = 0 := hturn
      have hlen : rx.writeP = f.bytes.length := hholds.index
      simp only [Link.step, Serial.step, consume, Option.getD_some]
      refine Or.inl ⟨⟨hcur, hobtained, hfits, hholds, hsem, hlen, List.nil_prefix⟩, ?_⟩
      simp [due]
  | copy bufflen buff => exact Or.inl (unread_copy h)
  | reset buff => exact Or.inr (receiving_reset h)

theorem inOrder_consume (h : InOrder frames l) : InOrder frames (l.step port .consume) := by
  obtain ⟨hall, hrecv | ⟨f, hunread⟩⟩ := h
  · rw [receiving_consume hrecv]
    exact ⟨hall, Or.inl hrecv⟩
  · obtain ⟨hnext, -⟩ | hdone := unread_consume hunread
    · exact ⟨hall, Or.inr ⟨f, hnext⟩⟩
    · exact ⟨hall, Or.inl hdone⟩

theorem inOrder_step (hplain : ∀ f ∈ frames, f.Plain port) (h : InOrder frames l) {t : Turn}
    (ht : Calm l t) : InOrder frames (l.step port t) := by
  cases t with
  | deliver => exact inOrder_deliver hplain h ht
  | consume => exact inOrder_consume h

/-! ### What the states say -/

/-- The consumer left alone takes the frame out. -/
theorem unread_settles {f : Frame} (h : Unread l f) :
    ∃ k, (alone port l k).sta.obtained = l.line.done.map Frame.bytes := by
  obtain ⟨n, hn⟩ : ∃ n, due f l.sta.pc ≤ n := ⟨_, Nat.le_refl _⟩
  induction n generalizing l with
  | zero =>
      exfalso
      revert hn
      cases l.sta.pc <;> simp [due]
  | succ n ih =>
      obtain ⟨hnext, hless⟩ | hdone := unread_consume h
      · obtain ⟨k, hk⟩ := ih hnext (by omega)
        exact ⟨k + 1, hk⟩
      · exact ⟨1, hdone.obtained⟩

theorem delivered_of_inOrder (h : InOrder frames l) : Delivered port l := by
  obtain ⟨-, hrecv | ⟨f, hunread⟩⟩ := h
  · refine ⟨?_, ?_, 0, hrecv.obtained⟩
    · rw [hrecv.obtained]
    · rw [hrecv.obtained, hrecv.sem, hrecv.pc, List.length_map]
      rfl
  · refine ⟨⟨[f.bytes], hunread.all.symm⟩, ?_, unread_settles hunread⟩
    have hlen : l.line.done.length = l.sta.obtained.length + 1 := by
      have := congrArg List.length hunread.all
      simpa using this
    have hturn := hunread.turning
    rw [hlen]
    cases hpc : l.sta.pc with
    | pend =>
        rw [hpc] at hturn
        rw [show l.sta.rx.sem = 1 from hturn]
        rfl
    | len =>
        rw [hpc] at hturn
        rw [show l.sta.rx.sem = 0 from hturn]
        rfl
    | copy bufflen buff =>
        rw [hpc] at hturn
        rw [hturn.1]
        rfl
    | reset buff =>
        rw [hpc] at hturn
        rw [hturn.1]
        rfl

end

/-! ### What goes wrong otherwise -/

section
variable {port : Port} {l : Link}

/-- A byte behind a frame that is still in the buffer posts the frame once more. -/
theorem intHandler_behind {f : Frame} (hplain : f.Plain port) {r : Rx} (h : Holds r f.bytes)
    (hroom : f.bytes.length + 1 < 64) (b : UInt8) :
    ∃ rx, intHandler port b r = some rx ∧ rx.sem = r.sem + 1 := by
  have hnext := h.stored b hroom
  have hcell : ∀ i, i < f.bytes.length → (stored b r).pbuff[i]? = f.bytes[i]? := by
    intro i hi
    rw [hnext.cells i (by rw [List.length_append]; omega), List.getElem?_append_left hi]
  have hindex : (stored b r).writeP = f.bytes.length + 1 := by
    rw [hnext.index, List.length_append]
    rfl
  obtain ⟨hhead, hlen, hlast⟩ := bytes_getElem? f
  have htotal := length_bytes f
  have hend : FrameEnds (stored b r) := by
    refine ⟨(hcell 0 (by omega)).trans hhead, by omega, _, (hcell 1 (by omega)).trans hlen, ?_, ?_⟩
    · rw [toNat_len]
      omega
    · rw [toNat_len, hcell _ (by omega)]
      exact hlast
  rw [intHandler_eq port b (by rw [h.index]; omega)]
  obtain ⟨⟨hport, -, cmd, hget, hcmd⟩, -⟩ | ⟨-, -, htest⟩ | ⟨hnot, -⟩ | ⟨hnot, -⟩ :=
    frameTest_cases port (writeP_stored b r)
  · rw [hcell 2 (by omega)] at hget
    exact absurd hcmd (by
      have hne := hplain hport
      rwa [List.getD_eq_getElem?_getD, hget] at hne)
  · exact ⟨_, htest, rfl⟩
  · exact absurd hend hnot
  · exact absurd hend hnot

/-- The 64th byte of a frame sets the index back and posts nothing. -/
theorem intHandler_full (port : Port) {f : Frame} {r : Rx} (h : Holds r (f.bytes.take 63))
    (hfull : f.bytes.length = 64) (b : UInt8) :
    ∃ rx, intHandler port b r = some rx ∧ rx.sem = r.sem := by
  have htake : (f.bytes.take 63).length = 63 := List.length_take_of_le (by omega)
  have hindex : r.writeP = 63 := h.index.trans htake
  have hzero : (stored b r).writeP = 0 := by
    rw [stored, hindex]
    rfl
  rw [intHandler_eq port b (by rw [hindex]; decide)]
  obtain ⟨⟨-, ⟨-, htwo, -⟩, -⟩, -⟩ | ⟨⟨-, htwo, -⟩, -⟩ | ⟨-, -, htest⟩ | ⟨-, -, htest⟩ :=
    frameTest_cases port (writeP_stored b r)
  · exact absurd htwo (by rw [hzero]; decide)
  · exact absurd htwo (by rw [hzero]; decide)
  · exact ⟨_, htest, rfl⟩
  · exact ⟨_, htest, rfl⟩

/-- The ledger is wrong behind a byte that ends a frame and posts nothing, or the other way
round. -/
theorem not_delivered_deliver {b : UInt8} {line : Line Frame} {rx : Rx} (hnow : Delivered port l)
    (hnext : l.line.next Frame.bytes = some (b, line))
    (hrx : intHandler port b l.sta.rx = some rx)
    (hne : line.done.length + l.sta.rx.sem ≠ l.line.done.length + rx.sem) :
    ¬Delivered port (l.step port .deliver) := by
  intro hlater
  have hcount := hlater.count
  have hcount' := hnow.count
  simp only [step_deliver hnext, Serial.step, hrx, Option.map_some, Option.getD_some] at hcount
  omega

/-- The 64th byte of a frame ends it unseen. -/
theorem not_delivered_full (h : Receiving l) (hnow : Delivered port l) (htodo : l.line.todo ≠ [])
    (hnot : ¬Calm l .deliver) : ¬Delivered port (l.step port .deliver) := by
  obtain ⟨f, rest, htodo⟩ := List.exists_cons_of_ne_nil htodo
  have hcur := h.cur f rest htodo
  have hsmall := f.small
  have htotal := length_bytes f
  have hlast : l.line.cur = 63 := by
    by_contra hne
    exact hnot fun _ => ⟨h.sem, h.pc, by unfold buffSize; omega⟩
  obtain ⟨b, line, hnext⟩ := Line.exists_next htodo hcur
  have hpart : l.line.part Frame.bytes = f.bytes.take 63 := by rw [Line.part, htodo, hlast]
  obtain ⟨rx, hrx, hsem⟩ := intHandler_full port (hpart ▸ h.holds) (by omega) b
  have hdone : line.done = l.line.done ++ [f] := by
    obtain ⟨g, rest', htodo', -, ⟨-, rfl⟩ | ⟨hmid, -⟩⟩ := Line.next_cases hnext
    · rw [(List.cons.inj (htodo.symm.trans htodo')).1]
    · rw [(List.cons.inj (htodo'.symm.trans htodo)).1] at hmid
      omega
  refine not_delivered_deliver hnow hnext hrx ?_
  rw [hdone, hsem, List.length_append, List.length_singleton]
  omega

/-- A byte behind a frame that waits is taken for its end. -/
theorem not_delivered_behind {f : Frame} (h : Unread l f) (hplain : f.Plain port)
    (hshort : f.bytes.length ≠ 63) (hnow : Delivered port l) (htodo : l.line.todo ≠ []) :
    ¬Delivered port (l.step port .deliver) := by
  obtain ⟨g, rest, htodo⟩ := List.exists_cons_of_ne_nil htodo
  have hfits := h.fits
  have hlong := length_bytes g
  obtain ⟨b, line, hnext⟩ := Line.exists_next htodo (by rw [h.cur]; exact bytes_pos g)
  obtain ⟨rx, hrx, hsem⟩ :=
    intHandler_behind hplain h.holds (by unfold buffSize at hfits; omega) b
  have hdone : line.done = l.line.done := by
    obtain ⟨g', rest', htodo', -, ⟨hend, -⟩ | ⟨-, rfl⟩⟩ := Line.next_cases hnext
    · rw [(List.cons.inj (htodo'.symm.trans htodo)).1, h.cur] at hend
      omega
    · rfl
  refine not_delivered_deliver hnow hnext hrx ?_
  rw [hdone, hsem]
  omega

/-- A byte that is not calm leaves the ledger wrong, unless the frame before it has 63 bytes. -/
theorem not_delivered_of_not_calm {frames : List Frame} (hplain : ∀ f ∈ frames, f.Plain port)
    (hshort : ∀ f ∈ frames, f.bytes.length ≠ 63) (h : InOrder frames l) {t : Turn}
    (ht : ¬Calm l t) : ¬Delivered port (l.step port t) := by
  have hnow : Delivered port l := delivered_of_inOrder h
  cases t with
  | consume => exact absurd trivial ht
  | deliver =>
      obtain ⟨htodo, -⟩ := Classical.not_imp.mp ht
      obtain ⟨hall, hrecv | ⟨f, hunread⟩⟩ := h
      · exact not_delivered_full hrecv hnow htodo ht
      · have hmem : f ∈ frames := by
          rw [← hall]
          exact List.mem_append_left _ hunread.mem
        exact not_delivered_behind hunread (hplain f hmem) (hshort f hmem) hnow htodo

end

/-! ### Runs -/

/-- **In a calm run every frame reaches the consumer**, once, in order and unaltered. -/
theorem delivered_of_calm {port : Port} {frames : List Frame}
    (hplain : ∀ f ∈ frames, f.Plain port) {ts : List Turn}
    (hcalm : AllSteps (Link.step port) Calm (Link.start frames) ts) :
    AllStates (Link.step port) (Delivered port) (Link.start frames) ts := by
  rintro pre post rfl
  have hpre := ((allSteps_append _ pre post).mp hcalm).1
  refine delivered_of_inOrder (inv_run ?_ (inOrder_start frames) hpre)
  intro l t h ht
  exact inOrder_step hplain h ht

/-- Where no frame has 63 bytes, only in calm runs. -/
theorem delivered_iff_calm {port : Port} {frames : List Frame} (hplain : ∀ f ∈ frames, f.Plain port)
    (hshort : ∀ f ∈ frames, f.bytes.length ≠ 63) (ts : List Turn) :
    AllStates (Link.step port) (Delivered port) (Link.start frames) ts ↔
      AllSteps (Link.step port) Calm (Link.start frames) ts :=
  allStates_iff_of_inv (fun l (h : InOrder frames l) => delivered_of_inOrder h)
    (fun _ _ h ht => inOrder_step hplain h ht)
    (fun _ _ h ht => not_delivered_of_not_calm hplain hshort h ht) (inOrder_start frames) ts

/-! ### Two frames on end -/

/-- The query of the front panel for the current satellite. -/
def queryFrame : Frame := ⟨[0x08, 0x01, 0x00], 0xC8, by decide⟩

/-- Two of them, with the consumer between. -/
def calmTurns : List Turn :=
  List.replicate 7 .deliver ++ List.replicate 11 .consume ++ List.replicate 7 .deliver

theorem delivered_calmTurns :
    AllStates (Link.step .oled) (Delivered .oled) (Link.start [queryFrame, queryFrame]) calmTurns :=
  delivered_of_calm (by decide) (by decide +kernel)

/-- The second begins before the consumer has taken the first out. -/
theorem back_to_back_lost :
    ¬AllStates (Link.step .oled) (Delivered .oled) (Link.start [queryFrame, queryFrame])
      (List.replicate 8 .deliver) := by
  intro h
  have hcount := (h (List.replicate 8 .deliver) [] (List.append_nil _).symm).count
  exact absurd hcount (by decide +kernel)

end SwiftAcu.Serial
