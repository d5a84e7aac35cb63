/-
Which replies the receiver's query takes for an answer.

The channel carries answers of other kinds, and the three bytes of the header tell them apart.
The test refuses a reply only when all three differ, so what passes has one byte of a header;
it is then read to its `valid`, which is kept, and to the end if that is `'A'`.  The queries of
the power unit refuse a reply when one byte differs.
-/
import SwiftAcu.Acu.Gps

namespace SwiftAcu

/-- The reply has the command and the length of an answer to this query. -/
def IsGpsAnswer (reply : List UInt8) : Prop :=
  reply[2]? = some 0x8C ∧ reply[3]? = some 0x01 ∧ reply[4]? = some 0x16

instance (reply : List UInt8) : Decidable (IsGpsAnswer reply) :=
  inferInstanceAs (Decidable (_ ∧ _))

/-- The byte of `revbuff` where the reply is, and what the stack held behind it. -/
def recvByte (stack : Vector UInt8 32) (reply : List UInt8) (i : Nat) : UInt8 :=
  (reply ++ stack.toList.drop reply.length).getD i 0

/-- No byte of the header is that of an answer. -/
def HeaderDiffers (stack : Vector UInt8 32) (reply : List UInt8) : Prop :=
  recvByte stack reply 2 ≠ 0x8C ∧ recvByte stack reply 3 ≠ 0x01 ∧ recvByte stack reply 4 ≠ 0x16

instance (stack : Vector UInt8 32) (reply : List UInt8) : Decidable (HeaderDiffers stack reply) :=
  inferInstanceAs (Decidable (_ ∧ _))

/-- The query writes inside its buffer; only an answer changes what is known of the receiver and
of the position, and only a valid one changes the position. -/
def Recognises (stack : Vector UInt8 32) (reply : List UInt8) (r : Receiver) : Prop :=
  ∃ ret r', gpsDataGet stack (some reply) r = some (ret, r') ∧
    (¬ IsGpsAnswer reply →
      ret = .FAIL ∧ r'.gpsData = r.gpsData ∧ r'.localPosition = r.localPosition) ∧
    ∀ valid, reply[5]? = some valid → valid ≠ 0x41 → r'.localPosition = r.localPosition

section
variable {stack : Vector UInt8 32} {reply : List UInt8} {r : Receiver}

theorem recvByte_of_getElem {i : Nat} {b : UInt8} (h : reply[i]? = some b) :
    recvByte stack reply i = b := by
  obtain ⟨hlt, -⟩ := List.getElem?_eq_some_iff.mp h
  rw [recvByte, List.getD_append _ _ _ _ hlt, List.getD_eq_getElem?_getD, h, Option.getD_some]

theorem gpsDataGet_long (h : ¬ reply.length ≤ 32) : gpsDataGet stack (some reply) r = none := by
  rw [gpsDataGet, recvInto, if_neg h]
  rfl

/-! ### The three ways of a reply -/

section
variable (hlen : reply.length ≤ 32)
include hlen

theorem gpsDataGet_refused (h : HeaderDiffers stack reply) :
    gpsDataGet stack (some reply) r = some (.FAIL, { r with pduLinkStat := 0 }) := by
  rw [gpsDataGet, recvInto, if_pos hlen]
  exact if_pos h

theorem gpsDataGet_invalid (h : ¬ HeaderDiffers stack reply)
    (hvalid : recvByte stack reply 5 ≠ 0x41) :
    gpsDataGet stack (some reply) r =
      some (.FAIL, { r with
        pduLinkStat := 0, gpsData := { r.gpsData with valid := recvByte stack reply 5 } }) := by
  rw [gpsDataGet, recvInto, if_pos hlen]
  exact (if_neg h).trans (if_pos hvalid)

theorem gpsDataGet_valid (h : ¬ HeaderDiffers stack reply)
    (hvalid : recvByte stack reply 5 = 0x41) :
    gpsDataGet stack (some reply) r =
      some (.SUCC, Receiver.locate { r with
        pduLinkStat := 0
        gpsData := { r.gpsData with valid := recvByte stack reply 5 }.fill
          (reply ++ stack.toList.drop reply.length) }) := by
  rw [gpsDataGet, recvInto, if_pos hlen]
  exact (if_neg h).trans (if_neg (not_not.mpr hvalid))

/-- A reply that is read to its end takes the position from its source. -/
theorem recognises_iff_of_length :
    Recognises stack reply r ↔ IsGpsAnswer reply ∨ HeaderDiffers stack reply ∨
      recvByte stack reply 5 ≠ 0x41 ∧ recvByte stack reply 5 = r.gpsData.valid := by
  by_cases hdiffers : HeaderDiffers stack reply
  · refine iff_of_true ?_ (Or.inr (Or.inl hdiffers))
    exact ⟨_, _, gpsDataGet_refused hlen hdiffers, fun _ => ⟨rfl, rfl, rfl⟩, fun _ _ _ => rfl⟩
  · rw [or_iff_right hdiffers]
    by_cases hvalid : recvByte stack reply 5 = 0x41
    · rw [or_iff_left fun h => h.1 hvalid]
      have hget := gpsDataGet_valid (r := r) hlen hdiffers hvalid
      constructor
      · rintro ⟨ret, r', h, hother, -⟩
        by_contra hno
        obtain ⟨rfl, -⟩ := Prod.mk.inj (Option.some.inj (hget.symm.trans h))
        exact Ret.noConfusion (hother hno).1
      · intro hanswer
        refine ⟨_, _, hget, fun hno => absurd hanswer hno, fun valid h hne => ?_⟩
        exact absurd ((recvByte_of_getElem h).symm.trans hvalid) hne
    · have hget := gpsDataGet_invalid (r := r) hlen hdiffers hvalid
      constructor
      · rintro ⟨ret, r', h, hother, -⟩
        by_cases hanswer : IsGpsAnswer reply
        · exact Or.inl hanswer
        · obtain ⟨-, rfl⟩ := Prod.mk.inj (Option.some.inj (hget.symm.trans h))
          have hsame := congrArg (fun g : GpsRecord => g.valid) (hother hanswer).2.1
          exact Or.inr ⟨hvalid, hsame⟩
      · intro h
        refine ⟨_, _, hget, fun hno => ?_, fun _ _ _ => rfl⟩
        obtain ⟨-, hsame⟩ := h.resolve_left hno
        rw [hsame]
        exact ⟨rfl, rfl, rfl⟩

end

/--
**A reply is recognised when all three bytes of its header are wrong**, or none is; otherwise
only if it ends at its `valid`, and that is what was known.
-/
theorem gpsDataGet_recognises_iff (stack : Vector UInt8 32) (reply : List UInt8) (r : Receiver) :
    Recognises stack reply r ↔ reply.length ≤ 32 ∧
      (IsGpsAnswer reply ∨ HeaderDiffers stack reply ∨
        recvByte stack reply 5 ≠ 0x41 ∧ recvByte stack reply 5 = r.gpsData.valid) := by
  by_cases hlen : reply.length ≤ 32
  · rw [and_iff_right hlen]
    exact recognises_iff_of_length hlen
  · refine iff_of_false ?_ fun h => hlen h.1
    rintro ⟨ret, r', h, -⟩
    exact Option.some_ne_none _ (h.symm.trans (gpsDataGet_long hlen))

/-- A state of the power unit becomes a position: `BC 08 8C 02 05 41 …`. -/
theorem not_gpsDataGet_recognises :
    ¬ ∀ (stack : Vector UInt8 32) (reply : List UInt8) (r : Receiver), reply.length ≤ 32 →
      Recognises stack reply r := by
  intro h
  have hall := h (Vector.replicate 32 0)
    [0xBC, 0x08, 0x8C, 0x02, 0x05, 0x41, 0x00, 0x00, 0x00, 0x00, 0x98, 0xCB]
    { gpsData := ⟨⟨0, 0, 0, 0, 0, 0⟩, 0, 0, 0, 0, 0, 0⟩
      localPosition := ⟨0, 0, 0, 0, 0, 0, 0⟩
      pduLinkStat := 0 } (by decide)
  exact absurd ((recognises_iff_of_length (by decide)).mp hall) (by decide)

end

end SwiftAcu
