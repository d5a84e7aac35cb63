/-
All satellites are sent.

The query goes through the list, reads each satellite from its slot, and sends what it
has read in datagrams of up to 40 frames.  It stops once it has sent as many frames as
the list counts, which is at the end of the list as long as the count is right.
-/
import SwiftAcu.Lib.Batches
import SwiftAcu.Proofs.Sat.Store

namespace SwiftAcu.Sat

open PcComm

variable [SoftFloat]

/-- The frame of the satellite `id`. -/
def frame (cmd_id : Nat) (id : UInt8) (bytes : List UInt8) : List UInt8 :=
  let front := [0xBC, 30] ++ answerId cmd_id ++ [27, id] ++ bytes
  front ++ [checkSum8BitGet front, 0xCB]

/-- The frames of the satellites at the first `k` places. -/
def framesTo (cmd_id : Nat) (sats : Sats) (k : Nat) : List (List UInt8) :=
  (List.range k).filterMap fun i => (sats (slotLabel i)).map (frame cmd_id (slotLabel i))

/-- The frames of all satellites. -/
def frames (cmd_id : Nat) (sats : Sats) : List (List UInt8) := framesTo cmd_id sats satMax

/-- A stored satellite is sent as it is. -/
theorem satFrame_eq {cmd_id : Nat} {m : Eeprom} {i : Nat} {p : SatParam} {bytes : List UInt8}
    (hi : i < satMax) (hslot : slot m i = slotLabel i :: bytes) (hback : LonComesBack bytes)
    (hread : satParamRead (slotLabel i) m = some p) :
    satFrame cmd_id p = frame cmd_id (slotLabel i) bytes := by
  have hlen : (slotLabel i :: bytes).length = 27 := by rw [← hslot, length_slot]
  rw [satParamRead_slot hi, hslot] at hread
  have hp : satParamOf (slotLabel i :: bytes) = p := by simpa using hread
  have hbytes : satParamBytes p = bytes := by
    rw [← hp, satParamBytes_satParamOf hlen hback]
    rfl
  have hid : p.id = slotLabel i := by rw [← hp]; rfl
  have hhead : satFrameHead cmd_id p =
      [0xBC, 30] ++ answerId cmd_id ++ [27, slotLabel i] ++ bytes := by
    rw [satFrameHead, hbytes, hid]
    simp only [List.append_assoc, List.cons_append, List.nil_append]
  rw [satFrame, hhead]
  rfl

section
variable {cmd_id : Nat} {sats : Sats} {d : Device}

/-- The query when it has come to place `k`. -/
structure QueAt (cmd_id : Nat) (sats : Sats) (d : Device) (k : Nat) (q : SatQue) : Prop where
  sending : Batches.Sending 40 (framesTo cmd_id sats k) q.sent q.buff q.satNum.toNat
  num : q.satTotalNum.toNat = Slots.used k d.satList.satId
  stopped : q.stopped = true → d.satList.total.toNat ≤ Slots.used k d.satList.satId

omit [SoftFloat] in
theorem used_succ (k : Nat) (ids : Nat → UInt8) :
    Slots.used (k + 1) ids = Slots.used k ids + if ids k ≠ 0 then 1 else 0 := Nat.count_succ _ _

omit [SoftFloat] in
/-- A frame is put into the buffer, which is sent when it holds 40. -/
theorem sending_flush {items : List (List UInt8)} {q : SatQue} {item : List UInt8}
    (h : Batches.Sending 40 items q.sent q.buff q.satNum.toNat) (total : UInt8) :
    let q' := { q with buff := q.buff ++ item, satNum := q.satNum + 1, satTotalNum := total }.flush
    Batches.Sending 40 (items ++ [item]) q'.sent q'.buff q'.satNum.toNat := by
  have hroom := h.room
  have hsucc : (q.satNum + 1).toNat = q.satNum.toNat + 1 := by
    rw [UInt8.toNat_add]
    show (q.satNum.toNat + 1) % 2 ^ 8 = _
    omega
  dsimp only
  unfold SatQue.flush
  split
  · next hfull =>
      have hfull : 40 ≤ (q.satNum + 1).toNat := UInt8.le_iff_toNat_le.mp hfull
      exact h.flush (by omega)
  · next hmore =>
      have hmore : ¬ 40 ≤ (q.satNum + 1).toNat := fun hle => hmore (UInt8.le_iff_toNat_le.mpr hle)
      rw [show ({ q with buff := q.buff ++ item, satNum := q.satNum + 1, satTotalNum := total }
        : SatQue).satNum.toNat = q.satNum.toNat + 1 from hsucc]
      exact h.put (by omega)

omit [SoftFloat] in
theorem flush_satTotalNum (q : SatQue) : q.flush.satTotalNum = q.satTotalNum := by
  unfold SatQue.flush
  split <;> rfl

/-- **One round of the query.** -/
theorem QueAt.step {k : Nat} {q : SatQue} (hst : Stored sats d.satList.satId d.eeprom)
    (hin : InStep d.satList) (h : QueAt cmd_id sats d k q) (hk : k < satMax) :
    QueAt cmd_id sats d (k + 1) (satQueStep cmd_id d q k) := by
  have htotal : d.satList.total.toNat = Slots.used satMax d.satList.satId := hin.total_eq
  have hframes : framesTo cmd_id sats (k + 1) = framesTo cmd_id sats k ++
      ((sats (slotLabel k)).map (frame cmd_id (slotLabel k))).toList := by
    rw [framesTo, List.range_succ, List.filterMap_append]
    congr 1
  by_cases hfree : d.satList.satId k = 0
  · have hskip : satQueStep cmd_id d q k = q := by rw [satQueStep, if_pos (Or.inr hfree)]
    have hnone : sats (slotLabel k) = none := by
      rw [← Option.not_isSome_iff_eq_none, hst.isSome_iff hk]
      exact not_not.mpr hfree
    have hused : Slots.used (k + 1) d.satList.satId = Slots.used k d.satList.satId := by
      simp [used_succ, hfree]
    rw [hskip]
    refine ⟨?_, by rw [hused]; exact h.num, by rw [hused]; exact h.stopped⟩
    rw [hframes, hnone]
    simpa using h.sending
  · have hused : Slots.used (k + 1) d.satList.satId = Slots.used k d.satList.satId + 1 := by
      simp [used_succ, hfree]
    have hle : Slots.used (k + 1) d.satList.satId ≤ Slots.used satMax d.satList.satId :=
      Nat.count_monotone _ hk
    have hmax : Slots.used satMax d.satList.satId ≤ 100 := Slots.used_le _ _
    have hmore : ¬ q.stopped = true := fun hstopped => by
      have := h.stopped hstopped
      omega
    obtain ⟨bytes, hbytes⟩ := Option.isSome_iff_exists.mp ((hst.isSome_iff hk).mpr hfree)
    obtain ⟨p, hp⟩ := Option.isSome_iff_exists.mp (hst.found hk hfree)
    have hlabel := (hst.labelled k hk).resolve_left hfree
    have hframe : satFrame cmd_id p = frame cmd_id (slotLabel k) bytes :=
      satFrame_eq hk (hst.slot k hk bytes hbytes) (hst.back _ bytes hbytes) hp
    have hsucc : (q.satTotalNum + 1).toNat = q.satTotalNum.toNat + 1 := by
      rw [UInt8.toNat_add]
      show (q.satTotalNum.toNat + 1) % 2 ^ 8 = _
      have := h.num
      omega
    rw [satQueStep, if_neg (not_or.mpr ⟨hmore, hfree⟩), hlabel, hp]
    refine ⟨?_, ?_, fun hstopped => ?_⟩
    · rw [hframes, hbytes, Option.map_some, Option.toList_some, ← hframe]
      exact sending_flush h.sending (q.satTotalNum + 1)
    · show (SatQue.flush _).satTotalNum.toNat = _
      rw [flush_satTotalNum, hused]
      exact hsucc.trans (congrArg (· + 1) h.num)
    · have hstopped : d.satList.total.toNat ≤ (SatQue.flush _).satTotalNum.toNat :=
        of_decide_eq_true hstopped
      rw [flush_satTotalNum] at hstopped
      rw [hused, ← h.num]
      exact hstopped.trans hsucc.le

/-- **The query sends the frames of all satellites**, in batches of up to 40. -/
theorem sent_saveAllSatParamQue (hst : Stored sats d.satList.satId d.eeprom)
    (hin : InStep d.satList) :
    Batches.Sent 40 (frames cmd_id sats) (saveAllSatParamQue cmd_id d).1 := by
  have hrun (k : Nat) (hk : k ≤ satMax) : QueAt cmd_id sats d k
      ((List.range k).foldl (satQueStep cmd_id d) ⟨[], 0, 0, [], false⟩) := by
    induction k with
    | zero => exact ⟨.start (by decide), rfl, fun h => absurd h (by simp)⟩
    | succ k ih =>
        rw [List.range_succ, List.foldl_append]
        exact (ih (by omega)).step hst hin hk
  have hend := (hrun satMax (Nat.le_refl satMax)).sending
  unfold saveAllSatParamQue
  generalize (List.range satMax).foldl (satQueStep cmd_id d) ⟨[], 0, 0, [], false⟩ = q at hend
  have hroom : q.satNum < 40 := UInt8.lt_iff_toNat_lt.mpr hend.room
  have hpos : 0 < q.satNum ↔ 0 < q.satNum.toNat := UInt8.lt_iff_toNat_lt
  simp only [hroom, true_and, hpos]
  exact hend.finish

end

end SwiftAcu.Sat
