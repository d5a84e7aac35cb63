/-
The satellites that are stored.

What the list and the slots are for is a map from ids to satellites: setting one writes
the map at its id, deleting takes ids out.  The map says nothing of counts and places;
the device carries it out with a list in RAM, a slot for each id, and one stored count.
The three agree as long as no command puts the list out of step, and then a start finds
the whole map: the satellites that are no longer in the map, and still in their slots,
all lie behind those that are.
-/
import SwiftAcu.Proofs.Param.Codec
import SwiftAcu.Proofs.Sat.List

namespace SwiftAcu.Sat

open Fields

variable [SoftFloat]

/-! ### Slots -/

/-- The bytes of the slot of place `i`. -/
def slot (m : Eeprom) (i : Nat) : List UInt8 := paramRead m (satParamAddr (slotLabel i)) 27

omit [SoftFloat] in
theorem length_slot (m : Eeprom) (i : Nat) : (slot m i).length = 27 := Memory.length_read _ _ _

theorem satParamRead_slot {i : Nat} (hi : i < satMax) (m : Eeprom) :
    satParamRead (slotLabel i) m =
      if slotLabel i ≠ (slot m i).getD 0 0 then none else some (satParamOf (slot m i)) := by
  have hne : slotLabel i ≠ 0 := (labels_slotLabel (by decide)).ne_zero i hi
  exact if_neg (UInt8.not_le.mpr (UInt8.pos_iff_ne_zero.mpr hne))

theorem found_iff {i : Nat} (hi : i < satMax) (m : Eeprom) :
    Found m i ↔ (slot m i).getD 0 0 = slotLabel i := by
  rw [Found, satParamRead_slot hi]
  split
  · next h => exact iff_of_false (by simp) (Ne.symm h)
  · next h => exact iff_of_true rfl (not_not.mp h).symm

theorem found_of_slot {m m' : Eeprom} {i : Nat} (hi : i < satMax) (h : slot m i = slot m' i) :
    Found m i ↔ Found m' i := by
  rw [found_iff hi, found_iff hi, h]

omit [SoftFloat] in
theorem addr16_slot {i : Nat} (hi : i < satMax) : addr16 (satParamAddr (slotLabel i)) =
    (Param.satParam (.ofPlace (by decide) hi)).addr :=
  Param.addr16_satParamAddr (.ofPlace (by decide) hi)

omit [SoftFloat] in
theorem readsIn_slot {i : Nat} (hi : i < satMax) :
    Memory.ReadsIn (fun m => slot m i) (Param.satParam (.ofPlace (by decide) hi)).addr 27 :=
  Param.readsIn_paramRead (addr16_slot hi)

/-- What is written elsewhere leaves the slots. -/
theorem slot_save {i : Nat} (hi : i < satMax) {x : Param} (hx : ∀ j, x ≠ .satParam j) (v : x.Value)
    (m : Eeprom) : slot (x.save v m) i = slot m i :=
  Param.frame (readsIn_slot hi) (hx _) v m

omit [SoftFloat] in
theorem slot_write_self (i : Nat) {bs : List UInt8} (hlen : bs.length = 27) (m : Eeprom) :
    slot (paramSave (satParamAddr (slotLabel i)) bs m) i = bs := by
  rw [slot, ← hlen]
  exact Memory.read_write_same _ _ _

omit [SoftFloat] in
theorem slot_write_other {i j : Nat} (hi : i < satMax) (hj : j < satMax) (hij : i ≠ j)
    {bs : List UInt8} (hlen : bs.length ≤ 27) (m : Eeprom) :
    slot (paramSave (satParamAddr (slotLabel j)) bs m) i = slot m i := by
  refine (readsIn_slot hi).frame (Param.writesIn_paramSave (addr16_slot hj) hlen) ?_ m
  refine Param.disjoint fun heq => hij ?_
  have hlabel : slotLabel j = slotLabel i := congrArg SlotId.id (Param.satParam.inj heq)
  exact ((labels_slotLabel (n := satMax) (by decide)).inj j hj i hi hlabel).symm

theorem slot_paramInit {i : Nat} (hi : i < satMax) (m : Eeprom) :
    slot (paramInit m).eeprom i = slot m i :=
  read_paramInit (readsIn_slot hi) (by simp) (by simp) (by simp) m

/-- What a satellite is set from is stored as it was, if its longitude is not negative and comes
back. -/
theorem satParamBytes_addSatParam {pbuff : List UInt8} (hlen : pbuff.length = 27)
    (hlon : ofBe32At pbuff 18 < 2 ^ 31) (hback : ComesBack (ofBe32At pbuff 18)) (id : UInt8) :
    satParamBytes (addSatParam id pbuff) = pbuff.drop 1 := by
  have hlon' : int32u (thousandths (addSatParam id pbuff).lon) = ofBe32At pbuff 18 := by
    show int32u (thousandths (degreeOf (ofBe32sAt pbuff 18))) = _
    rw [ofBe32sAt_of_lt hlon]
    exact hback
  exact satParamBytes_eq_drop hlen rfl rfl hlon' rfl rfl

/-! ### The map -/

/-- For each id that is stored its satellite: name, longitude, frequency and polarisation, as the
bytes of the protocol. -/
abbrev Sats := UInt8 → Option (List UInt8)

/-- A satellite is set. -/
def Sats.set (sats : Sats) (id : UInt8) (bytes : List UInt8) : Sats :=
  Function.update sats id (some bytes)

/-- Satellites are deleted. -/
def Sats.del (sats : Sats) (ids : List UInt8) : Sats := fun id =>
  if id ∈ ids then none else sats id

/-- The longitude among the bytes of a satellite comes back. -/
def LonComesBack (bytes : List UInt8) : Prop := ComesBack (ofBe32At bytes 17)

instance (bytes : List UInt8) : Decidable (LonComesBack bytes) :=
  inferInstanceAs (Decidable (_ = _))

/-- The list and the slots hold the map. -/
structure Stored (sats : Sats) (ids : Nat → UInt8) (m : Eeprom) : Prop where
  labelled : Slots.Labelled satMax slotLabel ids
  /-- The ids of the list are those of the map. -/
  domain : ∀ id, (sats id).isSome ↔ id ≠ 0 ∧ ∃ i < satMax, ids i = id
  /-- The slot of an id holds its satellite. -/
  slot : ∀ i < satMax, ∀ bytes, sats (slotLabel i) = some bytes → slot m i = slotLabel i :: bytes
  /-- A longitude is sent as it was stored. -/
  back : ∀ id bytes, sats id = some bytes → LonComesBack bytes
  /-- Satellites that are in their slots, but not in the list, lie behind the others. -/
  behind : ∀ i < satMax, ∀ j < satMax, ids i ≠ 0 → Found m j → ids j = 0 → i < j

section
variable {sats : Sats} {ids : Nat → UInt8} {m : Eeprom}

theorem Stored.isSome_iff (h : Stored sats ids m) {i : Nat} (hi : i < satMax) :
    (sats (slotLabel i)).isSome ↔ ids i ≠ 0 := by
  have hne : slotLabel i ≠ 0 := (labels_slotLabel (by decide)).ne_zero i hi
  rw [h.domain]
  constructor
  · rintro ⟨-, j, hj, hid⟩ hfree
    have hj' := (h.labelled j hj).resolve_left (by rw [hid]; exact hne)
    have hij := (labels_slotLabel (n := satMax) (by decide)).inj j hj i hi (hj'.symm.trans hid)
    rw [hij, hfree] at hid
    exact hne hid.symm
  · exact fun hused => ⟨hne, i, hi, (h.labelled i hi).resolve_left hused⟩

/-- A listed satellite is found. -/
theorem Stored.found (h : Stored sats ids m) {i : Nat} (hi : i < satMax) (hused : ids i ≠ 0) :
    Found m i := by
  obtain ⟨bytes, hbytes⟩ := Option.isSome_iff_exists.mp ((h.isSome_iff hi).mpr hused)
  rw [found_iff hi, h.slot i hi bytes hbytes]
  rfl

/-- Only the slots matter. -/
theorem Stored.frame (h : Stored sats ids m) {m' : Eeprom}
    (hslot : ∀ i < satMax, Sat.slot m' i = Sat.slot m i) : Stored sats ids m' where
  labelled := h.labelled
  domain := h.domain
  slot i hi bytes hbytes := (hslot i hi).trans (h.slot i hi bytes hbytes)
  back := h.back
  behind i hi j hj hused hfound hfree :=
    h.behind i hi j hj hused ((found_of_slot hj (hslot j hj)).mp hfound) hfree

/-! ### Setting one -/

/-- **A satellite is set** at a place that is listed, or is the first that is free. -/
theorem Stored.set (h : Stored sats ids m) {i : Nat} (hi : i < satMax)
    (hplace : ids i ≠ 0 ∨ ∀ j < i, ids j ≠ 0) {bytes : List UInt8} (hlen : bytes.length = 26)
    (hback : LonComesBack bytes) :
    Stored (sats.set (slotLabel i) bytes) (Function.update ids i (slotLabel i))
      (paramSave (satParamAddr (slotLabel i)) (slotLabel i :: bytes) m) := by
  have hne : slotLabel i ≠ 0 := (labels_slotLabel (by decide)).ne_zero i hi
  have hlen' : (slotLabel i :: bytes).length = 27 := by rw [List.length_cons, hlen]
  have hself := slot_write_self i hlen' m
  have hother {j : Nat} (hj : j < satMax) (hji : j ≠ i) := slot_write_other hj hi hji hlen'.le m
  have hupd {j : Nat} (hji : j ≠ i) : Function.update ids i (slotLabel i) j = ids j :=
    Function.update_of_ne hji _ _
  constructor
  · exact h.labelled.update (Or.inr rfl)
  · intro id
    by_cases hid : id = slotLabel i
    · subst hid
      simp only [Sats.set, Function.update_self, Option.isSome_some, true_iff]
      exact ⟨hne, i, hi, Function.update_self _ _ _⟩
    · rw [Sats.set, Function.update_of_ne hid, h.domain]
      refine and_congr_right fun hid0 => ⟨?_, ?_⟩
      · rintro ⟨j, hj, rfl⟩
        have hji : j ≠ i := by
          rintro rfl
          exact hid ((h.labelled j hj).resolve_left hid0)
        exact ⟨j, hj, hupd hji⟩
      · rintro ⟨j, hj, hj'⟩
        by_cases hji : j = i
        · subst hji
          rw [Function.update_self] at hj'
          exact absurd hj'.symm hid
        · exact ⟨j, hj, (hupd hji).symm.trans hj'⟩
  · intro j hj bytes' hbytes'
    by_cases hji : j = i
    · subst hji
      rw [Sats.set, Function.update_self] at hbytes'
      rw [hself, Option.some.inj hbytes']
    · have hlabel : slotLabel j ≠ slotLabel i := fun heq =>
        hji ((labels_slotLabel (n := satMax) (by decide)).inj j hj i hi heq)
      rw [Sats.set, Function.update_of_ne hlabel] at hbytes'
      rw [hother hj hji]
      exact h.slot j hj bytes' hbytes'
  · intro id bytes' hbytes'
    by_cases hid : id = slotLabel i
    · rw [hid, Sats.set, Function.update_self] at hbytes'
      rw [← Option.some.inj hbytes']
      exact hback
    · rw [Sats.set, Function.update_of_ne hid] at hbytes'
      exact h.back id bytes' hbytes'
  · intro j hj k hk hused hfound hfree
    have hki : k ≠ i := by
      rintro rfl
      rw [Function.update_self] at hfree
      exact hne hfree
    rw [hupd hki] at hfree
    rw [found_of_slot hk (hother hk hki)] at hfound
    by_cases hji : j = i
    · subst hji
      rcases hplace with hlisted | hfirst
      · exact h.behind j hj k hk hlisted hfound hfree
      · have : ¬ k < j := fun hlt => hfirst k hlt hfree
        omega
    · rw [hupd hji] at hused
      exact h.behind j hj k hk hused hfound hfree

/-! ### Deleting -/

/-- **A satellite is deleted** from its place, and marked in its slot. -/
theorem Stored.delete (h : Stored sats ids m) {i : Nat} (hi : i < satMax) (hused : ids i ≠ 0) :
    Stored (sats.del [slotLabel i]) (Function.update ids i 0)
      (paramSave (satParamAddr (slotLabel i)) [0] m) := by
  have hne : slotLabel i ≠ 0 := (labels_slotLabel (by decide)).ne_zero i hi
  have hother {j : Nat} (hj : j < satMax) (hji : j ≠ i) :=
    slot_write_other hj hi hji (show [(0 : UInt8)].length ≤ 27 by decide) m
  have hupd {j : Nat} (hji : j ≠ i) : Function.update ids i 0 j = ids j :=
    Function.update_of_ne hji _ _
  have hlabel {j : Nat} (hj : j < satMax) (hji : j ≠ i) : slotLabel j ≠ slotLabel i := fun heq =>
    hji ((labels_slotLabel (n := satMax) (by decide)).inj j hj i hi heq)
  constructor
  · exact h.labelled.update (Or.inl rfl)
  · intro id
    by_cases hid : id = slotLabel i
    · subst hid
      simp only [Sats.del, List.mem_singleton, if_true, Option.isSome_none, Bool.false_eq_true,
        false_iff]
      rintro ⟨-, j, hj, hj'⟩
      by_cases hji : j = i
      · subst hji
        rw [Function.update_self] at hj'
        exact hne hj'.symm
      · rw [hupd hji] at hj'
        have hjl := (h.labelled j hj).resolve_left (by rw [hj']; exact hne)
        exact hlabel hj hji (hjl.symm.trans hj')
    · simp only [Sats.del, List.mem_singleton, if_neg hid]
      rw [h.domain]
      refine and_congr_right fun hid0 => exists_congr fun j => and_congr_right fun hj => ?_
      by_cases hji : j = i
      · subst hji
        rw [Function.update_self, (h.labelled j hj).resolve_left hused]
        exact iff_of_false (Ne.symm hid) (Ne.symm hid0)
      · rw [hupd hji]
  · intro j hj bytes hbytes
    have hji : j ≠ i := by
      rintro rfl
      simp [Sats.del] at hbytes
    simp only [Sats.del, List.mem_singleton, if_neg (hlabel hj hji)] at hbytes
    rw [hother hj hji]
    exact h.slot j hj bytes hbytes
  · intro id bytes hbytes
    unfold Sats.del at hbytes
    split at hbytes
    · exact absurd hbytes (by simp)
    · exact h.back id bytes hbytes
  · intro j hj k hk hjused hfound hfree
    have hji : j ≠ i := by
      rintro rfl
      rw [Function.update_self] at hjused
      exact hjused rfl
    have hki : k ≠ i := by
      rintro rfl
      -- what is marked is not found
      rw [found_iff hk] at hfound
      have hlen : [(0 : UInt8)].length ≤ 27 := by decide
      have hfirst := (at_paramRead m (satParamAddr (slotLabel k)) hlen).head (d := 0)
      rw [Sat.slot, hfirst] at hfound
      exact hne hfound.symm
    rw [hupd hki] at hfree
    rw [hupd hji] at hjused
    rw [found_of_slot hk (hother hk hki)] at hfound
    exact h.behind j hj k hk hjused hfound hfree

end

end SwiftAcu.Sat
