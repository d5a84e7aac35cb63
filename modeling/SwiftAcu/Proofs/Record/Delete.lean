/-
What a deletion does to the EEPROM.

Each id that finds an entry has the first 64 bytes of its slot overwritten with zeros.
For a listed id this is the slot of its record.  For the id 0, which finds a free entry,
it is what lies one slot in front of the first record: the hard limits of the
polarisation axis, the direction map, the counting modes and the time of the last start.
-/
import SwiftAcu.Proofs.Param.Boot
import SwiftAcu.Proofs.Record.Invariant

namespace SwiftAcu.Record

section
variable [SoftFloat]

/-- The first address of the slot of `id`. -/
def slotAddr (id : UInt8) : Nat := addr16 (antennaRecordAddr id)

/-- The address `x` lies in the slot of `id`. -/
def InSlot (id : UInt8) (x : Nat) : Prop := slotAddr id ≤ x ∧ x < slotAddr id + 80

/-- `id` is in the list. -/
def Listed (l : AntennaRecordList) (id : UInt8) : Prop :=
  id ≠ 0 ∧ ∃ i < antennaRecordMax, l.recordId i = id

/--
Deleting `ids` touches the records of the listed ones among them only: no other byte
changes, every other parameter reads as before, and what is deleted is not found at the
next start.
-/
structure DeletesOnly (d : Device) (ids : List UInt8) (d' : Device) : Prop where
  bytes : ∀ x, d'.eeprom x ≠ d.eeprom x → ∃ id ∈ ids, Listed d.recordList id ∧ InSlot id x
  params : ∀ p : Param,
    (∀ j, p = .antennaRecord j → ¬ (j.id ∈ ids ∧ Listed d.recordList j.id)) →
      p.read d'.eeprom = p.read d.eeprom
  gone : ∀ i < antennaRecordMax, d.recordList.recordId i ≠ 0 → d.recordList.recordId i ∈ ids →
    (paramInit d'.eeprom).recordList.recordId i = 0

omit [SoftFloat] in
/-- **A deletion zeroes the slots of the ids that find an entry**, and nothing else. -/
theorem eeprom_delete (ids : List UInt8) (d : Device) :
    (ids.foldl delAntennaRecordId d).eeprom =
      Memory.fillAll slotAddr 64 0 (d.recordList.table.hits antennaRecordMax ids) d.eeprom := by
  induction ids generalizing d with
  | nil => rfl
  | cons id ids ih =>
      rw [List.foldl_cons, ih, table_delAntennaRecordId, Slots.Table.hits]
      obtain hnone | ⟨i, hsome⟩ :=
        Option.eq_none_or_eq_some (Slots.first antennaRecordMax d.recordList.table.ids id)
      · have hsame : delAntennaRecordId d id = d := by
          rw [delAntennaRecordId, show Slots.first _ d.recordList.recordId id = none from hnone]
        rw [if_pos hnone, hsame, Slots.delete_of_none hnone]
      · have heeprom : (delAntennaRecordId d id).eeprom =
            antennaRecordSave id (List.replicate 64 0) d.eeprom := by
          rw [delAntennaRecordId, show Slots.first _ d.recordList.recordId id = some i from hsome]
        rw [if_neg (by simp [hsome]), heeprom]
        rfl

omit [SoftFloat] in
/-- The slot in front of the records. -/
theorem slotAddr_zero : slotAddr 0 = 0xC0 := by decide

omit [SoftFloat] in
/-- The slot of an id in the list. -/
theorem slotAddr_of_listed {d : Device} (h : ListOk d.recordList) {id : UInt8}
    (hid : Listed d.recordList id) :
    ∃ j : SlotId antennaRecordMax, j.id = id ∧ slotAddr id = (Param.antennaRecord j).addr := by
  obtain ⟨hne, i, hi, rfl⟩ := hid
  have hlabel := (h.ids i hi).resolve_left hne
  have hi10 : i < 10 := hi
  have hnat : (d.recordList.recordId i).toNat = i + 1 := by
    rw [hlabel]
    exact toNat_slotLabel (by omega)
  refine ⟨⟨d.recordList.recordId i, by omega, by omega⟩, rfl, ?_⟩
  exact Param.addr16_antennaRecordAddr ⟨d.recordList.recordId i, by omega, by omega⟩

section
variable {d : Device} {ids : List UInt8}

omit [SoftFloat] in
/-- A byte that changed was in the slot of an id that found an entry. -/
theorem hit_of_changed {x : Nat}
    (hx : (ids.foldl delAntennaRecordId d).eeprom x ≠ d.eeprom x) :
    ∃ id ∈ d.recordList.table.hits antennaRecordMax ids,
      slotAddr id ≤ x ∧ x < slotAddr id + 64 := by
  by_contra hno
  refine hx ?_
  rw [eeprom_delete]
  refine Memory.fillAll_outside fun id hid => ?_
  by_contra hin
  exact hno ⟨id, hid, by omega, by omega⟩

omit [SoftFloat] in
/-- Every byte of the slot of an id that found an entry is zero. -/
theorem eeprom_of_hit {id : UInt8} (hid : id ∈ d.recordList.table.hits antennaRecordMax ids)
    {x : Nat} (hlo : slotAddr id ≤ x) (hhi : x < slotAddr id + 64) :
    (ids.foldl delAntennaRecordId d).eeprom x = 0 := by
  rw [eeprom_delete]
  exact Memory.fillAll_inside hid hlo hhi

omit [SoftFloat] in
/-- **The bytes in front of the records** are changed exactly by a zero that finds a free entry. -/
theorem changed_listed_iff (h : ListOk d.recordList) :
    (∀ x, (ids.foldl delAntennaRecordId d).eeprom x ≠ d.eeprom x →
        ∃ id ∈ ids, Listed d.recordList id ∧ InSlot id x) ↔
      MeetsNoFree d.recordList ids ∨ ∀ x, 0xC0 ≤ x → x < 0x100 → d.eeprom x = 0 := by
  have hzero : (0 : UInt8) ∈ d.recordList.table.hits antennaRecordMax ids ↔
      ¬ MeetsNoFree d.recordList ids := Slots.zero_mem_hits_iff
  constructor
  · intro hbytes
    by_contra hno
    obtain ⟨hmeets, hdata⟩ := not_or.mp hno
    refine hdata fun x hlo hhi => ?_
    have hcleared : (ids.foldl delAntennaRecordId d).eeprom x = 0 :=
      eeprom_of_hit (hzero.mpr hmeets) (by rwa [slotAddr_zero]) (by rw [slotAddr_zero]; omega)
    by_contra hne
    obtain ⟨id, -, hlisted, hin⟩ := hbytes x (by rw [hcleared]; exact Ne.symm hne)
    -- every record lies behind 0x110
    obtain ⟨j, -, haddr⟩ := slotAddr_of_listed h hlisted
    have hbase : 0x0110 ≤ (Param.antennaRecord j).addr := Nat.le_add_right _ _
    have := hin.1
    omega
  · intro hok x hx
    obtain ⟨id, hid, hlo, hhi⟩ := hit_of_changed hx
    by_cases hid0 : id = 0
    · subst hid0
      rw [slotAddr_zero] at hlo hhi
      have hdata := hok.resolve_left (hzero.mp hid) x hlo (by omega)
      refine absurd ?_ hx
      rw [hdata]
      exact eeprom_of_hit hid (by rwa [slotAddr_zero]) (by rw [slotAddr_zero]; omega)
    · obtain ⟨hmem, hex⟩ := Slots.of_mem_hits hid0 hid
      exact ⟨id, hmem, ⟨hid0, hex⟩, hlo, by omega⟩

/-- What lies in other slots reads as before. -/
theorem read_of_bytes (h : ListOk d.recordList) {m : Eeprom}
    (hbytes : ∀ x, m x ≠ d.eeprom x → ∃ id ∈ ids, Listed d.recordList id ∧ InSlot id x)
    {p : Param} (hp : ∀ j, p = .antennaRecord j → ¬ (j.id ∈ ids ∧ Listed d.recordList j.id)) :
    p.read m = p.read d.eeprom := by
  refine Param.readsIn_read p _ _ fun x hlo hhi => ?_
  by_contra hne
  obtain ⟨id, hmem, hlisted, hin⟩ := hbytes x hne
  obtain ⟨j, rfl, haddr⟩ := slotAddr_of_listed h hlisted
  have hpj : p ≠ .antennaRecord j := fun heq => hp j heq ⟨hmem, hlisted⟩
  have hdis : p.addr + p.size ≤ (Param.antennaRecord j).addr ∨
      (Param.antennaRecord j).addr + 80 ≤ p.addr := Param.disjoint hpj
  unfold InSlot at hin
  omega

/-- A deleted record is not found at the next start. -/
theorem gone_of_deleted (h : ListOk d.recordList) {i : Nat} (hi : i < antennaRecordMax)
    (hused : d.recordList.recordId i ≠ 0) (hmem : d.recordList.recordId i ∈ ids) :
    (paramInit (ids.foldl delAntennaRecordId d).eeprom).recordList.recordId i = 0 := by
  have hlabel := (h.ids i hi).resolve_left hused
  have hhit : d.recordList.recordId i ∈ d.recordList.table.hits antennaRecordMax ids :=
    Slots.mem_hits hi rfl hmem
  rw [hlabel] at hhit
  have hcleared : (ids.foldl delAntennaRecordId d).eeprom (slotAddr (UInt8.ofNat (i + 1))) = 0 :=
    eeprom_of_hit hhit (Nat.le_refl _) (by omega)
  have hfirst : (antennaRecordRead (UInt8.ofNat (i + 1))
      (ids.foldl delAntennaRecordId d).eeprom).getD 0 0 = 0 := by
    rw [antennaRecordRead, paramRead, Memory.getD_read (by omega)]
    exact hcleared
  have hnot : recordFound (ids.foldl delAntennaRecordId d).eeprom i = false := by
    rw [recordFound, hfirst, decide_eq_false_iff_not]
    exact fun heq => hused (hlabel.trans heq.symm)
  rw [paramInit_recordId _ hi, if_neg (by simp [hnot])]

theorem deletesOnly_delete_iff (h : ListOk d.recordList) :
    DeletesOnly d ids (ids.foldl delAntennaRecordId d) ↔
      MeetsNoFree d.recordList ids ∨ ∀ x, 0xC0 ≤ x → x < 0x100 → d.eeprom x = 0 := by
  rw [← changed_listed_iff h]
  constructor
  · exact fun honly => honly.bytes
  · intro hbytes
    exact ⟨hbytes, fun p hp => read_of_bytes h hbytes hp,
      fun i hi hused hmem => gone_of_deleted h hi hused hmem⟩

end

/--
**A deletion touches only the records it names**, from either side, exactly if no zero
comes upon a free entry, or there is nothing to lose in front of the records.
-/
theorem deletesOnly_iff {d : Device} (h : ListOk d.recordList) (ids : List UInt8) :
    (DeletesOnly d ids (pcDelAntennaRecord ids d).2 ↔
      MeetsNoFree d.recordList ids ∨ ∀ x, 0xC0 ≤ x → x < 0x100 → d.eeprom x = 0) ∧
    (DeletesOnly d ids (oledDelAntennaRecord ids d).2 ↔
      MeetsNoFree d.recordList ids ∨ ∀ x, 0xC0 ≤ x → x < 0x100 → d.eeprom x = 0) :=
  ⟨deletesOnly_delete_iff h, deletesOnly_delete_iff h⟩

end

section
attribute [local instance] SoftFloat.single

/-- One record, and its deletion. -/
theorem deletesOnly_recorded :
    DeletesOnly (step (paramInit fun _ => 0xFF) (.pcRecord 0 noon)) [1]
      (pcDelAntennaRecord [1] (step (paramInit fun _ => 0xFF) (.pcRecord 0 noon))).2 := by
  have hlist : ListOk (step (paramInit fun _ => 0xFF) (.pcRecord 0 noon)).recordList :=
    (step_listOk_iff _ _ (listOk_paramInit _)).mpr (Or.inl (meetsNoFree_of_not_mem (by decide)))
  exact (deletesOnly_iff hlist [1]).1.mpr (Or.inl (meetsNoFree_of_not_mem (by decide)))

/-- With no record listed, deleting id 0 clears the polarisation limit. -/
theorem delete_zero_clears_limit :
    ¬ ∀ (d : Device) (ids : List UInt8), ListOk d.recordList →
      DeletesOnly d ids (pcDelAntennaRecord ids d).2 := by
  intro hall
  have honly := hall (paramInit fun _ => 0xFF) [0] (listOk_paramInit _)
  have hread :
      hardWareLimitRead 3 0x30 (pcDelAntennaRecord [0] (paramInit fun _ => 0xFF)).2.eeprom =
      hardWareLimitRead 3 0x30 (paramInit fun _ => 0xFF).eeprom :=
    honly.params (.hardWareLimit .polar false) fun j heq => by simp at heq
  exact absurd hread (by decide +kernel)

end

end SwiftAcu.Record
