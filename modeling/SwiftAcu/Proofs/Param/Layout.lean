/-
The address map of the EEPROM.

A parameter is named here by what its `APP_PARAM_…_Save` is called with: the axis, the
limit or the slot that picks its address.  What is shown of each is two facts, that
saving it writes at most its own range and that reading it depends on its own range
only; and of the map, that the ranges lie in zones one behind the other, with the
slots of an array apart inside one zone.  That no parameter disturbs another follows.
-/
import Mathlib.Order.Monotone.Basic
import SwiftAcu.Acu.Param

namespace SwiftAcu

/-! ### The parameters -/

/-- `antenna_limit_part`: the axis, and the end of it. -/
def limitPart (part : AntennaPart) (limit : Bool) : UInt8 :=
  (part.id <<< 4) ||| if limit then 1 else 0

/-- An id of an array of `n` slots. -/
structure SlotId (n : Nat) where
  id : UInt8
  pos : 0 < id.toNat
  le : id.toNat ≤ n
  deriving DecidableEq

/-- The parameters of the address map. -/
inductive Param where
  | antennaParam | historyMaxMv | elecCodeMap | locallParamSrc | locallHandParam
  | devSysDateTimeSrc | aimAtSatMode | aimAtSatWorkSta | aimAtSatLimitMv | netWork | mac
  | hardWareLimit (part : AntennaPart) (limit : Bool)
  | motorDir (part : AntennaPart)
  | elecCodeCountMode (part : AntennaPart)
  | devPowerOnSysDateTime | antennaRecordTotalNum
  | antennaRecord (id : SlotId antennaRecordMax)
  | optLogTotalNum | optLogCurrId | warnLogTotalNum | warnLogCurrId | resetFlag
  | satTotalNum | satCurrId | currSatParam
  | satParam (id : SlotId satMax)
  deriving DecidableEq

namespace Param

/-- What a parameter is saved from. -/
def Value : Param → Type
  | antennaParam => AntennaParam
  | elecCodeMap => AllElecCoderMapAntenna
  | locallHandParam => HandLocalPositionParam
  | netWork => NetWork
  | mac => Vector UInt8 6
  | motorDir _ => MotorDir
  | devPowerOnSysDateTime => SysDateTime
  | antennaRecord _ => { buff : List UInt8 // buff.length ≤ 80 }
  | resetFlag => Bool
  | satTotalNum => UInt16
  | currSatParam | satParam _ => SatParam
  | historyMaxMv | aimAtSatLimitMv | hardWareLimit _ _ | antennaRecordTotalNum
  | optLogTotalNum | optLogCurrId | warnLogTotalNum | warnLogCurrId => UInt32
  | locallParamSrc | devSysDateTimeSrc | aimAtSatMode | aimAtSatWorkSta
  | elecCodeCountMode _ | satCurrId => UInt8

/-- `APP_PARAM_…_Save`. -/
def save [SoftFloat] : (x : Param) → x.Value → Eeprom → Eeprom
  | antennaParam => antennaParamSave
  | historyMaxMv => historyMaxMvSave
  | elecCodeMap => elecCodeMapSave
  | locallParamSrc => locallParamSrcSave
  | locallHandParam => locallHandParamSave
  | devSysDateTimeSrc => devSysDateTimeSrcSave
  | aimAtSatMode => aimAtSatModeSave
  | aimAtSatWorkSta => aimAtSatWorkStaSave
  | aimAtSatLimitMv => aimAtSatParamLimitmvSave
  | netWork => netWorkSave
  | mac => macSave
  | hardWareLimit part limit => hardWareLimitSave part.id (limitPart part limit)
  | motorDir part => motorDirSave part.id
  | elecCodeCountMode part => elecCodeCountModeSave part.id
  | devPowerOnSysDateTime => devPowerOnSysDateTimeSave
  | antennaRecordTotalNum => antennaRecordTotalNumSave
  | antennaRecord j => fun buff => antennaRecordSave j.id buff.val
  | optLogTotalNum => optLogTotalNumSave
  | optLogCurrId => optLogCurrIdSave
  | warnLogTotalNum => warnLogTotalNumSave
  | warnLogCurrId => warnLogCurrIdSave
  | resetFlag => ethRelinkResetMcuFlagSave
  | satTotalNum => satTotalNumSave
  | satCurrId => satCurrIdSave
  | currSatParam => currSatParamSave
  | satParam i => fun p m => (satParamSave { p with id := i.id } m).getD m

/-- What a parameter is read as. -/
def Reading : Param → Type
  | antennaParam => AntennaParam
  | historyMaxMv => FP32
  | elecCodeMap => AllElecCoderMapAntenna
  | locallHandParam => HandLocalPositionParam
  | netWork => NetWork
  | mac => Vector UInt8 6
  | motorDir _ => MotorDir
  | devPowerOnSysDateTime => SysDateTime
  | antennaRecord _ => List UInt8
  | satTotalNum => UInt16
  | currSatParam => SatParam
  | satParam _ => Option SatParam
  | aimAtSatLimitMv | hardWareLimit _ _ | antennaRecordTotalNum
  | optLogTotalNum | optLogCurrId | warnLogTotalNum | warnLogCurrId => UInt32
  | locallParamSrc | devSysDateTimeSrc | aimAtSatMode | aimAtSatWorkSta
  | elecCodeCountMode _ | resetFlag | satCurrId => UInt8

/-- `APP_PARAM_…_Read`. -/
def read [SoftFloat] : (x : Param) → Eeprom → x.Reading
  | antennaParam => antennaParamRead
  | historyMaxMv => historyMaxMvRead
  | elecCodeMap => elecCodeMapRead
  | locallParamSrc => locallParamSrcRead
  | locallHandParam => locallHandParamRead
  | devSysDateTimeSrc => devSysDateTimeSrcRead
  | aimAtSatMode => aimAtSatModeRead
  | aimAtSatWorkSta => aimAtSatWorkStaRead
  | aimAtSatLimitMv => aimAtSatParamLimitmvRead
  | netWork => netWorkRead
  | mac => macRead
  | hardWareLimit part limit => hardWareLimitRead part.id (limitPart part limit)
  | motorDir part => fun m => motorDirRead m part.index
  | elecCodeCountMode part => elecCodeCountModeRead part.id
  | devPowerOnSysDateTime => devPowerOnSysDateTimeRead
  | antennaRecordTotalNum => antennaRecordTotalNumRead
  | antennaRecord j => antennaRecordRead j.id
  | optLogTotalNum => optLogTotalNumRead
  | optLogCurrId => optLogCurrIdRead
  | warnLogTotalNum => warnLogTotalNumRead
  | warnLogCurrId => warnLogCurrIdRead
  | resetFlag => ethRelinkResetMcuFlagRead
  | satTotalNum => satTotalNumRead
  | satCurrId => satCurrIdRead
  | currSatParam => currSatParamRead
  | satParam i => satParamRead i.id

/-! ### Their ranges -/

/-- The first address of a parameter. -/
def addr : Param → Nat
  | antennaParam => 0x0000
  | historyMaxMv => 0x000C
  | elecCodeMap => 0x0010
  | locallParamSrc => 0x0030
  | locallHandParam => 0x0031
  | devSysDateTimeSrc => 0x0070
  | aimAtSatMode => 0x0074
  | aimAtSatWorkSta => 0x0075
  | aimAtSatLimitMv => 0x0078
  | netWork => 0x0080
  | mac => 0x0090
  | hardWareLimit part limit => 0x00A0 + part.index * 16 + if limit then 4 else 0
  | motorDir part => 0x00D0 + part.index * 2
  | elecCodeCountMode part => 0x00DA + part.index
  | devPowerOnSysDateTime => 0x00E0
  | antennaRecordTotalNum => 0x0100
  | antennaRecord j => 0x0110 + (j.id.toNat - 1) * 0x0050
  | optLogTotalNum => 0x0800
  | optLogCurrId => 0x0804
  | warnLogTotalNum => 0x0810
  | warnLogCurrId => 0x0814
  | resetFlag => 0x0820
  | satTotalNum => 0x0A00
  | satCurrId => 0x0A08
  | currSatParam => 0x0A20
  | satParam i => 0x0A40 + (i.id.toNat - 1) * 0x0020

/-- How many bytes are read of it. -/
def size : Param → Nat
  | antennaParam | netWork => 12
  | elecCodeMap => 28
  | locallHandParam => 14
  | mac => 6
  | motorDir _ | satTotalNum => 2
  | devPowerOnSysDateTime => 7
  | antennaRecord _ => 80
  | currSatParam | satParam _ => 27
  | historyMaxMv | aimAtSatLimitMv | hardWareLimit _ _ | antennaRecordTotalNum
  | optLogTotalNum | optLogCurrId | warnLogTotalNum | warnLogCurrId => 4
  | locallParamSrc | devSysDateTimeSrc | aimAtSatMode | aimAtSatWorkSta
  | elecCodeCountMode _ | resetFlag | satCurrId => 1

/-! ### What saving and reading touch -/

theorem writesIn_paramSave {addr : Int} {a n : Nat} {bs : List UInt8} (ha : addr16 addr = a)
    (hn : bs.length ≤ n) : Memory.WritesIn (paramSave addr bs) a n :=
  ha ▸ Memory.writesIn_write hn

theorem readsIn_paramRead {addr : Int} {a n : Nat} (ha : addr16 addr = a) :
    Memory.ReadsIn (fun m => paramRead m addr n) a n := ha ▸ Memory.readsIn_read _ n

theorem addr16_antennaRecordAddr (j : SlotId antennaRecordMax) :
    addr16 (antennaRecordAddr j.id) = (antennaRecord j).addr := by
  have hpos := j.pos
  have hle : j.id.toNat ≤ 10 := j.le
  simp only [addr16, antennaRecordAddr, addr]
  omega

theorem addr16_satParamAddr (i : SlotId satMax) :
    addr16 (satParamAddr i.id) = (satParam i).addr := by
  have hpos := i.pos
  have hle : i.id.toNat ≤ 100 := i.le
  simp only [addr16, satParamAddr, addr]
  omega

theorem addr16_hardWareLimitAddr (part : AntennaPart) (limit : Bool) :
    addr16 (hardWareLimitAddr part.id (limitPart part limit)) =
      (hardWareLimit part limit).addr := by
  cases part <;> cases limit <;> decide

theorem not_id_le_zero {n : Nat} (j : SlotId n) : ¬ j.id ≤ 0 := by
  have := j.pos
  rw [UInt8.le_iff_toNat_le]
  exact Nat.not_le.mpr this

theorem writesIn_byteSave {addr : Int} {a : Nat} (data : UInt8) (ha : addr16 addr = a) :
    Memory.WritesIn (byteSave addr data) a 1 := writesIn_paramSave ha (Nat.le_refl 1)

theorem writesIn_wordSave {addr : Int} {a : Nat} (data : UInt32) (ha : addr16 addr = a) :
    Memory.WritesIn (wordSave addr data) a 4 := writesIn_paramSave ha (Nat.le_refl 4)

/-- **Saving a parameter writes its own range only.** -/
theorem writesIn_save [SoftFloat] (x : Param) (v : x.Value) :
    Memory.WritesIn (x.save v) x.addr x.size := by
  cases x with
  | antennaParam =>
      show Memory.WritesIn (paramSave 0x0000 _) 0x0000 12
      exact writesIn_paramSave rfl (Nat.le_refl 12)
  | elecCodeMap =>
      show Memory.WritesIn (paramSave 0x0010 _) 0x0010 28
      exact writesIn_paramSave rfl (Nat.le_refl 28)
  | locallHandParam =>
      show Memory.WritesIn (paramSave 0x0031 _) 0x0031 14
      exact writesIn_paramSave rfl (Nat.le_refl 14)
  | netWork =>
      show Memory.WritesIn (paramSave 0x0080 _) 0x0080 12
      exact writesIn_paramSave rfl (Nat.le_refl 12)
  | mac =>
      have hlen : (Vector.toList v).length = 6 := Vector.length_toList
      exact writesIn_paramSave rfl hlen.le
  | hardWareLimit part limit => exact writesIn_wordSave v (addr16_hardWareLimitAddr part limit)
  | motorDir part => exact writesIn_paramSave (by cases part <;> decide) (Nat.le_refl 2)
  | elecCodeCountMode part => exact writesIn_byteSave v (by cases part <;> decide)
  | devPowerOnSysDateTime =>
      show Memory.WritesIn (paramSave 0x00E0 _) 0x00E0 7
      exact writesIn_paramSave rfl (Nat.le_refl 7)
  | antennaRecord j => exact writesIn_paramSave (addr16_antennaRecordAddr j) v.property
  | satTotalNum =>
      show Memory.WritesIn (paramSave 0x0A00 _) 0x0A00 2
      exact writesIn_paramSave rfl (Nat.le_refl 2)
  | currSatParam =>
      have hlen (p : SatParam) : ([0x00] ++ satParamBytes p).length ≤ 27 := by simp
      exact writesIn_paramSave rfl (hlen v)
  | satParam i =>
      have hlen (p : SatParam) : ([i.id] ++ satParamBytes p).length ≤ 27 := by simp
      intro m y hy
      simp only [save, satParamSave, if_neg (not_id_le_zero i)]
      exact writesIn_paramSave (addr16_satParamAddr i) (hlen _) m y hy
  | resetFlag => exact writesIn_byteSave _ rfl
  | historyMaxMv | aimAtSatLimitMv | antennaRecordTotalNum | optLogTotalNum | optLogCurrId
  | warnLogTotalNum | warnLogCurrId => exact writesIn_wordSave v rfl
  | locallParamSrc | devSysDateTimeSrc | aimAtSatMode | aimAtSatWorkSta
  | satCurrId => exact writesIn_byteSave v rfl

/-- A function of one range of bytes depends on no others. -/
theorem readsIn_of_paramRead {β : Type} {g : Eeprom → β} (addr : Int) (n : Nat) {a : Nat}
    (ha : addr16 addr = a)
    (hg : ∀ m m', paramRead m addr n = paramRead m' addr n → g m = g m') :
    Memory.ReadsIn g a n := fun m m' h => hg m m' (readsIn_paramRead ha m m' h)

/-- A call of `APP_PARAM_Read` depends on the bytes it asks for. -/
theorem readsIn_run {β : Type} (c : ReadCall β) {a : Nat} (ha : addr16 c.addr = a) :
    Memory.ReadsIn c.run a c.len :=
  readsIn_of_paramRead c.addr c.len ha fun _ _ h => congrArg c.decode h

theorem readsIn_byteRead (addr : Int) {a : Nat} (ha : addr16 addr = a) :
    Memory.ReadsIn (fun m => byteRead m addr) a 1 :=
  readsIn_of_paramRead addr 1 ha fun m m' h => by simp only [byteRead, h]

theorem readsIn_wordRead (addr : Int) {a : Nat} (ha : addr16 addr = a) :
    Memory.ReadsIn (fun m => wordRead m addr) a 4 :=
  readsIn_of_paramRead addr 4 ha fun m m' h => by simp only [wordRead, h]

/-- All three axes are read at once; one of them depends on its own two bytes. -/
theorem readsIn_motorDirRead (part : AntennaPart) :
    Memory.ReadsIn (fun m => motorDirRead m part.index) (motorDir part).addr 2 := by
  intro m m' h
  have h0 := h (motorDir part).addr (Nat.le_refl _) (by omega)
  have h1 := h ((motorDir part).addr + 1) (by omega) (by omega)
  have hi := part.index.isLt
  have haddr : addr16 0x00D0 = 0x00D0 := rfl
  have hget (m : Eeprom) {k : Nat} (hk : k < 6) :
      (paramRead m 0x00D0 6).getD k 0 = m (0x00D0 + k) := by
    rw [paramRead, Memory.getD_read hk, haddr]
  simp only [motorDirRead, MotorDir.mk.injEq]
  rw [hget m (by omega), hget m' (by omega), hget m (by omega), hget m' (by omega)]
  simp only [addr, Nat.mul_comm part.index.val 2, Nat.add_assoc] at h0 h1
  exact ⟨h0, h1⟩

/-- **Reading a parameter depends on its own range only.** -/
theorem readsIn_read [SoftFloat] (x : Param) : Memory.ReadsIn x.read x.addr x.size := by
  cases x with
  | antennaParam => exact readsIn_run antennaParamReadCall rfl
  | historyMaxMv =>
      refine readsIn_of_paramRead 0x000C 4 rfl fun m m' h => ?_
      show historyMaxMvRead m = historyMaxMvRead m'
      simp only [historyMaxMvRead, h]
  | elecCodeMap => exact readsIn_run elecCodeMapReadCall rfl
  | locallHandParam => exact readsIn_run locallHandParamReadCall rfl
  | netWork =>
      refine readsIn_of_paramRead 0x0080 12 rfl fun m m' h => ?_
      show netWorkRead m = netWorkRead m'
      simp only [netWorkRead, h]
  | mac =>
      refine readsIn_of_paramRead 0x0090 6 rfl fun m m' h => ?_
      show macRead m = macRead m'
      simp only [macRead, h]
  | hardWareLimit part limit => exact readsIn_wordRead _ (addr16_hardWareLimitAddr part limit)
  | motorDir part => exact readsIn_motorDirRead part
  | elecCodeCountMode part =>
      exact (readsIn_byteRead _ (by cases part <;> decide)).map fun count_mode =>
        if count_mode ≠ 0xE1 ∧ count_mode ≠ 0xE2 then 0xE1 else count_mode
  | devPowerOnSysDateTime =>
      refine readsIn_of_paramRead 0x00E0 7 rfl fun m m' h => ?_
      show devPowerOnSysDateTimeRead m = devPowerOnSysDateTimeRead m'
      simp only [devPowerOnSysDateTimeRead, h]
  | antennaRecord j => exact readsIn_paramRead (addr16_antennaRecordAddr j)
  | satTotalNum =>
      refine readsIn_of_paramRead 0x0A00 2 rfl fun m m' h => ?_
      show satTotalNumRead m = satTotalNumRead m'
      simp only [satTotalNumRead, h]
  | currSatParam =>
      refine readsIn_of_paramRead 0x0A20 27 rfl fun m m' h => ?_
      show currSatParamRead m = currSatParamRead m'
      simp only [currSatParamRead, h]
  | satParam i =>
      have hread := readsIn_run (satParamReadCall i.id) (addr16_satParamAddr i)
      intro m m' h
      show satParamRead i.id m = satParamRead i.id m'
      rw [satParamRead, satParamRead, hread m m' h]
  | aimAtSatLimitMv | antennaRecordTotalNum | optLogTotalNum | optLogCurrId
  | warnLogTotalNum | warnLogCurrId => exact readsIn_wordRead _ rfl
  | locallParamSrc | devSysDateTimeSrc | aimAtSatMode | aimAtSatWorkSta | resetFlag
  | satCurrId => exact readsIn_byteRead _ rfl

/-! ### The map -/

/-- The place of a parameter in the map; the members of an array share one. -/
def zone : Param → Nat
  | antennaParam => 0
  | historyMaxMv => 1
  | elecCodeMap => 2
  | locallParamSrc => 3
  | locallHandParam => 4
  | devSysDateTimeSrc => 5
  | aimAtSatMode => 6
  | aimAtSatWorkSta => 7
  | aimAtSatLimitMv => 8
  | netWork => 9
  | mac => 10
  | hardWareLimit _ _ => 11
  | motorDir _ => 12
  | elecCodeCountMode _ => 13
  | devPowerOnSysDateTime => 14
  | antennaRecordTotalNum => 15
  | antennaRecord _ => 16
  | optLogTotalNum => 17
  | optLogCurrId => 18
  | warnLogTotalNum => 19
  | warnLogCurrId => 20
  | resetFlag => 21
  | satTotalNum => 22
  | satCurrId => 23
  | currSatParam => 24
  | satParam _ => 25

/-- Where the zones start; the last boundary is the end of the map. -/
def zoneStart (k : Nat) : Nat :=
  [0x0000, 0x000C, 0x0010, 0x0030, 0x0031, 0x0070, 0x0074, 0x0075, 0x0078, 0x0080, 0x0090, 0x00A0,
    0x00D0, 0x00DA, 0x00E0, 0x0100, 0x0110, 0x0800, 0x0804, 0x0810, 0x0814, 0x0820, 0x0A00, 0x0A08,
    0x0A20, 0x0A40].getD k 0x16C0

theorem zoneStart_mono : Monotone zoneStart := by
  refine monotone_nat_of_le_succ fun k => ?_
  by_cases hk : k < 26
  · exact (by decide : ∀ k < 26, zoneStart k ≤ zoneStart (k + 1)) k hk
  · have hend {j : Nat} (hj : 26 ≤ j) : zoneStart j = 0x16C0 := List.getD_eq_default _ _ hj
    rw [hend (Nat.not_lt.mp hk), hend (by omega)]

theorem inZone (x : Param) : Memory.InZone zoneStart x.zone x.addr x.size := by
  cases x with
  | hardWareLimit part limit => cases part <;> cases limit <;> exact ⟨by decide, by decide⟩
  | motorDir part => cases part <;> exact ⟨by decide, by decide⟩
  | elecCodeCountMode part => cases part <;> exact ⟨by decide, by decide⟩
  | antennaRecord j =>
      have hle : j.id.toNat ≤ 10 := j.le
      refine ⟨Nat.le_add_right _ _, ?_⟩
      show 0x0110 + (j.id.toNat - 1) * 0x0050 + 80 ≤ 0x0800
      omega
  | satParam i =>
      have hle : i.id.toNat ≤ 100 := i.le
      refine ⟨Nat.le_add_right _ _, ?_⟩
      show 0x0A40 + (i.id.toNat - 1) * 0x0020 + 27 ≤ 0x16C0
      omega
  | _ => exact ⟨by decide, by decide⟩

theorem SlotId.pred_ne {n : Nat} {i j : SlotId n} (hne : i ≠ j) :
    i.id.toNat - 1 ≠ j.id.toNat - 1 := by
  have hi := i.pos
  have hj := j.pos
  intro heq
  have hid : i.id = j.id := UInt8.toNat_inj.mp (by omega)
  cases i
  cases j
  exact hne (by simpa using hid)

/-- **The ranges of different parameters are disjoint.** -/
theorem disjoint {x y : Param} (hne : x ≠ y) : Memory.Disjoint x.addr x.size y.addr y.size := by
  by_cases hzone : x.zone = y.zone
  · -- one array, so the indices differ
    cases x <;> cases y <;> simp only [zone, Nat.reduceEqDiff] at hzone <;> try exact absurd rfl hne
    case hardWareLimit.hardWareLimit part limit part' limit' =>
      revert hne
      cases part <;> cases limit <;> cases part' <;> cases limit' <;> decide
    case motorDir.motorDir part part' =>
      revert hne
      cases part <;> cases part' <;> decide
    case elecCodeCountMode.elecCodeCountMode part part' =>
      revert hne
      cases part <;> cases part' <;> decide
    case antennaRecord.antennaRecord i j =>
      exact Memory.disjoint_slots (Nat.le_refl 80) (Nat.le_refl 80)
        (SlotId.pred_ne fun h => hne (by rw [h]))
    case satParam.satParam i j =>
      exact Memory.disjoint_slots (by decide : 27 ≤ 32) (by decide : 27 ≤ 32)
        (SlotId.pred_ne fun h => hne (by rw [h]))
  · exact Memory.disjoint_of_zones zoneStart_mono (inZone x) (inZone y) hzone

/-- **The frame rule of the map.**  What depends on one parameter only is not changed by saving
another. -/
theorem frame [SoftFloat] {β : Type} {g : Eeprom → β} {x y : Param}
    (hg : Memory.ReadsIn g y.addr y.size) (hne : x ≠ y) (v : x.Value) (m : Eeprom) :
    g (x.save v m) = g m :=
  hg.frame (writesIn_save x v) (disjoint hne) m

/-- **Saving one parameter leaves the others as they are.**  Whatever the EEPROM holds, and
whatever is saved. -/
theorem read_save_of_ne [SoftFloat] {x y : Param} (hne : x ≠ y) (v : x.Value) (m : Eeprom) :
    y.read (x.save v m) = y.read m :=
  frame (readsIn_read y) hne v m

section
attribute [local instance] SoftFloat.single

/-- The last hard limit ends eight bytes in front of the first axis of the direction map. -/
theorem polarLimit_keeps_positionDir :
    (motorDir .position).read
      ((hardWareLimit .polar true).save (0xFFFFFFFF : UInt32) fun _ => 0) =
    (motorDir .position).read fun _ => 0 :=
  read_save_of_ne (by decide) _ _

end

end Param

end SwiftAcu
