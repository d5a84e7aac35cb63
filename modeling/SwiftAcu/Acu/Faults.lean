/-
The EEPROM as it may fail, `APP_PARAM_Save` and `APP_PARAM_Read` of
`app_param_save_read.c`.

A save writes, reads back and compares, and fails if one of the three does.  A save that
fails may have stored nothing, a part, or all of what it was given, and anything may be left
in its place.  No command reads from an address twice, and one that saves to an address twice
does so because the first save has failed; so what goes wrong during a command is told by
the address.
-/
import SwiftAcu.Acu.Param

namespace SwiftAcu

/-- What goes wrong with the EEPROM during a command. -/
structure Faults where
  /-- A save to the address fails, and this is left behind. -/
  save : Int → Option (Nat → UInt8)
  /-- … and so does the second. -/
  saveAgain : Int → Option (Nat → UInt8)
  /-- A read from the address fails. -/
  read : Int → Bool

namespace Faults

variable (faults : Faults)

/-- Nothing goes wrong. -/
def none : Faults := ⟨fun _ => .none, fun _ => .none, fun _ => false⟩

/-- What a save leaves in the EEPROM. -/
def store (fault : Option (Nat → UInt8)) (addr : Int) (savebuff : List UInt8) (m : Eeprom) :
    Ret × Eeprom :=
  match fault with
  | .none => (.SUCC, SwiftAcu.paramSave addr savebuff m)
  | some left => (.FAIL, SwiftAcu.paramSave addr ((List.range savebuff.length).map left) m)

/-- `APP_PARAM_Save`. -/
def paramSave (addr : Int) : List UInt8 → Eeprom → Ret × Eeprom := store (faults.save addr) addr

/-- `APP_PARAM_Read`; `none` where it returns `FAIL`. -/
def paramRead (m : Eeprom) (addr : Int) (len : Nat) : Option (List UInt8) :=
  if faults.read addr then .none else some (SwiftAcu.paramRead m addr len)

/-! ### Without a fault -/

@[simp] theorem paramSave_none (addr : Int) (savebuff : List UInt8) (m : Eeprom) :
    none.paramSave addr savebuff m = (.SUCC, SwiftAcu.paramSave addr savebuff m) := rfl

@[simp] theorem paramRead_none (m : Eeprom) (addr : Int) (len : Nat) :
    none.paramRead m addr len = some (SwiftAcu.paramRead m addr len) := rfl

/-! ### Parameters -/

variable [SoftFloat]

/-- `APP_PARAM_HistoryMaxMv_Save`. -/
def historyMaxMvSave (history_max_mv : UInt32) : Eeprom → Ret × Eeprom :=
  faults.paramSave 0x000C (be32 history_max_mv.toNat)

/-- `APP_PARAM_CurrSatParam_Save`. -/
def currSatParamSave (p : SatParam) : Eeprom → Ret × Eeprom :=
  faults.paramSave 0x0A20 ([0x00] ++ satParamBytes p)

/-- `APP_PARAM_SatParam_Save`. -/
def satParamSave (p : SatParam) (m : Eeprom) : Ret × Eeprom :=
  if p.id ≤ 0 then (.FAIL, m)
  else faults.paramSave (satParamAddr p.id) ([p.id] ++ satParamBytes p) m

/-- `APP_PARAM_SatParam_Read`. -/
def satParamRead (id : UInt8) (m : Eeprom) : Option SatParam :=
  if faults.read (satParamAddr id) then .none else SwiftAcu.satParamRead id m

/-- `APP_PARAM_SatTotalNum_Save`. -/
def satTotalNumSave (total_num : UInt16) : Eeprom → Ret × Eeprom :=
  faults.paramSave 0x0A00
    [((total_num &&& 0xFF00) >>> 8).toUInt8, (total_num &&& 0x00FF).toUInt8]

/-- `APP_PARAM_SatCurrID_Save`. -/
def satCurrIdSave (curr_id : UInt8) : Eeprom → Ret × Eeprom := faults.paramSave 0x0A08 [curr_id]

/-- `APP_PARAM_AntennaParam_Save`. -/
def antennaParamSave (p : AntennaParam) : Eeprom → Ret × Eeprom :=
  faults.paramSave 0x0000 ([p.type] ++ be32 p.offsetAngle.toNat ++ [p.caliber] ++
    be32 p.loFreq.toNat ++ [p.gainRangeFlag, p.elecCoderNum])

/-- `APP_PARAM_ElecCode_Map_AntennaDegree_Save`. -/
def elecCodeMapSave (p : AllElecCoderMapAntenna) : Eeprom → Ret × Eeprom :=
  faults.paramSave 0x0010 (elecCoderBytes (fun x => be32 (int32u (thousandths x))) p.position ++
    elecCoderBytes (fun x => be32 (int32u (thousandths x))) p.cabrage ++
    elecCoderBytes (fun x => be32s (int32s (thousandths x))) p.polar ++ [p.satPolarType])

/-- `APP_PARAM_AntennaDir_Map_MotorDir_Save`. -/
def motorDirSave (antenna_part : UInt8) (p : MotorDir) : Eeprom → Ret × Eeprom :=
  faults.paramSave (0x00D0 + (antenna_part.toNat - 1 : Int) * 2) [p.dir0, p.dir1]

/-- `APP_PARAM_ElecCode_count_mode_Save`, and once more if that fails. -/
def elecCodeCountModeSaveTwice (elecCode_addr count_mode : UInt8) (m : Eeprom) : Eeprom :=
  let addr : Int := 0x00DA + elecCode_addr.toNat - 1
  match faults.paramSave addr [count_mode] m with
  | (.SUCC, m) => m
  | (.FAIL, m) => (store (faults.saveAgain addr) addr [count_mode] m).2

/-- `APP_PARAM_HardWareLimit_Save`. -/
def hardWareLimitSave (antenna_part antenna_limit_part : UInt8) (limit_data : UInt32) :
    Eeprom → Ret × Eeprom :=
  faults.paramSave (hardWareLimitAddr antenna_part antenna_limit_part) (be32 limit_data.toNat)

/-- `APP_PARAM_AntennaRecord_TotalNum_Save`. -/
def antennaRecordTotalNumSave (total_num : UInt32) : Eeprom → Ret × Eeprom :=
  faults.paramSave 0x0100 (be32 total_num.toNat)

/-- `APP_PARAM_AntennaRecord_AllClear`: what its saves return is not looked at. -/
def antennaRecordAllClear (m : Eeprom) : Eeprom :=
  (List.range antennaRecordMax).foldl
    (fun m i => (faults.paramSave (0x0110 + i * 0x0050) (List.replicate 64 0) m).2) m

/-- `APP_PARAM_AntennaRecord_Read`. -/
def antennaRecordRead (id : UInt8) (m : Eeprom) : Option (List UInt8) :=
  faults.paramRead m (antennaRecordAddr id) 80

end Faults

end SwiftAcu
