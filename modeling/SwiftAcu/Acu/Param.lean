/-
The parameters in the EEPROM, `app_param_save_read.c`.

Every parameter has a place in the EEPROM that is computed from the constants of
`app_param_save_read.h`, a function that stores it there byte by byte, and a function
that reads it back.  The EEPROM keeps what it is given: `APP_PARAM_Save` stores, and
`APP_PARAM_Read` succeeds.  An address is an `INT16U`.  What is stored of an angle is its
thousandths, cut toward zero.
-/
import SwiftAcu.Acu.SoftFloat
import SwiftAcu.Lib.Memory

namespace SwiftAcu

/-! ### Numbers -/

/-- The bytes of an `INT32S`: masking it makes it unsigned. -/
def be32s (data : Int) : List UInt8 := be32 (data % 2 ^ 32).toNat

@[simp] theorem length_be32s (data : Int) : (be32s data).length = 4 := rfl

/-- The `INT32U` at `buff[i]` … `buff[i+3]`. -/
def ofBe32At (buff : List UInt8) (i : Nat) : Nat :=
  ofBe32 (buff.getD i 0) (buff.getD (i + 1) 0) (buff.getD (i + 2) 0) (buff.getD (i + 3) 0)

/-- Four bytes as an `int`. -/
def signed32 (n : Nat) : Int := if n < 2 ^ 31 then n else n - 2 ^ 32

/-- The `INT32S` at `buff[i]` … `buff[i+3]`. -/
def ofBe32sAt (buff : List UInt8) (i : Nat) : Int := signed32 (ofBe32At buff i)

/-! ### The EEPROM -/

abbrev Eeprom := Nat → UInt8

/-- An address of type `INT16U`. -/
def addr16 (addr : Int) : Nat := (addr % 2 ^ 16).toNat

/-- `APP_PARAM_Save`. -/
def paramSave (addr : Int) (savebuff : List UInt8) (m : Eeprom) : Eeprom :=
  Memory.write m (addr16 addr) savebuff

/-- `APP_PARAM_Read`. -/
def paramRead (m : Eeprom) (addr : Int) (len : Nat) : List UInt8 :=
  Memory.read m (addr16 addr) len

/-- A call of `APP_PARAM_Save`. -/
structure SaveCall where
  addr : Int
  savebuff : List UInt8

def SaveCall.run (c : SaveCall) : Eeprom → Eeprom := paramSave c.addr c.savebuff

/-- A call of `APP_PARAM_Read` with `len`, and what is made of the bytes it reads. -/
structure ReadCall (β : Type) where
  addr : Int
  len : Nat
  decode : List UInt8 → β

/-- Something is made of the result. -/
def ReadCall.map {β γ : Type} (f : β → γ) (c : ReadCall β) : ReadCall γ :=
  ⟨c.addr, c.len, fun readbuff => f (c.decode readbuff)⟩

def ReadCall.run {β : Type} (c : ReadCall β) (m : Eeprom) : β := c.decode (paramRead m c.addr c.len)

/-- A parameter of one byte. -/
def byteSave (addr : Int) (data : UInt8) : Eeprom → Eeprom := paramSave addr [data]

def byteRead (m : Eeprom) (addr : Int) : UInt8 := (paramRead m addr 1).getD 0 0

/-- A parameter of four bytes. -/
def wordSave (addr : Int) (data : UInt32) : Eeprom → Eeprom := paramSave addr (be32 data.toNat)

def wordRead (m : Eeprom) (addr : Int) : UInt32 := UInt32.ofNat (ofBe32At (paramRead m addr 4) 0)

/-! ### Records -/

/-- `SAT_MAX_NUM`. -/
abbrev satMax : Nat := 100

/-- `ANTENNA_RECORD_MAX_NUM`. -/
abbrev antennaRecordMax : Nat := 10

/-- `INT8U name[16]`. -/
abbrev SatName := Vector UInt8 16

/-- The name at `buff[i]` … -/
def nameAt (buff : List UInt8) (i : Nat) : SatName := Vector.ofFn fun j => buff.getD (i + j) 0

/-- `strSatParam`. -/
structure SatParam where
  id : UInt8
  name : SatName
  lonFlag : UInt8
  lon : FP32
  freq : UInt32
  polarType : UInt8
  deriving DecidableEq

/-- The fields of `strAntennaParam` that are stored. -/
structure AntennaParam where
  type : UInt8
  offsetAngle : UInt32
  caliber : UInt8
  loFreq : UInt32
  gainRangeFlag : UInt8
  elecCoderNum : UInt8
  deriving DecidableEq

/-- `strElecCoderMapAntenna`. -/
structure ElecCoderMapAntenna where
  antennaDegree : FP32
  elecCoderDegree : FP32
  elecCoderCountMode : UInt8
  deriving DecidableEq

/-- `strAllElecCoderMapAntenna`. -/
structure AllElecCoderMapAntenna where
  position : ElecCoderMapAntenna
  cabrage : ElecCoderMapAntenna
  polar : ElecCoderMapAntenna
  satPolarType : UInt8
  deriving DecidableEq

/-- The fields of `strHandLocalPositionParam` that are stored. -/
structure HandLocalPositionParam where
  lonFlag : UInt8
  lon : FP32
  latFlag : UInt8
  lat : FP32
  height : UInt32
  deriving DecidableEq

/-- The addresses in `strNetWork`. -/
structure NetWork where
  ipAddr : UInt32
  mask : UInt32
  gate : UInt32
  deriving DecidableEq

/-- `strAntennaDirMapMotor.motor_dir`. -/
structure MotorDir where
  dir0 : UInt8
  dir1 : UInt8
  deriving DecidableEq

section
variable [SoftFloat]

/-! ### The antenna -/

/-- What `APP_PARAM_AntennaParam_Save` hands to `APP_PARAM_Save`. -/
def antennaParamSaveCall (p : AntennaParam) : SaveCall where
  addr := 0x0000
  savebuff := [p.type] ++ be32 p.offsetAngle.toNat ++ [p.caliber] ++ be32 p.loFreq.toNat ++
    [p.gainRangeFlag, p.elecCoderNum]

/-- `APP_PARAM_AntennaParam_Save`. -/
def antennaParamSave (p : AntennaParam) : Eeprom → Eeprom := (antennaParamSaveCall p).run

/-- A number of encoders that is not 2 or 3 is read as 2. -/
def elecCoderNumOf (n : UInt8) : UInt8 := if n < 2 ∨ 3 < n then 2 else n

/-- What `APP_PARAM_AntennaParam_Read` asks `APP_PARAM_Read` for. -/
def antennaParamReadCall : ReadCall AntennaParam where
  addr := 0x0000
  len := 12
  decode readbuff :=
    { type := readbuff.getD 0 0
      offsetAngle := UInt32.ofNat (ofBe32At readbuff 1)
      caliber := readbuff.getD 5 0
      loFreq := UInt32.ofNat (ofBe32At readbuff 6)
      gainRangeFlag := readbuff.getD 10 0
      elecCoderNum := elecCoderNumOf (readbuff.getD 11 0) }

/-- `APP_PARAM_AntennaParam_Read`. -/
def antennaParamRead : Eeprom → AntennaParam := antennaParamReadCall.run

/-- `APP_PARAM_HistoryMaxMv_Save`.  What is stored is the pointer, not the value it points to. -/
def historyMaxMvSave (history_max_mv : UInt32) : Eeprom → Eeprom := wordSave 0x000C history_max_mv

/-- `APP_PARAM_HistoryMaxMv_Read`: the four bytes as an `int`. -/
def historyMaxMvRead (m : Eeprom) : FP32 := ofBe32sAt (paramRead m 0x000C 4) 0

/-- One axis of the encoder map. -/
def elecCoderBytes (degree : FP32 → List UInt8) (p : ElecCoderMapAntenna) : List UInt8 :=
  degree p.antennaDegree ++ degree p.elecCoderDegree ++ [p.elecCoderCountMode]

def elecCoderAt (degree : List UInt8 → Nat → FP32) (buff : List UInt8) (i : Nat) :
    ElecCoderMapAntenna :=
  { antennaDegree := degree buff i
    elecCoderDegree := degree buff (i + 4)
    elecCoderCountMode := buff.getD (i + 8) 0 }

/-- What `APP_PARAM_ElecCode_Map_AntennaDegree_Save` hands over.  The polar angles are signed. -/
def elecCodeMapSaveCall (p : AllElecCoderMapAntenna) : SaveCall where
  addr := 0x0010
  savebuff := elecCoderBytes (fun x => be32 (int32u (thousandths x))) p.position ++
    elecCoderBytes (fun x => be32 (int32u (thousandths x))) p.cabrage ++
    elecCoderBytes (fun x => be32s (int32s (thousandths x))) p.polar ++ [p.satPolarType]

/-- `APP_PARAM_ElecCode_Map_AntennaDegree_Save`. -/
def elecCodeMapSave (p : AllElecCoderMapAntenna) : Eeprom → Eeprom := (elecCodeMapSaveCall p).run

/-- What `APP_PARAM_ElecCode_Map_AntennaDegree_Read` asks for. -/
def elecCodeMapReadCall : ReadCall AllElecCoderMapAntenna where
  addr := 0x0010
  len := 28
  decode readbuff :=
    { position := elecCoderAt (fun buff i => degreeOf (ofBe32At buff i)) readbuff 0
      cabrage := elecCoderAt (fun buff i => degreeOf (ofBe32At buff i)) readbuff 9
      polar := elecCoderAt (fun buff i => degreeOf (ofBe32sAt buff i)) readbuff 18
      satPolarType := readbuff.getD 27 0 }

/-- `APP_PARAM_ElecCode_Map_AntennaDegree_Read`. -/
def elecCodeMapRead : Eeprom → AllElecCoderMapAntenna := elecCodeMapReadCall.run

/-- `APP_PARAM_ElecCode_count_mode_Save`. -/
def elecCodeCountModeSave (elecCode_addr count_mode : UInt8) : Eeprom → Eeprom :=
  byteSave (0x00DA + elecCode_addr.toNat - 1) count_mode

/-- `APP_PARAM_ElecCode_count_mode_Read`. -/
def elecCodeCountModeRead (elecCode_addr : UInt8) (m : Eeprom) : UInt8 :=
  let count_mode := byteRead m (0x00DA + elecCode_addr.toNat - 1)
  if count_mode ≠ 0xE1 ∧ count_mode ≠ 0xE2 then 0xE1 else count_mode

/-- The address of a hard limit. -/
def hardWareLimitAddr (antenna_part antenna_limit_part : UInt8) : Int :=
  0x00A0 + (antenna_part.toNat - 1 : Int) * 16 + (antenna_limit_part &&& 0x0F).toNat * 4

/-- `APP_PARAM_HardWareLimit_Save`. -/
def hardWareLimitSave (antenna_part antenna_limit_part : UInt8) (limit_data : UInt32) :
    Eeprom → Eeprom :=
  wordSave (hardWareLimitAddr antenna_part antenna_limit_part) limit_data

/-- `APP_PARAM_HardWareLimit_Read`. -/
def hardWareLimitRead (antenna_part antenna_limit_part : UInt8) (m : Eeprom) : UInt32 :=
  wordRead m (hardWareLimitAddr antenna_part antenna_limit_part)

/-- `APP_PARAM_AntennaDir_Map_MotorDir_Save`. -/
def motorDirSave (antenna_part : UInt8) (p : MotorDir) : Eeprom → Eeprom :=
  paramSave (0x00D0 + (antenna_part.toNat - 1 : Int) * 2) [p.dir0, p.dir1]

/-- `APP_PARAM_AntennaDir_Map_MotorDir_Read`: `AntennaDirMapMotor[i]`, all read at once. -/
def motorDirRead (m : Eeprom) (i : Fin 3) : MotorDir :=
  let readbuff := paramRead m 0x00D0 6
  { dir0 := readbuff.getD (2 * i) 0, dir1 := readbuff.getD (2 * i + 1) 0 }

/-! ### The station -/

/-- `APP_PARAM_LocallParamSrc_Save`. -/
def locallParamSrcSave (src_flag : UInt8) : Eeprom → Eeprom := byteSave 0x0030 src_flag

/-- `APP_PARAM_LocallParamSrc_Read`. -/
def locallParamSrcRead (m : Eeprom) : UInt8 := byteRead m 0x0030

/-- What `APP_PARAM_LocallHandParam_Save` hands over. -/
def locallHandParamSaveCall (p : HandLocalPositionParam) : SaveCall where
  addr := 0x0031
  savebuff := [p.lonFlag] ++ be32 (int32u (thousandths p.lon)) ++
    [p.latFlag] ++ be32 (int32u (thousandths p.lat)) ++ be32 p.height.toNat

/-- `APP_PARAM_LocallHandParam_Save`. -/
def locallHandParamSave (p : HandLocalPositionParam) : Eeprom → Eeprom :=
  (locallHandParamSaveCall p).run

/-- What `APP_PARAM_LocallHandParam_Read` asks for. -/
def locallHandParamReadCall : ReadCall HandLocalPositionParam where
  addr := 0x0031
  len := 14
  decode readbuff :=
    { lonFlag := readbuff.getD 0 0
      lon := degreeOf (ofBe32At readbuff 1)
      latFlag := readbuff.getD 5 0
      lat := degreeOf (ofBe32At readbuff 6)
      height := UInt32.ofNat (ofBe32At readbuff 10) }

/-- `APP_PARAM_LocallHandParam_Read`. -/
def locallHandParamRead : Eeprom → HandLocalPositionParam := locallHandParamReadCall.run

/-- `APP_PARAM_DevSysDateTimeSrc_Save`. -/
def devSysDateTimeSrcSave (src_flag : UInt8) : Eeprom → Eeprom := byteSave 0x0070 src_flag

/-- `APP_PARAM_DevSysDateTimeSrc_Read`. -/
def devSysDateTimeSrcRead (m : Eeprom) : UInt8 := byteRead m 0x0070

/-- `APP_PARAM_AimAtSatMode_Save`. -/
def aimAtSatModeSave (mode : UInt8) : Eeprom → Eeprom := byteSave 0x0074 mode

/-- `APP_PARAM_AimAtSatMode_Read`. -/
def aimAtSatModeRead (m : Eeprom) : UInt8 := byteRead m 0x0074

/-- `APP_PARAM_AimAtSatWorkSta_Save`. -/
def aimAtSatWorkStaSave (sta : UInt8) : Eeprom → Eeprom := byteSave 0x0075 sta

/-- `APP_PARAM_AimAtSatWorkSta_Read`. -/
def aimAtSatWorkStaRead (m : Eeprom) : UInt8 := byteRead m 0x0075

/-- `APP_PARAM_AimAtSatParamLimitmv_Save`. -/
def aimAtSatParamLimitmvSave (aimAtSat_limit_mv : UInt32) : Eeprom → Eeprom :=
  wordSave 0x0078 aimAtSat_limit_mv

/-- `APP_PARAM_AimAtSatParamLimitmv_Read`. -/
def aimAtSatParamLimitmvRead (m : Eeprom) : UInt32 := wordRead m 0x0078

/-- `APP_PARAM_NetWork_Save`. -/
def netWorkSave (p : NetWork) : Eeprom → Eeprom :=
  paramSave 0x0080 (be32 p.ipAddr.toNat ++ be32 p.mask.toNat ++ be32 p.gate.toNat)

/-- `APP_PARAM_NetWork_Read`. -/
def netWorkRead (m : Eeprom) : NetWork :=
  let readbuff := paramRead m 0x0080 12
  { ipAddr := UInt32.ofNat (ofBe32At readbuff 0)
    mask := UInt32.ofNat (ofBe32At readbuff 4)
    gate := UInt32.ofNat (ofBe32At readbuff 8) }

/-- `APP_PARAM_MAC_Save`. -/
def macSave (mac : Vector UInt8 6) : Eeprom → Eeprom := paramSave 0x0090 mac.toList

/-- `APP_PARAM_MAC_Read`. -/
def macRead (m : Eeprom) : Vector UInt8 6 :=
  let readbuff := paramRead m 0x0090 6
  Vector.ofFn fun i => readbuff.getD i 0

/-- `APP_PARAM_DevPowerOnSysDateTime_Save`. -/
def devPowerOnSysDateTimeSave (t : SysDateTime) : Eeprom → Eeprom :=
  paramSave 0x00E0 (dateTime2Bytebuff t)

/-- The date and time at `buff[i]` … -/
def dateTimeAt (buff : List UInt8) (i : Nat) : SysDateTime :=
  { year := UInt16.ofNat ((buff.getD i 0).toNat <<< 8 + (buff.getD (i + 1) 0).toNat)
    month := buff.getD (i + 2) 0
    day := buff.getD (i + 3) 0
    hour := buff.getD (i + 4) 0
    min := buff.getD (i + 5) 0
    senc := buff.getD (i + 6) 0 }

/-- `APP_PARAM_DevPowerOnSysDateTime_Read`. -/
def devPowerOnSysDateTimeRead (m : Eeprom) : SysDateTime := dateTimeAt (paramRead m 0x00E0 7) 0

/-! ### Antenna records -/

/-- `APP_PARAM_AntennaRecord_TotalNum_Save`. -/
def antennaRecordTotalNumSave (total_num : UInt32) : Eeprom → Eeprom := wordSave 0x0100 total_num

/-- `APP_PARAM_AntennaRecord_TotalNum_Read`. -/
def antennaRecordTotalNumRead (m : Eeprom) : UInt32 := wordRead m 0x0100

/-- The address of a record, computed from whatever `id` is. -/
def antennaRecordAddr (id : UInt8) : Int := 0x0110 + (id.toNat - 1 : Int) * 0x0050

/-- `APP_PARAM_AntennaRecord_Save`. -/
def antennaRecordSave (id : UInt8) (buff : List UInt8) : Eeprom → Eeprom :=
  paramSave (antennaRecordAddr id) buff

/-- `APP_PARAM_AntennaRecord_Read`. -/
def antennaRecordRead (id : UInt8) (m : Eeprom) : List UInt8 :=
  paramRead m (antennaRecordAddr id) 80

/-- `APP_PARAM_AntennaRecord_AllClear`. -/
def antennaRecordAllClear (m : Eeprom) : Eeprom :=
  (List.range antennaRecordMax).foldl
    (fun m i => paramSave (0x0110 + i * 0x0050) (List.replicate 64 0) m) m

/-! ### Logs -/

/-- `APP_PARAM_OPTLog_TotalNum_Save`. -/
def optLogTotalNumSave (total_num : UInt32) : Eeprom → Eeprom := wordSave 0x0800 total_num

/-- `APP_PARAM_OPTLog_TotalNum_Read`. -/
def optLogTotalNumRead (m : Eeprom) : UInt32 := wordRead m 0x0800

/-- `APP_PARAM_OPTLog_CurrID_Save`. -/
def optLogCurrIdSave (id : UInt32) : Eeprom → Eeprom := wordSave 0x0804 id

/-- `APP_PARAM_OPTLog_CurrID_Read`. -/
def optLogCurrIdRead (m : Eeprom) : UInt32 := wordRead m 0x0804

/-- `APP_PARAM_WarnLog_TotalNum_Save`. -/
def warnLogTotalNumSave (total_num : UInt32) : Eeprom → Eeprom := wordSave 0x0810 total_num

/-- `APP_PARAM_WarnLog_TotalNum_Read`. -/
def warnLogTotalNumRead (m : Eeprom) : UInt32 := wordRead m 0x0810

/-- `APP_PARAM_WarnLog_CurrID_Save`. -/
def warnLogCurrIdSave (id : UInt32) : Eeprom → Eeprom := wordSave 0x0814 id

/-- `APP_PARAM_WarnLog_CurrID_Read`. -/
def warnLogCurrIdRead (m : Eeprom) : UInt32 := wordRead m 0x0814

/-- `APP_PARAM_EthRelinkResetMCUFlagSet_Save` stores 1 and `APP_PARAM_EthRelinkResetMCUFlag_Del` 0. -/
def ethRelinkResetMcuFlagSave (flag : Bool) : Eeprom → Eeprom :=
  byteSave 0x0820 (if flag then 1 else 0)

/-- `APP_PARAM_EthRelinkResetMCUFlag_Read`. -/
def ethRelinkResetMcuFlagRead (m : Eeprom) : UInt8 := byteRead m 0x0820

/-! ### Satellites -/

/-- `APP_PARAM_SatTotalNum_Save`. -/
def satTotalNumSave (total_num : UInt16) : Eeprom → Eeprom :=
  paramSave 0x0A00 [((total_num &&& 0xFF00) >>> 8).toUInt8, (total_num &&& 0x00FF).toUInt8]

/-- `APP_PARAM_SatTotalNum_Read`. -/
def satTotalNumRead (m : Eeprom) : UInt16 :=
  let readbuff := paramRead m 0x0A00 2
  UInt16.ofNat ((readbuff.getD 0 0).toNat <<< 8 + (readbuff.getD 1 0).toNat)

/-- `APP_PARAM_SatCurrID_Save`. -/
def satCurrIdSave (curr_id : UInt8) : Eeprom → Eeprom := byteSave 0x0A08 curr_id

/-- `APP_PARAM_SatCurrID_Read`. -/
def satCurrIdRead (m : Eeprom) : UInt8 := byteRead m 0x0A08

/-- What is stored of a satellite behind its id. -/
def satParamBytes (p : SatParam) : List UInt8 :=
  p.name.toList ++ [p.lonFlag] ++ be32 (int32u (thousandths p.lon)) ++ be32 p.freq.toNat ++
    [p.polarType]

/-- A satellite read back. -/
def satParamOf (readbuff : List UInt8) : SatParam :=
  { id := readbuff.getD 0 0
    name := nameAt readbuff 1
    lonFlag := readbuff.getD 17 0
    lon := degreeOf (ofBe32At readbuff 18)
    freq := UInt32.ofNat (ofBe32At readbuff 22)
    polarType := readbuff.getD 26 0 }

/-- `APP_PARAM_CurrSatParam_Save`: the id is stored as 0. -/
def currSatParamSave (p : SatParam) : Eeprom → Eeprom :=
  paramSave 0x0A20 ([0x00] ++ satParamBytes p)

/-- `APP_PARAM_CurrSatParam_Read`. -/
def currSatParamRead (m : Eeprom) : SatParam := satParamOf (paramRead m 0x0A20 27)

/-- The address of a satellite. -/
def satParamAddr (id : UInt8) : Int := (id.toNat - 1 : Int) * 0x0020 + 0x0A40

/-- What `APP_PARAM_SatParam_Save` hands over. -/
def satParamSaveCall (p : SatParam) : SaveCall where
  addr := satParamAddr p.id
  savebuff := [p.id] ++ satParamBytes p

/-- `APP_PARAM_SatParam_Save`; `none` where it returns `FAIL`. -/
def satParamSave (p : SatParam) (m : Eeprom) : Option Eeprom :=
  if p.id ≤ 0 then none else some ((satParamSaveCall p).run m)

/-- What `APP_PARAM_SatParam_Read` asks for; the slot of another id is no satellite. -/
def satParamReadCall (id : UInt8) : ReadCall (Option SatParam) where
  addr := satParamAddr id
  len := 27
  decode readbuff := if id ≠ readbuff.getD 0 0 then none else some (satParamOf readbuff)

/-- `APP_PARAM_SatParam_Read`; `none` where it returns `FAIL`, with nothing read. -/
def satParamRead (id : UInt8) (m : Eeprom) : Option SatParam :=
  if id ≤ 0 then none else (satParamReadCall id).run m

/-- `APP_PARAM_Sat_Del`: the byte of the id is cleared. -/
def satDel (id : UInt8) (m : Eeprom) : Eeprom :=
  if id ≤ 0 then m else paramSave (satParamAddr id) [0] m

/-! ### The lengths of what is stored -/

@[simp] theorem length_elecCoderBytes_u (p : ElecCoderMapAntenna) :
    (elecCoderBytes (fun x => be32 (int32u (thousandths x))) p).length = 9 := rfl

@[simp] theorem length_elecCoderBytes_s (p : ElecCoderMapAntenna) :
    (elecCoderBytes (fun x => be32s (int32s (thousandths x))) p).length = 9 := rfl

@[simp] theorem length_satParamBytes (p : SatParam) : (satParamBytes p).length = 26 := by
  simp [satParamBytes]

end

end SwiftAcu
