/-
Angles from encoders, `APP_MONITOR_LocallAntennaRealDegreeDataGet` and
`…_LocallAntennaAdjustDegreeDataGet` of `app_monitor.c`, and the soft limits that are set
with them: `APP_PCCOMM_AntennaHargWareLimitAdjust`, `…_FactoryReset` and `APP_PARAM_Init`.

The two functions of `app_monitor.c` are copies of one another.  The first keeps its
angles in local variables that it does not initialise, and takes one of them for another
where an elevation encoder counts the other way: what a local variable holds before is
an input.
-/
import Mathlib.Data.Rat.Floor
import SwiftAcu.Acu.AntennaRecord
import SwiftAcu.Acu.DevInfo

namespace SwiftAcu

/-! ### Angles -/

/-- What an angle is computed from. -/
structure Gauge where
  position : Encoder
  cabrage : Encoder
  polar : Encoder
  /-- `EleccoderConf.bit_num` of the three. -/
  bitNum : Fin 3 → UInt8
  map : AllElecCoderMapAntenna
  /-- `AntennaParam.elec_coder_num`. -/
  elecCoderNum : UInt8

/-- The angle the map gives an encoder's degree, before it is corrected. -/
def mappedDegree (m : ElecCoderMapAntenna) (e : Encoder) (degree : FP32) : FP32 :=
  let d_value := degree - m.elecCoderDegree
  if m.elecCoderCountMode = e.countMode then m.antennaDegree + d_value
  else m.antennaDegree - d_value

/-- North is 0 degrees, east 90. -/
def positionCorrect (degree : FP32) : FP32 :=
  if degree < 0 then degree + 360 else if 360 ≤ degree then degree - 360 else degree

/-- The horizon is 0 degrees. -/
def cabrageCorrect (degree : FP32) : FP32 :=
  if degree < 0 then 0 else if 360 ≤ degree then degree - 360 else degree

def polarCorrect (degree : FP32) : FP32 :=
  if degree ≤ -180 then degree + 360 else if 180 ≤ degree then degree - 360 else degree

/-- The shift of the polarisation mode. -/
def polarShift (satPolarType : UInt8) (degree : FP32) : FP32 :=
  if satPolarType = 2 then degree - 90 else if satPolarType = 1 then degree + 90 else degree

/--
`APP_MONITOR_LocallAntennaRealDegreeDataGet`.  An angle is assigned from its local
variable whether or not that has been; where the elevation encoder counts the other way,
the azimuth's local variable is assigned in place of its own.
-/
def locallAntennaRealDegreeDataGet (stack : Degrees) (g : Gauge) : Degrees :=
  { position :=
      if g.position.linked then
        positionCorrect (mappedDegree g.map.position g.position g.position.degree)
      else stack.position
    cabrage :=
      if g.cabrage.linked then
        cabrageCorrect (
          if g.map.cabrage.elecCoderCountMode = g.cabrage.countMode then
            g.map.cabrage.antennaDegree + (g.cabrage.degree - g.map.cabrage.elecCoderDegree)
          else stack.cabrage)
      else stack.cabrage
    polar := polarShift g.map.satPolarType (
      if g.elecCoderNum = 3 ∧ g.polar.linked then
        polarCorrect (mappedDegree g.map.polar g.polar g.polar.degree)
      else stack.polar) }

/-- `APP_MONITOR_LocallAntennaAdjustDegreeDataGet`: `*degree_output` may stay as it is. -/
def locallAntennaAdjustDegreeDataGet (part_id : UInt8) (g : Gauge)
    (degree_input degree_output : FP32) : FP32 :=
  let degree_output :=
    if g.position.linked ∧ part_id = 1 then
      positionCorrect (mappedDegree g.map.position g.position degree_input)
    else degree_output
  let degree_output :=
    if g.cabrage.linked ∧ part_id = 2 then
      cabrageCorrect (mappedDegree g.map.cabrage g.cabrage degree_input)
    else degree_output
  if g.elecCoderNum = 3 ∧ g.polar.linked ∧ part_id = 3 then
    polarShift g.map.satPolarType (
      polarCorrect (mappedDegree g.map.polar g.polar degree_input))
  else degree_output

/-! ### Soft limits -/

/-- `APP_ElecEncoder_Data2DegreeFloat`. -/
def data2DegreeFloat (bit_num : UInt8) (data : UInt32) : FP32 :=
  (data.toNat : FP32) * 360 / 2 ^ bit_num.toNat

/-- The angle of an encoder's data, or the limit that was there. -/
def limitDegree (g : Gauge) (part : Fin 3) (data : UInt32) (limit : FP32) : FP32 :=
  locallAntennaAdjustDegreeDataGet (UInt8.ofNat (part + 1)) g
    (data2DegreeFloat (g.bitNum part) data) limit

/-- Three degrees above the angle of the hard limit. -/
def startLimit (g : Gauge) (part : Fin 3) (data : UInt32) (limit : FP32) : FP32 :=
  (⌈limitDegree g part data limit + 3⌉ : Int)

/-- Three degrees below the angle of the hard limit. -/
def stopLimit (g : Gauge) (part : Fin 3) (data : UInt32) (limit : FP32) : FP32 :=
  (⌊limitDegree g part data limit - 3⌋ : Int)

/-- The soft limits and the EEPROM. -/
structure Limits where
  softLimit : SoftLimit
  eeprom : Eeprom

/-- `APP_PCCOMM_AntennaHargWareLimitAdjust`; `limit_data` is what the encoder of the axis reads. -/
def antennaHargWareLimitAdjust (g : Gauge) (antenna_limit_part : UInt8) (limit_data : UInt32)
    (s : Limits) : Ret × Limits :=
  let antenna_part := (antenna_limit_part &&& 0xF0) >>> 4
  let eeprom := hardWareLimitSave antenna_part antenna_limit_part limit_data s.eeprom
  let l := s.softLimit
  if antenna_limit_part = 0x10 then
    (.SUCC, ⟨{ l with start.position := startLimit g 0 limit_data l.start.position }, eeprom⟩)
  else if antenna_limit_part = 0x11 then
    (.SUCC, ⟨{ l with stop.position := stopLimit g 0 limit_data l.stop.position }, eeprom⟩)
  else if antenna_limit_part = 0x20 then
    (.SUCC, ⟨{ l with start.cabrage := startLimit g 1 limit_data l.start.cabrage }, eeprom⟩)
  else if antenna_limit_part = 0x21 then
    (.SUCC, ⟨{ l with stop.cabrage := stopLimit g 1 limit_data l.stop.cabrage }, eeprom⟩)
  else if antenna_limit_part = 0x30 then
    (.SUCC, ⟨{ l with stop.polar := stopLimit g 2 limit_data l.stop.polar }, eeprom⟩)
  else if antenna_limit_part = 0x31 then
    (.SUCC, ⟨{ l with start.polar := startLimit g 2 limit_data l.start.polar }, eeprom⟩)
  else (.FAIL, s)

/-- `APP_PCCOMM_FactoryReset`. -/
def factoryReset (s : Limits) : Ret × Limits :=
  (.SUCC,
    { softLimit := ⟨⟨100, 5, -90⟩, ⟨260, 85, 90⟩⟩
      eeprom := hardWareLimitSave 3 0x31 0 (hardWareLimitSave 3 0x30 0
        (hardWareLimitSave 2 0x21 0 (hardWareLimitSave 2 0x20 0
          (hardWareLimitSave 1 0x11 0 (hardWareLimitSave 1 0x10 0 s.eeprom))))) })

/-- A limit at start-up: its default, if nothing is stored. -/
def bootLimit (default : FP32) (limit : UInt32 → FP32) (data : UInt32) : FP32 :=
  if data = 0x00 then default else limit data

/-- The soft limits of `APP_PARAM_Init`: RAM is zero. -/
def softLimitInit (g : Gauge) (m : Eeprom) : SoftLimit :=
  { start :=
      { position := bootLimit 110 (startLimit g 0 · 0) (hardWareLimitRead 0x01 0x10 m)
        cabrage := bootLimit 5 (startLimit g 1 · 0) (hardWareLimitRead 0x02 0x20 m)
        polar := bootLimit (-90) (startLimit g 2 · 0) (hardWareLimitRead 0x03 0x31 m) }
    stop :=
      { position := bootLimit 260 (stopLimit g 0 · 0) (hardWareLimitRead 0x01 0x11 m)
        cabrage := bootLimit 85 (stopLimit g 1 · 0) (hardWareLimitRead 0x02 0x21 m)
        polar := bootLimit 90 (stopLimit g 2 · 0) (hardWareLimitRead 0x03 0x30 m) } }

/-- The commands that change the soft limits. -/
inductive LimitCmd where
  | adjust (antenna_limit_part : UInt8) (limit_data : UInt32)
  | factoryReset

/-- One command. -/
def limitStep (g : Gauge) (s : Limits) : LimitCmd → Limits
  | .adjust part data => (antennaHargWareLimitAdjust g part data s).2
  | .factoryReset => (factoryReset s).2

end SwiftAcu
