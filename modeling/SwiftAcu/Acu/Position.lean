/-
Where the station stands: `APP_PCCOMM_LocalParamSet` and `…_LocalParamSrcSelSet` of
`app_pccomm.c`, the same two of `app_oledcomm.c`, and the position of `APP_PARAM_Init`.

The position is kept three times: the one in use, the one entered by hand, and the one
in the EEPROM.  `APP_MONITOR_AimDegree_Get` and the log only read it.
-/
import SwiftAcu.Acu.AntennaRecord
import SwiftAcu.Acu.DevInfo

namespace SwiftAcu

variable [SoftFloat]

/-- The fields of `strGPSData` that are read here: angles in thousandths of a degree. -/
structure GpsData where
  lonFlag : UInt8
  lon : UInt32
  latFlag : UInt8
  lat : UInt32
  height : UInt32
  valid : UInt8
  deriving DecidableEq

/-- `ACUDevInfo` with the receiver and the position entered by hand. -/
structure Station extends DevInfo where
  gpsData : GpsData
  /-- `HandLocalPositionParam` … -/
  hand : HandLocalPositionParam
  /-- … and its `valid_flag`. -/
  handValid : UInt8

/-- The two front ends. -/
inductive Front where
  | pc
  | oled
  deriving DecidableEq, Repr

/-! ### Setting the position -/

/-- `CurrLocalPositionParam`, as both commands take it out of the command. -/
def currLocalPositionParam (pbuff : List UInt8) : HandLocalPositionParam :=
  { lonFlag := pbuff.getD 0 0
    lon := degreeAt pbuff 1
    latFlag := pbuff.getD 5 0
    lat := degreeAt pbuff 6
    height := UInt32.ofNat (ofBe32At pbuff 10) }

/-- The flags and the angles are another position than the one in use. -/
def positionChanges (p : HandLocalPositionParam) (l : LocalPositionParam) : Prop :=
  p.lonFlag ≠ l.lonFlag ∨ p.lon ≠ l.lon ∨ p.latFlag ≠ l.latFlag ∨ p.lat ≠ l.lat

instance (p : HandLocalPositionParam) (l : LocalPositionParam) : Decidable (positionChanges p l) :=
  inferInstanceAs (Decidable (_ ∨ _))

/-- What both commands do with another position: it is used and stored. -/
def usePosition (p : HandLocalPositionParam) (s : Station) : Station :=
  { s with
    localPosition := { s.localPosition with
      lonFlag := p.lonFlag, lon := p.lon, latFlag := p.latFlag, lat := p.lat, dataSrcFlag := 0x01 }
    device := { s.device with eeprom := locallHandParamSave p s.device.eeprom } }

/-- `APP_PCCOMM_LocalParamSet`: the position entered by hand follows, but for its height. -/
def pcLocalParamSet (cmdlen : UInt8) (pbuff : List UInt8) (s : Station) : Ret × Station :=
  if cmdlen ≠ 0x0E then (.FAIL, s)
  else
    let p := currLocalPositionParam pbuff
    if positionChanges p s.localPosition then
      (.SUCC, { usePosition p s with
        hand := { s.hand with lonFlag := p.lonFlag, lon := p.lon, latFlag := p.latFlag, lat := p.lat } })
    else (.SUCC, s)

/-- `APP_OLEDCOMM_LocalParamSet`: the position entered by hand stays. -/
def oledLocalParamSet (cmdlen : UInt8) (pbuff : List UInt8) (s : Station) : Ret × Station :=
  if cmdlen ≠ 0x0E then (.FAIL, s)
  else
    let p := currLocalPositionParam pbuff
    if positionChanges p s.localPosition then
      (.SUCC, { usePosition p s with
        currSta := { s.currSta with devParamReflashFlag := fun _ => 0x01 } })
    else (.SUCC, s)

/-- `…_LocalParamSet` of a front end. -/
def Front.localParamSet : Front → UInt8 → List UInt8 → Station → Ret × Station
  | .pc => pcLocalParamSet
  | .oled => oledLocalParamSet

/-! ### Selecting the source -/

/-- What a front end divides an angle by, branch for branch. -/
structure SrcUnits where
  /-- The receiver is selected. -/
  gps : FP32
  /-- Automatic, and the receiver is valid. -/
  autoGps : FP32
  /-- Automatic, and only the position entered by hand is valid. -/
  autoHand : FP32
  /-- Automatic, and neither is valid. -/
  autoNone : FP32

/-- The receiver's position in use. -/
def gpsPosition (g : GpsData) (unit : FP32) (src : UInt8) : LocalPositionParam :=
  { lonFlag := g.lonFlag
    lon := (g.lon.toNat : FP32) / unit
    latFlag := g.latFlag
    lat := (g.lat.toNat : FP32) / unit
    height := g.height
    validFlag := if g.valid = 0x41 then 1 else 0
    dataSrcFlag := src }

/-- The position entered by hand in use. -/
def handPosition (s : Station) (unit : FP32) (src : UInt8) : LocalPositionParam :=
  { lonFlag := s.hand.lonFlag
    lon := s.hand.lon / unit
    latFlag := s.hand.latFlag
    lat := s.hand.lat / unit
    height := s.hand.height
    validFlag := s.handValid
    dataSrcFlag := src }

/-- The position a source flag selects; `'A'` is valid. -/
def selectedPosition (u : SrcUnits) (src : UInt8) (s : Station) : LocalPositionParam :=
  if src = 0x02 then gpsPosition s.gpsData u.gps src
  else if src = 0x01 then handPosition s 1 src
  else if s.gpsData.valid = 0x41 then gpsPosition s.gpsData u.autoGps src
  else if 0 < s.handValid then handPosition s u.autoHand src
  else gpsPosition s.gpsData u.autoNone src

/-- The common text of the two selections. -/
def localParamSrcSelSet (u : SrcUnits) (cmdlen : UInt8) (pbuff : List UInt8) (s : Station) :
    Ret × Station :=
  if cmdlen ≠ 1 then (.FAIL, s)
  else
    let src := pbuff.getD 0 0
    (.SUCC, { s with
      localPosition := selectedPosition u src s
      device := { s.device with eeprom := locallParamSrcSave src s.device.eeprom } })

/-- `APP_PCCOMM_LocalParamSrcSelSet` divides by 1000 throughout. -/
def pcLocalParamSrcSelSet : UInt8 → List UInt8 → Station → Ret × Station :=
  localParamSrcSelSet ⟨1000, 1000, 1000, 1000⟩

/-- `APP_OLEDCOMM_LocalParamSrcSelSet` divides by 100, or not at all. -/
def oledLocalParamSrcSelSet : UInt8 → List UInt8 → Station → Ret × Station :=
  localParamSrcSelSet ⟨100, 1, 1, 100⟩

/-- `…_LocalParamSrcSelSet` of a front end. -/
def Front.localParamSrcSelSet : Front → UInt8 → List UInt8 → Station → Ret × Station
  | .pc => pcLocalParamSrcSelSet
  | .oled => oledLocalParamSrcSelSet

/-! ### Start-up -/

/-- The local position of `APP_PARAM_Init`, which comes behind the satellites: RAM is zero. -/
def positionInit (m : Eeprom) : HandLocalPositionParam × LocalPositionParam :=
  let hand := locallHandParamRead (satInit m).2.2
  (hand,
    { lonFlag := hand.lonFlag, lon := hand.lon, latFlag := hand.latFlag, lat := hand.lat
      height := 0, validFlag := 0, dataSrcFlag := 0x00 })

end SwiftAcu
