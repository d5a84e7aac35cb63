/-
The satellite navigation receiver behind the power unit, `app_gps.c`.

The answer is copied to the front of the local `revbuff`, whatever it is; behind it the buffer
holds what the stack held.  An answer longer than the buffer is written outside: `none`.
-/
import SwiftAcu.Acu.Datetime
import SwiftAcu.Acu.Position

namespace SwiftAcu

/-- `strGPSData`, with the time. -/
structure GpsRecord extends GpsData where
  year : UInt16
  month : UInt8
  day : UInt8
  hour : UInt8
  min : UInt8
  sec : UInt8
  deriving DecidableEq

/-- What `APP_GPS_DataGet` writes. -/
structure Receiver where
  /-- `GPSInfo.GPSData`. -/
  gpsData : GpsRecord
  localPosition : LocalPositionParam
  /-- `PDUommStat.link_stat`. -/
  pduLinkStat : UInt8
  deriving DecidableEq

/-- `revbuff` behind `SWIFT_UART4_RecvBuff`. -/
def recvInto (stack : Vector UInt8 32) (reply : List UInt8) : Option (List UInt8) :=
  if reply.length ≤ 32 then some (reply ++ stack.toList.drop reply.length) else none

/-- The fields of an answer, behind its `valid`. -/
def GpsRecord.fill (revbuff : List UInt8) (g : GpsRecord) : GpsRecord :=
  { g with
    lonFlag := revbuff.getD 6 0
    lon := UInt32.ofNat (ofBe32At revbuff 7)
    latFlag := revbuff.getD 11 0
    lat := UInt32.ofNat (ofBe32At revbuff 12)
    height := UInt32.ofNat (ofBe32At revbuff 16)
    year := ((revbuff.getD 20 0).toUInt16 <<< 8) + (revbuff.getD 21 0).toUInt16
    month := revbuff.getD 22 0
    day := revbuff.getD 23 0
    hour := revbuff.getD 24 0
    min := revbuff.getD 25 0
    sec := revbuff.getD 26 0 + 1 }

/-- The end of `APP_GPS_DataGet`: the receiver's position is the one in use. -/
def Receiver.locate (r : Receiver) : Receiver :=
  let g := r.gpsData
  { r with
    localPosition :=
      { dataSrcFlag := 0x00
        validFlag := 0x01
        lonFlag := g.lonFlag
        lon := (g.lon.toNat : FP32) / 1000
        latFlag := g.latFlag
        lat := (g.lat.toNat : FP32) / 1000
        height := g.height } }

/-- `APP_GPS_DataGet`, for the answer to its query if one comes in time. -/
def gpsDataGet (stack : Vector UInt8 32) (reply : Option (List UInt8)) (r : Receiver) :
    Option (Ret × Receiver) :=
  match reply with
  | none => some (.FAIL, { r with pduLinkStat := 1 })
  | some reply => do
    let revbuff ← recvInto stack reply
    let r := { r with pduLinkStat := 0 }
    if revbuff.getD 2 0 ≠ 0x8C ∧ revbuff.getD 3 0 ≠ 0x01 ∧ revbuff.getD 4 0 ≠ 0x16 then
      return (.FAIL, r)
    else
      let r := { r with gpsData := { r.gpsData with valid := revbuff.getD 5 0 } }
      -- `'A'`
      if r.gpsData.valid ≠ 0x41 then return (.FAIL, r)
      else
        let r := { r with gpsData := r.gpsData.fill revbuff }
        return (.SUCC, r.locate)

/-- `APP_GPS_UTC2BeijingTime`. -/
def utc2BeijingTime (g : GpsRecord) : SysDateTime :=
  let t : SysDateTime :=
    { year := if 100 < g.year then g.year else 2000 + g.year
      month := g.month
      day := g.day
      hour := g.hour + 8
      min := g.min
      senc := g.sec }
  let t := if 24 ≤ t.hour then { t with hour := t.hour - 24, day := t.day + 1 } else t
  t.carryDate

end SwiftAcu
