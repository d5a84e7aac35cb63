/-
The system time, `app_datetime.c`, and its clock chip, `ic_ds1302.c`.

The registers of the DS1302 return what was written; it does not count while it is looked
at, and its semaphore is free.  A register is written at one address and read at the next.
-/
import SwiftAcu.Acu.Basic

namespace SwiftAcu

/-! ### The calendar -/

/-- The test for a leap year. -/
def leapYear (year : UInt16) : Bool := 0 = year % 4 && 0 ≠ year % 100 || 0 = year % 400

/-- The end of a month of `last` days. -/
def SysDateTime.endMonth (last : UInt8) (t : SysDateTime) : SysDateTime :=
  if last < t.day then { t with day := 1, month := t.month + 1 } else t

/-- The common text of `DATETIME_RefreshBySec` and `APP_GPS_UTC2BeijingTime`, behind the day. -/
def SysDateTime.carryDate (t : SysDateTime) : SysDateTime :=
  let t :=
    if t.month = 1 ∨ t.month = 3 ∨ t.month = 5 ∨ t.month = 7 ∨ t.month = 8 ∨ t.month = 10 ∨
        t.month = 12 then
      t.endMonth 31
    else if t.month = 4 ∨ t.month = 6 ∨ t.month = 9 ∨ t.month = 11 then t.endMonth 30
    else if t.month = 2 then
      if leapYear t.year then t.endMonth 29 else t.endMonth 28
    else t
  if 12 < t.month then { t with month := 1, year := t.year + 1 } else t

/-- The first part of `DATETIME_RefreshBySec`. -/
def SysDateTime.carryTime (t : SysDateTime) : SysDateTime :=
  let t := { t with senc := t.senc + 1 }
  let t := if 60 ≤ t.senc then { t with senc := 0, min := t.min + 1 } else t
  let t := if 60 ≤ t.min then { t with min := 0, hour := t.hour + 1 } else t
  if 24 ≤ t.hour then { t with hour := 0, day := t.day + 1 } else t

/-- `DATETIME_RefreshBySec`. -/
def refreshBySec (t : SysDateTime) : SysDateTime := t.carryTime.carryDate

/-! ### The clock chip -/

/-- The registers of the DS1302. -/
abbrev Ds1302 := UInt8 → UInt8

/-- `DS1302_WriteReg`. -/
def Ds1302.writeReg (c : Ds1302) (reg_addr reg_data : UInt8) : Ds1302 :=
  Function.update c (reg_addr >>> 1) reg_data

/-- `DS1302_ReadReg`. -/
def Ds1302.readReg (c : Ds1302) (reg_addr : UInt8) : UInt8 := c (reg_addr >>> 1)

/-- A field of the chip. -/
structure RtcField where
  /-- `WRITE_…` and `READ_…`. -/
  write : UInt8
  read : UInt8
  /-- What is taken of the tens. -/
  mask : UInt8

/-- The common text of `DS1302_Read…`. -/
def RtcField.get (f : RtcField) (c : Ds1302) : UInt8 :=
  let reg_data := c.readReg f.read
  ((reg_data &&& f.mask) >>> 4) * 10 + (reg_data &&& 0x0F) % 10

/-- The common text of `DS1302_Write…`: what is written is read back. -/
def RtcField.set (f : RtcField) (c : Ds1302) (x : UInt8) : Ret × Ds1302 :=
  let c := c.writeReg f.write (((x / 10) <<< 4) + x % 10)
  (if f.get c ≠ x then .FAIL else .SUCC, c)

/-- `DS1302_ReadSecond` and `DS1302_WriteSecond`. -/
def rtcSecond : RtcField := ⟨0x80, 0x81, 0x70⟩

/-- `DS1302_ReadMinute` and `DS1302_WriteMinute`. -/
def rtcMinute : RtcField := ⟨0x82, 0x83, 0x70⟩

/-- `DS1302_ReadHour` and `DS1302_WriteHour`. -/
def rtcHour : RtcField := ⟨0x84, 0x85, 0x10⟩

/-- `DS1302_ReadDay` and `DS1302_WriteDay`. -/
def rtcDay : RtcField := ⟨0x86, 0x87, 0x30⟩

/-- `DS1302_ReadMonth` and `DS1302_WriteMonth`. -/
def rtcMonth : RtcField := ⟨0x88, 0x89, 0x10⟩

/-- `DS1302_ReadYear` and `DS1302_WriteYear`. -/
def rtcYear : RtcField := ⟨0x8C, 0x8D, 0xF0⟩

/-- A field that is not kept ends the save. -/
def saveFields : List (RtcField × UInt8) → Ds1302 → Ret × Ds1302
  | [], c => (.SUCC, c)
  | (f, x) :: fields, c =>
    match f.set c x with
    | (.FAIL, c) => (.FAIL, c)
    | (.SUCC, c) => saveFields fields c

/-- What `DATETIME_SavetoRtcIC` writes, in its order. -/
def SysDateTime.rtcFields (t : SysDateTime) : List (RtcField × UInt8) :=
  [(rtcYear, (t.year % 100).toUInt8), (rtcMonth, t.month), (rtcDay, t.day), (rtcHour, t.hour),
    (rtcMinute, t.min), (rtcSecond, t.senc)]

/-- `DATETIME_SavetoRtcIC`. -/
def savetoRtcIC (t : SysDateTime) (c : Ds1302) : Ret × Ds1302 := saveFields t.rtcFields c

/-- `DATETIME_ReadFromRtcIC`. -/
def readFromRtcIC (c : Ds1302) : SysDateTime :=
  { year := (rtcYear.get c).toUInt16 + 2000
    month := rtcMonth.get c
    day := rtcDay.get c
    hour := rtcHour.get c
    min := rtcMinute.get c % 60
    senc := rtcSecond.get c % 60 }

end SwiftAcu
