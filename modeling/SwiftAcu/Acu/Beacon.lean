/-
The settings of the beacon receiver, `APP_BEACON_SetFreq` and
`APP_BEACON_SetAGCOutputRange` of `app_beacon.c`, and the alarms they raise; and its level,
`APP_BEACON_QueAGC`.

A setting is sent over UART6 and the receiver answers, or does not.  A setting that fails
sets its bit of `dev_alarm_buff[1]` in `ACUCurrSta`, one that succeeds clears it; the monitor
writes the same six bytes from its own.  A frequency outside the range of the receiver is
not sent.

The answer to the query for the level is copied to the front of a local array of 100 bytes:
`none` is an answer that is longer.
-/
import SwiftAcu.Acu.MonitorRun

namespace SwiftAcu.Beacon

open Monitor (setBit clearBits)

abbrev logWarnBeaconSetFreqFail : Nat := 0x010202
abbrev logWarnBeaconSetGainFail : Nat := 0x010203

/-- What the two settings change: `BeaconInfo`, and what the monitor knows. -/
structure Sta where
  mon : Monitor.Sta
  workFreq : UInt32
  agcOutputRange : UInt8
  linkStat : UInt8
  devStat : UInt32
  commStat : UInt32
  /-- `Beacon_Err_cnt`. -/
  errCnt : UInt8

/-- The bytes the receiver answered with, if it did in time. -/
abbrev Answer := Option (List UInt8)

/-- `APP_BEACON_SetFreqCmdResultGet`. -/
def setFreqCmdResultGet : Answer → Ret
  | none => .FAIL
  | some recvbuff =>
    if recvbuff.length ≠ 4 then .FAIL
    else if recvbuff.getD 0 0 ≠ 0x3E then .FAIL
    else if recvbuff.getD 1 0 = 0x54 then .SUCC
    else .FAIL

/-- `APP_BEACON_SetAGCOutputRangeResultGet`. -/
def setAgcOutputRangeResultGet (out_flag : UInt8) : Answer → Ret
  | none => .FAIL
  | some recvbuff =>
    if recvbuff.length ≠ 5 then .FAIL
    else if recvbuff.getD 0 0 ≠ 0x3E then .FAIL
    else if recvbuff.getD 1 0 = 0x38 ∧ recvbuff.getD 2 0 = 0x35 ∧ out_flag = 0 then .SUCC
    else if recvbuff.getD 1 0 = 0x37 ∧ recvbuff.getD 2 0 = 0x38 ∧ out_flag = 1 then .SUCC
    else if recvbuff.getD 1 0 = 0x37 ∧ recvbuff.getD 2 0 = 0x30 ∧ out_flag = 2 then .SUCC
    else .FAIL

/-- A bit of `dev_alarm_buff[1]` set, and the warning saved. -/
def raise (bit : UInt8) (code : Nat) (s : Monitor.Sta) : Monitor.Sta :=
  { s with
    curr := { s.curr with devAlarmBuff := setBit s.curr.devAlarmBuff 1 bit }
    warnLog := code :: s.warnLog }

/-- A bit of `dev_alarm_buff[1]` cleared. -/
def lower (bit : UInt8) (s : Monitor.Sta) : Monitor.Sta :=
  { s with curr := { s.curr with devAlarmBuff := clearBits s.curr.devAlarmBuff 1 bit } }

/-- The frequencies the receiver can be set to. -/
def InRange (freq : UInt32) : Prop := ¬(freq < 950000 ∨ 2150000 < freq)

instance (freq : UInt32) : Decidable (InRange freq) := inferInstanceAs (Decidable (¬(_ ∨ _)))

/-- `APP_BEACON_SetFreq`.  Behind a success `dev_stat` keeps its lowest bit alone. -/
def setFreq (freq : UInt32) (answer : Answer) (s : Sta) : Ret × Sta :=
  if freq < 950000 ∨ 2150000 < freq then (.FAIL, s)
  else
    match setFreqCmdResultGet answer with
    | .SUCC =>
      (.SUCC,
        { s with
          workFreq := freq
          linkStat := 0
          errCnt := 0
          devStat := s.devStat &&& 0x01
          mon := lower 0x02 s.mon })
    | .FAIL =>
      (.FAIL,
        { s with
          commStat := 1
          devStat := s.devStat ||| 0x01
          mon := raise 0x02 logWarnBeaconSetFreqFail s.mon })

/-- `APP_BEACON_SetAGCOutputRange`. -/
def setAgcOutputRange (agc_output_flag : UInt8) (answer : Answer) (s : Sta) : Ret × Sta :=
  let out_flag := if agc_output_flag = 0x85 then 0x00 else if agc_output_flag = 0x78 then 0x01 else 0x02
  match setAgcOutputRangeResultGet out_flag answer with
  | .SUCC =>
    (.SUCC,
      { s with
        agcOutputRange := agc_output_flag
        linkStat := 0
        errCnt := 0
        commStat := 0
        devStat := s.devStat &&& ~~~0x02
        mon := lower 0x04 s.mon })
  | .FAIL =>
    (.FAIL,
      { s with
        devStat := s.devStat ||| 0x02
        mon := raise 0x04 logWarnBeaconSetGainFail s.mon })

/-! ### The level -/

/-- An ASCII digit. -/
def IsDigit (b : UInt8) : Prop := ¬(0x39 < b ∨ b < 0x30)

instance (b : UInt8) : Decidable (IsDigit b) := inferInstanceAs (Decidable (¬(_ ∨ _)))

/-- `recvbuff[i]-0x30`, as it gets into an `INT32U`. -/
def digitAt (recvbuff : List UInt8) (i : Nat) : UInt32 := (recvbuff.getD i 0).toUInt32 - 0x30

/-- `agc_mv` of an answer. -/
def agcMvAt (recvbuff : List UInt8) : UInt32 :=
  digitAt recvbuff 2 * 1000 + digitAt recvbuff 4 * 100 + digitAt recvbuff 5 * 10

/-- `agc_db` of an answer: one of ten bytes has a digit less. -/
def agcDbAt (recvbuff : List UInt8) : UInt32 :=
  if recvbuff.length = 10 then digitAt recvbuff 6 * 1000 + digitAt recvbuff 7 * 100
  else digitAt recvbuff 6 * 1000 + digitAt recvbuff 7 * 100 + digitAt recvbuff 8 * 10

/-- `APP_BEACON_QueAGCResultGet`, with `agc_mv` and `agc_db` if they are written. -/
def queAgcResultGet : Answer → Option (Ret × Option (UInt32 × UInt32))
  | none => some (.FAIL, none)
  | some recvbuff =>
    if 100 < recvbuff.length then none
    else if recvbuff.length < 10 then some (.FAIL, none)
    -- `'>'`
    else if recvbuff.getD 0 0 ≠ 0x3E then some (.FAIL, none)
    -- `'D'` and `'E'`
    else if recvbuff.getD 1 0 ≠ 0x44 ∧ recvbuff.getD 1 0 ≠ 0x45 then some (.FAIL, some (0, 0))
    else if recvbuff.getD 1 0 = 0x44 then some (.SUCC, some (0, 0))
    else if 0x39 < recvbuff.getD 2 0 ∨ recvbuff.getD 2 0 < 0x30 then some (.FAIL, some (0, 0))
    else some (.SUCC, some (agcMvAt recvbuff, agcDbAt recvbuff))

/-- `BeaconInfo` with its `BeaconData`. -/
structure Level extends Sta where
  dataMv : UInt32
  dataDbm : UInt32

/-- What `APP_BEACON_QueAGC` does when the level was not got. -/
def Level.missed (s : Level) : Level :=
  let s := { s with errCnt := s.errCnt + 1 }
  let s :=
    if 10 ≤ s.errCnt then { s with dataMv := 0, dataDbm := 8600, commStat := 1, linkStat := 1 } else s
  if 100 < s.errCnt then { s with errCnt := 20 } else s

/-- What it does with the level; the power is shown in whole decibels. -/
def Level.got (agc_mv agc_db : UInt32) (s : Level) : Level :=
  { s with
    dataMv := agc_mv
    dataDbm := agc_db
    devStat := 0
    linkStat := 0
    errCnt := 0
    commStat := 0
    mon := { s.mon with curr := { s.mon.curr with
      beaconRxpowerMv := agc_mv.toNat
      beaconRxpowerDb := ((-signed32 agc_db.toNat).tdiv 100 : Int) } } }

/-- `APP_BEACON_QueAGC`. -/
def queAgc (answer : Answer) (s : Level) : Option (Ret × Level) :=
  match queAgcResultGet answer with
  | none => none
  | some (.SUCC, some (agc_mv, agc_db)) => some (.SUCC, s.got agc_mv agc_db)
  | some _ => some (.FAIL, s.missed)

/-! ### Runs -/

/-- What happens to the receiver and the alarms. -/
inductive Event where
  | setFreq (freq : UInt32) (answer : Answer)
  | setAgcOutputRange (agc_output_flag : UInt8) (answer : Answer)
  /-- A call of the monitor, or what happens between its calls. -/
  | monitor (a : Monitor.Action)

/-- The state, and whether the last attempt at each setting failed. -/
structure Watch where
  sta : Sta
  freqFailed : Bool
  agcFailed : Bool

/-- One event, watched.  A frequency out of range is no attempt. -/
def Watch.step (w : Watch) : Event → Watch
  | .setFreq freq answer =>
    let r := setFreq freq answer w.sta
    { w with sta := r.2, freqFailed := if InRange freq then r.1 = .FAIL else w.freqFailed }
  | .setAgcOutputRange agc_output_flag answer =>
    let r := setAgcOutputRange agc_output_flag answer w.sta
    { w with sta := r.2, agcFailed := r.1 = .FAIL }
  | .monitor a => { w with sta := { w.sta with mon := Monitor.step w.sta.mon a } }

/-- The device as it starts: no alarm, and no attempt made. -/
def Watch.boot (curr : CurrSta) (seekSatMode devWorkSta : UInt8) (devAdmin : DevAdmin) : Watch :=
  { sta :=
      { mon := (Monitor.Watch.boot curr seekSatMode devWorkSta devAdmin).sta
        workFreq := 0
        agcOutputRange := 0
        linkStat := 0
        devStat := 0
        commStat := 0
        errCnt := 0 }
    freqFailed := false
    agcFailed := false }

end SwiftAcu.Beacon
