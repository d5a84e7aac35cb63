/-
The searches of `app_satellite_track.c`: `adapt_target_angle`, `cross_scan`, `pl_scan` and
`APP_Gradient_Track`.

They read the angles and the beacon, and start and stop motors.  What is read, and what an
`Antenna_DriveStart` or an `Antenna_DriveEnd` returns, is an input.  The readings never
fail, so the exits behind them are left out.  The limits are those of the call.  The floats
are rational numbers; a quotient and a square root are taken from `Fpu`, whatever they are.
-/
import Mathlib.Algebra.Order.Ring.Rat
import SwiftAcu.Acu.Motor
import SwiftAcu.Lib.Script

namespace SwiftAcu.Track

/-! ### Readings and commands -/

/-- What is read. -/
inductive Src where
  /-- `antenna_position`, `antenna_cabrage` or `antenna_polar`. -/
  | degree (part : AntennaPart)
  | beaconRxpowerMv
  deriving DecidableEq

/-- `Antenna_DriveStart` and `Antenna_DriveEnd`. -/
inductive MotorCmd where
  | start (part : AntennaPart) (direction : UInt8)
  | stop (part : AntennaPart) (direction : UInt8)
  deriving DecidableEq

/-- A part of a search that leaves it with an `ε`. -/
abbrev Search (ε β : Type) := Script Src FP32 MotorCmd Ret ε β

/-- What has been read and been answered. -/
abbrev Trace := List (Event Src FP32 MotorCmd Ret)

/-- `APP_GE`. -/
def appGe [Sub α] [LE α] [DecidableLE α] (a b segma : α) : Bool := segma ≤ a - b

/-- `APP_LE`. -/
def appLe [Sub α] [LE α] [DecidableLE α] (a b segma : α) : Bool := a - b ≤ segma

/-- `ACCEPTENCE_DOMAIN`. -/
abbrev acceptenceDomain : FP32 := 0.01

/-- `APP_CurrDegree_Get_FP`. -/
def appCurrDegreeGetFp (part : AntennaPart) : Search ε FP32 := .get (.degree part)

/-- `APP_Power_Get`. -/
def appPowerGet : Search ε FP32 := do
  let mv ← .get .beaconRxpowerMv
  return mv / 1000

/-- The sum of `APP_Power_AG_Get`, with `n` samples of `samp_count` to come. -/
def powerAg (samp_count : FP32) : Nat → FP32 → Search ε FP32
  | 0, power_ag => pure power_ag
  | n + 1, power_ag => do
    let mv ← .get .beaconRxpowerMv
    powerAg samp_count n (power_ag + mv / 1000 / samp_count)

/-- `APP_Power_AG_Get`. -/
def appPowerAgGet : Search ε FP32 := powerAg 30 30 0

/-- `APP_Power_AG_Get_4_PURS`. -/
def appPowerAgGet4Purs : Search ε FP32 := powerAg 20 20 0

/-- A command, and once more if it fails. -/
def twice (c : MotorCmd) : Search ε Ret := do
  if (← .give c) = .FAIL then
    if (← .give c) = .FAIL then return .FAIL
    else return .SUCC
  else return .SUCC

/-- `APP_MotorStart`. -/
def appMotorStart (obj : AntennaPart) (dir : UInt8) : Search ε Ret := twice (.start obj dir)

/-- `APP_MotorEnd`. -/
def appMotorEnd (obj : AntennaPart) (dir : UInt8) : Search ε Ret := twice (.stop obj dir)

/-- `if (… == FAIL) return FAIL;` -/
def orFail (c : Search Ret Ret) : Search Ret Unit := do
  let ret ← c
  .exitIf (ret = .FAIL) .FAIL

/-! ### adapt_target_angle -/

/-- Angles as targets. -/
def targets (d : Degrees) (part : AntennaPart) : AnyFP32 := d.part part

/-- The way to the target of an axis. -/
def targetDir (part : AntennaPart) (obj : AnyFP32) : Search ε UInt8 := do
  let degree ← appCurrDegreeGetFp part
  return if appGe (degree : AnyFP32) obj 0 then dirLeftDownAnticlock else dirRightUpClock

/-- The start of an axis that is not to be left alone. -/
def adaptStart (flag : AntennaPart → UInt8) (part : AntennaPart) (dir : UInt8) :
    Search Ret Unit := do
  if flag part = 0 then orFail (appMotorStart part dir)

/-- An axis that goes in a direction is at its target, or beyond. -/
def arrived (dir : UInt8) (degree : FP32) (obj : AnyFP32) : Bool :=
  if dir = dirLeftDownAnticlock then appLe (degree : AnyFP32) obj acceptenceDomain
  else appLe obj degree acceptenceDomain

/-- The look at an axis: it is stopped at its target, and its flag set. -/
def adaptAxis (tar : AntennaPart → AnyFP32) (dir : AntennaPart → UInt8) (part : AntennaPart)
    (flag : AntennaPart → UInt8) : Search Ret (AntennaPart → UInt8) := do
  if flag part = 0 then
    let degree ← appCurrDegreeGetFp part
    if arrived (dir part) degree (tar part) then
      orFail (appMotorEnd part (dir part))
      return Function.update flag part 1
    else return flag
  else return flag

/-- The loop of `adapt_target_angle`. -/
def adaptRound (tar : AntennaPart → AnyFP32) (dir : AntennaPart → UInt8)
    (flag : AntennaPart → UInt8) : Search Ret ((AntennaPart → UInt8) ⊕ Unit) := do
  if flag .position = 0 ∨ flag .cabrage = 0 ∨ flag .polar = 0 then
    let flag ← adaptAxis tar dir .position flag
    let flag ← adaptAxis tar dir .cabrage flag
    let flag ← adaptAxis tar dir .polar flag
    return .inl flag
  else return .inr ()

/-- `adapt_target_angle`, with `stop_f_Az`, `stop_f_El` and `stop_f_Pol` in `stop_f`. -/
def adaptTargetAngle (fuel : Nat) (limit : SoftLimit) (tar : AntennaPart → AnyFP32)
    (stop_f : AntennaPart → UInt8) : Search Ret Ret := do
  .exitIf (stop_f .polar = 0 ∧
    (tar .polar < limit.start.polar ∨ limit.stop.polar < tar .polar)) .FAIL
  .exitIf (tar .position < limit.start.position ∨ limit.stop.position < tar .position) .FAIL
  .exitIf (tar .cabrage < limit.start.cabrage ∨ limit.stop.cabrage < tar .cabrage) .FAIL
  let azDir ← targetDir .position (tar .position)
  let elDir ← targetDir .cabrage (tar .cabrage)
  let polDir ← targetDir .polar (tar .polar)
  let dir : AntennaPart → UInt8
    | .position => azDir
    | .cabrage => elDir
    | .polar => polDir
  adaptStart stop_f .position azDir
  adaptStart stop_f .cabrage elDir
  adaptStart stop_f .polar polDir
  Script.loop (adaptRound tar dir) fuel stop_f
  return .SUCC

/-! ### The scans -/

/-- An axis is driven down, or left, to a bound; the last angle. -/
def driveDown (fuel : Nat) (part : AntennaPart) (bound : FP32) : Search Ret FP32 := do
  orFail (appMotorStart part dirLeftDownAnticlock)
  let last ← Script.loop (fun (_ : Unit) => do
    let degree ← appCurrDegreeGetFp part
    return if appGe degree bound acceptenceDomain then .inl () else .inr degree) fuel ()
  orFail (appMotorEnd part dirLeftDownAnticlock)
  return last

/-- The best of a scan. -/
structure Best where
  p : FP32
  degree : FP32

/-- An axis is driven up, or right, to a bound, and the best power kept; the last angle. -/
def scanUp (fuel : Nat) (part : AntennaPart) (bound : FP32) (best : Best) :
    Search Ret (FP32 × Best) := do
  orFail (appMotorStart part dirRightUpClock)
  let last ← Script.loop (fun (best : Best) => do
    let degree ← appCurrDegreeGetFp part
    let p0 ← appPowerGet
    let best := if appGe p0 best.p 0 then ⟨p0, degree⟩ else best
    return if appGe bound degree acceptenceDomain then .inl best else .inr (degree, best)) fuel best
  orFail (appMotorEnd part dirRightUpClock)
  return last

/-- One axis of `cross_scan`: down, up, and back to the best. -/
def scanAxis (fuel : Nat) (part : AntennaPart) (lo hi : FP32) (best : Best) : Search Ret Best := do
  let _ ← driveDown fuel part lo
  let (last, best) ← scanUp fuel part hi best
  if !appGe best.degree last 0 then
    let _ ← driveDown fuel part best.degree
  return best

/-- `cross_scan`. -/
def crossScan (fuel : Nat) (limit : SoftLimit) (delta_Az delta_El : FP32) : Search Ret Ret := do
  let az0 ← appCurrDegreeGetFp .position
  let el0 ← appCurrDegreeGetFp .cabrage
  let _ ← appPowerGet
  let azMin := max (az0 - delta_Az) (limit.start.position + 1)
  let azMax := min (az0 + delta_Az) (limit.stop.position - 1)
  let elMin := max (el0 - delta_El) (limit.start.cabrage + 1)
  let elMax := min (el0 + delta_El) (limit.stop.cabrage - 1)
  let best ← scanAxis fuel .cabrage elMin elMax ⟨-1, el0⟩
  let _ ← scanAxis fuel .position azMin azMax ⟨best.p, az0⟩
  return .SUCC

/-- `pl_scan`. -/
def plScan (fuel : Nat) (limit : SoftLimit) : Search Ret Ret := do
  let pl0 ← appCurrDegreeGetFp .polar
  let plMax := min (20 + pl0) (limit.stop.polar - 1)
  let plMin := max (-20 + pl0) (limit.start.polar + 1)
  let _ ← appPowerAgGet
  let _ ← driveDown fuel .polar plMin
  let (_, best) ← scanUp fuel .polar plMax ⟨-1, 0⟩
  let _ ← driveDown fuel .polar best.degree
  return .SUCC

/-! ### APP_Gradient_Track -/

/-- Quotients and square roots of floats. -/
structure Fpu where
  div : FP32 → FP32 → FP32
  sqrt : FP32 → FP32

/-- Azimuth, elevation and power. -/
structure Point where
  az : FP32
  el : FP32
  p : FP32

/-- A difference of two points. -/
structure Delta where
  az : FP32
  el : FP32
  p : FP32

/-- The gradient `d_Az`, `d_El`, and the same with length one. -/
structure Gradient where
  d_Az : FP32
  d_El : FP32
  d_Az_n : FP32
  d_El_n : FP32

/-- The gradient of two differences. -/
def gradient (fpu : Fpu) (new old : Delta) : Gradient :=
  let d_Az_El := new.az * old.el - new.el * old.az
  let d_Az := fpu.div (new.p * old.el - old.p * new.el) d_Az_El
  let d_El := fpu.div (old.p * new.az - new.p * old.az) d_Az_El
  let norm := fpu.sqrt (d_Az ^ 2 + d_El ^ 2)
  ⟨d_Az, d_El, fpu.div d_Az norm, fpu.div d_El norm⟩

/-- `APP_CurrDegree_Get_FP` twice, and the power. -/
def pointGet (power : Search ε FP32) : Search ε Point := do
  let az ← appCurrDegreeGetFp .position
  let el ← appCurrDegreeGetFp .cabrage
  let p ← power
  return ⟨az, el, p⟩

/-- Where the loop of `APP_Gradient_Track` is. -/
structure GradientSta where
  new : Point
  deltaNew : Delta
  grad : Gradient
  step : Nat

/-- A result, and `*Azc`, `*ELc` and `*pc` if they are set. -/
abbrev GradientRet := Ret × Option Point

/-- The step along one axis: `least` if it is too small. -/
def gradientStep (d least : FP32) : FP32 := if |d * 0.08| < 0.001373 then least else d * 0.08

/-- The loop of `APP_Gradient_Track`. -/
def gradientRound (fuel : Nat) (fpu : Fpu) (limit : SoftLimit) (s : GradientSta) :
    Search GradientRet (GradientSta ⊕ Unit) := do
  if 0.5 < s.grad.d_Az ^ 2 + s.grad.d_El ^ 2 then
    let tar : Degrees :=
      ⟨s.new.az + gradientStep s.grad.d_Az_n 0.03, s.new.el + gradientStep s.grad.d_El_n 0.02, 0⟩
    let ret ← (adaptTargetAngle fuel limit (targets tar) fun part => if part = .polar then 1 else 0).call
    .exitIf (ret = .FAIL) (.FAIL, none)
    let new ← pointGet appPowerAgGet4Purs
    .exitIf (30 < s.step) (.SUCC, none)
    let deltaOld : Delta := ⟨s.deltaNew.az, s.deltaNew.el + 0.01, s.deltaNew.p⟩
    let deltaNew : Delta := ⟨new.az - s.new.az + 0.01, new.el - s.new.el, new.p - s.new.p⟩
    return .inl ⟨new, deltaNew, gradient fpu deltaNew deltaOld, s.step + 1⟩
  else return .inr ()

/-- Both axes are driven for a while; `azFirst` tells which is stopped first. -/
def gradientMove (azDir elDir : UInt8) (azFirst : Bool) : Search GradientRet Unit := do
  let ret ← appMotorStart .position azDir
  .exitIf (ret = .FAIL) (.FAIL, none)
  let ret ← appMotorStart .cabrage elDir
  .exitIf (ret = .FAIL) (.FAIL, none)
  if azFirst then
    let _ ← appMotorEnd .position azDir
    let _ ← appMotorEnd .cabrage elDir
  else
    let _ ← appMotorEnd .cabrage elDir
    let _ ← appMotorEnd .position azDir

/-- `APP_Gradient_Track`. -/
def appGradientTrack (fuel : Nat) (fpu : Fpu) (limit : SoftLimit) :
    Search GradientRet GradientRet := do
  let oldI ← pointGet appPowerGet
  gradientMove dirLeftDownAnticlock dirRightUpClock true
  let old ← pointGet appPowerAgGet4Purs
  gradientMove dirRightUpClock dirLeftDownAnticlock false
  let new ← pointGet appPowerAgGet4Purs
  let deltaNew : Delta := ⟨new.az - old.az + 0.01, new.el - old.el, new.p - old.p⟩
  let deltaOld : Delta := ⟨old.az - oldI.az, old.el - oldI.el + 0.01, old.p - oldI.p⟩
  Script.loop (gradientRound fuel fpu limit) fuel
    ⟨new, deltaNew, gradient fpu deltaNew deltaOld, 0⟩
  let elc ← appCurrDegreeGetFp .cabrage
  let azc ← appCurrDegreeGetFp .position
  let pc ← appPowerAgGet4Purs
  return (.SUCC, some ⟨azc, elc, pc⟩)

end SwiftAcu.Track
