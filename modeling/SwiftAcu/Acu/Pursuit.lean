/-
`APP_Sat_GradientTrack` of `app_satellite_track.c`, the task that keeps a satellite, with
`APP_DScale_Cross_Scan_Track`.

It watches the power, and where that is low it has the antenna searched.  Here a search is one
command, answered by what it returns and the point that it sets; `PursuitCmd.carry` carries it
out by the routine itself.  How long the task waits in between, with `rainFlag`, and what it shows
and logs is left out.
-/
import SwiftAcu.Acu.Tracker

namespace SwiftAcu.Track

/-- What the task has done. -/
inductive PursuitCmd where
  /-- `APP_Gradient_Track`. -/
  | gradientTrack
  /-- `cross_scan`. -/
  | crossScan (delta_Az delta_El : FP32)
  /-- `APP_Triangle_Track`, with `*Azc`, `*ELc` and `*pc`. -/
  | triangleTrack (out : Point)
  /-- `APP_Preliminary_Aim`. -/
  | preliminaryAim

/-- A result, and the point if one is set. -/
abbrev PursuitRet := Ret × Option Point

/-- A part of the task that leaves it with an `ε`. -/
abbrev Pursuer (ε β : Type) := Script Src FP32 PursuitCmd PursuitRet ε β

/-- The parameters of the task. -/
structure PursuitParam where
  /-- `history_max_mv/1000.0`. -/
  p_opt : FP32
  /-- `AimAtSat_Limit_mv/1000.0`. -/
  limit : FP32
  /-- `ScanRange_param[0]` and `ScanRange_param[1]`. -/
  scanRange0 : FP32
  scanRange1 : FP32

/-- `APP_BT`. -/
def appBt (a b segma0 segma1 : FP32) : Bool := segma0 ≤ |a - b| && |a - b| ≤ segma1

/-- `getScanRadius`, with what `*radius` holds before. -/
def PursuitParam.getScanRadius (q : PursuitParam) (radius agc0 agc_opt : FP32) : FP32 :=
  if appBt agc0 agc_opt 2.5 4 then q.scanRange0
  else if !appNb agc0 agc_opt 4 then q.scanRange1
  else radius

/-- The sum of `APP_Power_Deviation`, with `n` samples of 50 to come. -/
def powerDeviation (p : FP32) : Nat → FP32 → Pursuer ε FP32
  | 0, power_ag => pure power_ag
  | n + 1, power_ag => do
    let mv ← .get .beaconRxpowerMv
    powerDeviation p n (power_ag + (mv / 1000 - p) * (mv / 1000 - p) / 50)

/-- `APP_Power_Deviation`. -/
def appPowerDeviation (fpu : Fpu) (p : FP32) : Pursuer ε FP32 := do
  let power_ag ← powerDeviation p 50 0
  return fpu.sqrt power_ag

/-- A routine that only reads, as a part of the task. -/
def onReadings (c : Search ε β) : Pursuer ε β := c.lower fun _ => pure .FAIL

/-- A search, and away if it fails; the point it has set, or the one before. -/
def searched (c : PursuitCmd) (out : Point) : Pursuer Ret Point := do
  let sta ← .give c
  .exitIf (sta.1 = .FAIL) .FAIL
  return sta.2.getD out

/-- `APP_DScale_Cross_Scan_Track`, and away if it fails. -/
def dScaleCrossScanTrack (q : PursuitParam) (pt : Point) : Pursuer Ret Point := do
  let delta := q.getScanRadius 0 pt.p q.p_opt
  let _ ← searched (.crossScan delta delta) pt
  let pt ← onReadings (pointGet appPowerAgGet)
  let pt ← searched (.triangleTrack pt) pt
  if !appNb pt.p q.p_opt q.limit then
    let _ ← .give .preliminaryAim
    .exit .FAIL
  else return pt

/-- The loop of `APP_Sat_GradientTrack`; `pt` is `Az0`, `EL0` and `p0`. -/
def pursuitRound (fpu : Fpu) (q : PursuitParam) (pt : Point) : Pursuer Ret (Point ⊕ Ret) := do
  -- `APP_Satellite_Drift_Check`
  let p0 ← onReadings appPowerAgGet
  let pt := { pt with p := p0 }
  if !appGe q.p_opt pt.p q.limit then return .inl pt
  else
    let p_dev ← appPowerDeviation fpu pt.p
    if 0.5 < p_dev then return .inl pt
    else if appNb pt.p q.p_opt 3 then
      let pt ← searched .gradientTrack pt
      if appNb pt.p q.p_opt q.limit then return .inl pt
      else if appGe q.p_opt pt.p q.limit && appLe q.p_opt pt.p 2.5 then return .inl pt
      else
        let pt ← dScaleCrossScanTrack q pt
        return .inl pt
    else
      let pt ← dScaleCrossScanTrack q pt
      return .inl pt

/-- The angles that `APP_Sat_GradientTrack` starts from. -/
def pursuitStart : Pursuer Ret Point := do
  let az0 ← onReadings (appCurrDegreeGetFp .position)
  let el0 ← onReadings (appCurrDegreeGetFp .cabrage)
  return ⟨az0, el0, 0⟩

/-- `APP_Sat_GradientTrack`. -/
def appSatGradientTrack (fuel : Nat) (fpu : Fpu) (q : PursuitParam) : Pursuer Ret Ret := do
  let pt ← pursuitStart
  Script.loop (pursuitRound fpu q) fuel pt

/-- The first `n` rounds of `APP_Sat_GradientTrack`. -/
def pursuitRounds (n : Nat) (fpu : Fpu) (q : PursuitParam) : Pursuer Ret (Point ⊕ Ret) := do
  let pt ← pursuitStart
  Script.rounds (pursuitRound fpu q) n pt

/-! ### Down to the motors -/

/-- How a command is carried out; `APP_Preliminary_Aim` turns the polarization with three
encoders only. -/
def PursuitCmd.carry (fuel : Nat) (fpu : Fpu) (limit : SoftLimit) (aim : Degrees)
    (elec_coder_num : UInt8) : PursuitCmd → Search PursuitRet PursuitRet
  | .gradientTrack => appGradientTrack fuel fpu limit
  | .crossScan delta_Az delta_El => do
    let ret ← (Track.crossScan fuel limit delta_Az delta_El).call
    return (ret, none)
  | .triangleTrack out => do
    let (ret, out) ← (appTriangleTrackMotors fuel fpu limit out).call
    return (ret, some out)
  | .preliminaryAim => do
    let polFlag : UInt8 := if 3 ≤ elec_coder_num then 0 else 1
    let ret ← (Track.adaptTargetAngle fuel limit (targets aim) fun part =>
      if part = .polar then polFlag else 0).call
    return (ret, none)

end SwiftAcu.Track
