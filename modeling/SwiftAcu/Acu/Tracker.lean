/-
`APP_Triangle_Track` of `app_satellite_track.c`, and the level of the trackers.

A tracker drives the antenna by `adapt_target_angle` and takes samples.  Here a drive is one
command, answered by its return value; `TrackCmd.carry` carries it out by the routine itself.
`*Azc`, `*ELc` and `*pc` are a point that is handed in and handed back.
-/
import Mathlib.Algebra.Order.Group.Unbundled.Abs
import SwiftAcu.Acu.Track

namespace SwiftAcu.Track

/-- What a tracker commands: a motor, or `adapt_target_angle` of azimuth and elevation. -/
inductive TrackCmd where
  | motor (c : MotorCmd)
  | adaptTargetAngle (tar_Az tar_El : FP32)
  deriving DecidableEq

/-- A part of a tracker that leaves it with an `ε`. -/
abbrev Tracker (ε β : Type) := Script Src FP32 TrackCmd Ret ε β

/-- A routine of the motors, as a part of a tracker. -/
def onMotors (c : Search ε β) : Tracker ε β := c.lower fun c => .give (.motor c)

/-- How a command is carried out; the polarization is left alone. -/
def TrackCmd.carry (fuel : Nat) (limit : SoftLimit) : TrackCmd → Search Ret Ret
  | .motor c => .give c
  | .adaptTargetAngle tar_Az tar_El =>
    Track.adaptTargetAngle fuel limit (targets ⟨tar_Az, tar_El, 0⟩)
      fun part => if part = .polar then 1 else 0

/-- `adapt_target_angle`, and away with `ret` if it fails. -/
def drive (tar_Az tar_El : FP32) (ret : ε) : Tracker ε Unit := do
  let sta ← .give (.adaptTargetAngle tar_Az tar_El)
  .exitIf (sta = .FAIL) ret

/-! ### APP_Triangle_Track -/

/-- `APP_NB`. -/
def appNb (a b segma : FP32) : Bool := |a - b| ≤ segma

/-- The three points: `tar_Az_H`, `tar_El_H` and `P_H`, and the same with `_M` and `_L`. -/
structure Simplex where
  h : Point
  m : Point
  l : Point

/-- A new point, and `L` is given up. -/
def Simplex.insert (h m new : Point) : Simplex :=
  if h.p ≤ new.p then ⟨new, h, m⟩
  else if m.p ≤ new.p then ⟨h, new, m⟩
  else ⟨h, m, new⟩

/-- `M` and `L` exchanged. -/
def Simplex.swap (pts : Simplex) : Simplex := ⟨pts.h, pts.l, pts.m⟩

/-- `L` mirrored: azimuth and elevation. -/
def Simplex.tar (pts : Simplex) : FP32 × FP32 :=
  (pts.h.az - pts.l.az + pts.m.az, pts.h.el - pts.l.el + pts.m.el)

/-- `delta_P`. -/
abbrev deltaP : FP32 := 0.3

/-- Where the loop of `APP_Triangle_Track` is. -/
structure TriangleSta where
  pts : Simplex
  beta_Az : FP32
  beta_El : FP32
  /-- `Az`, `El` and `P`. -/
  curr : Point
  c0 : UInt8
  /-- `*Azc`, `*ELc` and `*pc`. -/
  out : Point

/-- A result, and `*Azc`, `*ELc` and `*pc`. -/
abbrev TriangleRet := Ret × Point

/-- The condition of the loop. -/
def TriangleSta.goesOn (s : TriangleSta) : Bool :=
  (!appNb s.pts.l.p s.pts.m.p deltaP || !appNb s.pts.m.p s.pts.h.p deltaP ||
    !appNb s.pts.h.p s.pts.l.p deltaP) && s.c0 ≠ 6

/-- The target would be near where the antenna came from: the azimuth is asked twice. -/
def TriangleSta.returns (s : TriangleSta) : Bool :=
  appNb s.pts.tar.1 s.beta_Az 0.05 && appNb s.pts.tar.1 s.beta_Az 0.05

/-- The points to go on from. -/
def TriangleSta.turn (s : TriangleSta) : Simplex := if s.returns then s.pts.swap else s.pts

/-- `cosBeta`, of the target, the new base point and the current one. -/
def cosBeta (fpu : Fpu) (tar : FP32 × FP32) (beta curr : Point) : FP32 :=
  let eg_t := (tar.1 - beta.az) * (tar.1 - beta.az) + (tar.2 - beta.el) * (tar.2 - beta.el)
  let eg_h := (curr.az - beta.az) * (curr.az - beta.az) + (curr.el - beta.el) * (curr.el - beta.el)
  let eg_m := (tar.1 - curr.az) * (tar.1 - curr.az) + (tar.2 - curr.el) * (tar.2 - curr.el)
  fpu.div (eg_t + eg_h - eg_m) (2 * fpu.sqrt (eg_t * eg_h))

/-- The first two drives, and the three points. -/
def triangleStart (out : Point) : Tracker TriangleRet TriangleSta := do
  let p0 ← onMotors (pointGet appPowerGet)
  drive (p0.az + -0.03) (p0.el + 0.03 * 1.7320508) (.FAIL, out)
  let p1 ← onMotors (pointGet appPowerGet)
  let h := if p0.p ≤ p1.p then p1 else p0
  let m := if p0.p ≤ p1.p then p0 else p1
  -- `if(*pc<P_H);` ends here: `*Azc`, `*ELc` and `*pc` are `h` in any case
  drive (p1.az + 0.06) (p1.el + 0) (.FAIL, h)
  let p2 ← onMotors (pointGet appPowerGet)
  let pts := Simplex.insert h m p2
  return { pts, beta_Az := p0.az, beta_El := p0.el, curr := p2, c0 := 0, out := pts.h }

/-- The loop of `APP_Triangle_Track`; it ends with `*Azc`, `*ELc` and `*pc`. -/
def triangleRound (fpu : Fpu) (s : TriangleSta) :
    Tracker TriangleRet (TriangleSta ⊕ Point) := do
  if s.goesOn then
    let c0 := if s.returns then s.c0 + 1 else s.c0
    let pts := s.turn
    if 0.98 < cosBeta fpu pts.tar pts.l s.curr then return .inr s.out
    else
      drive pts.tar.1 pts.tar.2 (.FAIL, s.out)
      let new ← onMotors (pointGet appPowerAgGet4Purs)
      let next := Simplex.insert pts.h pts.m new
      return .inl
        { pts := next
          beta_Az := pts.l.az
          beta_El := pts.l.el
          curr := new
          c0 := if pts.h.p ≤ new.p then 0 else c0
          out := next.h }
  else return .inr s.out

/-- The drive to `*Azc` and `*ELc`, and what is read there. -/
def triangleEnd (out : Point) : Tracker TriangleRet TriangleRet := do
  drive out.az out.el (.FAIL, out)
  let out ← onMotors (pointGet appPowerAgGet4Purs)
  return (.SUCC, out)

/-- `APP_Triangle_Track`. -/
def appTriangleTrack (fuel : Nat) (fpu : Fpu) (out : Point) : Tracker TriangleRet TriangleRet := do
  let s ← triangleStart out
  let out ← Script.loop (triangleRound fpu) fuel s
  triangleEnd out

/-- `APP_Triangle_Track` down to the motors. -/
def appTriangleTrackMotors (fuel : Nat) (fpu : Fpu) (limit : SoftLimit) (out : Point) :
    Search TriangleRet TriangleRet :=
  (appTriangleTrack fuel fpu out).lower (TrackCmd.carry fuel limit)

end SwiftAcu.Track
