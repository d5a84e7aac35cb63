/-
Whether a search leaves a motor running.

The four searches of `app_satellite_track.c` run alone, against any readings and answers;
the driving task of `main.c` runs among the others.
-/
import SwiftAcu.Proofs.Goto.Cancel
import SwiftAcu.Proofs.Goto.Leave
import SwiftAcu.Proofs.Track.Release

namespace SwiftAcu.Track

/-- The searches, with what they are called with. -/
inductive Routine where
  | adaptTargetAngle (limit : SoftLimit) (tar : AntennaPart → AnyFP32) (stop_f : AntennaPart → UInt8)
  | crossScan (limit : SoftLimit) (delta_Az delta_El : FP32)
  | plScan (limit : SoftLimit)
  | appGradientTrack (fpu : Fpu) (limit : SoftLimit)

/-- Readings and answers, which may depend on all that has happened. -/
abbrev Env := Script.Env Src FP32 MotorCmd Ret

/-- What a search returns, and its trace, if it returns before the fuel is used up. -/
def Routine.returns (env : Env) (fuel : Nat) : Routine → Option (Ret × Trace)
  | .adaptTargetAngle limit tar stop_f =>
    ((Track.adaptTargetAngle fuel limit tar stop_f).exec env []).map fun r => (r.1.elim id id, r.2)
  | .crossScan limit delta_Az delta_El =>
    ((Track.crossScan fuel limit delta_Az delta_El).exec env []).map fun r => (r.1.elim id id, r.2)
  | .plScan limit => ((Track.plScan fuel limit).exec env []).map fun r => (r.1.elim id id, r.2)
  | .appGradientTrack fpu limit =>
    ((Track.appGradientTrack fuel fpu limit).exec env []).map fun r =>
      (r.1.elim Prod.fst Prod.fst, r.2)

/-- A scan is always released; the other searches are unless they are stranded. -/
def Routine.Releases : Routine → Trace → Prop
  | .crossScan .., _ => True
  | .plScan .., _ => True
  | .adaptTargetAngle .., tr => NotStranded tr
  | .appGradientTrack .., tr => NotStranded tr

theorem released_nil : Released [] := not_owed_nil

/-- **A search that returns** is released exactly under its condition. -/
theorem released_iff_releases {q : Routine} {env : Env} {fuel : Nat} {ret : Ret} {tr : Trace}
    (h : q.returns env fuel = some (ret, tr)) : Released tr ↔ q.Releases tr := by
  cases q with
  | adaptTargetAngle limit tar stop_f =>
      obtain ⟨⟨r, tr⟩, hexec, heq⟩ := Option.map_eq_some_iff.mp h
      obtain ⟨-, rfl⟩ := Prod.mk.injEq .. ▸ heq
      have hpost := (post_adaptTargetAngle fuel limit tar stop_f released_nil).exec env hexec
      refine released_iff_notStranded ?_
      cases r with
      | inl ret => exact hpost.2
      | inr ret => exact Or.inl hpost.2
  | crossScan limit delta_Az delta_El =>
      obtain ⟨⟨r, tr⟩, hexec, heq⟩ := Option.map_eq_some_iff.mp h
      obtain ⟨-, rfl⟩ := Prod.mk.injEq .. ▸ heq
      have hpost := (post_crossScan fuel limit delta_Az delta_El released_nil).exec env hexec
      refine iff_of_true ?_ trivial
      cases r with
      | inl ret => exact hpost
      | inr ret => exact hpost
  | plScan limit =>
      obtain ⟨⟨r, tr⟩, hexec, heq⟩ := Option.map_eq_some_iff.mp h
      obtain ⟨-, rfl⟩ := Prod.mk.injEq .. ▸ heq
      have hpost := (post_plScan fuel limit released_nil).exec env hexec
      refine iff_of_true ?_ trivial
      cases r with
      | inl ret => exact hpost
      | inr ret => exact hpost
  | appGradientTrack fpu limit =>
      obtain ⟨⟨r, tr⟩, hexec, heq⟩ := Option.map_eq_some_iff.mp h
      obtain ⟨-, rfl⟩ := Prod.mk.injEq .. ▸ heq
      have hpost := (post_appGradientTrack fuel fpu limit released_nil).exec env hexec
      refine released_iff_notStranded ?_
      cases r with
      | inl ret => exact hpost.2
      | inr ret => exact hpost.2

/--
**No search leaves a motor running** unless it is stranded: a search that returns is released
exactly under its condition, and the driving task leaves nothing at its end in exactly the
runs in which it is not stranded.
-/
theorem searches_release_iff (q : Routine) (env : Env) (fuel : Nat) (ret : Ret) (tr : Trace)
    (s : Goto.Sta) (as : List Goto.Action) :
    (q.returns env fuel = some (ret, tr) → (Released tr ↔ q.Releases tr)) ∧
      (Runs.AllSteps Goto.Watch.step Goto.LeavesNone (.boot s) as ↔
        Runs.AllSteps Goto.Watch.step Goto.NotStranded (.boot s) as) :=
  ⟨released_iff_releases, Goto.allSteps_leavesNone_iff s as⟩

/-! ### A move that arrives, and an elevation that does not start -/

/-- The antenna stands still, and the power unit does not start the elevation. -/
def stillEnv : Env :=
  { value := fun _ src =>
      match src with
      | .degree .position => 180
      | .degree .cabrage => 45
      | .degree .polar => 0
      | .beaconRxpowerMv => 0
    answer := fun _ c =>
      match c with
      | .start .cabrage _ => .FAIL
      | _ => .SUCC }

/-- The same, but the azimuth is seen at 190 and then at 200 degrees once it was started. -/
def turningEnv : Env :=
  { stillEnv with
    value := fun tr src =>
      if src = .degree .position ∧ 4 ≤ tr.length then if tr.length < 5 then 190 else 200
      else stillEnv.value tr src }

/-- `adapt_target_angle` to 200 degrees of azimuth and, if `el` is 0, to another elevation. -/
def adaptTo (el : UInt8) : Routine :=
  .adaptTargetAngle ⟨⟨110, 5, -90⟩, ⟨260, 85, 90⟩⟩ (targets ⟨200, 50, 0⟩) fun
    | .position => 0
    | .cabrage => el
    | .polar => 1

/-- What is read before anything is started. -/
def angles : Trace :=
  [.got (.degree .position) 180, .got (.degree .cabrage) 45, .got (.degree .polar) 0]

/-- The azimuth is started, and turns. -/
def azimuthTurns : Trace :=
  angles ++ [.sent (.start .position 2) .SUCC, .got (.degree .position) 190,
    .got (.degree .position) 200]

/-- The azimuth is driven to its target. -/
def azimuthOnly : Trace := azimuthTurns ++ [.sent (.stop .position 2) .SUCC]

/-- The azimuth is started, and the elevation is not. -/
def azimuthLeft : Trace :=
  angles ++ [.sent (.start .position 2) .SUCC, .sent (.start .cabrage 2) .FAIL,
    .sent (.start .cabrage 2) .FAIL]

theorem notStranded_concat_succ (tr : Trace) (c : MotorCmd) :
    NotStranded (tr ++ [.sent c .SUCC]) := by
  intro pre c' heq
  have hlast := congrArg List.getLast? heq
  simp at hlast

/-- A search drives the azimuth to its target, and the driving task its axis to its aim: both
leave nothing running. -/
theorem searches_release_arrived :
    Released azimuthOnly ∧
      Runs.AllSteps Goto.Watch.step Goto.LeavesNone (.boot Goto.parked) Goto.arrived := by
  have hboth := searches_release_iff (adaptTo 1) turningEnv 3 .SUCC azimuthOnly Goto.parked
    Goto.arrived
  have hreturns : (adaptTo 1).returns turningEnv 3 = some (.SUCC, azimuthOnly) := by
    decide +kernel
  have hlast : (adaptTo 1).Releases azimuthOnly := notStranded_concat_succ azimuthTurns _
  exact ⟨(hboth.1 hreturns).mpr hlast, hboth.2.mpr (by decide +kernel)⟩

/-- A search is left with the azimuth running. -/
theorem not_released_azimuthLeft :
    ¬ ∀ (q : Routine) (env : Env) (fuel : Nat) (ret : Ret) (tr : Trace),
      q.returns env fuel = some (ret, tr) → Released tr := by
  intro h
  have hreturns : (adaptTo 0).returns stillEnv 2 = some (.FAIL, azimuthLeft) := by
    decide +kernel
  refine h _ _ _ _ _ hreturns .position ?_
  refine ⟨angles, [.sent (.start .cabrage 2) .FAIL, .sent (.start .cabrage 2) .FAIL], 2, rfl, ?_⟩
  simp

end SwiftAcu.Track
