/-
What `APP_Triangle_Track` keeps.

The three points are samples of the call, in the order of their powers, and the first is the
best sample so far, the latest of those that are equal.  The exchange of the other two breaks
the order, and the next sample restores it, because the point that is given up is the one
that was out of order.

`*Azc`, `*ELc` and `*pc` are overwritten by the best sample even where that is worse than
what was handed in, so the antenna is driven back to the old best only by chance.
-/
import SwiftAcu.Proofs.Track.Samples

namespace SwiftAcu.Track

/-! ### The best sample -/

/-- The best of samples, the latest first: the latest of the highest. -/
def Highest (ps : List Point) (b : Point) : Prop :=
  ∃ newer older, ps = newer ++ b :: older ∧ (∀ q ∈ newer, q.p < b.p) ∧ ∀ q ∈ older, q.p ≤ b.p

namespace Highest

variable {ps : List Point} {b new : Point}

theorem mem (h : Highest ps b) : b ∈ ps := by
  obtain ⟨newer, older, rfl, -, -⟩ := h
  exact List.mem_append_right newer List.mem_cons_self

theorem le (h : Highest ps b) : ∀ q ∈ ps, q.p ≤ b.p := by
  obtain ⟨newer, older, rfl, hnewer, holder⟩ := h
  intro q hq
  obtain hq | hq := List.mem_append.mp hq
  · exact (hnewer q hq).le
  · obtain rfl | hq := List.mem_cons.mp hq
    · exact le_refl _
    · exact holder q hq

/-- A sample that is not worse is the best. -/
theorem replaced (h : Highest ps b) (hle : b.p ≤ new.p) : Highest (new :: ps) new :=
  ⟨[], ps, rfl, fun _ hq => absurd hq List.not_mem_nil, fun q hq => (h.le q hq).trans hle⟩

/-- The best stays if a sample is worse. -/
theorem kept (h : Highest ps b) (hlt : new.p < b.p) : Highest (new :: ps) b := by
  obtain ⟨newer, older, rfl, hnewer, holder⟩ := h
  refine ⟨new :: newer, older, rfl, fun q hq => ?_, holder⟩
  obtain rfl | hq := List.mem_cons.mp hq
  · exact hlt
  · exact hnewer q hq

theorem singleton (b : Point) : Highest [b] b :=
  ⟨[], [], rfl, fun _ hq => absurd hq List.not_mem_nil, fun _ hq => absurd hq List.not_mem_nil⟩

/-- There is one best. -/
theorem unique {b' : Point} (h : Highest ps b) (h' : Highest ps b') : b = b' := by
  have hle := h.le b' h'.mem
  have hle' := h'.le b h.mem
  obtain ⟨newer, older, rfl, hnewer, -⟩ := h
  obtain ⟨newer', older', heq, hnewer', -⟩ := h'
  obtain ⟨between, rfl, hrest⟩ | ⟨between, rfl, hrest⟩ := List.append_eq_append_iff.mp heq
  · cases between with
    | nil => exact (List.cons.inj hrest).1
    | cons q between =>
        obtain ⟨rfl, -⟩ := List.cons.inj hrest
        exact absurd hle (not_le_of_gt (hnewer' b (List.mem_append_right _ List.mem_cons_self)))
  · cases between with
    | nil => exact (List.cons.inj hrest).1.symm
    | cons q between =>
        obtain ⟨rfl, -⟩ := List.cons.inj hrest
        exact absurd hle' (not_le_of_gt (hnewer b' (List.mem_append_right _ List.mem_cons_self)))

end Highest

/-! ### The three points -/

/-- The three points are samples, in the order of their powers, and the first is the best. -/
structure Simplex.Ordered (pts : Simplex) (ps : List Point) : Prop where
  best : Highest ps pts.h
  m_mem : pts.m ∈ ps
  l_mem : pts.l ∈ ps
  m_le : pts.m.p ≤ pts.h.p
  l_le : pts.l.p ≤ pts.h.p
  l_le_m : pts.l.p ≤ pts.m.p

section
variable {ps : List Point} {h m new : Point}

/-- **A new point** among the best and another one. -/
theorem Simplex.insert_ordered (hbest : Highest ps h) (hm : m ∈ ps) (new : Point) :
    (Simplex.insert h m new).Ordered (new :: ps) := by
  have hle := hbest.le m hm
  have hm' : m ∈ new :: ps := List.mem_cons_of_mem new hm
  have hh' : h ∈ new :: ps := List.mem_cons_of_mem new hbest.mem
  unfold Simplex.insert
  by_cases hnew : h.p ≤ new.p
  · rw [if_pos hnew]
    exact ⟨hbest.replaced hnew, hh', hm', hnew, hle.trans hnew, hle⟩
  · rw [if_neg hnew]
    have hlt := not_le.mp hnew
    by_cases hmid : m.p ≤ new.p
    · rw [if_pos hmid]
      exact ⟨hbest.kept hlt, List.mem_cons_self, hm', hlt.le, hle, hmid⟩
    · rw [if_neg hmid]
      exact ⟨hbest.kept hlt, hm', List.mem_cons_self, hle, hlt.le, (not_le.mp hmid).le⟩

end

/-! ### The parts of the routine -/

/-- What holds whenever the condition of the loop is evaluated. -/
structure TriangleSta.Inv (s : TriangleSta) (tr : TrackTrace) : Prop where
  pts : s.pts.Ordered (samples tr)
  out : s.out = s.pts.h

/-- A tracker leaves with a failure only. -/
def Fails (ret : TriangleRet) (_ : TrackTrace) : Prop := ret.1 = .FAIL

section
variable {tr : TrackTrace} {F : TrackTrace → Prop}

theorem samples_drive_takes {p : Point} {evs : TrackTrace} (h : Takes p evs) (c : TrackCmd)
    (r : Ret) : samples (tr ++ [.sent c r] ++ evs) = p :: samples tr := by
  rw [h.samples_append, samples_sent]

/-- The points that go on: the best and one of the others. -/
theorem TriangleSta.Inv.turn {s : TriangleSta} (h : s.Inv tr) :
    s.turn.h = s.pts.h ∧ s.turn.m ∈ samples tr := by
  unfold TriangleSta.turn
  split
  · exact ⟨rfl, h.pts.l_mem⟩
  · exact ⟨rfl, h.pts.m_mem⟩

theorem postRun_triangleStart (out : Point) :
    Script.PostRun (triangleStart out) [] Fails TriangleSta.Inv F := by
  unfold triangleStart
  refine (postRun_pointGet meanOf_appPowerGet).seq ?_
  intro p0 tr htr
  obtain ⟨_, h0, rfl⟩ := htr
  refine postRun_drive_pointGet meanOf_appPowerGet rfl fun p1 evs1 h1 => ?_
  refine postRun_drive_pointGet meanOf_appPowerGet rfl fun p2 evs2 h2 => ?_
  have hfirst : samples tr = [p0] := h0.samples_append []
  refine ⟨?_, rfl⟩
  rw [samples_drive_takes h2, samples_drive_takes h1, hfirst]
  apply Simplex.insert_ordered
  · split
    · exact (Highest.singleton p0).replaced ‹_›
    · exact (Highest.singleton p0).kept (not_le.mp ‹_›)
  · split
    · exact List.mem_cons_of_mem _ List.mem_cons_self
    · exact List.mem_cons_self

/-- **One round.** -/
theorem postRun_triangleRound (fpu : Fpu) {s : TriangleSta} (h : s.Inv tr) :
    Script.PostRun (triangleRound fpu s) tr Fails
      (Script.Round TriangleSta.Inv fun target tr => Highest (samples tr) target) F := by
  have hout : Highest (samples tr) s.out := h.out ▸ h.pts.best
  obtain ⟨hturn, hm⟩ := h.turn
  unfold triangleRound
  split
  · dsimp only
    split
    · exact hout
    · refine postRun_drive_pointGet meanOf_appPowerAgGet4Purs rfl fun new evs htakes => ?_
      refine ⟨?_, rfl⟩
      rw [samples_drive_takes htakes]
      exact Simplex.insert_ordered (hturn ▸ h.pts.best) hm new
  · exact hout

/-- The last drive. -/
theorem postRun_triangleEnd (out : Point) :
    Script.PostRun (triangleEnd out) tr Fails (fun ret tr' =>
      ret.1 = .SUCC ∧ LastDrive out.az out.el tr tr') F := by
  unfold triangleEnd
  refine postRun_drive_pointGet meanOf_appPowerAgGet4Purs rfl fun p evs htakes => ?_
  refine ⟨rfl, .SUCC, evs, ?_, htakes.drives_eq⟩
  rw [List.append_assoc]
  rfl

/-- The routine from its first drive to the evaluation of the condition after `n` rounds. -/
def triangleRounds (n : Nat) (fpu : Fpu) (out : Point) :
    Tracker TriangleRet (TriangleSta ⊕ Point) :=
  triangleStart out >>= Script.rounds (triangleRound fpu) n

/-- `APP_Triangle_Track` goes through every evaluation of its condition. -/
theorem appTriangleTrack_add (n fuel : Nat) (fpu : Fpu) (out : Point) :
    appTriangleTrack (n + fuel) fpu out = triangleRounds n fpu out >>= fun r =>
      (match r with
        | .inl s => Script.loop (triangleRound fpu) fuel s
        | .inr target => pure target) >>= triangleEnd := by
  unfold appTriangleTrack triangleRounds
  show (triangleStart out).bind _ = ((triangleStart out).bind _).bind _
  rw [Script.bind_bind]
  congr 1
  funext s
  show (Script.loop (triangleRound fpu) (n + fuel) s).bind _ = _
  rw [Script.loop_add, Script.bind_bind]
  congr 1
  funext r
  cases r with
  | inl s => rfl
  | inr target => rfl

/-- A call that succeeds has driven to its best sample. -/
theorem post_appTriangleTrack (fuel : Nat) (fpu : Fpu) (out : Point) :
    Script.Post (appTriangleTrack fuel fpu out) [] Fails fun ret tr =>
      ret.1 = .SUCC ∧ ∃ tr₀ best, Highest (samples tr₀) best ∧
        LastDrive best.az best.el tr₀ tr := by
  unfold appTriangleTrack
  refine Script.post_iff.mpr ((postRun_triangleStart out).seq ?_)
  intro s tr hs
  refine (Script.postRun_loop TriangleSta.Inv (fun s tr hs => postRun_triangleRound fpu hs)
    (fun _ _ _ => trivial) fuel hs).seq ?_
  intro target tr hbest
  refine (postRun_triangleEnd target).mono ?_
  intro ret tr' hret
  exact ⟨hret.1, tr, target, hbest, hret.2⟩

/-- **Down to the motors**: the trace of a call that returns carries out one of its drives and
samples, in which it has driven to its best sample if it succeeds. -/
theorem appTriangleTrackMotors_drives {env : Env} {fuel : Nat} {fpu : Fpu} {limit : SoftLimit}
    {out : Point} {r : TriangleRet ⊕ TriangleRet} {trm : Trace}
    (h : (appTriangleTrackMotors fuel fpu limit out).exec env [] = some (r, trm)) :
    ∃ tr, Script.Carried env (TrackCmd.carry fuel limit) tr trm ∧
      r.elim (Fails · tr) fun ret => ret.1 = .SUCC ∧ ∃ tr₀ best, Highest (samples tr₀) best ∧
        LastDrive best.az best.el tr₀ tr :=
  (post_appTriangleTrack fuel fpu out).lower .nil h

/--
**The points of the triangle.**  However the angles and the beacon read, the drives end and
`cosBeta` comes out: whenever the condition of the loop is evaluated the three points are
samples of the call in the order of their powers, the first the best of all; and if the
routine returns a success the last drive was to the best sample.
-/
theorem triangle_ordered (n fuel : Nat) (fpu : Fpu) (out : Point) :
    Script.Post (triangleRounds n fpu out) [] Fails
        (Script.Round (fun s tr => s.pts.Ordered (samples tr)) fun target tr =>
          Highest (samples tr) target) ∧
      Script.Post (appTriangleTrack fuel fpu out) [] Fails fun ret tr =>
        ret.1 = .SUCC ∧ ∃ tr₀ best, Highest (samples tr₀) best ∧
          LastDrive best.az best.el tr₀ tr := by
  refine ⟨?_, post_appTriangleTrack fuel fpu out⟩
  refine Script.post_iff.mpr ((postRun_triangleStart out).seq ?_)
  intro s tr hs
  refine (Script.postRun_rounds TriangleSta.Inv (fun s tr hs => postRun_triangleRound fpu hs) n
    hs).mono ?_
  intro r tr hr
  cases r with
  | inl s => exact hr.pts
  | inr target => exact hr

end

/-! ### The old best -/

/-- What the last target is to be: the position of a best sample if one beats what was handed
in, and what was handed in otherwise. -/
def KeepsBest (inc : Point) (ps : List Point) (tar_Az tar_El : FP32) : Prop :=
  if ∃ q ∈ ps, inc.p < q.p then
    ∃ q ∈ ps, (∀ q' ∈ ps, q'.p ≤ q.p) ∧ tar_Az = q.az ∧ tar_El = q.el
  else tar_Az = inc.az ∧ tar_El = inc.el

/-- A sample beats what was handed in, or the best sample was taken just there. -/
def BeatsOrThere (inc : Point) (ps : List Point) : Prop :=
  (∃ q ∈ ps, inc.p < q.p) ∨ ∀ b, Highest ps b → b.az = inc.az ∧ b.el = inc.el

theorem Highest.keepsBest_iff {inc b : Point} {ps : List Point} (h : Highest ps b) :
    KeepsBest inc ps b.az b.el ↔ BeatsOrThere inc ps := by
  unfold KeepsBest
  by_cases hbeats : ∃ q ∈ ps, inc.p < q.p
  · rw [if_pos hbeats]
    exact iff_of_true ⟨b, h.mem, h.le, rfl, rfl⟩ (Or.inl hbeats)
  · rw [if_neg hbeats]
    refine ⟨fun hthere => Or.inr fun b' hb' => ?_, fun hor => ?_⟩
    · rw [← h.unique hb']
      exact hthere
    · exact hor.resolve_left hbeats b h

/--
**`APP_Triangle_Track` gives up a better point.**  However the angles and the beacon read: if
it returns a success, the last drive kept the best of what was handed in and the samples
before it exactly if a sample beats what was handed in, or the best sample was taken there.
-/
theorem triangle_keepsBest_iff (fuel : Nat) (fpu : Fpu) (inc : Point) :
    Script.Post (appTriangleTrack fuel fpu inc) [] Fails fun ret tr =>
      ret.1 = .SUCC ∧ ∃ tr₀ tar_Az tar_El, LastDrive tar_Az tar_El tr₀ tr ∧
        (KeepsBest inc (samples tr₀) tar_Az tar_El ↔ BeatsOrThere inc (samples tr₀)) := by
  refine (post_appTriangleTrack fuel fpu inc).mono ?_
  intro ret tr hret
  obtain ⟨hsucc, tr₀, best, hbest, hlast⟩ := hret
  exact ⟨hsucc, tr₀, best.az, best.el, hlast, hbest.keepsBest_iff⟩

/-! ### A call that starts on the peak -/

/-- The values are read in turn, each at its place in the trace, and every drive succeeds. -/
def replayDrives (values : List FP32) : Script.Env Src FP32 TrackCmd Ret :=
  { value := fun tr _ => values.getD tr.length 0
    answer := fun _ _ => .SUCC }

/-- Three samples of one volt. -/
def flatSamples : TrackTrace :=
  [.got (.degree .position) 180, .got (.degree .cabrage) 45, .got .beaconRxpowerMv 1000,
    .sent (.adaptTargetAngle (180 + -0.03) (45 + 0.03 * 1.7320508)) .SUCC,
    .got (.degree .position) 179.97, .got (.degree .cabrage) 45.05, .got .beaconRxpowerMv 1000,
    .sent (.adaptTargetAngle (179.97 + 0.06) (45.05 + 0)) .SUCC,
    .got (.degree .position) 180.03, .got (.degree .cabrage) 45.05, .got .beaconRxpowerMv 1000]

/-- The drive to the last of them, and what is read there. -/
def flatTrace : TrackTrace :=
  flatSamples ++ .sent (.adaptTargetAngle 180.03 45.05) .SUCC ::
    .got (.degree .position) 180.03 :: .got (.degree .cabrage) 45.05 ::
      List.replicate 20 (.got .beaconRxpowerMv 1000)

/-- What is read on the way, at its place in the trace. -/
def flatValues : List FP32 :=
  flatTrace.map fun
    | .got _ v => v
    | .sent _ _ => 0

/-- The incoming best has five volts, and all samples of the call have one. -/
theorem not_keepsBest_flat :
    ¬ ∀ (fuel : Nat) (fpu : Fpu) (inc : Point),
      Script.Post (appTriangleTrack fuel fpu inc) [] Fails fun ret tr =>
        ret.1 = .SUCC ∧ ∃ tr₀ tar_Az tar_El, LastDrive tar_Az tar_El tr₀ tr ∧
          KeepsBest inc (samples tr₀) tar_Az tar_El := by
  intro h
  have hexec : ((appTriangleTrack 1 ⟨(· / ·), id⟩ ⟨180, 45, 5⟩).exec (replayDrives flatValues) []).map
      (fun r => (r.1.isRight, r.2)) = some (true, flatTrace) := by
    decide +kernel
  obtain ⟨⟨r, tr⟩, hrun, heq⟩ := Option.map_eq_some_iff.mp hexec
  obtain ⟨hright, rfl⟩ := Prod.mk.inj heq
  have hpost := (h 1 ⟨(· / ·), id⟩ ⟨180, 45, 5⟩).exec _ hrun
  cases r with
  | inl ret => cases hright
  | inr ret =>
      obtain ⟨-, tr₀, az, el, hlast, hkeeps⟩ := hpost
      have hknown : LastDrive 180.03 45.05 flatSamples flatTrace := ⟨.SUCC, _, rfl, by decide⟩
      obtain ⟨rfl, rfl, rfl⟩ := hlast.unique hknown
      have hworse : ∀ q ∈ samples flatSamples, q.p ≤ 5 := by decide +kernel
      rw [KeepsBest, if_neg] at hkeeps
      · exact absurd hkeeps.1 (by decide +kernel)
      · intro hbeats
        obtain ⟨q, hq, hlt⟩ := hbeats
        exact absurd hlt (not_lt_of_ge (hworse q hq))

end SwiftAcu.Track
