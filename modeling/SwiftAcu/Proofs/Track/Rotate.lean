/-
When the loop of `APP_Triangle_Track` ends.

An ideal antenna stands where it was driven to, and the power depends on where that is.
There a round of the loop is a step of a machine, `Site.next`.  The three points are corners of
a triangular grid, and those inside the soft limits are finitely many.  A round whose sample
has not the power of a point it is compared with does one of three things: the best power
rises; or the middle one does, below the same best; or the triangle turns round its best
point, which is counted.  So it cannot go on for ever.

A sample that ties with the middle point is taken for a rise and is not counted.  On a ring
of equal powers round the best point the triangle turns for ever.
-/
import SwiftAcu.Lib.Ascent
import SwiftAcu.Proofs.Track.Triangle

namespace SwiftAcu.Track

/-! ### An ideal antenna -/

/-- The soft limits, the power that is received at a position, and the start. -/
structure Site where
  limit : SoftLimit
  mv : FP32 → FP32 → FP32
  start : FP32 × FP32

namespace Site

/-- `adapt_target_angle` refuses a target. -/
def Refused (t : Site) (tar : FP32 × FP32) : Prop :=
  tar.1 < t.limit.start.position ∨ t.limit.stop.position < tar.1 ∨
    tar.2 < t.limit.start.cabrage ∨ t.limit.stop.cabrage < tar.2

instance (t : Site) (tar : FP32 × FP32) : Decidable (t.Refused tar) :=
  inferInstanceAs (Decidable (_ ∨ _ ∨ _ ∨ _))

/-- Where the antenna stands after an event. -/
def driven (q : FP32 × FP32) : Event Src FP32 TrackCmd Ret → FP32 × FP32
  | .sent (.adaptTargetAngle tar_Az tar_El) .SUCC => (tar_Az, tar_El)
  | _ => q

/-- What is read at a position. -/
def reading (t : Site) (q : FP32 × FP32) : Src → FP32
  | .degree .position => q.1
  | .degree .cabrage => q.2
  | .degree .polar => 0
  | .beaconRxpowerMv => t.mv q.1 q.2

/-- A drive fails if it is refused, and the readings are those of the last target. -/
def env (t : Site) : Script.Env Src FP32 TrackCmd Ret :=
  { value := fun tr => t.reading (tr.foldl driven t.start)
    answer := fun _ c =>
      match c with
      | .motor _ => .SUCC
      | .adaptTargetAngle tar_Az tar_El => if t.Refused (tar_Az, tar_El) then .FAIL else .SUCC }

/-- The power in volts, as a sample has it. -/
def power (t : Site) (q : FP32 × FP32) : FP32 := t.mv q.1 q.2 / 1000

/-- The sample of a position. -/
def point (t : Site) (q : FP32 × FP32) : Point := ⟨q.1, q.2, t.power q⟩

/-! ### The loop as a machine -/

/-- The state after a round that drives the antenna. -/
def turned (t : Site) (s : TriangleSta) : TriangleSta :=
  { pts := .insert s.turn.h s.turn.m (t.point s.turn.tar)
    beta_Az := s.turn.l.az
    beta_El := s.turn.l.el
    curr := t.point s.turn.tar
    c0 := if s.turn.h.p ≤ t.power s.turn.tar then 0 else if s.returns then s.c0 + 1 else s.c0
    out := (Simplex.insert s.turn.h s.turn.m (t.point s.turn.tar)).h }

/-- The next round, if there is one. -/
def next (t : Site) (fpu : Fpu) (s : TriangleSta) : Option TriangleSta :=
  if s.goesOn then
    if 0.98 < cosBeta fpu s.turn.tar s.turn.l s.curr then none
    else if t.Refused s.turn.tar then none
    else some (t.turned s)
  else none

variable {t : Site} {tr : TrackTrace}

theorem steady_env (t : Site) : Steady t.env := by
  intro tr s v s'
  have hplace : List.foldl driven t.start (tr ++ [.got s v]) = tr.foldl driven t.start :=
    List.foldl_append
  exact congrArg (t.reading · s') hplace

/-- The antenna has been driven to `q` last. -/
def At (t : Site) (q : FP32 × FP32) (tr : TrackTrace) : Prop := tr.foldl driven t.start = q

theorem At.current {q : FP32 × FP32} (h : t.At q tr) : current t.env tr = t.point q := by
  have hvalue : t.env.value tr = t.reading q := congrArg t.reading h
  unfold Track.current
  rw [hvalue]
  rfl

theorem At.readings {q : FP32 × FP32} (h : t.At q tr) {evs : TrackTrace} (hevs : Readings evs) :
    t.At q (tr ++ evs) := by
  have hplace : (tr ++ evs).foldl driven t.start = tr.foldl driven t.start := by
    refine @Event.frame _ _ _ _ _ (List.foldl driven t.start) _ (fun tr e he => ?_) _ hevs tr
    obtain ⟨s, v, rfl⟩ := he
    exact List.foldl_append
  exact hplace.trans h

/-- A sample is taken where the antenna stands. -/
theorem exec_sample {q : FP32 × FP32} (h : t.At q tr) {ε : Type} {power : Search ε FP32}
    (hpower : ReadsSteady power) : ∃ tr', t.At q tr' ∧
      (onMotors (pointGet power)).exec t.env tr = some (.inr (t.point q), tr') := by
  obtain ⟨evs, hevs, hexec⟩ := @Steady.exec_pointGet t.env tr ε (steady_env t) _ hpower
  rw [h.current] at hexec
  exact ⟨tr ++ evs, h.readings hevs, hexec⟩

/-- A drive that is not refused. -/
theorem exec_drive {tar : FP32 × FP32} (h : ¬t.Refused tar) {ε : Type} (ret : ε) :
    ∃ tr', t.At tar tr' ∧ (drive tar.1 tar.2 ret).exec t.env tr = some (.inr (), tr') := by
  refine ⟨_, ?_, exec_drive_succ (if_neg h)⟩
  rw [At, List.foldl_append]
  rfl

/-- A drive that is refused. -/
theorem exec_refused {tar : FP32 × FP32} (h : t.Refused tar) {ε : Type} (ret : ε) :
    ∃ tr', (drive tar.1 tar.2 ret).exec t.env tr = some (.inl ret, tr') :=
  ⟨_, exec_drive_fail (if_pos h)⟩

/-- **A round is a step of the machine.** -/
theorem exec_triangleRound (fpu : Fpu) (s : TriangleSta) (tr : TrackTrace) :
    ∃ r tr', (triangleRound fpu s).exec t.env tr = some (r, tr') ∧
      ∀ s', t.next fpu s = some s' ↔ r = .inr (.inl s') := by
  unfold triangleRound next
  by_cases hgo : s.goesOn = true
  · rw [if_pos hgo, if_pos hgo]
    dsimp only
    by_cases hcos : 0.98 < cosBeta fpu s.turn.tar s.turn.l s.curr
    · rw [if_pos hcos, if_pos hcos]
      refine ⟨.inr (.inr s.out), tr, rfl, fun s' => ?_⟩
      simp
    · rw [if_neg hcos, if_neg hcos]
      by_cases hrefused : t.Refused s.turn.tar
      · obtain ⟨tr', hdrive⟩ := @exec_refused t tr _ hrefused TriangleRet (.FAIL, s.out)
        rw [if_pos hrefused, Script.exec_bind_exit hdrive]
        refine ⟨_, _, rfl, fun s' => ?_⟩
        simp
      · obtain ⟨tr', hat, hdrive⟩ := @exec_drive t tr _ hrefused TriangleRet (.FAIL, s.out)
        obtain ⟨tr'', -, hsample⟩ := @exec_sample t tr' _ hat TriangleRet _
          readsSteady_appPowerAgGet4Purs
        rw [if_neg hrefused, Script.exec_bind_of hdrive, Script.exec_bind_of hsample]
        refine ⟨.inr (.inl (t.turned s)), tr'', rfl, fun s' => ?_⟩
        simp
  · rw [if_neg hgo, if_neg hgo]
    refine ⟨.inr (.inr s.out), tr, rfl, fun s' => ?_⟩
    simp

/-- Rounds are steps. -/
theorem exec_rounds (fpu : Fpu) (n : Nat) (s : TriangleSta) (tr : TrackTrace) :
    ∃ r tr', (Script.rounds (triangleRound fpu) n s).exec t.env tr = some (r, tr') ∧
      ∀ s', Ascent.after (t.next fpu) n s = some s' ↔ r = .inr (.inl s') := by
  induction n generalizing s tr with
  | zero => exact ⟨.inr (.inl s), tr, rfl, fun s' => by simp [Ascent.after]⟩
  | succ n ih =>
      obtain ⟨r, tr', hround, hnext⟩ := @exec_triangleRound t fpu s tr
      rw [Script.rounds, Ascent.after]
      cases r with
      | inl e =>
          have hnone : t.next fpu s = none := Option.eq_none_iff_forall_ne_some.mpr fun s' hs' =>
            Sum.inl_ne_inr ((hnext s').mp hs')
          refine ⟨.inl e, tr', Script.exec_bind_exit hround _, fun s' => ?_⟩
          rw [hnone]
          simp
      | inr r =>
          cases r with
          | inl s₁ =>
              obtain ⟨r, tr'', hrounds, hafter⟩ := ih s₁ tr'
              rw [(hnext s₁).mpr rfl]
              exact ⟨r, tr'', (Script.exec_bind_of hround _).trans hrounds, hafter⟩
          | inr out =>
              have hnone : t.next fpu s = none :=
                Option.eq_none_iff_forall_ne_some.mpr fun s' hs' =>
                  Sum.inr_ne_inl (Sum.inr.inj ((hnext s').mp hs'))
              refine ⟨.inr (.inr out), tr', Script.exec_bind_of hround _, fun s' => ?_⟩
              rw [hnone]
              simp

/-- **The loop ends** when the machine stops. -/
theorem exec_loop_ne_none_iff (fpu : Fpu) (n : Nat) (s : TriangleSta) (tr : TrackTrace) :
    (Script.loop (triangleRound fpu) n s).exec t.env tr ≠ none ↔
      Ascent.after (t.next fpu) n s = none := by
  obtain ⟨r, tr', hrounds, hafter⟩ := @exec_rounds t fpu n s tr
  rw [Ne, Script.exec_loop_eq_none_iff, hrounds]
  cases hs : Ascent.after (t.next fpu) n s with
  | none =>
      refine iff_of_true (fun hrun => ?_) rfl
      obtain ⟨s', hr⟩ := hrun r tr' rfl
      rw [(hafter s').mpr hr] at hs
      cases hs
  | some s' =>
      refine iff_of_false (fun hrun => hrun fun r' tr'' heq => ⟨s', ?_⟩) (Option.some_ne_none s')
      obtain ⟨rfl, -⟩ := Prod.mk.inj (Option.some.inj heq)
      exact (hafter s').mp hs

/-! ### The triangle on its grid -/

/-- The positions of samples: on the grid, and inside the soft limits but for the start. -/
def reach (t : Site) : Set (FP32 × FP32) :=
  {q ∈ Ascent.grid t.start.1 t.start.2 (-0.03) 0.06 (0.03 * 1.7320508) |
    q = t.start ∨ ¬t.Refused q}

theorem finite_reach (t : Site) : t.reach.Finite := by
  have hbox := Ascent.finite_grid t.start.1 t.start.2 (-0.03 : FP32)
    (by norm_num : (0 : FP32) < 0.06) (by norm_num : (0 : FP32) < 0.03 * 1.7320508)
    (t.limit.start.position, t.limit.start.cabrage) (t.limit.stop.position, t.limit.stop.cabrage)
  refine (hbox.insert t.start).subset fun q hq => ?_
  obtain ⟨hgrid, rfl | hinside⟩ := hq
  · exact Set.mem_insert _ _
  · simp only [Refused, not_or, not_lt] at hinside
    exact Set.mem_insert_of_mem _ ⟨hgrid, hinside.1, hinside.2.1, hinside.2.2.1, hinside.2.2.2⟩

/-- A point is a sample of a position within reach. -/
def Sampled (t : Site) (p : Point) : Prop := ∃ q ∈ t.reach, p = t.point q

/-- Two points are not close in azimuth. -/
def Wide (p q : Point) : Prop := 0.03 ≤ |p.az - q.az|

/-- Three corners of a triangle of the grid. -/
structure Corners (t : Site) (pts : Simplex) : Prop where
  h : t.Sampled pts.h
  m : t.Sampled pts.m
  l : t.Sampled pts.l
  hm : Wide pts.h pts.m
  hl : Wide pts.h pts.l
  ml : Wide pts.m pts.l

/-- What holds at the condition of the loop. -/
structure Regular (t : Site) (s : TriangleSta) : Prop where
  pts : t.Corners s.pts
  c0 : s.c0.toNat ≤ 6

/-- The sample of the round has the power of a point that it is compared with. -/
def Tied (t : Site) (s : TriangleSta) : Prop :=
  t.power s.turn.tar = s.turn.h.p ∨ t.power s.turn.tar = s.turn.m.p

/-- How far the triangle has come: samples above the best, turns that are left, samples above
the middle point. -/
noncomputable def height (t : Site) (s : TriangleSta) : Nat × Nat × Nat :=
  (Ascent.above t.reach t.power s.pts.h.p,
    7 - (s.c0.toNat + if s.returns then 1 else 0),
    Ascent.above t.reach t.power s.turn.m.p)


theorem Wide.symm {p q : Point} (h : Wide p q) : Wide q p := by
  rw [Wide, abs_sub_comm]
  exact h

theorem turn_h (s : TriangleSta) : s.turn.h = s.pts.h := by
  unfold TriangleSta.turn
  split
  · rfl
  · rfl

theorem Corners.turn {s : TriangleSta} (h : t.Corners s.pts) : t.Corners s.turn := by
  unfold TriangleSta.turn
  split
  · exact ⟨h.h, h.l, h.m, h.hl, h.hm, h.ml.symm⟩
  · exact h

/-- The target lies on the grid. -/
theorem Corners.tar_reach {pts : Simplex} (h : t.Corners pts) (hin : ¬t.Refused pts.tar) :
    pts.tar ∈ t.reach := by
  obtain ⟨_, ⟨⟨ih, jh, rfl⟩, -⟩, hh⟩ := h.h
  obtain ⟨_, ⟨⟨im, jm, rfl⟩, -⟩, hm⟩ := h.m
  obtain ⟨_, ⟨⟨il, jl, rfl⟩, -⟩, hl⟩ := h.l
  refine ⟨⟨ih - il + im, jh - jl + jm, ?_⟩, Or.inr hin⟩
  rw [Simplex.tar, hh, hm, hl]
  refine Prod.ext ?_ ?_
  · push_cast
    simp only [point]
    ring
  · push_cast
    simp only [point]
    ring

/-- A third corner. -/
theorem corners_insert {h m new : Point} (hh : t.Sampled h) (hm : t.Sampled m)
    (hnew : t.Sampled new) (hhm : Wide h m) (hnewh : Wide new h) (hnewm : Wide new m) :
    t.Corners (.insert h m new) := by
  unfold Simplex.insert
  split
  · exact ⟨hnew, hh, hm, hnewh, hnewm, hhm⟩
  · split
    · exact ⟨hh, hnew, hm, hnewh.symm, hhm, hnewm⟩
    · exact ⟨hh, hm, hnew, hhm, hnewh.symm, hnewm.symm⟩

/-- The mirrored corner for the one that it mirrors. -/
theorem Corners.insert {pts : Simplex} (h : t.Corners pts) (hin : ¬t.Refused pts.tar) :
    t.Corners (.insert pts.h pts.m (t.point pts.tar)) := by
  have hnew : t.Sampled (t.point pts.tar) := ⟨_, h.tar_reach hin, rfl⟩
  -- an edge of the new triangle is one of the old one
  have hnewh : Wide (t.point pts.tar) pts.h := by
    have haz : (t.point pts.tar).az - pts.h.az = pts.m.az - pts.l.az := by
      simp only [point, Simplex.tar]
      ring
    rw [Wide, haz]
    exact h.ml
  have hnewm : Wide (t.point pts.tar) pts.m := by
    have haz : (t.point pts.tar).az - pts.m.az = pts.h.az - pts.l.az := by
      simp only [point, Simplex.tar]
      ring
    rw [Wide, haz]
    exact h.hl
  exact corners_insert h.h h.m hnew h.hm hnewh hnewm

/-- What a round does. -/
theorem next_eq_some {fpu : Fpu} {s s' : TriangleSta} (h : t.next fpu s = some s') :
    s.c0 ≠ 6 ∧ ¬t.Refused s.turn.tar ∧ s' = t.turned s := by
  unfold next at h
  by_cases hgo : s.goesOn = true
  · rw [if_pos hgo] at h
    have hc0 : s.c0 ≠ 6 := of_decide_eq_true (Bool.and_eq_true_iff.mp hgo).2
    by_cases hcos : 0.98 < cosBeta fpu s.turn.tar s.turn.l s.curr
    · rw [if_pos hcos] at h
      cases h
    · rw [if_neg hcos] at h
      by_cases hrefused : t.Refused s.turn.tar
      · rw [if_pos hrefused] at h
        cases h
      · rw [if_neg hrefused] at h
        exact ⟨hc0, hrefused, (Option.some.inj h).symm⟩
  · rw [if_neg hgo] at h
    cases h

/-- The count with one turn more does not overflow. -/
theorem toNat_c0 {c0 : UInt8} (h : c0.toNat ≤ 6) (hne : c0 ≠ 6) (p : Prop) [Decidable p] :
    (if p then c0 + 1 else c0).toNat = c0.toNat + (if p then 1 else 0) ∧
      c0.toNat + (if p then 1 else 0) ≤ 6 := by
  have hlt : c0.toNat ≠ 6 := fun heq => hne (UInt8.toNat_inj.mp heq)
  split
  · rw [UInt8.toNat_add]
    have hone : (1 : UInt8).toNat = 1 := rfl
    omega
  · omega

/-- **A round keeps the triangle regular.** -/
theorem Regular.next {fpu : Fpu} {s s' : TriangleSta} (h : t.Regular s)
    (hnext : t.next fpu s = some s') : t.Regular s' := by
  obtain ⟨hc0, hin, rfl⟩ := next_eq_some hnext
  refine ⟨h.pts.turn.insert hin, ?_⟩
  obtain ⟨heq, hle⟩ := toNat_c0 h.c0 hc0 (s.returns = true)
  unfold turned
  dsimp only
  split
  · exact Nat.zero_le 6
  · exact heq ▸ hle

/-- After a round that found a middle point the triangle goes on. -/
theorem not_returns_of_middle {s : TriangleSta} (hwide : Wide s.turn.h s.turn.l)
    (hpts : (t.turned s).pts = ⟨s.turn.h, t.point s.turn.tar, s.turn.m⟩) :
    (t.turned s).returns = false := by
  have haz : (t.turned s).pts.tar.1 - (t.turned s).beta_Az = 2 * (s.turn.h.az - s.turn.l.az) := by
    rw [hpts]
    simp only [turned, point, Simplex.tar]
    ring
  have hfar : ¬|(t.turned s).pts.tar.1 - (t.turned s).beta_Az| ≤ 0.05 := by
    rw [haz, abs_mul, abs_two]
    have hwide' : 0.03 ≤ |s.turn.h.az - s.turn.l.az| := hwide
    linarith
  rw [TriangleSta.returns, appNb, decide_eq_false hfar]
  rfl

/-- After a round that found a low point the triangle is to turn. -/
theorem returns_of_low {s : TriangleSta}
    (hpts : (t.turned s).pts = ⟨s.turn.h, s.turn.m, t.point s.turn.tar⟩) :
    (t.turned s).returns = true := by
  have haz : (t.turned s).pts.tar.1 - (t.turned s).beta_Az = 0 := by
    rw [hpts]
    simp only [turned, point, Simplex.tar]
    ring
  have hnear : |(t.turned s).pts.tar.1 - (t.turned s).beta_Az| ≤ 0.05 := by
    rw [haz, abs_zero]
    norm_num
  rw [TriangleSta.returns, appNb, decide_eq_true hnear]
  rfl

/-- **A round without a tie** goes on with a triangle that is farther. -/
theorem Regular.height_lt {fpu : Fpu} {s s' : TriangleSta} (h : t.Regular s) (htied : ¬t.Tied s)
    (hnext : t.next fpu s = some s') :
    Prod.Lex (· < ·) (Prod.Lex (· < ·) (· < ·)) (t.height s') (t.height s) := by
  obtain ⟨hc0, hin, rfl⟩ := next_eq_some hnext
  obtain ⟨hneh, hnem⟩ := not_or.mp htied
  obtain ⟨hcount, hle⟩ := toNat_c0 h.c0 hc0 (s.returns = true)
  have hreach := h.pts.turn.tar_reach hin
  have hh := turn_h s
  unfold height
  by_cases hbest : s.turn.h.p ≤ t.power s.turn.tar
  · -- the best power rises
    have hpts : (t.turned s).pts = ⟨t.point s.turn.tar, s.turn.h, s.turn.m⟩ := if_pos hbest
    rw [hpts, ← hh]
    exact Prod.Lex.left _ _ (Ascent.above_lt t.finite_reach t.power hreach
      (lt_of_le_of_ne hbest (Ne.symm hneh)))
  · have hc0' : (t.turned s).c0 = if s.returns then s.c0 + 1 else s.c0 := if_neg hbest
    by_cases hmiddle : s.turn.m.p ≤ t.power s.turn.tar
    · -- the middle power rises
      have hpts : (t.turned s).pts = ⟨s.turn.h, t.point s.turn.tar, s.turn.m⟩ :=
        (if_neg hbest).trans (if_pos hmiddle)
      have hreturns := not_returns_of_middle h.pts.turn.hl hpts
      have hm : (t.turned s).turn.m = t.point s.turn.tar := by
        rw [TriangleSta.turn, hreturns, if_neg Bool.false_ne_true, hpts]
      rw [hm, hpts, hreturns, hc0', hcount, ← hh]
      refine Prod.Lex.right _ ?_
      rw [if_neg Bool.false_ne_true, Nat.add_zero]
      exact Prod.Lex.right _ (Ascent.above_lt t.finite_reach t.power hreach
        (lt_of_le_of_ne hmiddle (Ne.symm hnem)))
    · -- the triangle is to turn
      have hpts : (t.turned s).pts = ⟨s.turn.h, s.turn.m, t.point s.turn.tar⟩ :=
        (if_neg hbest).trans (if_neg hmiddle)
      have hreturns := returns_of_low hpts
      rw [hpts, hreturns, hc0', hcount, ← hh, if_pos rfl]
      exact Prod.Lex.right _ (Prod.Lex.left _ _ (by omega))

/-! ### The whole routine -/

/-- The first corners are one step apart. -/
theorem wide_of_eq {p q : Point} {d : FP32} (h : p.az = q.az + d) (hd : 0.03 ≤ |d|) : Wide p q := by
  rw [Wide, h, add_sub_cancel_left]
  exact hd

/-- The first two targets. -/
def first (t : Site) : FP32 × FP32 := (t.start.1 + -0.03, t.start.2 + 0.03 * 1.7320508)

def second (t : Site) : FP32 × FP32 := (t.first.1 + 0.06, t.first.2 + 0)

theorem corners_first (href1 : ¬t.Refused t.first) (href2 : ¬t.Refused t.second) :
    t.Corners (.insert
      (if (t.point t.start).p ≤ (t.point t.first).p then t.point t.first else t.point t.start)
      (if (t.point t.start).p ≤ (t.point t.first).p then t.point t.start else t.point t.first)
      (t.point t.second)) := by
  have h0 : t.Sampled (t.point t.start) := by
    refine ⟨t.start, ⟨⟨0, 0, ?_⟩, Or.inl rfl⟩, rfl⟩
    simp
  have h1 : t.Sampled (t.point t.first) := by
    refine ⟨t.first, ⟨⟨1, 0, ?_⟩, Or.inr href1⟩, rfl⟩
    simp [first]
  have h2 : t.Sampled (t.point t.second) := by
    refine ⟨t.second, ⟨⟨1, 1, ?_⟩, Or.inr href2⟩, rfl⟩
    simp [first, second]
  have h10 : Wide (t.point t.first) (t.point t.start) := wide_of_eq rfl (by norm_num)
  have h21 : Wide (t.point t.second) (t.point t.first) := wide_of_eq rfl (by norm_num)
  have h20 : Wide (t.point t.second) (t.point t.start) := by
    refine wide_of_eq (d := 0.03) ?_ (by norm_num)
    simp only [point, first, second]
    ring
  by_cases hp : (t.point t.start).p ≤ (t.point t.first).p
  · rw [if_pos hp, if_pos hp]
    exact corners_insert h1 h0 h2 h10 h21 h20
  · rw [if_neg hp, if_neg hp]
    exact corners_insert h0 h1 h2 h10.symm h20 h21

/-- The state at the first evaluation of the condition. -/
def begun (t : Site) : TriangleSta :=
  let h := if (t.point t.start).p ≤ (t.point t.first).p then t.point t.first else t.point t.start
  let m := if (t.point t.start).p ≤ (t.point t.first).p then t.point t.start else t.point t.first
  { pts := .insert h m (t.point t.second)
    beta_Az := t.start.1
    beta_El := t.start.2
    curr := t.point t.second
    c0 := 0
    out := (Simplex.insert h m (t.point t.second)).h }

/-- **The first triangle** is taken if the first two drives are not refused. -/
theorem exec_triangleStart (href1 : ¬t.Refused t.first) (href2 : ¬t.Refused t.second) (out : Point) :
    ∃ tr, (triangleStart out).exec t.env [] = some (.inr t.begun, tr) := by
  unfold triangleStart
  obtain ⟨tr0, -, h0⟩ := @exec_sample t [] t.start rfl TriangleRet _ readsSteady_appPowerGet
  obtain ⟨trd, hat1, hdrive1⟩ := @exec_drive t tr0 _ href1 TriangleRet (.FAIL, out)
  obtain ⟨tr1, -, h1⟩ := @exec_sample t trd _ hat1 TriangleRet _ readsSteady_appPowerGet
  obtain ⟨trd', hat2, hdrive2⟩ := @exec_drive t tr1 _ href2 TriangleRet (.FAIL,
    if (t.point t.start).p ≤ (t.point t.first).p then t.point t.first else t.point t.start)
  obtain ⟨tr2, -, h2⟩ := @exec_sample t trd' _ hat2 TriangleRet _ readsSteady_appPowerGet
  refine ⟨tr2, (Script.exec_bind_of h0 _).trans ?_⟩
  refine (Script.exec_bind_of hdrive1 _).trans ((Script.exec_bind_of h1 _).trans ?_)
  exact (Script.exec_bind_of hdrive2 _).trans (Script.exec_bind_of h2 _)

/-- The routine leaves at one of the first two drives. -/
theorem exec_triangleStart_refused (href : t.Refused t.first ∨ t.Refused t.second) (out : Point) :
    ∃ ret tr, (triangleStart out).exec t.env [] = some (.inl ret, tr) := by
  unfold triangleStart
  obtain ⟨tr0, -, h0⟩ := @exec_sample t [] t.start rfl TriangleRet _ readsSteady_appPowerGet
  rw [Script.exec_bind_of h0]
  by_cases href1 : t.Refused t.first
  · obtain ⟨tr', hdrive⟩ := @exec_refused t tr0 _ href1 TriangleRet (.FAIL, out)
    exact ⟨_, tr', Script.exec_bind_exit hdrive _⟩
  · obtain ⟨trd, hat1, hdrive1⟩ := @exec_drive t tr0 _ href1 TriangleRet (.FAIL, out)
    obtain ⟨tr1, -, h1⟩ := @exec_sample t trd _ hat1 TriangleRet _ readsSteady_appPowerGet
    let h := if (t.point t.start).p ≤ (t.point t.first).p then t.point t.first else t.point t.start
    obtain ⟨tr', hdrive⟩ := @exec_refused t tr1 _ (href.resolve_left href1) TriangleRet (.FAIL, h)
    refine ⟨(.FAIL, h), tr', (Script.exec_bind_of hdrive1 _).trans
      ((Script.exec_bind_of h1 _).trans ?_)⟩
    exact Script.exec_bind_exit hdrive _

theorem regular_begun (href1 : ¬t.Refused t.first) (href2 : ¬t.Refused t.second) :
    t.Regular t.begun := ⟨corners_first href1 href2, Nat.zero_le 6⟩

/-- The routine returns. -/
def Ends (t : Site) (fpu : Fpu) (out : Point) : Prop :=
  ∃ fuel, (appTriangleTrack fuel fpu out).exec t.env [] ≠ none

/-- From some round on no sample is tied. -/
def FinallyUntied (t : Site) (fpu : Fpu) (out : Point) : Prop :=
  ∃ N, ∀ n ≥ N, ∀ s tr,
    (triangleRounds n fpu out).exec t.env [] = some (.inr (.inl s), tr) → ¬t.Tied s

theorem Regular.after {fpu : Fpu} {n : Nat} {s s' : TriangleSta} (h : t.Regular s)
    (hafter : Ascent.after (t.next fpu) n s = some s') : t.Regular s' := by
  induction n generalizing s with
  | zero =>
      obtain rfl := Option.some.inj hafter
      exact h
  | succ n ih =>
      obtain ⟨s₁, hnext, hrest⟩ := Option.bind_eq_some_iff.mp hafter
      exact ih (h.next hnext) hrest

/-- **The machine stops** if no sample is tied from some step on. -/
theorem stops_of_untied {fpu : Fpu} {s : TriangleSta} (h : t.Regular s)
    (huntied : ∃ N, ∀ n ≥ N, ∀ s', Ascent.after (t.next fpu) n s = some s' → ¬t.Tied s') :
    ∃ n, Ascent.after (t.next fpu) n s = none := by
  obtain ⟨N, huntied⟩ := huntied
  cases hN : Ascent.after (t.next fpu) N s with
  | none => exact ⟨N, hN⟩
  | some s₁ =>
      have hafter (n : Nat) :
              Ascent.after (t.next fpu) (N + n) s = Ascent.after (t.next fpu) n s₁ := by
        rw [Ascent.after_add, hN]
        rfl
      have hfrom : ∀ n s', Ascent.after (t.next fpu) n s₁ = some s' → ¬t.Tied s' :=
        fun n s' hs' => huntied (N + n) (Nat.le_add_right N n) s' ((hafter n).trans hs')
      let inv : TriangleSta → Prop := fun s =>
        t.Regular s ∧ ∀ n s', Ascent.after (t.next fpu) n s = some s' → ¬t.Tied s'
      have hstep : ∀ s s', inv s → t.next fpu s = some s' →
          inv s' ∧ Prod.Lex (· < ·) (Prod.Lex (· < ·) (· < ·)) (t.height s') (t.height s) := by
        intro s s' hs hnext
        obtain ⟨hreg, hunt⟩ := hs
        refine ⟨⟨hreg.next hnext, fun n s'' hs'' => hunt (n + 1) s'' ?_⟩,
          hreg.height_lt (hunt 0 s rfl) hnext⟩
        rw [Ascent.after, hnext]
        exact hs''
      have hlt : WellFounded (fun m n : Nat => m < n) := Nat.lt_wfRel.wf
      obtain ⟨n, hn⟩ := Ascent.stops_of_measure
        (WellFounded.prod_lex hlt (WellFounded.prod_lex hlt hlt)) t.height inv hstep
        ⟨h.after hN, hfrom⟩
      exact ⟨N + n, (hafter n).trans hn⟩

/-- The last drive and sample take no loop. -/
theorem exec_triangleEnd_ne_none (out : Point) (tr : TrackTrace) :
    (triangleEnd out).exec t.env tr ≠ none := by
  unfold triangleEnd
  by_cases hrefused : t.Refused (out.az, out.el)
  · obtain ⟨tr', hdrive⟩ := @exec_refused t tr _ hrefused TriangleRet (.FAIL, out)
    rw [Script.exec_bind_exit hdrive]
    exact Option.some_ne_none _
  · obtain ⟨tr', hat, hdrive⟩ := @exec_drive t tr _ hrefused TriangleRet (.FAIL, out)
    obtain ⟨tr'', -, hsample⟩ :=
      @exec_sample t tr' _ hat TriangleRet _ readsSteady_appPowerAgGet4Purs
    rw [Script.exec_bind_of hdrive, Script.exec_bind_of hsample]
    exact Option.some_ne_none _

/-- What follows the loop does not keep the routine from returning. -/
theorem exec_loop_end_ne_none_iff {c : Tracker TriangleRet Point} {tr : TrackTrace} :
    (c >>= triangleEnd).exec t.env tr ≠ none ↔ c.exec t.env tr ≠ none := by
  cases hc : c.exec t.env tr with
  | none =>
      have hnone : (c.bind triangleEnd).exec t.env tr = none := by
        rw [Script.exec_bind, hc]
        rfl
      exact iff_of_false (fun hne => hne hnone) fun hne => hne rfl
  | some x =>
      obtain ⟨r, tr'⟩ := x
      refine iff_of_true ?_ (Option.some_ne_none _)
      cases r with
      | inl ret =>
          rw [Script.exec_bind_exit hc]
          exact Option.some_ne_none _
      | inr out =>
          rw [Script.exec_bind_of hc]
          exact exec_triangleEnd_ne_none out tr'

/-- The routine returns if the machine stops. -/
theorem ends_iff_stops (href1 : ¬t.Refused t.first) (href2 : ¬t.Refused t.second) {fpu : Fpu}
    {out : Point} : t.Ends fpu out ↔ ∃ n, Ascent.after (t.next fpu) n t.begun = none := by
  obtain ⟨tr, hstart⟩ := exec_triangleStart href1 href2 out
  refine exists_congr fun n => ?_
  rw [← exec_loop_ne_none_iff fpu n t.begun tr]
  unfold appTriangleTrack
  rw [Script.exec_bind_of hstart]
  exact exec_loop_end_ne_none_iff

/--
**When `APP_Triangle_Track` ends.**  On an ideal antenna, whatever the power, the start, the
soft limits and the rounding: the routine returns exactly if from some round on no sample
has just the power of the best point or of the middle one.
-/
theorem ends_iff (t : Site) (fpu : Fpu) (out : Point) : t.Ends fpu out ↔ t.FinallyUntied fpu out := by
  by_cases href : t.Refused t.first ∨ t.Refused t.second
  · obtain ⟨ret, tr, hstart⟩ := exec_triangleStart_refused href out
    refine iff_of_true ⟨0, ?_⟩ ⟨0, fun n _ s tr' hrun => ?_⟩
    · unfold appTriangleTrack
      rw [Script.exec_bind_exit hstart]
      exact Option.some_ne_none _
    · unfold triangleRounds at hrun
      rw [Script.exec_bind_exit hstart] at hrun
      cases hrun
  · obtain ⟨href1, href2⟩ := not_or.mp href
    obtain ⟨tr, hstart⟩ := exec_triangleStart href1 href2 out
    have huntied : t.FinallyUntied fpu out ↔
        ∃ N, ∀ n ≥ N, ∀ s, Ascent.after (t.next fpu) n t.begun = some s → ¬t.Tied s := by
      refine exists_congr fun N => forall₂_congr fun n _ => forall_congr' fun s => ?_
      obtain ⟨r, tr', hrounds, hafter⟩ := @exec_rounds t fpu n t.begun tr
      unfold triangleRounds
      rw [Script.exec_bind_of hstart, hrounds, hafter]
      refine ⟨fun hall hr => hall tr' (by rw [hr]), fun himp tr'' heq => himp ?_⟩
      exact (Prod.mk.inj (Option.some.inj heq)).1
    rw [ends_iff_stops href1 href2, huntied]
    refine ⟨fun hstop => ?_, stops_of_untied (regular_begun href1 href2)⟩
    obtain ⟨N, hN⟩ := hstop
    refine ⟨N, fun n hn s hs => ?_⟩
    rw [Ascent.after_none_mono (t.next fpu) hN hn] at hs
    cases hs

end Site

/-! ### A ring of equal powers -/

deriving instance DecidableEq for Point, Simplex, TriangleSta

/-- Ten volts where the antenna starts, and nine everywhere else. -/
def ringSite : Site :=
  { limit := ⟨⟨110, 5, -90⟩, ⟨260, 85, 90⟩⟩
    mv := fun az el => if az = 180 ∧ el = 45 then 10000 else 9000
    start := (180, 45) }

/-- After the first round the triangle is back after every six. -/
theorem ringSite_returns : ∃ s, Ascent.after (ringSite.next rootFpu) 1 ringSite.begun = some s ∧
    Ascent.after (ringSite.next rootFpu) 6 s = some s := by
  have hseven : Ascent.after (ringSite.next rootFpu) 7 ringSite.begun =
      Ascent.after (ringSite.next rootFpu) 1 ringSite.begun := by
    decide +kernel
  cases hone : Ascent.after (ringSite.next rootFpu) 1 ringSite.begun with
  | none => exact absurd hone (by decide +kernel)
  | some s =>
      refine ⟨s, rfl, ?_⟩
      have hsum := Ascent.after_add (ringSite.next rootFpu) 1 6 ringSite.begun
      rw [hone] at hsum hseven
      exact hsum.symm.trans hseven

/-- **On the ring the triangle turns for ever.** -/
theorem not_ends_ring :
    ¬ ∀ (t : Site) (fpu : Fpu) (out : Point), (∃ b, ∀ az el, |t.mv az el| ≤ b) → t.Ends fpu out := by
  intro h
  have hbounded : ∀ az el, |ringSite.mv az el| ≤ 10000 := by
    intro az el
    show |if az = 180 ∧ el = 45 then (10000 : FP32) else 9000| ≤ 10000
    split
    · norm_num [abs_le]
    · norm_num [abs_le]
  have hends := h ringSite rootFpu ⟨180, 45, 0⟩ ⟨10000, hbounded⟩
  obtain ⟨n, hn⟩ := (Site.ends_iff_stops (by decide +kernel) (by decide +kernel)).mp hends
  obtain ⟨s, hone, hsix⟩ := ringSite_returns
  refine Ascent.ne_none_of_returns (by decide) hsix n ?_
  have hlater := Ascent.after_none_mono (ringSite.next rootFpu) hn (Nat.le_add_left n 1)
  rw [Ascent.after_add, hone] at hlater
  exact hlater

end SwiftAcu.Track
