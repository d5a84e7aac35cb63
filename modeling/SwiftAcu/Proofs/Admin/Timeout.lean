/-
Timeouts, and the ticks they count.

The monitor keeps its counters in static variables, and clears them on its own ticks
only: a wait counter is cleared by a tick that finds neither a request nor a PC in
control, an unlink counter by a tick that finds no PC in control or its datagrams
counted.  A request or a grant that arrives between two ticks therefore takes over
what an earlier one has counted, and may time out on its first tick.

Where every request and every grant finds its counter cleared, a timeout has been
counted out in full: by ticks that found that same request pending, or that same
grant without a datagram in between.
-/
import SwiftAcu.Proofs.Admin.Runs

namespace SwiftAcu.Admin

open PcComm

/-! ### One tick -/

/-- A call of `APP_MONITOR_PC_Admin_Timeout_Deal`. -/
def Event.isTick : Event → Bool
  | .tick _ => true
  | _ => false

/-- The number of ticks among `es`. -/
def ticks (es : List Event) : Nat := es.countP Event.isTick

@[simp] theorem ticks_nil : ticks [] = 0 := rfl

@[simp] theorem ticks_concat (es : List Event) (e : Event) :
    ticks (es ++ [e]) = ticks es + if e.isTick then 1 else 0 := by
  simp [ticks, List.countP_cons]

theorem u32_le (n : Nat) : u32 n ≤ n := Nat.mod_le n _

theorem lt_mul_of_lt_u32 {k n m period_ms : Nat} (h : k < u32 (u32 (n + 1) * period_ms))
    (hle : n ≤ m) : k < (m + 1) * period_ms :=
  calc k < u32 (u32 (n + 1) * period_ms) := h
    _ ≤ u32 (n + 1) * period_ms := u32_le _
    _ ≤ (n + 1) * period_ms := Nat.mul_le_mul_right _ (u32_le _)
    _ ≤ (m + 1) * period_ms := Nat.mul_le_mul_right _ (Nat.succ_le_succ hle)

section
variable (period_ms : Nat) (d : DevAdmin) (t : AdminTimer)

/-- A tick counts one more wait, or clears the counter. -/
theorem tick_wait_le :
    (pcAdminTimeoutDeal period_ms d t).2.1.pcAdminWaitTimeoutCnt ≤ t.pcAdminWaitTimeoutCnt + 1 := by
  have hu32 := u32_le (t.pcAdminWaitTimeoutCnt + 1)
  unfold pcAdminTimeoutDeal
  grind

/-- A tick counts one more datagram missed, or clears the counter. -/
theorem tick_unlink :
    (pcAdminTimeoutDeal period_ms d t).2.1.pcAdminUnlinkCnt = 0 ∨
      (d.pcAdminLinkCnt = t.pcAdminOldLinkCnt ∧
        (pcAdminTimeoutDeal period_ms d t).2.1.pcAdminOldLinkCnt = t.pcAdminOldLinkCnt ∧
        (pcAdminTimeoutDeal period_ms d t).2.1.pcAdminUnlinkCnt ≤ t.pcAdminUnlinkCnt + 1) := by
  have hu32 := u32_le (t.pcAdminUnlinkCnt + 1)
  unfold pcAdminTimeoutDeal
  grind

end

/-! ### The counters along a run -/

section
variable {ρ : Type} {h : PcHandlers ρ} {s : Sys ρ} {e : Event}

/-- Only ticks touch the counters. -/
theorem step_timer (he : e.isTick = false) : (step h s e).timer = s.timer := by
  cases e with
  | tick => simp [Event.isTick] at he
  | _ => rfl

theorem isTick_of_request {a : Nat} (hop : op s e = some (.request a)) : e.isTick = false := by
  cases e with
  | tick => simp [op] at hop
  | _ => rfl

theorem isTick_of_grant (hop : op s e = some .grant) : e.isTick = false := by
  cases e with
  | tick => simp [op] at hop
  | _ => rfl

/-- The wait counter grows by at most the ticks. -/
theorem run_wait_le (s : Sys ρ) (es : List Event) :
    (Runs.run (step h) s es).timer.pcAdminWaitTimeoutCnt ≤
      s.timer.pcAdminWaitTimeoutCnt + ticks es := by
  induction es using List.reverseRecOn with
  | nil => simp
  | append_singleton es e ih =>
      rw [Runs.run_concat, ticks_concat]
      cases he : e.isTick with
      | false =>
          rw [step_timer he]
          simpa using ih
      | true =>
          cases e with
          | tick period_ms => exact (tick_wait_le period_ms _ _).trans (Nat.succ_le_succ ih)
          | _ => simp [Event.isTick] at he

/-- Every tick among these found the link count at `v`. -/
def LinkStill (h : PcHandlers ρ) (s : Sys ρ) (v : Nat) (pre : List Event) (e : Event) : Prop :=
  e.isTick = true → (Runs.run (step h) s pre).acu.devAdmin.pcAdminLinkCnt = v

/--
**What the unlink counter counts**: the last ticks of the run, each of which found
the link count that the monitor remembers.
-/
theorem run_unlink (hzero : s.timer.pcAdminUnlinkCnt = 0) (es : List Event) :
    ∃ q₁ q₂, es = q₁ ++ q₂ ∧
      (Runs.run (step h) s es).timer.pcAdminUnlinkCnt ≤ ticks q₂ ∧
      Past.Through (LinkStill h s (Runs.run (step h) s es).timer.pcAdminOldLinkCnt) q₁ q₂ := by
  induction es using List.reverseRecOn with
  | nil => exact ⟨[], [], rfl, by simp [hzero], trivial⟩
  | append_singleton es e ih =>
      obtain ⟨q₁, q₂, rfl, hcount, hstill⟩ := ih
      rw [Runs.run_concat]
      cases he : e.isTick with
      | false =>
          refine ⟨q₁, q₂ ++ [e], (List.append_assoc q₁ q₂ [e]), ?_, ?_⟩
          · rw [step_timer he]
            simpa [he] using hcount
          · rw [step_timer he, Past.through_concat]
            exact ⟨hstill, fun htick => absurd htick (by simp [he])⟩
      | true =>
          cases e with
          | tick period_ms =>
              rcases tick_unlink period_ms (Runs.run (step h) s (q₁ ++ q₂)).acu.devAdmin
                (Runs.run (step h) s (q₁ ++ q₂)).timer with hcleared | ⟨hlink, hold, hone⟩
              · -- The counter starts over behind this tick.
                exact ⟨q₁ ++ q₂ ++ [.tick period_ms], [], (List.append_nil _).symm, hcleared.le, trivial⟩
              · refine ⟨q₁, q₂ ++ [.tick period_ms], (List.append_assoc q₁ q₂ _), ?_, ?_⟩
                · rw [ticks_concat]
                  exact hone.trans (Nat.succ_le_succ hcount)
                · rw [Past.through_concat, step, hold]
                  exact ⟨hstill, fun _ => hlink⟩
          | _ => simp [Event.isTick] at he

end

/-! ### Timeouts of runs -/

section
variable {ρ : Type} (h : PcHandlers ρ) (s₀ : Sys ρ)

/-- The request of `a` was taken up by `r`, behind `q`, and has been pending through `t`. -/
def PendingSince (a : Nat) (q : List Event) (r : Event) (t : List Event) : Prop :=
  Control.Requested (step h) s₀ holder op a q r ∧
    Past.Through (Control.Stays (step h) s₀ holder (.asked a)) (q ++ [r]) t

/-- Control was granted to `b` by `g`, behind `q`, and that grant has stood through `t`. -/
def GrantedSince (b : Option Nat) (q : List Event) (g : Event) (t : List Event) : Prop :=
  op (Control.At (step h) s₀ q) g = some .grant ∧
    Past.Through (Control.Holds (step h) s₀ holder op b) (q ++ [g]) t

/-- With the tick that follows `pre`, one request has been pending during `n` ticks. -/
def PendingTicks (n : Nat) (pre : List Event) : Prop :=
  ∃ a q r t, pre = q ++ r :: t ∧ PendingSince h s₀ a q r t ∧ n ≤ ticks t + 1

/--
With the tick that follows `pre`, one grant has stood during `n` ticks that all found
`pc_admin_link_cnt` as it is now.
-/
def UnlinkedTicks (n : Nat) (pre : List Event) : Prop :=
  ∃ b q g t₁ t₂, pre = q ++ g :: (t₁ ++ t₂) ∧ GrantedSince h s₀ b q g (t₁ ++ t₂) ∧
    n ≤ ticks t₂ + 1 ∧
    Past.Through
      (LinkStill h (Control.At (step h) s₀ (q ++ [g]))
        (Control.At (step h) s₀ pre).acu.devAdmin.pcAdminLinkCnt) t₁ t₂

/--
Timeouts are measured per request: a tick that cancels a request, or revokes a grant,
is the last of as many ticks of that same request or grant as the limit asks for, and
no request or grant has more ticks counted than it has seen.
-/
structure TimeoutsPerRequest (as : List Event) : Prop where
  refused : ∀ pre period_ms post, as = pre ++ .tick period_ms :: post →
    (Control.At (step h) s₀ pre).acu.devAdmin.devAdminSta = 0x11 →
    (Control.At (step h) s₀ (pre ++ [.tick period_ms])).acu.devAdmin.devAdminSta = 0x00 →
    ∃ n, 300000 < n * period_ms ∧ PendingTicks h s₀ n pre
  revoked : ∀ pre period_ms post, as = pre ++ .tick period_ms :: post →
    (Control.At (step h) s₀ pre).acu.devAdmin.devAdminSta = 0x01 →
    (Control.At (step h) s₀ (pre ++ [.tick period_ms])).acu.devAdmin.devAdminSta = 0x00 →
    ∃ n, 15000 < n * period_ms ∧ UnlinkedTicks h s₀ n pre
  request : ∀ a q r t post, as = q ++ r :: (t ++ post) → PendingSince h s₀ a q r t →
    (Control.At (step h) s₀ (q ++ r :: t)).timer.pcAdminWaitTimeoutCnt ≤ ticks t
  grant : ∀ b q g t post, as = q ++ g :: (t ++ post) → GrantedSince h s₀ b q g t →
    (Control.At (step h) s₀ (q ++ g :: t)).timer.pcAdminUnlinkCnt ≤ ticks t

/-- A request finds the wait counter cleared, and a grant the unlink counter. -/
def StartsAfresh (s : Sys ρ) (e : Event) : Prop :=
  (s.acu.devAdmin.devAdminSta = 0x00 → ∀ a, op s e = some (.request a) →
    s.timer.pcAdminWaitTimeoutCnt = 0) ∧
  (op s e = some .grant → s.timer.pcAdminUnlinkCnt = 0)

variable {h s₀} {q t : List Event} {e : Event}

theorem At.split (q : List Event) (e : Event) (t : List Event) :
    Control.At (step h) s₀ (q ++ e :: t) =
      Runs.run (step h) (Control.At (step h) s₀ (q ++ [e])) t := by
  rw [Control.At, Control.At, ← Runs.run_append, List.append_assoc]
  rfl

theorem At.timer_concat (he : e.isTick = false) :
    (Control.At (step h) s₀ (q ++ [e])).timer = (Control.At (step h) s₀ q).timer := by
  rw [Control.At.concat, step_timer he]

/-- A cleared wait counter holds no more than the ticks since. -/
theorem wait_le_ticks (he : e.isTick = false)
    (hzero : (Control.At (step h) s₀ q).timer.pcAdminWaitTimeoutCnt = 0) (t : List Event) :
    (Control.At (step h) s₀ (q ++ e :: t)).timer.pcAdminWaitTimeoutCnt ≤ ticks t := by
  have hrun := run_wait_le (h := h) (Control.At (step h) s₀ (q ++ [e])) t
  rw [At.timer_concat he, hzero, Nat.zero_add] at hrun
  rwa [At.split]

/-- A grant that starts afresh leaves the unlink counter at 0. -/
theorem unlink_of_grant {post : List Event}
    (hfresh : Runs.AllSteps (step h) StartsAfresh s₀ (q ++ e :: post))
    (hop : op (Control.At (step h) s₀ q) e = some .grant) :
    (Control.At (step h) s₀ (q ++ [e])).timer.pcAdminUnlinkCnt = 0 := by
  rw [At.timer_concat (isTick_of_grant hop)]
  exact ((Runs.allSteps_append s₀ q _).mp hfresh).2.1.2 hop

/-- A tick that takes control away has timed out. -/
theorem timesOut_of_free {s : Sys ρ} {period_ms : Nat} (hsta : s.acu.devAdmin.devAdminSta ≠ 0x00)
    (hfree : (step h s (.tick period_ms)).acu.devAdmin.devAdminSta = 0x00) :
    TimesOut period_ms s.acu.devAdmin s.timer := by
  by_contra hno
  rw [step] at hfree
  dsimp only at hfree
  rw [pcAdminTimeoutDeal_admin, if_neg hno] at hfree
  exact hsta hfree

section
variable {as : List Event} (hidle : s₀.Idle) (haddr : ∀ e ∈ as, e.Addressed)
  (hfresh : Runs.AllSteps (step h) StartsAfresh s₀ as)

include hidle haddr hfresh

/-- **A request times out after all of its ticks.** -/
theorem pendingTicks_of_refused {pre post : List Event} {period_ms : Nat}
    (has : as = pre ++ .tick period_ms :: post)
    (hsta : (Control.At (step h) s₀ pre).acu.devAdmin.devAdminSta = 0x11)
    (hfree : (Control.At (step h) s₀ (pre ++ [.tick period_ms])).acu.devAdmin.devAdminSta = 0x00) :
    ∃ n, 300000 < n * period_ms ∧ PendingTicks h s₀ n pre := by
  subst has
  obtain ⟨hcons, hfollows⟩ :=
    follows_run h hidle fun f hf => haddr f (List.mem_append_left _ hf)
  have hasked := (control_eq_asked hcons _).mpr ⟨hsta, rfl⟩
  obtain ⟨q, r, t, rfl, hreq, hstays⟩ := Control.asked_since hidle.free hfollows hasked
  -- The request found the counter cleared, so the counter holds ticks of this request only.
  have hclean := ((Runs.allSteps_iff_split s₀ _).mp hfresh q r (t ++ .tick period_ms :: post)
    (by simp)).1
  have hzero := hclean ((control_eq_free (follows_run h hidle fun f hf =>
    haddr f (by simp [hf])).1).mp hreq.1) _ hreq.2
  have hwait := wait_le_ticks (isTick_of_request hreq.2) hzero t
  rw [Control.At.concat] at hfree
  have hout := timesOut_of_free (by rw [hsta]; decide) hfree
  rcases hout with ⟨hpc, -⟩ | ⟨-, hlimit⟩
  · rw [hsta] at hpc
    exact absurd hpc (by decide)
  · exact ⟨ticks t + 1, lt_mul_of_lt_u32 hlimit hwait, _, q, r, t, rfl, ⟨hreq, hstays⟩, le_rfl⟩

/-- **A grant times out after as many ticks without a datagram.** -/
theorem unlinkedTicks_of_revoked {pre post : List Event} {period_ms : Nat}
    (has : as = pre ++ .tick period_ms :: post)
    (hsta : (Control.At (step h) s₀ pre).acu.devAdmin.devAdminSta = 0x01)
    (hfree : (Control.At (step h) s₀ (pre ++ [.tick period_ms])).acu.devAdmin.devAdminSta = 0x00) :
    ∃ n, 15000 < n * period_ms ∧ UnlinkedTicks h s₀ n pre := by
  subst has
  obtain ⟨hcons, hfollows⟩ :=
    follows_run h hidle fun f hf => haddr f (List.mem_append_left _ hf)
  obtain ⟨b, hheld⟩ : ∃ b, holder (Control.At (step h) s₀ pre) = .held b := by
    simp [holder, control, hsta]
  obtain ⟨q, g, t, rfl, hgrant, hholds⟩ := Control.held_since_grant hidle.free hfollows hheld
  -- The grant found the counter cleared, so the counter holds ticks of this grant only.
  rw [List.append_assoc] at hfresh
  obtain ⟨t₁, t₂, rfl, hcount, hstill⟩ := run_unlink (unlink_of_grant hfresh hgrant) t
  rw [Control.At.concat] at hfree
  rcases timesOut_of_free (by rw [hsta]; decide) hfree with ⟨-, hlink, hlimit⟩ | ⟨hask, -⟩
  · rw [← At.split, hlink] at hstill
    rw [← At.split] at hcount
    exact ⟨ticks t₂ + 1, lt_mul_of_lt_u32 hlimit hcount, b, q, g, t₁, t₂, rfl, ⟨hgrant, hholds⟩,
      le_rfl, hstill⟩
  · rw [hsta] at hask
    exact absurd hask (by decide)

/-- **No request has more ticks counted than it has seen.** -/
theorem wait_le_of_pendingSince {a : Nat} {q t post : List Event} {r : Event}
    (has : as = q ++ r :: (t ++ post)) (hpending : PendingSince h s₀ a q r t) :
    (Control.At (step h) s₀ (q ++ r :: t)).timer.pcAdminWaitTimeoutCnt ≤ ticks t := by
  subst has
  obtain ⟨⟨hfree, hop⟩, -⟩ := hpending
  have hcons := (follows_run h hidle fun f hf => haddr f (List.mem_append_left _ hf)).1
  have hclean := (((Runs.allSteps_append s₀ q _).mp hfresh).2.1).1
  exact wait_le_ticks (isTick_of_request hop)
    (hclean ((control_eq_free hcons).mp hfree) a hop) t

omit hidle haddr in
/-- **No grant has more ticks counted than it has seen.** -/
theorem unlink_le_of_grantedSince {b : Option Nat} {q t post : List Event} {g : Event}
    (has : as = q ++ g :: (t ++ post)) (hgranted : GrantedSince h s₀ b q g t) :
    (Control.At (step h) s₀ (q ++ g :: t)).timer.pcAdminUnlinkCnt ≤ ticks t := by
  subst has
  obtain ⟨hop, -⟩ := hgranted
  obtain ⟨t₁, t₂, rfl, hcount, -⟩ := run_unlink (unlink_of_grant hfresh hop) t
  rw [At.split]
  refine hcount.trans ?_
  simp [ticks]

end

end

/--
**Timeouts are measured per request in exactly the runs in which every request and
every grant finds its counter cleared.**
-/
theorem timeoutsPerRequest_iff {ρ : Type} (h : PcHandlers ρ) {s₀ : Sys ρ} (hidle : s₀.Idle)
    {as : List Event} (haddr : ∀ e ∈ as, e.Addressed) :
    TimeoutsPerRequest h s₀ as ↔ Runs.AllSteps (step h) StartsAfresh s₀ as := by
  constructor
  · intro htimeouts
    rw [Runs.allSteps_iff_split]
    rintro q e post rfl
    have hcons := (follows_run h hidle fun f hf => haddr f (List.mem_append_left _ hf)).1
    constructor
    · intro hsta a hop
      have hpending : PendingSince h s₀ a q e [] := ⟨⟨(control_eq_free hcons).mpr hsta, hop⟩, trivial⟩
      have hwait := htimeouts.request a q e [] post rfl hpending
      rw [At.timer_concat (isTick_of_request hop)] at hwait
      exact Nat.le_zero.mp hwait
    · intro hop
      have hgranted : GrantedSince h s₀ none q e [] := ⟨hop, trivial⟩
      have hunlink := htimeouts.grant none q e [] post rfl hgranted
      rw [At.timer_concat (isTick_of_grant hop)] at hunlink
      exact Nat.le_zero.mp hunlink
  · intro hfresh
    exact {
      refused := fun _ _ _ has hsta hfree =>
        pendingTicks_of_refused hidle haddr hfresh has hsta hfree
      revoked := fun _ _ _ has hsta hfree =>
        unlinkedTicks_of_revoked hidle haddr hfresh has hsta hfree
      request := fun _ _ _ _ _ has hpending =>
        wait_le_of_pendingSince hidle haddr hfresh has hpending
      grant := fun _ _ _ _ _ has hgranted => unlink_le_of_grantedSince hfresh has hgranted }

/-- A run in which PC 7 asks, and the next tick, 400 s later, cancels its request. -/
theorem timeoutsPerRequest_asked :
    TimeoutsPerRequest default bootSys [.datagram 7 (adminDatagram 1), .tick 400000] := by
  refine (timeoutsPerRequest_iff default bootSys_idle ?_).mpr ⟨⟨?_, ?_⟩, ⟨?_, ?_⟩, trivial⟩
  · simp [Event.Addressed]
  · exact fun _ _ _ => rfl
  · exact fun _ => rfl
  · exact fun hsta => absurd hsta (by decide +kernel)
  · exact fun hop => absurd hop (by decide +kernel)

/-! ### A request and a grant that inherit ticks -/

/-- One tick a minute: PC 1 withdraws its request after five of them, and PC 2 asks. -/
def takenOverRequest : List Event :=
  [.datagram 1 (adminDatagram 1), .tick 60000, .tick 60000, .tick 60000, .tick 60000, .tick 60000,
    .datagram 1 (adminDatagram 0), .datagram 2 (adminDatagram 1)]

/-- A tick every four seconds: the panel revokes after three of them, and grants to PC 2. -/
def takenOverGrant : List Event :=
  [.datagram 1 (adminDatagram 1), .oled (adminPanel 1), .tick 4000, .tick 4000, .tick 4000,
    .oled (adminPanel 0), .datagram 2 (adminDatagram 1), .oled (adminPanel 1)]

theorem ticks_le_append (es fs : List Event) : ticks fs ≤ ticks (es ++ fs) := by
  simp [ticks]

/-- The request of PC 2 has seen no tick yet. -/
theorem takenOverRequest_pending {n : Nat} (hn : PendingTicks default bootSys n takenOverRequest) :
    n ≤ 5 := by
  obtain ⟨a, q, r, t, heq, ⟨hreq, hstays⟩, hcount⟩ := hn
  rcases q with _ | ⟨x, _ | ⟨y, q⟩⟩
  · -- The first request has not stood: PC 1 withdrew it.
    obtain ⟨rfl, rfl⟩ := List.cons.inj heq
    have hwithdrawn := hstays.2.2.2.2.2.1.2
    have hfree : holder (Control.At (step default) bootSys (takenOverRequest.take 7)) = .free := by
      decide +kernel
    rw [hfree.symm.trans hwithdrawn] at hfree
    cases hfree
  · simp only [takenOverRequest, List.cons_append, List.nil_append, List.cons.injEq] at heq
    obtain ⟨-, -, rfl⟩ := heq
    exact hcount
  · simp only [takenOverRequest, List.cons_append, List.cons.injEq] at heq
    obtain ⟨-, -, htail⟩ := heq
    have hticks := ticks_le_append (q ++ [r]) t
    rw [List.append_assoc, List.singleton_append, ← htail] at hticks
    exact hcount.trans (Nat.succ_le_succ hticks)

/-- The grant to PC 2 has seen no tick yet. -/
theorem takenOverGrant_unlinked {n : Nat} (hn : UnlinkedTicks default bootSys n takenOverGrant) :
    n ≤ 3 := by
  obtain ⟨b, q, g, t₁, t₂, heq, ⟨hgrant, hholds⟩, hcount, -⟩ := hn
  rcases q with _ | ⟨x, _ | ⟨y, _ | ⟨z, q⟩⟩⟩
  · obtain ⟨rfl, -⟩ := List.cons.inj heq
    exact absurd hgrant (by decide +kernel)
  · -- The first grant has not stood: the panel has granted again.
    simp only [takenOverGrant, List.cons_append, List.nil_append, List.cons.injEq] at heq
    obtain ⟨rfl, rfl, htail⟩ := heq
    rw [← htail] at hholds
    exact absurd hholds.2.2.2.2.2.1.1 (by decide +kernel)
  · simp only [takenOverGrant, List.cons_append, List.nil_append, List.cons.injEq] at heq
    obtain ⟨-, -, rfl, -⟩ := heq
    exact absurd (isTick_of_grant hgrant) (by decide)
  · simp only [takenOverGrant, List.cons_append, List.cons.injEq] at heq
    obtain ⟨-, -, -, htail⟩ := heq
    have hticks := ticks_le_append (q ++ g :: t₁) t₂
    rw [List.append_assoc, List.cons_append, ← htail] at hticks
    exact hcount.trans (Nat.succ_le_succ hticks)

/--
The request of PC 2 is cancelled by its first tick, after one minute, and the grant to
PC 2 is revoked by its first tick, after four seconds.
-/
theorem inherited_ticks_time_out :
    ¬TimeoutsPerRequest default bootSys (takenOverRequest ++ [.tick 60000]) ∧
      ¬TimeoutsPerRequest default bootSys (takenOverGrant ++ [.tick 4000]) := by
  constructor
  · intro htimeouts
    obtain ⟨n, hlimit, hpending⟩ :=
      htimeouts.refused takenOverRequest 60000 [] rfl (by decide +kernel) (by decide +kernel)
    have hn := takenOverRequest_pending hpending
    omega
  · intro htimeouts
    obtain ⟨n, hlimit, hunlinked⟩ :=
      htimeouts.revoked takenOverGrant 4000 [] rfl (by decide +kernel) (by decide +kernel)
    have hn := takenOverGrant_unlinked hunlinked
    omega

end SwiftAcu.Admin
