/-
What the kernel is for.

Tasks are ready, delayed, or wait for a semaphore, and some of them until a tick they are due
at.  Nothing is said of pointers, spokes or words: a tick wakes all that are due at once, and a
semaphore has a queue and a count.
-/
import SwiftAcu.Acu.Kernel.Core
import SwiftAcu.Proofs.Kernel.Pends

namespace SwiftAcu.Kernel

variable {T S : Type}

/-- What a task does. -/
inductive Mode (S : Type) where
  | dormant
  | ready
  | delayed
  | waiting (s : S)
  deriving DecidableEq

/-- The tasks and the semaphores. -/
structure Sys (T S : Type) where
  /-- The ticks since the start. -/
  now : Nat
  mode : T → Mode S
  /-- The tick a task goes on at, whatever comes. -/
  due : T → Option Nat
  queue : S → List T
  ctr : S → UInt32
  /-- What a task was told when it waited last. -/
  told : T → PendStatus

/-- What a task is told that is due. -/
def Mode.dueTold (m : Mode S) (told : PendStatus) : PendStatus :=
  match m with
  | .waiting _ => .TIMEOUT
  | _ => told

/-- How many ticks a call is. -/
def Call.ticks : Call T S → Nat
  | .tick => 1
  | _ => 0

namespace Sys

/-- All that are due now go on. -/
def wakeDue (a : Sys T S) : Sys T S :=
  { a with
    mode := fun t => if a.due t = some a.now then .ready else a.mode t
    due := fun t => if a.due t = some a.now then none else a.due t
    queue := fun s => (a.queue s).filter fun t => a.due t ≠ some a.now
    told := fun t => if a.due t = some a.now then (a.mode t).dueTold (a.told t) else a.told t }

/-- A tick. -/
def tick (a : Sys T S) : Sys T S := { a with now := a.now + 1 }.wakeDue

/-- What holds behind every call. -/
structure Ok (prio : T → Nat) (a : Sys T S) : Prop where
  queue : ∀ s t, t ∈ a.queue s ↔ a.mode t = .waiting s
  nodup : ∀ s, (a.queue s).Nodup
  stopped : ∀ t d, a.due t = some d → a.mode t = .delayed ∨ ∃ s, a.mode t = .waiting s
  delayed : ∀ t, a.mode t = .delayed → a.due t ≠ none
  order : ∀ s, (a.queue s).Pairwise fun u v => prio u ≤ prio v
  free : ∀ s, a.queue s ≠ [] → a.ctr s = 0

/-- Who is due is due later. -/
def Later (a : Sys T S) : Prop := ∀ t d, a.due t = some d → a.now < d

section
variable {prio : T → Nat} {a : Sys T S} {t : T} {xs : List T}

theorem due_none (h : a.Ok prio) (hdelayed : a.mode t ≠ .delayed)
    (hwaiting : ∀ s, a.mode t ≠ .waiting s) : a.due t = none := by
  cases hd : a.due t with
  | none => rfl
  | some d =>
      rcases h.stopped t d hd with hmode | ⟨s, hmode⟩
      · exact absurd hmode hdelayed
      · exact absurd hmode (hwaiting s)

theorem due_of_ready (h : a.Ok prio) (hready : a.mode t = .ready) : a.due t = none :=
  due_none h (by rw [hready]; exact nofun) fun s => by rw [hready]; exact nofun

theorem notMem_of_ready (h : a.Ok prio) (hready : a.mode t = .ready) (s : S) : t ∉ a.queue s := by
  rw [h.queue, hready]
  exact nofun

/-- A queue in order stays in order. -/
theorem enqueue_order {xs : List T} (h : xs.Pairwise fun u v => prio u ≤ prio v) (t : T) :
    (enqueue prio t xs).Pairwise fun u v => prio u ≤ prio v := by
  induction xs with
  | nil => exact List.pairwise_singleton _ t
  | cons x xs ih =>
      obtain ⟨hx, hxs⟩ := List.pairwise_cons.mp h
      rw [enqueue, List.orderedInsert_cons]
      by_cases hlt : prio t < prio x
      · rw [if_pos hlt]
        refine List.pairwise_cons.mpr ⟨fun y hy => ?_, h⟩
        rcases List.mem_cons.mp hy with rfl | hy
        · exact Nat.le_of_lt hlt
        · exact (Nat.le_of_lt hlt).trans (hx y hy)
      · rw [if_neg hlt]
        refine List.pairwise_cons.mpr ⟨fun y hy => ?_, ih hxs⟩
        rcases (List.mem_orderedInsert _).mp hy with rfl | hy
        · exact Nat.not_lt.mp hlt
        · exact hx y hy

theorem Ok.wakeDue (h : a.Ok prio) : a.wakeDue.Ok prio := by
  constructor
  · intro s t
    show t ∈ (a.queue s).filter _ ↔ (if a.due t = some a.now then .ready else a.mode t) = .waiting s
    rw [List.mem_filter, h.queue, decide_eq_true_iff]
    by_cases hd : a.due t = some a.now
    · rw [if_pos hd]
      exact iff_of_false (fun hand => hand.2 hd) nofun
    · rw [if_neg hd]
      exact and_iff_left hd
  · exact fun s => (h.nodup s).filter _
  · intro t d hdue
    have hdue : (if a.due t = some a.now then none else a.due t) = some d := hdue
    by_cases hd : a.due t = some a.now
    · rw [if_pos hd] at hdue
      cases hdue
    · rw [if_neg hd] at hdue
      show (if a.due t = some a.now then .ready else a.mode t) = _ ∨
        ∃ s, (if a.due t = some a.now then .ready else a.mode t) = _
      rw [if_neg hd]
      exact h.stopped t d hdue
  · intro t hmode
    have hmode : (if a.due t = some a.now then .ready else a.mode t) = .delayed := hmode
    by_cases hd : a.due t = some a.now
    · rw [if_pos hd] at hmode
      cases hmode
    · rw [if_neg hd] at hmode
      show (if a.due t = some a.now then none else a.due t) ≠ none
      rw [if_neg hd]
      exact h.delayed t hmode
  · exact fun s => (h.order s).filter _
  · intro s hne
    refine h.free s fun hnil => hne ?_
    show (a.queue s).filter _ = []
    rw [hnil, List.filter_nil]

theorem Ok.tick (h : a.Ok prio) : a.tick.Ok prio :=
  Ok.wakeDue (a := { a with now := a.now + 1 })
    ⟨h.queue, h.nodup, h.stopped, h.delayed, h.order, h.free⟩

theorem Later.tick (h : a.Later) : a.tick.Later := by
  intro t d hdue
  have hdue : (if a.due t = some (a.now + 1) then none else a.due t) = some d := hdue
  show a.now + 1 < d
  by_cases hd : a.due t = some (a.now + 1)
  · rw [if_pos hd] at hdue
    cases hdue
  · rw [if_neg hd] at hdue
    have hlater := h t d hdue
    have hne : d ≠ a.now + 1 := fun heq => hd (heq ▸ hdue)
    omega

/-- Nobody is due. -/
theorem wakeDue_none (h : ∀ t, a.due t ≠ some a.now) : a.wakeDue = a := by
  unfold Sys.wakeDue
  simp [h]

end

/-! ### The calls -/

variable [DecidableEq T]

/-- A task goes on. -/
def wake (t : T) (told : PendStatus) (a : Sys T S) : Sys T S :=
  { a with
    mode := Function.update a.mode t .ready
    due := Function.update a.due t none
    queue := fun s => (a.queue s).erase t
    told := Function.update a.told t told }

/-- A task stops, for so many ticks at most if they are not 0. -/
def block (t : T) (mode : Mode S) (timeout : UInt32) (a : Sys T S) : Sys T S :=
  { a with
    mode := Function.update a.mode t mode
    due := Function.update a.due t (if 0 < timeout then some (a.now + timeout.toNat) else none) }

/-- A task takes a semaphore, or gets in line for it. -/
def pend [DecidableEq S] (prio : T → Nat) (t : T) (s : S) (timeout : UInt32) (a : Sys T S) : Sys T S :=
  if 0 < a.ctr s then { a with ctr := Function.update a.ctr s (a.ctr s - 1) }
  else
    { a.block t (.waiting s) timeout with
      queue := Function.update a.queue s (enqueue prio t (a.queue s))
      told := Function.update a.told t .OK }

/-- How many of those in line a semaphore goes to. -/
def grants (opt : PostOpt) (n : Nat) : Nat :=
  match opt with
  | .postAll => n
  | .post1 => 1

/-- A semaphore goes to those in line, or is counted. -/
def post [DecidableEq S] (s : S) (opt : PostOpt) (a : Sys T S) : Sys T S :=
  if a.queue s = [] then
    if a.ctr s = 0xFFFFFFFF then a
    else { a with ctr := Function.update a.ctr s (a.ctr s + 1) }
  else ((a.queue s).take (grants opt (a.queue s).length)).foldl (fun a t => a.wake t .OK) a

/-- A task is there, and ready, or is no longer there. -/
def put (t : T) (mode : Mode S) (a : Sys T S) : Sys T S :=
  { a.wake t .OK with mode := Function.update a.mode t mode }

/-- What a call does, made by the task `cur`. -/
def step [DecidableEq S] (prio : T → Nat) (idle cur : T) (a : Sys T S) : Call T S → Sys T S
  | .semPend s timeout => a.pend prio cur s timeout
  | .semPost s opt => a.post s opt
  | .timeDly dly => if dly = 0 then a else a.block cur .delayed dly
  | .taskCreate t => if prio t = osCfgPrioMax - 1 ∧ t ≠ idle then a else a.put t .ready
  | .taskDel t => if t = some idle ∨ a.mode (t.getD cur) = .dormant then a
      else a.put (t.getD cur) .dormant
  | .tick => a.tick

section
variable {prio : T → Nat} {a : Sys T S} {t : T} {s : S}

theorem Ok.mem_erase (h : a.Ok prio) {u : T} :
    u ∈ (a.queue s).erase t ↔ u ≠ t ∧ a.mode u = .waiting s := by
  rw [(h.nodup s).mem_erase_iff, h.queue]

/-- A task is put where it does not wait. -/
theorem Ok.wake_mode (h : a.Ok prio) (told : PendStatus) {mode : Mode S}
    (hmode : mode = .ready ∨ mode = .dormant) :
    ({ a.wake t told with mode := Function.update a.mode t mode } : Sys T S).Ok prio := by
  have hnot : (∀ s, mode ≠ .waiting s) ∧ mode ≠ .delayed := by
    rcases hmode with rfl | rfl <;> exact ⟨nofun, nofun⟩
  constructor
  · intro s u
    show u ∈ (a.queue s).erase t ↔ Function.update a.mode t mode u = .waiting s
    rw [h.mem_erase]
    by_cases hu : u = t
    · subst hu
      rw [Function.update_self]
      exact iff_of_false (fun hand => hand.1 rfl) (hnot.1 s)
    · rw [Function.update_of_ne hu]
      exact and_iff_right hu
  · exact fun s => (h.nodup s).erase t
  · intro u d hd
    have hd : Function.update a.due t none u = some d := hd
    by_cases hu : u = t
    · subst hu
      rw [Function.update_self] at hd
      cases hd
    · rw [Function.update_of_ne hu] at hd
      show Function.update a.mode t mode u = _ ∨ ∃ s, Function.update a.mode t mode u = _
      rw [Function.update_of_ne hu]
      exact h.stopped u d hd
  · intro u hmode
    have hmode : Function.update a.mode t mode u = .delayed := hmode
    show Function.update a.due t none u ≠ none
    by_cases hu : u = t
    · subst hu
      rw [Function.update_self] at hmode
      exact absurd hmode hnot.2
    · rw [Function.update_of_ne hu] at hmode ⊢
      exact h.delayed u hmode
  · exact fun s => (h.order s).sublist List.erase_sublist
  · exact fun s hne => h.free s fun hnil => hne (by
      show (a.queue s).erase t = []
      rw [hnil, List.erase_nil])

theorem Ok.wake (h : a.Ok prio) (t : T) (told : PendStatus) : (a.wake t told).Ok prio :=
  h.wake_mode told (Or.inl rfl)

theorem Ok.put (h : a.Ok prio) (t : T) {mode : Mode S} (hmode : mode = .ready ∨ mode = .dormant) :
    (a.put t mode).Ok prio :=
  h.wake_mode .OK hmode

theorem Later.wake (h : a.Later) (t : T) (told : PendStatus) : (a.wake t told).Later := by
  intro u d hd
  have hd : Function.update a.due t none u = some d := hd
  by_cases hu : u = t
  · subst hu
    rw [Function.update_self] at hd
    cases hd
  · rw [Function.update_of_ne hu] at hd
    exact h u d hd

theorem Ok.wakes (h : a.Ok prio) (ts : List T) :
    (ts.foldl (fun a t => a.wake t .OK) a).Ok prio := by
  induction ts generalizing a with
  | nil => exact h
  | cons t ts ih => exact ih (h.wake t .OK)

theorem Later.wakes (h : a.Later) (ts : List T) :
    (ts.foldl (fun a t => a.wake t .OK) a).Later := by
  induction ts generalizing a with
  | nil => exact h
  | cons t ts ih => exact ih (h.wake t .OK)

/-- **Many that go on**, one behind the other. -/
theorem wakes_eq (a : Sys T S) (ts : List T) :
    ts.foldl (fun a t => a.wake t .OK) a =
      { a with
        mode := fun u => if u ∈ ts then .ready else a.mode u
        due := fun u => if u ∈ ts then none else a.due u
        queue := fun s => (a.queue s).diff ts
        told := fun u => if u ∈ ts then .OK else a.told u } := by
  induction ts generalizing a with
  | nil => simp
  | cons t ts ih =>
      rw [List.foldl_cons, ih]
      simp only [Sys.wake, List.mem_cons, List.diff_cons, Sys.mk.injEq, true_and]
      refine ⟨funext fun u => ?_, funext fun u => ?_, funext fun u => ?_⟩
      all_goals
        by_cases hu : u = t
        · subst hu
          simp
        · simp [hu]

/-! ### A task that stops -/

theorem Later.block (h : a.Later) (t : T) (mode : Mode S) (timeout : UInt32) :
    (a.block t mode timeout).Later := by
  intro u d hd
  have hd : Function.update a.due t
    (if 0 < timeout then some (a.now + timeout.toNat) else none) u = some d := hd
  by_cases hu : u = t
  · subst hu
    rw [Function.update_self] at hd
    by_cases htime : 0 < timeout
    · rw [if_pos htime] at hd
      cases hd
      exact Nat.lt_add_of_pos_right (UInt32.lt_iff_toNat_lt.mp htime)
    · rw [if_neg htime] at hd
      cases hd
  · rw [Function.update_of_ne hu] at hd
    exact h u d hd

theorem Ok.delay (h : a.Ok prio) (hready : a.mode t = .ready) {dly : UInt32} (hdly : 0 < dly) :
    (a.block t .delayed dly).Ok prio := by
  constructor
  · intro s u
    show u ∈ a.queue s ↔ Function.update a.mode t .delayed u = .waiting s
    by_cases hu : u = t
    · subst hu
      rw [Function.update_self]
      exact iff_of_false (notMem_of_ready h hready s) nofun
    · rw [Function.update_of_ne hu]
      exact h.queue s u
  · exact h.nodup
  · intro u d hd
    show Function.update a.mode t .delayed u = _ ∨ ∃ s, Function.update a.mode t .delayed u = _
    by_cases hu : u = t
    · subst hu
      exact Or.inl (Function.update_self ..)
    · have hd : Function.update a.due t _ u = some d := hd
      rw [Function.update_of_ne hu] at hd ⊢
      exact h.stopped u d hd
  · intro u hmode
    have hmode : Function.update a.mode t .delayed u = .delayed := hmode
    show Function.update a.due t (if 0 < dly then some (a.now + dly.toNat) else none) u ≠ none
    by_cases hu : u = t
    · subst hu
      rw [Function.update_self, if_pos hdly]
      exact Option.some_ne_none _
    · rw [Function.update_of_ne hu] at hmode ⊢
      exact h.delayed u hmode
  · exact h.order
  · exact h.free

variable [DecidableEq S]

omit [DecidableEq T] in
/-- Of a semaphore there is, one may be taken. -/
theorem Ok.take (h : a.Ok prio) (hctr : 0 < a.ctr s) (n : UInt32) :
    Ok prio { a with ctr := Function.update a.ctr s n } := by
  refine ⟨h.queue, h.nodup, h.stopped, h.delayed, h.order, ?_⟩
  refine (Function.forall_update_iff a.ctr fun s' n => a.queue s' ≠ [] → n = 0).mpr
    ⟨fun hne => ?_, fun s' _ => h.free s'⟩
  rw [h.free s hne] at hctr
  cases hctr

/-- A task gets in line. -/
theorem Ok.join (h : a.Ok prio) (hready : a.mode t = .ready) (hzero : a.ctr s = 0)
    (timeout : UInt32) :
    Ok prio { a.block t (.waiting s) timeout with
      queue := Function.update a.queue s (enqueue prio t (a.queue s))
      told := Function.update a.told t .OK } := by
  have hnotin := notMem_of_ready h hready
  constructor
  case queue =>
    intro s' u
    show u ∈ Function.update a.queue s (enqueue prio t (a.queue s)) s' ↔
      Function.update a.mode t (.waiting s) u = .waiting s'
    by_cases hu : u = t
    · subst hu
      rw [Function.update_self]
      by_cases hs : s' = s
      · subst hs
        simp
      · rw [Function.update_of_ne hs]
        simp [hnotin s', Ne.symm hs]
    · rw [Function.update_of_ne hu, ← h.queue]
      by_cases hs : s' = s
      · subst hs
        rw [Function.update_self, enqueue, List.mem_orderedInsert, or_iff_right hu]
      · rw [Function.update_of_ne hs]
  case nodup =>
    refine (Function.forall_update_iff a.queue fun _ xs => xs.Nodup).mpr
      ⟨?_, fun s' _ => h.nodup s'⟩
    rw [(List.perm_orderedInsert _ t (a.queue s)).nodup_iff]
    exact List.nodup_cons.mpr ⟨hnotin s, h.nodup s⟩
  case stopped =>
    intro u d hd
    show Function.update a.mode t (.waiting s) u = _ ∨
      ∃ s', Function.update a.mode t (.waiting s) u = _
    by_cases hu : u = t
    · subst hu
      exact Or.inr ⟨s, Function.update_self ..⟩
    · have hd : Function.update a.due t _ u = some d := hd
      rw [Function.update_of_ne hu] at hd ⊢
      exact h.stopped u d hd
  case delayed =>
    intro u hmode
    have hmode : Function.update a.mode t (.waiting s) u = .delayed := hmode
    have hu : u ≠ t := by
      rintro rfl
      rw [Function.update_self] at hmode
      cases hmode
    show Function.update a.due t _ u ≠ none
    rw [Function.update_of_ne hu] at hmode ⊢
    exact h.delayed u hmode
  case order =>
    exact (Function.forall_update_iff a.queue fun _ xs => xs.Pairwise _).mpr
      ⟨enqueue_order (h.order s) t, fun s' _ => h.order s'⟩
  case free =>
    exact (Function.forall_update_iff a.queue fun s' xs => xs ≠ [] → a.ctr s' = 0).mpr
      ⟨fun _ => hzero, fun s' _ => h.free s'⟩

theorem Ok.pend (h : a.Ok prio) (hready : a.mode t = .ready) (s : S) (timeout : UInt32) :
    (a.pend prio t s timeout).Ok prio := by
  unfold Sys.pend
  by_cases hctr : 0 < a.ctr s
  · rw [if_pos hctr]
    exact h.take hctr _
  · have hzero : a.ctr s = 0 := by
      by_contra hne
      exact hctr (UInt32.pos_iff_ne_zero.mpr hne)
    rw [if_neg hctr]
    exact h.join hready hzero timeout

theorem Ok.post (h : a.Ok prio) (s : S) (opt : PostOpt) : (a.post s opt).Ok prio := by
  unfold Sys.post
  by_cases hnil : a.queue s = []
  · rw [if_pos hnil]
    split
    · exact h
    · refine ⟨h.queue, h.nodup, h.stopped, h.delayed, h.order, fun s' hne => ?_⟩
      have hs : s' ≠ s := fun heq => hne (heq ▸ hnil)
      show Function.update a.ctr s _ s' = 0
      rw [Function.update_of_ne hs]
      exact h.free s' hne
  · rw [if_neg hnil]
    exact h.wakes _

theorem Later.post (h : a.Later) (s : S) (opt : PostOpt) : (a.post s opt).Later := by
  unfold Sys.post
  split
  · split
    · exact h
    · exact h
  · exact h.wakes _

theorem Later.pend (h : a.Later) (t : T) (s : S) (timeout : UInt32) :
    (a.pend prio t s timeout).Later := by
  unfold Sys.pend
  split
  · exact h
  · exact h.block t (.waiting s) timeout

end

section
variable {prio : T → Nat} {a : Sys T S}

/-- Who is due may go on first. -/
theorem wakeDue_wake (h : a.Ok prio) {t : T} (hd : a.due t = some a.now) :
    (a.wake t ((a.mode t).dueTold (a.told t))).wakeDue = a.wakeDue := by
  have hqueue : ∀ s, ((a.queue s).erase t).filter
      (fun u => Function.update a.due t none u ≠ some a.now) =
        (a.queue s).filter fun u => a.due u ≠ some a.now := by
    intro s
    rw [(h.nodup s).erase_eq_filter, List.filter_filter]
    refine List.filter_congr fun u _ => ?_
    by_cases hu : u = t
    · subst hu
      simp [hd]
    · simp [hu]
  unfold Sys.wakeDue Sys.wake
  simp only [Sys.mk.injEq, true_and]
  refine ⟨funext fun u => ?_, funext fun u => ?_, funext hqueue, funext fun u => ?_⟩
  all_goals by_cases hu : u = t
  all_goals simp [hu, hd]

end

/-! ### Any call -/

/-- The idle task does not stop, and a task is made that is not there. -/
def Admits (idle cur : T) (a : Sys T S) : Call T S → Prop
  | .semPend _ _ | .timeDly _ | .taskDel none => cur ≠ idle
  | .taskCreate t => a.mode t = .dormant
  | _ => True

/-- Behind `OSStart`. -/
def start (idle : T) (cnt : S → UInt32) : Sys T S :=
  Sys.put idle .ready
    { now := 0
      mode := fun _ => .dormant
      due := fun _ => none
      queue := fun _ => []
      ctr := cnt
      told := fun _ => .OK }

variable [DecidableEq S]

section
variable {prio : T → Nat} {idle cur : T} {a : Sys T S} {e : Call T S}

theorem Ok.step (h : a.Ok prio) (hcur : a.mode cur = .ready) (e : Call T S) :
    (a.step prio idle cur e).Ok prio := by
  cases e with
  | semPend s timeout => exact h.pend hcur s timeout
  | semPost s opt => exact h.post s opt
  | timeDly dly =>
      rw [Sys.step]
      split
      case isTrue => exact h
      case isFalse hne => exact h.delay hcur (UInt32.pos_iff_ne_zero.mpr hne)
  | taskCreate t =>
      rw [Sys.step]
      split
      · exact h
      · exact h.put t (Or.inl rfl)
  | taskDel t =>
      rw [Sys.step]
      split
      · exact h
      · exact h.put _ (Or.inr rfl)
  | tick => exact h.tick

theorem Later.step (h : a.Later) (e : Call T S) : (a.step prio idle cur e).Later := by
  cases e with
  | semPend s timeout => exact h.pend cur s timeout
  | semPost s opt => exact h.post s opt
  | timeDly dly =>
      rw [Sys.step]
      split
      · exact h
      · exact h.block cur .delayed dly
  | taskCreate t =>
      rw [Sys.step]
      split
      · exact h
      · exact h.wake t .OK
  | taskDel t =>
      rw [Sys.step]
      split
      · exact h
      · exact h.wake _ .OK
  | tick => exact h.tick

/-- **The idle task** is always ready. -/
theorem step_idle (prio : T → Nat) (hidle : a.mode idle = .ready) (hadm : a.Admits idle cur e) :
    (a.step prio idle cur e).mode idle = .ready := by
  cases e with
  | semPend s timeout =>
      have hne : idle ≠ cur := Ne.symm hadm
      rw [Sys.step, Sys.pend]
      split
      · exact hidle
      · show Function.update a.mode cur _ idle = .ready
        rw [Function.update_of_ne hne, hidle]
  | semPost s opt =>
      rw [Sys.step, Sys.post]
      split
      · split <;> exact hidle
      · rw [wakes_eq]
        show (if _ then _ else a.mode idle) = _
        rw [hidle, ite_self]
  | timeDly dly =>
      have hne : idle ≠ cur := Ne.symm hadm
      rw [Sys.step]
      split
      · exact hidle
      · show Function.update a.mode cur _ idle = .ready
        rw [Function.update_of_ne hne, hidle]
  | taskCreate t =>
      rw [Sys.step]
      split
      · exact hidle
      · show Function.update a.mode t .ready idle = .ready
        by_cases ht : idle = t
        · rw [ht, Function.update_self]
        · rw [Function.update_of_ne ht, hidle]
  | taskDel t =>
      rw [Sys.step]
      split
      case isTrue => exact hidle
      case isFalse hdel =>
        have hne : idle ≠ t.getD cur := by
          cases t with
          | none => exact Ne.symm hadm
          | some t => exact fun heq => hdel (Or.inl (congrArg some heq.symm))
        show Function.update a.mode _ .dormant idle = .ready
        rw [Function.update_of_ne hne, hidle]
  | tick =>
      show (if a.due idle = some (a.now + 1) then .ready else a.mode idle) = .ready
      rw [hidle, ite_self]

/-- The ticks there were. -/
theorem step_now (e : Call T S) : (a.step prio idle cur e).now = a.now + e.ticks := by
  cases e with
  | semPend s timeout => rw [Sys.step, Sys.pend]; split <;> rfl
  | semPost s opt =>
      rw [Sys.step, Sys.post]
      split
      · split <;> rfl
      · rw [wakes_eq]
        rfl
  | timeDly dly => rw [Sys.step]; split <;> rfl
  | taskCreate t => rw [Sys.step]; split <;> rfl
  | taskDel t => rw [Sys.step]; split <;> rfl
  | tick => rfl

/-- **What a call does to a task that has stopped**: nothing, or it is due, or the semaphore goes
to it, or it is deleted. -/
theorem step_stopped (prio : T → Nat) {t : T} (hcur : a.mode cur = .ready) (hadm : a.Admits idle cur e)
    (ht : a.mode t = .delayed ∨ ∃ s, a.mode t = .waiting s) :
    ((a.step prio idle cur e).mode t = a.mode t ∧ (a.step prio idle cur e).due t = a.due t) ∨
      (e = .tick ∧ a.due t = some (a.now + 1) ∧ (a.step prio idle cur e).mode t = .ready ∧
        (a.step prio idle cur e).told t = (a.mode t).dueTold (a.told t)) ∨
      (∃ s opt, e = .semPost s opt ∧ t ∈ (a.queue s).take (grants opt (a.queue s).length) ∧
        (a.step prio idle cur e).mode t = .ready ∧ (a.step prio idle cur e).told t = .OK) ∨
      (e = .taskDel (some t) ∧ (a.step prio idle cur e).mode t = .dormant) := by
  have hne : t ≠ cur := by
    rintro rfl
    rw [hcur] at ht
    rcases ht with hmode | ⟨s, hmode⟩ <;> cases hmode
  have hdormant : a.mode t ≠ .dormant := by
    rcases ht with hmode | ⟨s, hmode⟩ <;> rw [hmode] <;> exact nofun
  cases e with
  | semPend s timeout =>
      left
      rw [Sys.step, Sys.pend]
      split
      · exact ⟨rfl, rfl⟩
      · exact ⟨Function.update_of_ne hne .., Function.update_of_ne hne ..⟩
  | semPost s opt =>
      rw [Sys.step, Sys.post]
      split
      · left
        split <;> exact ⟨rfl, rfl⟩
      · rw [wakes_eq]
        by_cases hmem : t ∈ (a.queue s).take (grants opt (a.queue s).length)
        · exact Or.inr (Or.inr (Or.inl ⟨s, opt, rfl, hmem, if_pos hmem, if_pos hmem⟩))
        · exact Or.inl ⟨if_neg hmem, if_neg hmem⟩
  | timeDly dly =>
      left
      rw [Sys.step]
      split
      · exact ⟨rfl, rfl⟩
      · exact ⟨Function.update_of_ne hne .., Function.update_of_ne hne ..⟩
  | taskCreate u =>
      left
      have hu : t ≠ u := fun heq => hdormant (heq ▸ hadm)
      rw [Sys.step]
      split
      · exact ⟨rfl, rfl⟩
      · exact ⟨Function.update_of_ne hu .., Function.update_of_ne hu ..⟩
  | taskDel x =>
      rw [Sys.step]
      split
      case isTrue => exact Or.inl ⟨rfl, rfl⟩
      case isFalse =>
        by_cases hx : t = x.getD cur
        · have hsome : x = some t := by
            cases x with
            | none => exact absurd hx hne
            | some u => exact congrArg some hx.symm
          subst hsome
          exact Or.inr (Or.inr (Or.inr ⟨rfl, Function.update_self ..⟩))
        · exact Or.inl ⟨Function.update_of_ne hx .., Function.update_of_ne hx ..⟩
  | tick =>
      show (_ ∧ (if a.due t = some (a.now + 1) then none else a.due t) = a.due t) ∨ _
      by_cases hd : a.due t = some (a.now + 1)
      · exact Or.inr (Or.inl ⟨rfl, hd, if_pos hd, if_pos hd⟩)
      · exact Or.inl ⟨if_neg hd, if_neg hd⟩

end

end Sys

end SwiftAcu.Kernel
