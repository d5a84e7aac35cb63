/-
Programs that read and command.

A program reads values from sources and gives commands that are answered; between two such
events it computes.  It ends by its last line, or leaves before it.  A loop is unrolled as
often as the fuel allows, and a program whose fuel runs out is still running.

What a program has read and been answered is its trace.  `Post` says what holds of the
trace however the values and the answers fall: it is defined by the program's own shape,
so that every construct has one rule.  `exec` runs a program against an environment, which
may look at all that has happened, and returns nothing that `Post` does not allow.

`rounds` runs a loop for so many rounds only, so that something can be said of the state
it is in.  `lower` replaces every command by a program that carries it out: a program above
is a program below, and what holds above of every run holds below.
-/
import Mathlib.Data.List.Basic
import Mathlib.Data.List.Induction
import Mathlib.Tactic.Common

/-- A value read from a source, or a command with its answer. -/
inductive Event (S V C R : Type) where
  | got (s : S) (v : V)
  | sent (c : C) (r : R)
  deriving DecidableEq

/-- The frame rule of a trace: what no event of a part changes, the part does not change. -/
theorem Event.frame {S V C R δ : Type} {f : List (Event S V C R) → δ} {p : Event S V C R → Prop}
    (h : ∀ tr e, p e → f (tr ++ [e]) = f tr) {evs : List (Event S V C R)} (hevs : ∀ e ∈ evs, p e)
    (tr : List (Event S V C R)) : f (tr ++ evs) = f tr := by
  induction evs using List.reverseRecOn with
  | nil => rw [List.append_nil]
  | append_singleton evs e ih =>
      rw [← List.append_assoc, h _ e (hevs e (List.mem_append_right evs List.mem_cons_self))]
      exact ih fun e he => hevs e (List.mem_append_left _ he)

/-- A program: `exit` leaves it, `running` is out of fuel. -/
inductive Script (S V C R ε β : Type) where
  | done (b : β)
  | exit (e : ε)
  | read (s : S) (k : V → Script S V C R ε β)
  | send (c : C) (k : R → Script S V C R ε β)
  | running

namespace Script

variable {S V C R C' R' C'' R'' ε ε' α β γ : Type}

/-- One program after another. -/
def bind : Script S V C R ε β → (β → Script S V C R ε γ) → Script S V C R ε γ
  | .done b, f => f b
  | .exit e, _ => .exit e
  | .read s k, f => .read s fun v => (k v).bind f
  | .send c k, f => .send c fun r => (k r).bind f
  | .running, _ => .running

instance : Monad (Script S V C R ε) where
  pure := .done
  bind := .bind

/-- A value from a source. -/
def get (s : S) : Script S V C R ε V := .read s .done

/-- A command. -/
def give (c : C) : Script S V C R ε R := .send c .done

/-- A way out. -/
def exitIf (p : Prop) [Decidable p] (e : ε) : Script S V C R ε Unit :=
  if p then .exit e else .done ()

/-- A program as a function that is called: to leave it is to return. -/
def call : Script S V C R β β → Script S V C R ε β
  | .done b => .done b
  | .exit b => .done b
  | .read s k => .read s fun v => (k v).call
  | .send c k => .send c fun r => (k r).call
  | .running => .running

/-- A loop: its body goes on with a new state, or ends it with a result. -/
def loop (body : α → Script S V C R ε (α ⊕ β)) : Nat → α → Script S V C R ε β
  | 0, _ => .running
  | fuel + 1, a => (body a).bind fun
    | .inl a => loop body fuel a
    | .inr b => .done b

/-- A loop for so many rounds: the state it is in then, or its result. -/
def rounds (body : α → Script S V C R ε (α ⊕ β)) : Nat → α → Script S V C R ε (α ⊕ β)
  | 0, a => .done (.inl a)
  | n + 1, a => (body a).bind fun
    | .inl a => rounds body n a
    | .inr b => .done (.inr b)

/-- Every command carried out by a program. -/
def lower (h : C → Script S V C' R' R R) : Script S V C R ε β → Script S V C' R' ε β
  | .done b => .done b
  | .exit e => .exit e
  | .read s k => .read s fun v => (k v).lower h
  | .send c k => (h c).call.bind fun r => (k r).lower h
  | .running => .running

/-! ### The laws -/

theorem bind_bind (c : Script S V C R ε α) (f : α → Script S V C R ε β)
    (g : β → Script S V C R ε γ) : (c.bind f).bind g = c.bind fun a => (f a).bind g := by
  induction c with
  | done a => rfl
  | exit e => rfl
  | read s k ih => exact congrArg (Script.read s) (funext ih)
  | send c k ih => exact congrArg (Script.send c) (funext ih)
  | running => rfl

theorem bind_done (c : Script S V C R ε α) : c.bind .done = c := by
  induction c with
  | done a => rfl
  | exit e => rfl
  | read s k ih => exact congrArg (Script.read s) (funext ih)
  | send c k ih => exact congrArg (Script.send c) (funext ih)
  | running => rfl

theorem call_call_bind (c : Script S V C R α α) (f : α → Script S V C R β β) :
    ((c.call.bind f).call : Script S V C R ε β) = c.call.bind fun a => (f a).call := by
  induction c with
  | done a => rfl
  | exit a => rfl
  | read s k ih => exact congrArg (Script.read s) (funext ih)
  | send c k ih => exact congrArg (Script.send c) (funext ih)
  | running => rfl

/-- A loop is its first rounds and the loop from there. -/
theorem loop_add (body : α → Script S V C R ε (α ⊕ β)) (n k : Nat) (a : α) :
    loop body (n + k) a = (rounds body n a).bind fun
      | .inl a => loop body k a
      | .inr b => .done b := by
  induction n generalizing a with
  | zero => rw [Nat.zero_add, rounds, bind]
  | succ n ih =>
      rw [Nat.succ_add, loop, rounds, bind_bind]
      congr 1
      funext r
      cases r with
      | inl a => exact ih a
      | inr b => rfl

section
variable (h : C → Script S V C' R' R R)

theorem lower_bind (c : Script S V C R ε α) (f : α → Script S V C R ε β) :
    (c.bind f).lower h = (c.lower h).bind fun a => (f a).lower h := by
  induction c with
  | done a => rfl
  | exit e => rfl
  | read s k ih => exact congrArg (Script.read s) (funext ih)
  | send c k ih =>
      rw [bind, lower, lower, bind_bind]
      exact congrArg _ (funext ih)
  | running => rfl

theorem lower_give (c : C) : (give c : Script S V C R ε R).lower h = (h c).call := by
  rw [give, lower]
  exact bind_done _

theorem lower_exitIf (p : Prop) [Decidable p] (e : ε) :
    (exitIf p e : Script S V C R ε Unit).lower h = exitIf p e := by
  unfold exitIf
  split
  · rfl
  · rfl

theorem lower_call (c : Script S V C R β β) :
    (c.call : Script S V C R ε β).lower h = (c.lower h).call := by
  induction c with
  | done b => rfl
  | exit b => rfl
  | read s k ih => exact congrArg (Script.read s) (funext ih)
  | send c k ih =>
      rw [call, lower, lower, call_call_bind]
      exact congrArg _ (funext ih)
  | running => rfl

theorem lower_loop (body : α → Script S V C R ε (α ⊕ β)) (fuel : Nat) (a : α) :
    (loop body fuel a).lower h = loop (fun a => (body a).lower h) fuel a := by
  induction fuel generalizing a with
  | zero => rfl
  | succ fuel ih =>
      rw [loop, loop, lower_bind]
      congr 1
      funext r
      cases r with
      | inl a => exact ih a
      | inr b => rfl

/-- Commands carried out by programs whose commands are carried out. -/
theorem lower_lower (h' : C' → Script S V C'' R'' R' R') (c : Script S V C R ε β) :
    (c.lower h).lower h' = c.lower fun c => (h c).lower h' := by
  induction c with
  | done b => rfl
  | exit e => rfl
  | read s k ih => exact congrArg (Script.read s) (funext ih)
  | send c k ih =>
      rw [lower, lower, lower_bind, lower_call]
      exact congrArg _ (funext ih)
  | running => rfl

theorem lower_id (c : Script S V C R ε β) : c.lower give = c := by
  induction c with
  | done b => rfl
  | exit e => rfl
  | read s k ih => exact congrArg (Script.read s) (funext ih)
  | send c k ih => exact congrArg (Script.send c) (funext ih)
  | running => rfl

end

/-! ### Running -/

/-- Where values and answers come from. -/
structure Env (S V C R : Type) where
  value : List (Event S V C R) → S → V
  answer : List (Event S V C R) → C → R

/-- A program run on, after `tr`. -/
def exec (env : Env S V C R) :
    Script S V C R ε β → List (Event S V C R) → Option ((ε ⊕ β) × List (Event S V C R))
  | .done b, tr => some (.inr b, tr)
  | .exit e, tr => some (.inl e, tr)
  | .read s k, tr => (k (env.value tr s)).exec env (tr ++ [.got s (env.value tr s)])
  | .send c k, tr => (k (env.answer tr c)).exec env (tr ++ [.sent c (env.answer tr c)])
  | .running, _ => none

/-- What happens after a run goes on from its trace. -/
def andThen (f : β → List (Event S V C R) → Option ((ε ⊕ γ) × List (Event S V C R))) :
    (ε ⊕ β) × List (Event S V C R) → Option ((ε ⊕ γ) × List (Event S V C R))
  | (.inl e, tr) => some (.inl e, tr)
  | (.inr b, tr) => f b tr

theorem exec_bind (env : Env S V C R) (c : Script S V C R ε β) (f : β → Script S V C R ε γ)
    (tr : List (Event S V C R)) :
    (c.bind f).exec env tr = (c.exec env tr).bind (andThen fun b tr => (f b).exec env tr) := by
  induction c generalizing tr with
  | done b => rfl
  | exit e => rfl
  | read s k ih => exact ih _ _
  | send c k ih => exact ih _ _
  | running => rfl

/-- A part that ends is followed by the rest. -/
theorem exec_bind_of {env : Env S V C R} {c : Script S V C R ε β} {tr tr' : List (Event S V C R)}
    {b : β} (h : c.exec env tr = some (.inr b, tr')) (f : β → Script S V C R ε γ) :
    (c >>= f).exec env tr = (f b).exec env tr' := by
  show (c.bind f).exec env tr = _
  rw [exec_bind, h]
  rfl

/-- A part that leaves is followed by nothing. -/
theorem exec_bind_exit {env : Env S V C R} {c : Script S V C R ε β}
    {tr tr' : List (Event S V C R)} {e : ε} (h : c.exec env tr = some (.inl e, tr'))
    (f : β → Script S V C R ε γ) : (c >>= f).exec env tr = some (.inl e, tr') := by
  show (c.bind f).exec env tr = _
  rw [exec_bind, h]
  rfl

theorem exec_call (env : Env S V C R) (c : Script S V C R β β) (tr : List (Event S V C R)) :
    (c.call : Script S V C R ε β).exec env tr =
      (c.exec env tr).map fun r => (.inr (r.1.elim id id), r.2) := by
  induction c generalizing tr with
  | done b => rfl
  | exit b => rfl
  | read s k ih => exact ih _ _
  | send c k ih => exact ih _ _
  | running => rfl

/-- A loop is still running where its rounds have come to a state. -/
theorem exec_loop_eq_none_iff (env : Env S V C R) (body : α → Script S V C R ε (α ⊕ β)) (n : Nat)
    (a : α) (tr : List (Event S V C R)) :
    (loop body n a).exec env tr = none ↔
      ∀ r tr', (rounds body n a).exec env tr = some (r, tr') → ∃ a', r = .inr (.inl a') := by
  have hloop := loop_add body n 0 a
  rw [Nat.add_zero] at hloop
  rw [hloop, exec_bind]
  cases hrounds : (rounds body n a).exec env tr with
  | none => simp
  | some x =>
      obtain ⟨r, tr'⟩ := x
      rw [Option.bind_some]
      cases r with
      | inl e => simp [andThen]
      | inr r =>
          cases r with
          | inl a' => simp [andThen, loop, exec]
          | inr b => simp [andThen, exec]

/-- A trace above, and the trace below that carries it out. -/
inductive Carried (env : Env S V C' R') (h : C → Script S V C' R' R R) :
    List (Event S V C R) → List (Event S V C' R') → Prop where
  | nil : Carried env h [] []
  | got {tr tr'} (hc : Carried env h tr tr') (s : S) (v : V) :
      Carried env h (tr ++ [.got s v]) (tr' ++ [.got s v])
  | sent {tr tr' tr''} (hc : Carried env h tr tr') {c : C} {r : R ⊕ R}
      (hexec : (h c).exec env tr' = some (r, tr'')) :
      Carried env h (tr ++ [.sent c (r.elim id id)]) tr''

/-! ### What holds of every run -/

/-- Whatever the values and the answers: `E` if the program leaves, `Q` if it ends. -/
def Post : Script S V C R ε β → List (Event S V C R) → (ε → List (Event S V C R) → Prop) →
    (β → List (Event S V C R) → Prop) → Prop
  | .done b, tr, _, Q => Q b tr
  | .exit e, tr, E, _ => E e tr
  | .read s k, tr, E, Q => ∀ v, (k v).Post (tr ++ [.got s v]) E Q
  | .send c k, tr, E, Q => ∀ r, (k r).Post (tr ++ [.sent c r]) E Q
  | .running, _, _, _ => True

/-- As `Post`, and `F` of the trace so far if the fuel runs out. -/
def PostRun : Script S V C R ε β → List (Event S V C R) → (ε → List (Event S V C R) → Prop) →
    (β → List (Event S V C R) → Prop) → (List (Event S V C R) → Prop) → Prop
  | .done b, tr, _, Q, _ => Q b tr
  | .exit e, tr, E, _, _ => E e tr
  | .read s k, tr, E, Q, F => ∀ v, (k v).PostRun (tr ++ [.got s v]) E Q F
  | .send c k, tr, E, Q, F => ∀ r, (k r).PostRun (tr ++ [.sent c r]) E Q F
  | .running, tr, _, _, F => F tr

/-- After a round of a loop: `I` if it goes on, `Q` if it has ended. -/
def Round (I : α → List (Event S V C R) → Prop) (Q : β → List (Event S V C R) → Prop) :
    α ⊕ β → List (Event S V C R) → Prop
  | .inl a, tr => I a tr
  | .inr b, tr => Q b tr

section
variable {tr : List (Event S V C R)} {E : ε → List (Event S V C R) → Prop}
  {Q : β → List (Event S V C R) → Prop} {F : List (Event S V C R) → Prop}

theorem post_iff {c : Script S V C R ε β} : Post c tr E Q ↔ PostRun c tr E Q fun _ => True := by
  induction c generalizing tr with
  | done b => exact Iff.rfl
  | exit e => exact Iff.rfl
  | read s k ih => exact forall_congr' fun v => ih v
  | send c k ih => exact forall_congr' fun r => ih r
  | running => exact Iff.rfl

/-- The rule of sequence. -/
theorem postRun_bind (c : Script S V C R ε α) (f : α → Script S V C R ε β) :
    PostRun (c >>= f) tr E Q F ↔ PostRun c tr E (fun a tr => PostRun (f a) tr E Q F) F := by
  change PostRun (c.bind f) tr E Q F ↔ _
  induction c generalizing tr with
  | done a => exact Iff.rfl
  | exit e => exact Iff.rfl
  | read s k ih => exact forall_congr' fun v => ih v
  | send c k ih => exact forall_congr' fun r => ih r
  | running => exact Iff.rfl

theorem postRun_get_bind (s : S) (f : V → Script S V C R ε β) :
    PostRun (get s >>= f) tr E Q F ↔ ∀ v, PostRun (f v) (tr ++ [.got s v]) E Q F := Iff.rfl

theorem postRun_give_bind (c : C) (f : R → Script S V C R ε β) :
    PostRun (give c >>= f) tr E Q F ↔ ∀ r, PostRun (f r) (tr ++ [.sent c r]) E Q F := Iff.rfl

theorem postRun_exitIf_bind {p : Prop} [Decidable p] (e : ε) (f : Unit → Script S V C R ε β) :
    PostRun (exitIf p e >>= f) tr E Q F ↔ (p → E e tr) ∧ (¬ p → PostRun (f ()) tr E Q F) := by
  unfold exitIf
  by_cases h : p
  · rw [if_pos h]
    exact ⟨fun he => ⟨fun _ => he, fun hn => absurd h hn⟩, fun hboth => hboth.1 h⟩
  · rw [if_neg h]
    exact ⟨fun he => ⟨fun hp => absurd hp h, fun _ => he⟩, fun hboth => hboth.2 h⟩

/-- The rule of consequence. -/
theorem PostRun.imp {c : Script S V C R ε β} {E' : ε → List (Event S V C R) → Prop}
    {Q' : β → List (Event S V C R) → Prop} {F' : List (Event S V C R) → Prop}
    (h : PostRun c tr E Q F) (hE : ∀ e tr, E e tr → E' e tr) (hQ : ∀ b tr, Q b tr → Q' b tr)
    (hF : ∀ tr, F tr → F' tr) : PostRun c tr E' Q' F' := by
  induction c generalizing tr with
  | done b => exact hQ b tr h
  | exit e => exact hE e tr h
  | read s k ih => exact fun v => ih v (h v)
  | send c k ih => exact fun r => ih r (h r)
  | running => exact hF tr h

/-- What is said of a program that is still running may be dropped. -/
theorem PostRun.post {c : Script S V C R ε β} (h : PostRun c tr E Q F) : Post c tr E Q :=
  post_iff.mpr (h.imp (fun _ _ he => he) (fun _ _ hb => hb) fun _ _ => trivial)

/-- The rule of consequence where only what holds at the end is weakened. -/
theorem PostRun.mono {c : Script S V C R ε β} {Q' : β → List (Event S V C R) → Prop}
    (h : PostRun c tr E Q F) (hQ : ∀ b tr, Q b tr → Q' b tr) : PostRun c tr E Q' F :=
  h.imp (fun _ _ he => he) hQ fun _ hrun => hrun

/-- The rules of sequence and consequence together: what the first part leaves is what the rest
starts from. -/
theorem PostRun.seq {c : Script S V C R ε α} {Q' : α → List (Event S V C R) → Prop}
    {f : α → Script S V C R ε β} (h : PostRun c tr E Q' F)
    (hf : ∀ a tr, Q' a tr → PostRun (f a) tr E Q F) : PostRun (c >>= f) tr E Q F := by
  rw [postRun_bind]
  exact h.mono hf

/-- The rule of a call. -/
theorem postRun_call (c : Script S V C R β β) :
    PostRun (c.call : Script S V C R ε β) tr E Q F ↔ PostRun c tr Q Q F := by
  induction c generalizing tr with
  | done b => exact Iff.rfl
  | exit b => exact Iff.rfl
  | read s k ih => exact forall_congr' fun v => ih v
  | send c k ih => exact forall_congr' fun r => ih r
  | running => exact Iff.rfl

/-- The rule of a loop: what the body keeps holds when it ends, and is all there is to know of a
loop that goes on. -/
theorem postRun_loop {body : α → Script S V C R ε (α ⊕ β)}
    (I : α → List (Event S V C R) → Prop)
    (hbody : ∀ a tr, I a tr → PostRun (body a) tr E (Round I Q) F)
    (hrun : ∀ a tr, I a tr → F tr) (fuel : Nat) {a : α} (h : I a tr) :
    PostRun (loop body fuel a) tr E Q F := by
  induction fuel generalizing a tr with
  | zero => exact hrun a tr h
  | succ fuel ih =>
      refine (hbody a tr h).seq ?_
      intro r tr' hr
      cases r with
      | inl a' => exact ih hr
      | inr b => exact hr

/-! The same without what holds of a program that is still running. -/

@[simp] theorem post_pure (b : β) : Post (pure b : Script S V C R ε β) tr E Q ↔ Q b tr := Iff.rfl

@[simp] theorem post_exit (e : ε) :
    Post (.exit e : Script S V C R ε β) tr E Q ↔ E e tr := Iff.rfl

theorem post_bind (c : Script S V C R ε α) (f : α → Script S V C R ε β) :
    Post (c >>= f) tr E Q ↔ Post c tr E fun a tr => Post (f a) tr E Q := by
  simp only [post_iff, postRun_bind]

theorem post_get_bind (s : S) (f : V → Script S V C R ε β) :
    Post (get s >>= f) tr E Q ↔ ∀ v, Post (f v) (tr ++ [.got s v]) E Q := Iff.rfl

theorem post_exitIf_bind {p : Prop} [Decidable p] (e : ε) (f : Unit → Script S V C R ε β) :
    Post (exitIf p e >>= f) tr E Q ↔ (p → E e tr) ∧ (¬ p → Post (f ()) tr E Q) := by
  simp only [post_iff, postRun_exitIf_bind]

theorem Post.imp {c : Script S V C R ε β} {E' : ε → List (Event S V C R) → Prop}
    {Q' : β → List (Event S V C R) → Prop} (h : Post c tr E Q) (hE : ∀ e tr, E e tr → E' e tr)
    (hQ : ∀ b tr, Q b tr → Q' b tr) : Post c tr E' Q' :=
  post_iff.mpr ((post_iff.mp h).imp hE hQ fun _ hf => hf)

theorem Post.mono {c : Script S V C R ε β} {Q' : β → List (Event S V C R) → Prop}
    (h : Post c tr E Q) (hQ : ∀ b tr, Q b tr → Q' b tr) : Post c tr E Q' :=
  h.imp (fun _ _ he => he) hQ

theorem Post.seq {c : Script S V C R ε α} {Q' : α → List (Event S V C R) → Prop}
    {f : α → Script S V C R ε β} (h : Post c tr E Q')
    (hf : ∀ a tr, Q' a tr → Post (f a) tr E Q) : Post (c >>= f) tr E Q := by
  rw [post_bind]
  exact h.mono hf

theorem post_call (c : Script S V C R β β) :
    Post (c.call : Script S V C R ε β) tr E Q ↔ Post c tr Q Q := by
  simp only [post_iff, postRun_call]

theorem post_loop {body : α → Script S V C R ε (α ⊕ β)} (I : α → List (Event S V C R) → Prop)
    (hbody : ∀ a tr, I a tr → Post (body a) tr E (Round I Q))
    (fuel : Nat) {a : α} (h : I a tr) : Post (loop body fuel a) tr E Q :=
  post_iff.mpr (postRun_loop I (fun a tr hi => post_iff.mp (hbody a tr hi)) (fun _ _ _ => trivial)
    fuel h)

/-- **Nothing is returned that `Post` does not allow.** -/
theorem Post.exec {c : Script S V C R ε β} (h : Post c tr E Q) (env : Env S V C R)
    {r : ε ⊕ β} {tr' : List (Event S V C R)} (hexec : c.exec env tr = some (r, tr')) :
    r.elim (E · tr') (Q · tr') := by
  induction c generalizing tr with
  | done b =>
      obtain ⟨rfl, rfl⟩ : Sum.inr b = r ∧ tr = tr' := by simpa [Script.exec] using hexec
      exact h
  | exit e =>
      obtain ⟨rfl, rfl⟩ : Sum.inl e = r ∧ tr = tr' := by simpa [Script.exec] using hexec
      exact h
  | read s k ih => exact ih (env.value tr s) (h _) hexec
  | send c k ih => exact ih (env.answer tr c) (h _) hexec
  | running => cases hexec

/-- The rule of the rounds of a loop. -/
theorem postRun_rounds {body : α → Script S V C R ε (α ⊕ β)}
    (I : α → List (Event S V C R) → Prop)
    (hbody : ∀ a tr, I a tr → PostRun (body a) tr E (Round I Q) F)
    (n : Nat) {a : α} (h : I a tr) :
    PostRun (rounds body n a) tr E (Round I Q) F := by
  induction n generalizing a tr with
  | zero => exact h
  | succ n ih =>
      refine (hbody a tr h).seq ?_
      intro r tr' hr
      cases r with
      | inl a' => exact ih hr
      | inr b => exact hr

/-- **What holds above holds below**: a run of the program whose commands are carried out is
one that carries out a run of the program. -/
theorem Post.lower {c : Script S V C R ε β} (hpost : Post c tr E Q) {env : Env S V C' R'}
    {h : C → Script S V C' R' R R} {tr' tr'' : List (Event S V C' R')} {r : ε ⊕ β}
    (hc : Carried env h tr tr') (hexec : (c.lower h).exec env tr' = some (r, tr'')) :
    ∃ tr, Carried env h tr tr'' ∧ r.elim (E · tr) (Q · tr) := by
  induction c generalizing tr tr' with
  | done b =>
      obtain ⟨rfl, rfl⟩ : Sum.inr b = r ∧ tr' = tr'' := by
        simpa [Script.lower, Script.exec] using hexec
      exact ⟨tr, hc, hpost⟩
  | exit e =>
      obtain ⟨rfl, rfl⟩ : Sum.inl e = r ∧ tr' = tr'' := by
        simpa [Script.lower, Script.exec] using hexec
      exact ⟨tr, hc, hpost⟩
  | read s k ih => exact ih _ (hpost _) (hc.got s _) hexec
  | send c k ih =>
      rw [Script.lower, exec_bind, exec_call] at hexec
      obtain ⟨⟨r', trh⟩, hh, hrest⟩ := Option.bind_eq_some_iff.mp hexec
      obtain ⟨⟨r'', trh'⟩, hh', heq⟩ := Option.map_eq_some_iff.mp hh
      obtain ⟨rfl, rfl⟩ := Prod.mk.inj heq
      exact ih _ (hpost _) (hc.sent hh') hrest
  | running => cases hexec

end

end Script
