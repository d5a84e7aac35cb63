/-
Programs that share a resource behind a counting semaphore.

A program takes the semaphore, releases it, and asks the resource, which answers as it
likes; it waits where it takes a semaphore that is down.  `exec` runs a program alone: a
program that waits then waits for good, because nobody is there to release.  What a run
takes and releases is counted on the way, and a run that ends has moved the semaphore by
just the difference.
-/
import Mathlib.Data.List.Basic
import Mathlib.Tactic.Common

/-- A program of one task. -/
inductive SemProg (Q A β : Type) where
  | done (b : β)
  /-- Take the semaphore. -/
  | pend (k : SemProg Q A β)
  /-- Release it. -/
  | post (k : SemProg Q A β)
  /-- Ask the resource. -/
  | ask (q : Q) (k : A → SemProg Q A β)

namespace SemProg

variable {Q A α β : Type}

/-- One program after another. -/
def bind : SemProg Q A α → (α → SemProg Q A β) → SemProg Q A β
  | .done a, f => f a
  | .pend k, f => .pend (k.bind f)
  | .post k, f => .post (k.bind f)
  | .ask q k, f => .ask q fun a => (k a).bind f

instance : Monad (SemProg Q A) where
  pure := .done
  bind := .bind

def take : SemProg Q A Unit := .pend (.done ())

def release : SemProg Q A Unit := .post (.done ())

def request (q : Q) : SemProg Q A A := .ask q .done

/-- What a program comes to: it waits, or ends with the semaphore at `count`. -/
inductive Outcome (β : Type) where
  | waits
  | ends (count : Nat) (b : β)

/-- A program run alone, from a semaphore at the given count. -/
def exec (answer : Q → A) : SemProg Q A β → Nat → Outcome β
  | .done b, n => .ends n b
  | .pend _, 0 => .waits
  | .pend k, n + 1 => k.exec answer n
  | .post k, n => k.exec answer (n + 1)
  | .ask q k, n => (k (answer q)).exec answer n

/-- How often a run takes the semaphore. -/
def takes (answer : Q → A) : SemProg Q A β → Nat
  | .done _ => 0
  | .pend k => k.takes answer + 1
  | .post k => k.takes answer
  | .ask q k => (k (answer q)).takes answer

/-- How often a run releases the semaphore. -/
def releases (answer : Q → A) : SemProg Q A β → Nat
  | .done _ => 0
  | .pend k => k.releases answer
  | .post k => k.releases answer + 1
  | .ask q k => (k (answer q)).releases answer

section
variable (answer : Q → A)

@[simp] theorem exec_pure (b : β) (n : Nat) :
    exec answer (pure b : SemProg Q A β) n = .ends n b := rfl

@[simp] theorem exec_take (f : Unit → SemProg Q A β) (n : Nat) :
    exec answer (take >>= f) (n + 1) = exec answer (f ()) n := rfl

@[simp] theorem exec_take_zero (f : Unit → SemProg Q A β) :
    exec answer (take >>= f) 0 = .waits := rfl

@[simp] theorem exec_release (f : Unit → SemProg Q A β) (n : Nat) :
    exec answer (release >>= f) n = exec answer (f ()) (n + 1) := rfl

@[simp] theorem exec_request (q : Q) (f : A → SemProg Q A β) (n : Nat) :
    exec answer (request q >>= f) n = exec answer (f (answer q)) n := rfl

/-- What comes behind goes on with what the first has come to. -/
def Outcome.andThen : Outcome α → (Nat → α → Outcome β) → Outcome β
  | .waits, _ => .waits
  | .ends n a, f => f n a

@[simp] theorem andThen_ends (n : Nat) (a : α) (f : Nat → α → Outcome β) :
    (Outcome.ends n a).andThen f = f n a := rfl

/-- The rule of sequence. -/
theorem exec_bind (p : SemProg Q A α) (f : α → SemProg Q A β) (n : Nat) :
    exec answer (p >>= f) n = (exec answer p n).andThen fun m a => exec answer (f a) m := by
  change exec answer (p.bind f) n = _
  induction p generalizing n with
  | done a => rfl
  | pend k ih =>
      cases n with
      | zero => rfl
      | succ n => exact ih n
  | post k ih => exact ih (n + 1)
  | ask q k ih => exact ih (answer q) n

/-- **A run that ends has moved the semaphore by what it released less what it took.** -/
theorem exec_count {p : SemProg Q A β} {n m : Nat} {b : β} (h : p.exec answer n = .ends m b) :
    m + p.takes answer = n + p.releases answer := by
  induction p generalizing n with
  | done b' =>
      simp only [exec, Outcome.ends.injEq] at h
      obtain ⟨rfl, -⟩ := h
      rfl
  | pend k ih =>
      cases n with
      | zero => cases h
      | succ n =>
          have hk := ih h
          simp only [takes, releases]
          omega
  | post k ih =>
      have hk := ih h
      simp only [takes, releases]
      omega
  | ask q k ih => exact ih (answer q) h

/-- A run that ends leaves the semaphore as it was exactly if it releases what it takes. -/
theorem exec_count_eq_iff {p : SemProg Q A β} {n m : Nat} {b : β}
    (h : p.exec answer n = .ends m b) : m = n ↔ p.releases answer = p.takes answer := by
  have hcount := exec_count answer h
  omega

end

end SemProg
