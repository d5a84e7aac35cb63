/-
Messages put together in a buffer.

A sender stores bytes at places of a buffer it never clears, and sends what lies at the
front.  A byte of a message was stored on the way or was there before, so a message is
free of what was there before if every byte of it has been stored.  `top` is one past
the highest cell ever stored to.  It only grows, and a buffer of `n` cells has never
been left as long as `top` is at most `n`.
-/
import SwiftAcu.Lib.Memory

namespace Emit

variable {α : Type}

/-- What a sender does. -/
inductive Act (α : Type) where
  /-- Store the bytes from the cell `a` on. -/
  | store (a : Nat) (bs : List α)
  /-- Send the first `n` bytes. -/
  | send (n : Nat)

/-- The buffer, and what has been sent. -/
structure Line (α : Type) where
  buff : Nat → α
  top : Nat
  sent : List (List α)

/-- One act. -/
def step (l : Line α) : Act α → Line α
  | .store a bs => { l with buff := Memory.write l.buff a bs, top := max l.top (a + bs.length) }
  | .send n => { l with sent := l.sent ++ [Memory.read l.buff 0 n] }

/-- All of them, in order. -/
def run (l : Line α) (as : List (Act α)) : Line α := as.foldl step l

/-- One past the highest cell stored to. -/
def reach : List (Act α) → Nat
  | [] => 0
  | .store a bs :: as => max (a + bs.length) (reach as)
  | .send _ :: as => reach as

/-- The cell `i` is stored to. -/
def Stores (as : List (Act α)) (i : Nat) : Prop :=
  ∃ a bs, Act.store a bs ∈ as ∧ a ≤ i ∧ i < a + bs.length

section
variable {l l' : Line α} {as bs : List (Act α)} {i : Nat}

@[simp] theorem run_nil (l : Line α) : run l [] = l := rfl

@[simp] theorem run_cons (l : Line α) (a : Act α) (as : List (Act α)) :
    run l (a :: as) = run (step l a) as := rfl

theorem run_append (l : Line α) (as bs : List (Act α)) :
    run l (as ++ bs) = run (run l as) bs := List.foldl_append

/-! ### How far it reaches -/

theorem top_run (l : Line α) (as : List (Act α)) : (run l as).top = max l.top (reach as) := by
  induction as generalizing l with
  | nil => simp [reach]
  | cons a as ih =>
      rw [run_cons, ih]
      cases a with
      | store a bs => exact max_assoc _ _ _
      | send n => rfl

theorem reach_append (as bs : List (Act α)) : reach (as ++ bs) = max (reach as) (reach bs) := by
  induction as with
  | nil => simp [reach]
  | cons a as ih =>
      cases a with
      | store a bs => rw [List.cons_append, reach, reach, ih, max_assoc]
      | send n => exact ih

/-! ### What the buffer holds -/

@[simp] theorem stores_nil (i : Nat) : ¬ Stores ([] : List (Act α)) i := by
  rintro ⟨_, _, hmem, _⟩
  exact absurd hmem (by simp)

theorem stores_store_cons {a : Nat} {cs : List α} :
    Stores (.store a cs :: as) i ↔ (a ≤ i ∧ i < a + cs.length) ∨ Stores as i := by
  constructor
  · rintro ⟨b, ds, hmem, hlo, hhi⟩
    rcases List.mem_cons.mp hmem with heq | hmem
    · obtain ⟨rfl, rfl⟩ := Act.store.inj heq
      exact Or.inl ⟨hlo, hhi⟩
    · exact Or.inr ⟨b, ds, hmem, hlo, hhi⟩
  · rintro (⟨hlo, hhi⟩ | ⟨b, ds, hmem, hlo, hhi⟩)
    · exact ⟨a, cs, by simp, hlo, hhi⟩
    · exact ⟨b, ds, List.mem_cons_of_mem _ hmem, hlo, hhi⟩

theorem stores_send_cons {n : Nat} : Stores (.send n :: as) i ↔ Stores as i := by
  constructor
  · rintro ⟨b, ds, hmem, hlo, hhi⟩
    exact ⟨b, ds, (List.mem_cons.mp hmem).resolve_left (by simp), hlo, hhi⟩
  · rintro ⟨b, ds, hmem, hlo, hhi⟩
    exact ⟨b, ds, List.mem_cons_of_mem _ hmem, hlo, hhi⟩

/-- A cell that is not stored to keeps what it holds. -/
theorem buff_run_of_not (h : ¬ Stores as i) : (run l as).buff i = l.buff i := by
  induction as generalizing l with
  | nil => rfl
  | cons a as ih =>
      rw [run_cons]
      cases a with
      | store a bs =>
          obtain ⟨hout, hrest⟩ := not_or.mp (mt stores_store_cons.mpr h)
          rw [ih hrest]
          exact Memory.write_outside (by omega)
      | send n => exact ih (mt stores_send_cons.mpr h)

/-! ### What is sent -/

/-- A message put together at the front of the buffer. -/
def burst (message : List α) : List (Act α) := [.store 0 message, .send message.length]

/-- One message after the other. -/
def bursts (messages : List (List α)) : List (Act α) := messages.flatMap burst

@[simp] theorem bursts_nil : bursts ([] : List (List α)) = [] := rfl

@[simp] theorem bursts_cons (m : List α) (ms : List (List α)) :
    bursts (m :: ms) = burst m ++ bursts ms := rfl

/-- **What is put together is what is sent.** -/
theorem sent_run_bursts (l : Line α) (messages : List (List α)) :
    (run l (bursts messages)).sent = l.sent ++ messages := by
  induction messages generalizing l with
  | nil => simp
  | cons m ms ih =>
      rw [bursts_cons, run_append, ih]
      show l.sent ++ [Memory.read (Memory.write l.buff 0 m) 0 m.length] ++ ms = l.sent ++ m :: ms
      rw [Memory.read_write_same, List.append_assoc]
      rfl

/-- The last message is left at the front. -/
theorem read_run_bursts (l : Line α) {messages : List (List α)} (h : messages ≠ []) :
    Memory.read (run l (bursts messages)).buff 0 (messages.getLast h).length =
      messages.getLast h := by
  have hsplit : bursts messages = bursts messages.dropLast ++ burst (messages.getLast h) := by
    conv_lhs => rw [← List.dropLast_concat_getLast h]
    simp [bursts]
  rw [hsplit, run_append]
  exact Memory.read_write_same _ 0 _

/-- Messages reach as far as the longest of them. -/
theorem reach_bursts_le {messages : List (List α)} {n : Nat}
    (h : ∀ m ∈ messages, m.length ≤ n) : reach (bursts messages) ≤ n := by
  induction messages with
  | nil => exact Nat.zero_le n
  | cons m ms ih =>
      rw [bursts_cons, reach_append]
      have hm := h m (by simp)
      refine max_le ?_ (ih fun m' hm' => h m' (List.mem_cons_of_mem _ hm'))
      simp only [burst, reach]
      omega

end

end Emit
