/-
A line over which messages come byte by byte.

The other end sends one message after the other and nothing in between.  What is still to
come, and how much of the first of it has come already, is the whole state.
-/
import Mathlib.Data.List.Basic
import Mathlib.Tactic.Common

/-- The messages sent, those to come, and how many bytes of the first of them are sent. -/
structure Line (φ : Type) where
  done : List φ
  todo : List φ
  cur : Nat

namespace Line

variable {φ β : Type}

/-- Nothing sent. -/
def start (msgs : List φ) : Line φ := ⟨[], msgs, 0⟩

/-- The next byte, and the line behind it. -/
def next (bytes : φ → List β) (l : Line φ) : Option (β × Line φ) :=
  match l.todo with
  | [] => none
  | f :: rest =>
    match (bytes f)[l.cur]? with
    | none => none
    | some b =>
      some (b,
        if l.cur + 1 = (bytes f).length then { done := l.done ++ [f], todo := rest, cur := 0 }
        else { l with cur := l.cur + 1 })

/-- The bytes of the message that is being sent. -/
def part (bytes : φ → List β) (l : Line φ) : List β :=
  match l.todo with
  | [] => []
  | f :: _ => (bytes f).take l.cur

section
variable {bytes : φ → List β}

/-- At the start of a message none of it has been sent. -/
theorem part_eq_nil {l : Line φ} (h : l.cur = 0) : l.part bytes = [] := by
  unfold part
  rw [h]
  cases l.todo with
  | nil => rfl
  | cons f rest => rfl

/-- What a byte is, and where it leaves the line. -/
theorem next_cases {l l' : Line φ} {b : β} (h : l.next bytes = some (b, l')) :
    ∃ f rest, l.todo = f :: rest ∧ (bytes f)[l.cur]? = some b ∧
      ((l.cur + 1 = (bytes f).length ∧ l' = ⟨l.done ++ [f], rest, 0⟩) ∨
        (l.cur + 1 < (bytes f).length ∧ l' = { l with cur := l.cur + 1 })) := by
  unfold next at h
  split at h
  · cases h
  · next f rest htodo =>
      split at h
      · cases h
      · next b' hget =>
          obtain ⟨rfl, rfl⟩ := Prod.mk.inj (Option.some.inj h)
          refine ⟨f, rest, htodo, hget, ?_⟩
          have hlt := (List.getElem?_eq_some_iff.mp hget).1
          split
          · next hend => exact Or.inl ⟨hend, rfl⟩
          · next hmid => exact Or.inr ⟨by omega, rfl⟩

/-- A byte comes as long as the message has one. -/
theorem exists_next {l : Line φ} {f : φ} {rest : List φ} (htodo : l.todo = f :: rest)
    (hcur : l.cur < (bytes f).length) : ∃ b l', l.next bytes = some (b, l') := by
  unfold next
  rw [htodo]
  dsimp only
  rw [List.getElem?_eq_getElem hcur]
  exact ⟨_, _, rfl⟩

/-- The messages stay the same. -/
theorem msgs_next {l l' : Line φ} {b : β} (h : l.next bytes = some (b, l')) :
    l'.done ++ l'.todo = l.done ++ l.todo := by
  obtain ⟨f, rest, htodo, -, ⟨-, rfl⟩ | ⟨-, rfl⟩⟩ := next_cases h
  · simp [htodo]
  · rfl

end

end Line
