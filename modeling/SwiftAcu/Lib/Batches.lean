/-
Sending items in batches.

Items are put one behind the other into a buffer, and whenever `n` of them wait there the
buffer is sent and emptied.  Whatever the number of items, what has been sent and what
still waits are the items in their order, each once.
-/
import Mathlib.Data.List.Basic
import Mathlib.Tactic.Common

namespace Batches

variable {α : Type} {n num : Nat} {items sent : List (List α)} {buff item : List α}

/-- `items` have come in: the full batches among them were `sent`, `num` items wait in `buff`. -/
structure Sending (n : Nat) (items sent : List (List α)) (buff : List α) (num : Nat) : Prop where
  room : num < n
  split : ∃ (full : List (List (List α))) (waiting : List (List α)),
    items = full.flatten ++ waiting ∧ (∀ b ∈ full, b.length = n) ∧
    sent = full.map List.flatten ∧ buff = waiting.flatten ∧ waiting.length = num

/-- `items` were sent in batches of 1 to `n`. -/
def Sent (n : Nat) (items sent : List (List α)) : Prop :=
  ∃ batches : List (List (List α)), items = batches.flatten ∧
    (∀ b ∈ batches, 0 < b.length ∧ b.length ≤ n) ∧ sent = batches.map List.flatten

theorem Sending.start (hn : 0 < n) : Sending n ([] : List (List α)) [] [] 0 :=
  ⟨hn, [], [], rfl, by simp, rfl, rfl, rfl⟩

/-- An item is put into the buffer. -/
theorem Sending.put (h : Sending n items sent buff num) (hroom : num + 1 < n) :
    Sending n (items ++ [item]) sent (buff ++ item) (num + 1) := by
  obtain ⟨full, waiting, hitems, hfull, hsent, hbuff, hnum⟩ := h.split
  refine ⟨hroom, full, waiting ++ [item], ?_, hfull, hsent, ?_, ?_⟩
  · rw [hitems, List.append_assoc]
  · simp [hbuff]
  · simp [hnum]

/-- An item fills the buffer, which is sent. -/
theorem Sending.flush (h : Sending n items sent buff num) (hfull : num + 1 = n) :
    Sending n (items ++ [item]) (sent ++ [buff ++ item]) [] 0 := by
  obtain ⟨full, waiting, hitems, hall, hsent, hbuff, hnum⟩ := h.split
  refine ⟨by omega, full ++ [waiting ++ [item]], [], ?_, ?_, ?_, rfl, rfl⟩
  · simp [hitems]
  · intro b hb
    rcases List.mem_append.mp hb with hb | hb
    · exact hall b hb
    · rw [List.mem_singleton.mp hb, List.length_append, hnum]
      exact hfull
  · simp [hsent, hbuff]

/-- **What waits is sent last**, if anything does. -/
theorem Sending.finish (h : Sending n items sent buff num) :
    Sent n items (if 0 < num then sent ++ [buff] else sent) := by
  obtain ⟨full, waiting, hitems, hall, hsent, hbuff, hnum⟩ := h.split
  have hroom := h.room
  have hbounds : ∀ b ∈ full, 0 < b.length ∧ b.length ≤ n := fun b hb => by
    rw [hall b hb]
    omega
  by_cases hzero : 0 < num
  · refine ⟨full ++ [waiting], by simp [hitems], fun b hb => ?_, by simp [hzero, hsent, hbuff]⟩
    rcases List.mem_append.mp hb with hb | hb
    · exact hbounds b hb
    · rw [List.mem_singleton.mp hb]
      omega
  · have hnil : waiting = [] := List.length_eq_zero_iff.mp (by omega)
    exact ⟨full, by simp [hitems, hnil], hbounds, by simp [hzero, hsent]⟩

/-- A batch that was sent is made of at most `n` items. -/
theorem Sent.mem (h : Sent n items sent) {s : List α} (hs : s ∈ sent) :
    ∃ batch : List (List α), s = batch.flatten ∧ batch.length ≤ n ∧ ∀ b ∈ batch, b ∈ items := by
  obtain ⟨batches, hitems, hbounds, hsent⟩ := h
  rw [hsent] at hs
  obtain ⟨batch, hmem, rfl⟩ := List.mem_map.mp hs
  refine ⟨batch, rfl, (hbounds batch hmem).2, fun b hb => ?_⟩
  rw [hitems]
  exact List.mem_flatten.mpr ⟨batch, hmem, hb⟩

end Batches
