/-
A memory that keeps what is written to it.

Writing a list of cells at an address changes the cells of that range and no other,
and reading a range depends on the cells of that range and no other.  What the
library adds to these two facts is the shape a parameter memory has: a map of
ranges laid out one behind the other, some of them arrays of equal slots.  Two
ranges of such a map are disjoint because one lies in an earlier zone than the
other, or because they are different slots of one array.
-/
import Mathlib.Data.List.GetD
import Mathlib.Order.Monotone.Basic
import Mathlib.Tactic.Common

namespace Memory

variable {α β : Type}

/-- Write `bs` at the addresses from `a` on. -/
def write (m : Nat → α) (a : Nat) (bs : List α) : Nat → α := fun x =>
  if a ≤ x then bs.getD (x - a) (m x) else m x

/-- The `n` cells from `a` on. -/
def read (m : Nat → α) (a n : Nat) : List α := (List.range n).map fun i => m (a + i)

/-! ### What a write changes -/

theorem write_outside {m : Nat → α} {a x : Nat} {bs : List α}
    (h : x < a ∨ a + bs.length ≤ x) : write m a bs x = m x := by
  unfold write
  rcases h with h | h
  · rw [if_neg (by omega)]
  · split
    · rw [List.getD_eq_default _ _ (by omega)]
    · rfl

theorem write_inside {m : Nat → α} {a i : Nat} {bs : List α} (h : i < bs.length) :
    write m a bs (a + i) = bs[i] := by
  unfold write
  rw [if_pos (Nat.le_add_right a i), Nat.add_sub_cancel_left, List.getD_eq_getElem _ _ h]

/-- Writing two adjacent ranges one after the other is writing both. -/
theorem write_append (m : Nat → α) (a : Nat) (bs cs : List α) :
    write (write m a bs) (a + bs.length) cs = write m a (bs ++ cs) := by
  funext x
  have hlen : (bs ++ cs).length = bs.length + cs.length := List.length_append
  by_cases hmid : x < a + bs.length
  · rw [write_outside (Or.inl hmid)]
    by_cases hlo : x < a
    · rw [write_outside (Or.inl hlo), write_outside (Or.inl hlo)]
    · obtain ⟨i, rfl⟩ : ∃ i, x = a + i := ⟨x - a, by omega⟩
      have hi : i < bs.length := by omega
      rw [write_inside hi, write_inside (by omega), List.getElem_append_left hi]
  by_cases hhi : x < a + bs.length + cs.length
  · obtain ⟨i, rfl⟩ : ∃ i, x = a + bs.length + i := ⟨x - (a + bs.length), by omega⟩
    rw [write_inside (by omega), Nat.add_assoc, write_inside (by omega),
      List.getElem_append_right (by omega)]
    simp
  · rw [write_outside (Or.inr (by omega)), write_outside (Or.inr (by omega)),
      write_outside (Or.inr (by omega))]

/-! ### What a read depends on -/

@[simp] theorem length_read (m : Nat → α) (a n : Nat) : (read m a n).length = n := by
  simp [read]

@[simp] theorem getElem_read (m : Nat → α) (a n i : Nat) (h : i < (read m a n).length) :
    (read m a n)[i] = m (a + i) := by
  simp [read]

theorem getD_read {m : Nat → α} {a n i : Nat} {d : α} (h : i < n) :
    (read m a n).getD i d = m (a + i) := by
  rw [List.getD_eq_getElem _ _ (by simpa using h), getElem_read]

theorem read_congr {m m' : Nat → α} {a n : Nat} (h : ∀ x, a ≤ x → x < a + n → m x = m' x) :
    read m a n = read m' a n := by
  refine List.map_congr_left fun i hi => h (a + i) (Nat.le_add_right a i) ?_
  have := List.mem_range.mp hi
  omega

/-- A read goes on where another one stops. -/
theorem read_add (m : Nat → α) (a n k : Nat) :
    read m a (n + k) = read m a n ++ read m (a + n) k := by
  simp only [read, List.range_add, List.map_append, List.map_map, Function.comp_def, Nat.add_assoc]

/-- A part of what is read is read at its place. -/
theorem read_of_append {m : Nat → α} {a : Nat} {xs ys zs : List α}
    (h : read m a (xs ++ ys ++ zs).length = xs ++ ys ++ zs) :
    read m (a + xs.length) ys.length = ys := by
  rw [List.length_append, List.length_append, read_add, read_add] at h
  have hfront := List.append_inj_left h (by simp)
  exact (List.append_inj hfront (by simp)).2

/-- What was written is read back. -/
theorem read_write_same (m : Nat → α) (a : Nat) (bs : List α) :
    read (write m a bs) a bs.length = bs := by
  refine List.ext_getElem (by simp) fun i _ hi => ?_
  rw [getElem_read, write_inside hi]

/-- Writing changes nothing if it writes what is there, and only then. -/
theorem write_eq_self_iff (m : Nat → α) (a : Nat) (bs : List α) :
    write m a bs = m ↔ read m a bs.length = bs := by
  constructor
  · intro h
    have hread := read_write_same m a bs
    rwa [h] at hread
  · intro h
    funext x
    by_cases hx : x < a ∨ a + bs.length ≤ x
    · exact write_outside hx
    · obtain ⟨i, rfl⟩ : ∃ i, x = a + i := ⟨x - a, by omega⟩
      have hi : i < (read m a bs.length).length := by
        rw [length_read]
        omega
      rw [write_inside (by omega), ← getElem_read m a bs.length i hi]
      exact List.getElem_of_eq h.symm _

/-- A shorter read sees the front of what was written. -/
theorem read_write_take (m : Nat → α) (a : Nat) {bs : List α} {n : Nat} (hn : n ≤ bs.length) :
    read (write m a bs) a n = bs.take n := by
  refine List.ext_getElem (by simp [hn]) fun i hi _ => ?_
  have hin : i < n := by simpa using hi
  rw [getElem_read, write_inside (by omega), List.getElem_take]

/-! ### Ranges -/

/-- The range of `n` cells at `a` and the range of `n'` cells at `a'` have no cell in common. -/
def Disjoint (a n a' n' : Nat) : Prop := a + n ≤ a' ∨ a' + n' ≤ a

instance (a n a' n' : Nat) : Decidable (Disjoint a n a' n') := inferInstanceAs (Decidable (_ ∨ _))

/-- **The frame rule.**  A range is not changed by a write to a disjoint one. -/
theorem read_write_disjoint {m : Nat → α} {a a' n' : Nat} {bs : List α}
    (h : Disjoint a bs.length a' n') : read (write m a bs) a' n' = read m a' n' := by
  refine read_congr fun x hlo hhi => write_outside ?_
  rcases h with h | h
  · exact Or.inr (by omega)
  · exact Or.inl (by omega)

/-- `f` changes no cell outside the `n` cells at `a`. -/
def WritesIn (f : (Nat → α) → Nat → α) (a n : Nat) : Prop :=
  ∀ m x, x < a ∨ a + n ≤ x → f m x = m x

/-- `g` depends on no cell outside the `n` cells at `a`. -/
def ReadsIn (g : (Nat → α) → β) (a n : Nat) : Prop :=
  ∀ m m', (∀ x, a ≤ x → x < a + n → m x = m' x) → g m = g m'

theorem writesIn_write {a n : Nat} {bs : List α} (h : bs.length ≤ n) :
    WritesIn (fun m => write m a bs) a n := fun _ _ hx => write_outside (by omega)

theorem readsIn_read (a n : Nat) : ReadsIn (fun m : Nat → α => read m a n) a n :=
  fun _ _ h => read_congr h

/-- A function of what is read depends on what is read. -/
theorem ReadsIn.map {γ : Type} {g : (Nat → α) → β} {a n : Nat} (h : ReadsIn g a n) (f : β → γ) :
    ReadsIn (fun m => f (g m)) a n := fun m m' hm => congrArg f (h m m' hm)

/-- **Non-interference.**  What one function writes, another one with a disjoint range does
not read. -/
theorem ReadsIn.frame {f : (Nat → α) → Nat → α} {g : (Nat → α) → β} {a n a' n' : Nat}
    (hg : ReadsIn g a' n') (hf : WritesIn f a n) (h : Disjoint a n a' n') (m : Nat → α) :
    g (f m) = g m := by
  refine hg _ _ fun x hlo hhi => hf m x ?_
  rcases h with h | h
  · exact Or.inr (by omega)
  · exact Or.inl (by omega)

/-- What is written by none of many functions is read as before. -/
theorem ReadsIn.frame_foldl {γ : Type} {g : (Nat → α) → β} {a' n' : Nat} (hg : ReadsIn g a' n')
    {f : γ → (Nat → α) → Nat → α} {a n : γ → Nat} {cs : List γ}
    (hf : ∀ c ∈ cs, WritesIn (f c) (a c) (n c)) (h : ∀ c ∈ cs, Disjoint (a c) (n c) a' n')
    (m : Nat → α) : g (cs.foldl (fun m c => f c m) m) = g m := by
  induction cs generalizing m with
  | nil => rfl
  | cons c cs ih =>
      rw [List.foldl_cons, ih (fun c hc => hf c (List.mem_cons_of_mem _ hc))
        (fun c hc => h c (List.mem_cons_of_mem _ hc))]
      exact hg.frame (hf c List.mem_cons_self) (h c List.mem_cons_self) m

/-! ### Pages -/

/-- A write that goes round inside the page of `size` cells that `a` lies in. -/
def pageWrite (size : Nat) (m : Nat → α) (a : Nat) (bs : List α) : Nat → α := fun x =>
  if x / size = a / size then bs.getD ((x % size + (size - a % size)) % size) (m x) else m x

/-- A write that ends inside its page does not go round. -/
theorem pageWrite_eq_write {size a : Nat} (m : Nat → α) {bs : List α}
    (h : a % size + bs.length ≤ size) : pageWrite size m a bs = write m a bs := by
  funext x
  unfold pageWrite write
  have hx := Nat.div_add_mod x size
  have ha := Nat.div_add_mod a size
  by_cases hpage : x / size = a / size
  · rw [if_pos hpage]
    rw [hpage] at hx
    rcases Nat.eq_zero_or_pos size with rfl | hsize
    · obtain rfl : bs = [] := List.length_eq_zero_iff.mp (by omega)
      split <;> rfl
    have hlt := Nat.mod_lt x hsize
    have hlt' := Nat.mod_lt a hsize
    by_cases hle : a ≤ x
    · have hoff : (x % size + (size - a % size)) % size = x - a := by
        rw [show x % size + (size - a % size) = (x - a) + size by omega, Nat.add_mod_right]
        exact Nat.mod_eq_of_lt (by omega)
      rw [if_pos hle, hoff]
    · rw [if_neg hle, Nat.mod_eq_of_lt (by omega), List.getD_eq_default _ _ (by omega)]
  · rw [if_neg hpage]
    split
    · rw [List.getD_eq_default]
      by_contra hin
      refine hpage (Nat.div_eq_of_lt_le ?_ ?_)
      · rw [Nat.mul_comm]; omega
      · rw [Nat.succ_mul, Nat.mul_comm]; omega
    · rfl

/-! ### Filling ranges -/

/-- Fill the `n` cells at `addr b` with `z`, for each `b` of a list in turn. -/
def fillAll (addr : β → Nat) (n : Nat) (z : α) (bs : List β) (m : Nat → α) : Nat → α :=
  bs.foldl (fun m b => write m (addr b) (List.replicate n z)) m

section
variable {addr : β → Nat} {n x : Nat} {z : α} {bs : List β}

theorem fillAll_outside {m : Nat → α} (h : ∀ b ∈ bs, x < addr b ∨ addr b + n ≤ x) :
    fillAll addr n z bs m x = m x := by
  induction bs generalizing m with
  | nil => rfl
  | cons b bs ih =>
      show fillAll addr n z bs (write m (addr b) (List.replicate n z)) x = m x
      rw [ih fun c hc => h c (List.mem_cons_of_mem b hc)]
      exact write_outside (by simpa using h b List.mem_cons_self)

/-- What has been filled stays filled. -/
theorem fillAll_of_eq {m : Nat → α} (h : m x = z) : fillAll addr n z bs m x = z := by
  induction bs generalizing m with
  | nil => exact h
  | cons b bs ih =>
      show fillAll addr n z bs (write m (addr b) (List.replicate n z)) x = z
      refine ih ?_
      by_cases hx : x < addr b ∨ addr b + (List.replicate n z).length ≤ x
      · rwa [write_outside hx]
      · obtain ⟨i, rfl⟩ : ∃ i, x = addr b + i := ⟨x - addr b, by omega⟩
        rw [write_inside (by omega), List.getElem_replicate]

theorem fillAll_inside {m : Nat → α} {b : β} (hb : b ∈ bs) (hlo : addr b ≤ x)
    (hhi : x < addr b + n) : fillAll addr n z bs m x = z := by
  induction bs generalizing m with
  | nil => exact absurd hb List.not_mem_nil
  | cons c bs ih =>
      show fillAll addr n z bs (write m (addr c) (List.replicate n z)) x = z
      rcases List.mem_cons.mp hb with rfl | hmem
      · obtain ⟨i, rfl⟩ : ∃ i, x = addr b + i := ⟨x - addr b, by omega⟩
        refine fillAll_of_eq ?_
        rw [write_inside (by simp only [List.length_replicate]; omega), List.getElem_replicate]
      · exact ih hmem

end

/-! ### Maps of ranges -/

/-- Different slots of an array are disjoint. -/
theorem disjoint_slots {base stride n n' i j : Nat} (hn : n ≤ stride) (hn' : n' ≤ stride)
    (hij : i ≠ j) : Disjoint (base + i * stride) n (base + j * stride) n' := by
  rcases Nat.lt_or_gt_of_ne hij with h | h
  · have := Nat.mul_le_mul_right stride (Nat.succ_le_of_lt h)
    rw [Nat.succ_mul] at this
    exact Or.inl (by omega)
  · have := Nat.mul_le_mul_right stride (Nat.succ_le_of_lt h)
    rw [Nat.succ_mul] at this
    exact Or.inr (by omega)

/-- `[a, a + n)` lies in zone `k` of the map with the boundaries `start`. -/
structure InZone (start : Nat → Nat) (k a n : Nat) : Prop where
  lo : start k ≤ a
  hi : a + n ≤ start (k + 1)

/-- Ranges in different zones are disjoint. -/
theorem disjoint_of_zones {start : Nat → Nat} (hmono : Monotone start) {k k' a n a' n' : Nat}
    (h : InZone start k a n) (h' : InZone start k' a' n') (hne : k ≠ k') :
    Disjoint a n a' n' := by
  rcases Nat.lt_or_gt_of_ne hne with hlt | hlt
  · exact Or.inl (h.hi.trans ((hmono (Nat.succ_le_of_lt hlt)).trans h'.lo))
  · exact Or.inr (h'.hi.trans ((hmono (Nat.succ_le_of_lt hlt)).trans h.lo))

end Memory
