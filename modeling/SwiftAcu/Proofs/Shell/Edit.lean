/-
The line editor of the shell edits a list, and the screen shows that list.

The editor keeps a buffer, an index and a column and sends bytes; `edited` is what a key does
to the line, told of the line alone.  One invariant connects them: the buffer up to the index
is the line.  A second one, `Shown`, says that the row of the terminal holds the prompt and
the line behind it and nothing else, with the cursor at its end; it is kept as long as the
keys are characters a terminal shows or the keys that edit.
-/
import SwiftAcu.Acu.Readline
import SwiftAcu.Lib.Terminal

namespace SwiftAcu.Shell

open Terminal (Row Shows)

/-! ### The line -/

/-- Without its last word: up to the blank in front of it, which goes as well. -/
def killWord (s : List UInt8) : List UInt8 := (s.reverse.dropWhile (· ≠ 0x20)).tail.reverse

/-- A tab is taken for a completion: at the prompt of the shell, behind at most one word. -/
def Completes (prompt s : List UInt8) : Prop :=
  prompt = shellSysPrompt ∧ (parseArgs shellSysMaxargs s).length ≤ 1

instance (prompt s : List UInt8) : Decidable (Completes prompt s) :=
  inferInstanceAs (Decidable (_ ∧ _))

/-- What a key that does not end the line does to it. -/
def edited (prompt s : List UInt8) (c : UInt8) : List UInt8 :=
  if c = 0x00 then s
  else if c = 0x15 then []
  else if c = 0x17 then killWord s
  else if c = 0x08 ∨ c = 0x7F then s.dropLast
  else if s.length < shellSysCbsize - 2 then
    if c = 0x09 ∧ Completes prompt s then s else s ++ [c]
  else s

theorem killWord_concat_of_ne {c : UInt8} (h : c ≠ 0x20) (s : List UInt8) :
    killWord (s ++ [c]) = killWord s := by
  simp [killWord, h]

theorem killWord_concat_blank (s : List UInt8) : killWord (s ++ [0x20]) = s := by
  simp [killWord]

theorem length_killWord_le (s : List UInt8) : (killWord s).length ≤ s.length := by
  have hdrop := (List.dropWhile_suffix (· ≠ (0x20 : UInt8)) (l := s.reverse)).length_le
  rw [List.length_reverse] at hdrop
  rw [killWord, List.length_reverse, List.length_tail]
  omega

/-- A line never outgrows its buffer. -/
theorem length_edited_le (prompt : List UInt8) {s : List UInt8} (h : s.length ≤ shellSysCbsize - 2)
    (c : UInt8) : (edited prompt s c).length ≤ shellSysCbsize - 2 := by
  have hkill := length_killWord_le s
  have hdrop : s.dropLast.length ≤ s.length := by simp
  unfold edited
  split
  · exact h
  split
  · exact Nat.zero_le _
  split
  · exact hkill.trans h
  split
  · exact hdrop.trans h
  split
  · next hlt =>
      split
      · exact h
      · rw [List.length_append, List.length_singleton]
        exact hlt
  · exact h

namespace Edit

variable {plen : Nat} {e : Edit}

@[simp] theorem length_line (e : Edit) : e.line.length = e.n := Memory.length_read ..

theorem line_pred_append (e : Edit) (h : 0 < e.n) :
    Memory.read e.buffer 0 (e.n - 1) ++ [e.buffer (e.n - 1)] = e.line := by
  obtain ⟨n, hn⟩ := Nat.exists_eq_succ_of_ne_zero h.ne'
  rw [line, hn, Nat.succ_sub_one, Nat.succ_eq_add_one, Memory.read_add]
  simp [Memory.read]

theorem line_put (e : Edit) (c : UInt8) : (e.put c).line = e.line ++ [c] := by
  have hlow : Memory.read (Function.update e.buffer e.n c) 0 e.n = Memory.read e.buffer 0 e.n :=
    Memory.read_congr fun x _ hx => Function.update_of_ne (by omega) ..
  show Memory.read (Function.update e.buffer e.n c) 0 (e.n + 1) = _
  rw [Memory.read_add, hlow]
  simp [line, Memory.read]

/-- The end of a string lies behind the line. -/
theorem read_update_end (e : Edit) (c : UInt8) :
    Memory.read (Function.update e.buffer e.n c) 0 e.n = e.line :=
  Memory.read_congr fun x _ hx => Function.update_of_ne (by omega) ..

@[simp] theorem buffer_eraseCols (plen : Nat) (e : Edit) : (e.eraseCols plen).buffer = e.buffer :=
  rfl

theorem buffer_retype (e : Edit) (cs : List UInt8) : (cs.foldl retype e).buffer = e.buffer := by
  induction cs generalizing e with
  | nil => rfl
  | cons c cs ih =>
      rw [List.foldl_cons, ih, retype]
      split <;> rfl

@[simp] theorem buffer_deleteChar (plen : Nat) (e : Edit) :
    (e.deleteChar plen).buffer = e.buffer := by
  unfold deleteChar
  split
  · rfl
  · dsimp only
    split
    · exact buffer_retype ..
    · rfl

@[simp] theorem n_deleteChar (plen : Nat) (e : Edit) : (e.deleteChar plen).n = e.n - 1 := by
  unfold deleteChar
  split
  · next h => rw [h]
  · dsimp only
    split <;> rfl

/-- What `delete_char` takes away still lies behind the line. -/
theorem line_deleteChar_append (plen : Nat) (e : Edit) (h : 0 < e.n) :
    (e.deleteChar plen).line ++ [(e.deleteChar plen).buffer (e.deleteChar plen).n] = e.line := by
  rw [line, buffer_deleteChar, n_deleteChar]
  exact line_pred_append e h

theorem line_deleteChar (plen : Nat) (e : Edit) : (e.deleteChar plen).line = e.line.dropLast := by
  rcases Nat.eq_zero_or_pos e.n with hn | hn
  · have hnil : e.line = [] := List.eq_nil_of_length_eq_zero (by rw [length_line, hn])
    rw [deleteChar, if_pos hn, hnil]
    rfl
  · rw [← line_deleteChar_append plen e hn, List.dropLast_concat]

/-- The loop of `^W` looks at the byte that was deleted last. -/
theorem line_eraseWord (plen : Nat) {fuel : Nat} (h : e.n ≤ fuel) :
    (e.eraseWord plen fuel).line = killWord (e.line ++ [e.buffer e.n]) := by
  induction fuel generalizing e with
  | zero =>
      have hnil : e.line = [] := List.eq_nil_of_length_eq_zero (by rw [length_line]; omega)
      rw [eraseWord, hnil]
      by_cases hc : e.buffer e.n = 0x20 <;> simp [killWord, hc]
  | succ fuel ih =>
      unfold eraseWord
      by_cases hstop : 0 < e.n ∧ e.buffer e.n ≠ 0x20
      · rw [if_pos hstop, ih (by rw [n_deleteChar]; omega), line_deleteChar_append plen e hstop.1,
          killWord_concat_of_ne hstop.2]
      · rw [if_neg hstop]
        rcases Nat.eq_zero_or_pos e.n with hn | hn
        · have hnil : e.line = [] := List.eq_nil_of_length_eq_zero (by rw [length_line, hn])
          rw [hnil]
          by_cases hc : e.buffer e.n = 0x20 <;> simp [killWord, hc]
        · have hc : e.buffer e.n = 0x20 := by
            by_contra hne
            exact hstop ⟨hn, hne⟩
          rw [hc, killWord_concat_blank]

theorem line_killWord (plen : Nat) (e : Edit) :
    ((e.deleteChar plen).eraseWord plen (e.deleteChar plen).n).line = killWord e.line := by
  rcases Nat.eq_zero_or_pos e.n with hn | hn
  · have hnil : e.line = [] := List.eq_nil_of_length_eq_zero (by rw [length_line, hn])
    have hdel : e.deleteChar plen = e := by rw [deleteChar, if_pos hn]
    rw [hdel, hn, eraseWord, hnil]
    rfl
  · rw [line_eraseWord plen (le_refl _), line_deleteChar_append plen e hn]

/-- A tab is typed, unless it is taken for a completion, of which nothing comes. -/
theorem line_tab {prompt : List UInt8} {i : Int} (e : Edit) (hi : prompt = shellSysPrompt → i = 0) :
    ∃ e', e.tab prompt i = some e' ∧
      e'.line = if Completes prompt e.line then e.line else e.line ++ [0x09] := by
  have hline : Edit.line { e with buffer := Function.update e.buffer e.n 0 } = e.line :=
    Edit.read_update_end e 0
  have hput : (Edit.putTab { e with buffer := Function.update e.buffer e.n 0 }).line =
      e.line ++ [0x09] :=
    (Edit.line_put ..).trans (congrArg (· ++ [0x09]) hline)
  unfold tab
  dsimp only
  by_cases hprompt : prompt = shellSysPrompt
  · rw [if_neg (not_not.mpr hprompt), if_neg (not_not.mpr (hi hprompt)), hline]
    by_cases hwords : 1 < (parseArgs shellSysMaxargs e.line).length
    · rw [if_pos hwords,
        if_neg fun h : Completes prompt e.line => absurd hwords (Nat.not_lt.mpr h.2)]
      exact ⟨_, rfl, hput⟩
    · rw [if_neg hwords, if_pos (show Completes prompt e.line from
        ⟨hprompt, Nat.not_lt.mp hwords⟩)]
      exact ⟨_, rfl, hline⟩
  · rw [if_pos hprompt, if_neg fun h : Completes prompt e.line => hprompt h.1]
    exact ⟨_, rfl, hput⟩

end Edit

/-- A key that does not end the line, and whose tab the source does not leave open. -/
structure Key.Edits (prompt : List UInt8) (k : Key) : Prop where
  cr : k.c ≠ 0x0D
  lf : k.c ≠ 0x0A
  ctrlC : k.c ≠ 0x03
  tab : k.c = 0x09 → prompt = shellSysPrompt → k.i = 0

/-- The keys typed while the line goes on. -/
def Edit.keys (prompt : List UInt8) (e : Edit) : List Key → Option Edit
  | [] => some e
  | k :: ks =>
    match readKey prompt e k with
    | some (.more e) => Edit.keys prompt e ks
    | _ => none

/-- **One key.**  The editor does to its buffer what `edited` does to the line. -/
theorem readKey_edits (prompt : List UInt8) (e : Edit) {k : Key} (hk : k.Edits prompt) :
    ∃ e', readKey prompt e k = some (.more e') ∧ e'.line = edited prompt e.line k.c := by
  unfold readKey edited
  rw [if_neg (show ¬(k.c = 0x0D ∨ k.c = 0x0A) from fun h => h.elim hk.cr hk.lf)]
  by_cases h0 : k.c = 0x00
  · rw [if_pos h0, if_pos h0]
    exact ⟨e, rfl, rfl⟩
  rw [if_neg h0, if_neg h0, if_neg hk.ctrlC]
  by_cases hu : k.c = 0x15
  · rw [if_pos hu, if_pos hu]
    exact ⟨_, rfl, rfl⟩
  rw [if_neg hu, if_neg hu]
  by_cases hw : k.c = 0x17
  · rw [if_pos hw, if_pos hw]
    exact ⟨_, rfl, Edit.line_killWord _ e⟩
  rw [if_neg hw, if_neg hw]
  by_cases hbs : k.c = 0x08 ∨ k.c = 0x7F
  · rw [if_pos hbs, if_pos hbs]
    exact ⟨_, rfl, Edit.line_deleteChar _ e⟩
  rw [if_neg hbs, if_neg hbs, Edit.length_line]
  by_cases hroom : e.n < shellSysCbsize - 2
  · rw [if_pos hroom, if_pos hroom]
    by_cases ht : k.c = 0x09
    · obtain ⟨e', htab, hline⟩ := Edit.line_tab e (hk.tab ht)
      rw [if_pos ht, htab]
      simp only [ht, true_and]
      exact ⟨e', rfl, hline⟩
    · rw [if_neg ht, if_neg (fun h => ht h.1)]
      exact ⟨_, rfl, Edit.line_put ..⟩
  · rw [if_neg hroom, if_neg hroom]
    exact ⟨_, rfl, rfl⟩

/-- What ends a line returns its length. -/
theorem readKey_enter (prompt : List UInt8) (e : Edit) {k : Key} (hk : k.c = 0x0D ∨ k.c = 0x0A) :
    ∃ e', readKey prompt e k = some (.done e.line.length e') ∧ e'.line = e.line := by
  unfold readKey
  rw [if_pos hk, Edit.length_line]
  exact ⟨_, rfl, Edit.read_update_end e 0⟩

/-! ### The screen -/

/-- What a terminal does with a byte; the bell and the like change nothing it shows. -/
def screenOp (c : UInt8) : Option (Terminal.Op UInt8) :=
  if c = 0x08 then some .back else if 0x20 ≤ c ∧ c ≠ 0x7F then some (.glyph c) else none

/-- The row of the terminal behind the bytes sent. -/
def screen (out : List UInt8) : Row UInt8 :=
  Runs.run Terminal.step ⟨fun _ => 0x20, 0⟩ (out.filterMap screenOp)

/-- A character that a terminal shows. -/
def Glyph (c : UInt8) : Prop := 0x20 ≤ c ∧ c ≠ 0x7F

instance (c : UInt8) : Decidable (Glyph c) := inferInstanceAs (Decidable (_ ∧ _))

theorem forall_of_all {p : UInt8 → Prop} [DecidablePred p] {cs : List UInt8}
    (h : cs.all (p ·) = true) : ∀ c ∈ cs, p c := fun c hc =>
  of_decide_eq_true (List.all_eq_true.mp h c hc)

/-- A character that a terminal shows, or one of the keys that edit. -/
def Key.Plain (k : Key) : Prop :=
  Glyph k.c ∨ k.c ∈ ([0x00, 0x08, 0x15, 0x17, 0x7F] : List UInt8)

instance (k : Key) : Decidable k.Plain := inferInstanceAs (Decidable (_ ∨ _))

theorem screen_append (out bytes : List UInt8) :
    screen (out ++ bytes) = Runs.run Terminal.step (screen out) (bytes.filterMap screenOp) := by
  rw [screen, List.filterMap_append, Runs.run_append]
  rfl

theorem Glyph.screenOp {c : UInt8} (h : Glyph c) : screenOp c = some (.glyph c) := by
  have hne : c ≠ 0x08 := fun hc => by rw [hc] at h; exact absurd h (by decide)
  rw [SwiftAcu.Shell.screenOp, if_neg hne]
  exact if_pos h

theorem screenOps_glyphs {cs : List UInt8} (h : ∀ c ∈ cs, Glyph c) :
    cs.filterMap screenOp = cs.map .glyph := by
  induction cs with
  | nil => rfl
  | cons c cs ih =>
      rw [List.filterMap_cons_some (h c (List.mem_cons_self ..)).screenOp, List.map_cons,
        ih fun c' hc' => h c' (List.mem_cons_of_mem _ hc')]

theorem screenOps_eraseSeqs (n : Nat) :
    (List.replicate n eraseSeq).flatten.filterMap screenOp =
      (List.replicate n (Terminal.erase (0x20 : UInt8))).flatten := by
  rw [List.filterMap_flatten, List.map_replicate]
  rfl

/-- The row shows the prompt and the line, and `col` is where the cursor stands. -/
structure Shown (prompt : List UInt8) (e : Edit) : Prop where
  col : e.col = prompt.length + e.n
  glyphs : ∀ c ∈ e.line, Glyph c
  row : Shows 0x20 (prompt ++ e.line) (screen e.out)

section
variable {prompt : List UInt8} {e : Edit}

theorem shown_start (buffer : Nat → UInt8) (hprompt : ∀ c ∈ prompt, Glyph c) :
    Shown prompt (Edit.start buffer prompt []) := by
  refine ⟨rfl, by simp [Edit.start, Edit.line, Memory.read], ?_⟩
  show Shows 0x20 (prompt ++ []) (screen ([] ++ prompt))
  rw [List.append_nil, screen_append, screenOps_glyphs hprompt]
  exact (Terminal.shows_nil 0x20).glyphs prompt

theorem Shown.type {c : UInt8} (h : Shown prompt e) (hc : Glyph c) :
    Shown prompt ({ e with col := e.col + 1, out := e.out ++ [c] }.put c) := by
  have hline := Edit.line_put { e with col := e.col + 1, out := e.out ++ [c] } c
  refine ⟨?_, ?_, ?_⟩
  · show e.col + 1 = prompt.length + (e.n + 1)
    rw [h.col, Nat.add_assoc]
  · rw [hline]
    intro d hd
    rcases List.mem_append.mp hd with hd | hd
    · exact h.glyphs d hd
    · rw [List.mem_singleton.mp hd]
      exact hc
  · rw [hline]
    show Shows 0x20 (prompt ++ (e.line ++ [c])) (screen (e.out ++ [c]))
    rw [screen_append, ← List.append_assoc,
      show [c].filterMap screenOp = [.glyph c] from List.filterMap_cons_some hc.screenOp]
    exact h.row.glyph c

theorem Shown.deleteChar (h : Shown prompt e) : Shown prompt (e.deleteChar prompt.length) := by
  rcases Nat.eq_zero_or_pos e.n with hn | hn
  · rw [Edit.deleteChar, if_pos hn]
    exact h
  have hlast := Edit.line_pred_append e hn
  have hglyph : Glyph (e.buffer (e.n - 1)) := h.glyphs _ (by rw [← hlast]; simp)
  have htab : e.buffer (e.n - 1) ≠ 0x09 := fun hc => by
    rw [hc] at hglyph
    exact absurd hglyph (by decide)
  have hline := Edit.line_deleteChar prompt.length e
  have hdel : e.deleteChar prompt.length =
      { e with n := e.n - 1, col := e.col - 1, out := e.out ++ eraseSeq } := by
    rw [Edit.deleteChar, if_neg hn.ne']
    exact if_neg htab
  refine ⟨?_, ?_, ?_⟩
  · rw [hdel]
    show e.col - 1 = prompt.length + (e.n - 1)
    rw [h.col]
    omega
  · rw [hline]
    exact fun c hc => h.glyphs c (List.dropLast_subset _ hc)
  · rw [hline, ← hlast, List.dropLast_concat, hdel]
    show Shows 0x20 _ (screen (e.out ++ eraseSeq))
    rw [screen_append]
    refine Shows.erase (a := e.buffer (e.n - 1)) ?_
    rw [List.append_assoc, hlast]
    exact h.row

theorem Shown.eraseWord (fuel : Nat) (h : Shown prompt e) :
    Shown prompt (e.eraseWord prompt.length fuel) := by
  induction fuel generalizing e with
  | zero => exact h
  | succ fuel ih =>
      unfold Edit.eraseWord
      split
      · exact ih h.deleteChar
      · exact h

theorem Shown.eraseLine (h : Shown prompt e) :
    Shown prompt { e.eraseCols prompt.length with n := 0 } := by
  refine ⟨?_, by simp [Edit.line, Memory.read], ?_⟩
  · show min e.col prompt.length = prompt.length + 0
    rw [h.col]
    omega
  · show Shows 0x20 (prompt ++ [])
      (screen (e.out ++ (List.replicate (e.col - prompt.length) eraseSeq).flatten))
    have hcols : e.col - prompt.length = e.line.length := by
      rw [h.col, Edit.length_line, Nat.add_sub_cancel_left]
    rw [screen_append, hcols, screenOps_eraseSeqs, List.append_nil]
    exact h.row.erases

/-- **What a plain key leaves on the screen** is the prompt and the new line. -/
theorem Shown.readKey {k : Key} {e' : Edit} (h : Shown prompt e) (hk : k.Plain)
    (hread : readKey prompt e k = some (.more e')) : Shown prompt e' := by
  unfold SwiftAcu.Shell.readKey at hread
  have hnot : ∀ c : UInt8, ¬Glyph c → c ∉ ([0x00, 0x08, 0x15, 0x17, 0x7F] : List UInt8) →
      k.c ≠ c := fun c hg hm heq => hk.elim (heq ▸ hg) (heq ▸ hm)
  rw [if_neg (show ¬(k.c = 0x0D ∨ k.c = 0x0A) from fun hc =>
    hc.elim (hnot _ (by decide) (by decide)) (hnot _ (by decide) (by decide)))] at hread
  by_cases h0 : k.c = 0x00
  · rw [if_pos h0] at hread
    cases hread
    exact h
  rw [if_neg h0, if_neg (hnot 0x03 (by decide) (by decide))] at hread
  by_cases hu : k.c = 0x15
  · rw [if_pos hu] at hread
    cases hread
    exact h.eraseLine
  rw [if_neg hu] at hread
  by_cases hw : k.c = 0x17
  · rw [if_pos hw] at hread
    cases hread
    exact h.deleteChar.eraseWord _
  rw [if_neg hw] at hread
  by_cases hbs : k.c = 0x08 ∨ k.c = 0x7F
  · rw [if_pos hbs] at hread
    cases hread
    exact h.deleteChar
  rw [if_neg hbs] at hread
  by_cases hroom : e.n < shellSysCbsize - 2
  · rw [if_pos hroom, if_neg (hnot 0x09 (by decide) (by decide))] at hread
    cases hread
    refine h.type (hk.resolve_right fun hm => ?_)
    simp only [List.mem_cons, List.not_mem_nil, or_false] at hm
    rcases hm with hm | hm | hm | hm | hm
    · exact h0 hm
    · exact hbs (Or.inl hm)
    · exact hu hm
    · exact hw hm
    · exact hbs (Or.inr hm)
  · rw [if_neg hroom] at hread
    cases hread
    refine ⟨h.col, h.glyphs, ?_⟩
    show Shows 0x20 (prompt ++ e.line) (screen (e.out ++ [0x07]))
    rw [screen_append]
    exact h.row

end

/-! ### Whole lines -/

theorem keys_edits {prompt : List UInt8} {ks : List Key} (hks : ∀ k ∈ ks, k.Edits prompt)
    (e : Edit) : ∃ e', e.keys prompt ks = some e' ∧
      e'.line = ks.foldl (fun s k => edited prompt s k.c) e.line ∧
      (Shown prompt e → (∀ k ∈ ks, k.Plain) → Shown prompt e') := by
  induction ks generalizing e with
  | nil => exact ⟨e, rfl, rfl, fun h _ => h⟩
  | cons k ks ih =>
      obtain ⟨e₁, hread, hline⟩ := readKey_edits prompt e (hks k (List.mem_cons_self ..))
      obtain ⟨e', hkeys, hline', hshown⟩ := ih (fun k' hk' => hks k' (List.mem_cons_of_mem _ hk')) e₁
      refine ⟨e', ?_, ?_, fun hs hplain => ?_⟩
      · rw [Edit.keys, hread]
        exact hkeys
      · rw [hline', hline]
        rfl
      · exact hshown (hs.readKey (hplain k (List.mem_cons_self ..)) hread)
          fun k' hk' => hplain k' (List.mem_cons_of_mem _ hk')

theorem length_typed_le (prompt : List UInt8) (ks : List Key) {s : List UInt8}
    (h : s.length ≤ shellSysCbsize - 2) :
    (ks.foldl (fun s k => edited prompt s k.c) s).length ≤ shellSysCbsize - 2 := by
  induction ks generalizing s with
  | nil => exact h
  | cons k ks ih => exact ih (length_edited_le prompt h k.c)

/--
**What is typed is what is read, and what is seen.**  Whatever lies in the buffer and whatever
keys are typed: the line that `cli_readline` returns is the one the keys edit, it leaves room
in the buffer, and after every key a terminal that was at the start of a blank row shows the
prompt and that line and nothing else.
-/
theorem readline_types_what_is_seen (buffer : Nat → UInt8) (prompt : List UInt8)
    (hprompt : ∀ c ∈ prompt, Glyph c) (ks : List Key) (hks : ∀ k ∈ ks, k.Edits prompt)
    (enter : Key) (henter : enter.c = 0x0D ∨ enter.c = 0x0A) :
    ∃ e e', (Edit.start buffer prompt []).keys prompt ks = some e ∧
      readKey prompt e enter = some (.done e'.line.length e') ∧
      e'.line = ks.foldl (fun s k => edited prompt s k.c) [] ∧
      e'.line.length ≤ shellSysCbsize - 2 ∧
      ((∀ k ∈ ks, k.Plain) → Shows 0x20 (prompt ++ e'.line) (screen e.out)) := by
  obtain ⟨e, hkeys, hline, hshown⟩ := keys_edits hks (Edit.start buffer prompt [])
  obtain ⟨e', hread, hline'⟩ := readKey_enter prompt e henter
  have htyped : e'.line = ks.foldl (fun s k => edited prompt s k.c) [] := by
    rw [hline', hline]
    rfl
  refine ⟨e, e', hkeys, ?_, htyped, ?_, fun hplain => ?_⟩
  · rw [hread, hline']
  · rw [htyped]
    exact length_typed_le prompt ks (Nat.zero_le _)
  · rw [hline']
    exact (hshown (shown_start buffer hprompt) hplain).row

/-- `m`, `d` and a backspace at the prompt of the device. -/
theorem readline_types_m : ∃ e e',
    (Edit.start (fun _ => 0) shellSysPrompt []).keys shellSysPrompt
      [⟨0x6D, 0, 0⟩, ⟨0x64, 0, 0⟩, ⟨0x08, 0, 0⟩] = some e ∧
    readKey shellSysPrompt e ⟨0x0D, 0, 0⟩ = some (.done e'.line.length e') ∧
    e'.line = ([⟨0x6D, 0, 0⟩, ⟨0x64, 0, 0⟩, ⟨0x08, 0, 0⟩] : List Key).foldl
      (fun s k => edited shellSysPrompt s k.c) [] ∧
    e'.line.length ≤ shellSysCbsize - 2 ∧
    ((∀ k ∈ ([⟨0x6D, 0, 0⟩, ⟨0x64, 0, 0⟩, ⟨0x08, 0, 0⟩] : List Key), k.Plain) →
      Shows 0x20 (shellSysPrompt ++ e'.line) (screen e.out)) :=
  readline_types_what_is_seen (fun _ => 0) shellSysPrompt (forall_of_all rfl)
    [⟨0x6D, 0, 0⟩, ⟨0x64, 0, 0⟩, ⟨0x08, 0, 0⟩]
    (by
      intro k hk
      simp only [List.mem_cons, List.not_mem_nil, or_false] at hk
      rcases hk with rfl | rfl | rfl
      · exact ⟨by decide, by decide, by decide, by decide⟩
      · exact ⟨by decide, by decide, by decide, by decide⟩
      · exact ⟨by decide, by decide, by decide, by decide⟩)
    ⟨0x0D, 0, 0⟩ (Or.inl rfl)

end SwiftAcu.Shell
