/-
Every command can be typed.

A line goes through three passes: it is cut at `;`, the macros of each piece are replaced, and
the piece is split into words.  The first two read quotes and escapes, each by rules of its
own; in particular a backslash that follows a backslash is no escape, so that the second pass
takes a run of them as one escape and the rest as they stand.  `quoteFrom` writes a word so
that both passes let it through, and the round trip below follows a line from the keys at
the console to the commands run.
-/
import Mathlib.Data.List.TakeWhile
import SwiftAcu.Acu.Cli
import SwiftAcu.Proofs.Shell.Edit

namespace SwiftAcu.Shell

/-- The bytes that mean something to one of the passes. -/
def Special (c : UInt8) : Prop := c = 0x24 ∨ c = 0x27 ∨ c = 0x3B ∨ c = 0x5C

instance (c : UInt8) : Decidable (Special c) := inferInstanceAs (Decidable (_ ∨ _))

/-- A word as it is typed; `bs` says that the byte in front of it is a backslash. -/
def quoteFrom : Bool → List UInt8 → List UInt8
  | _, [] => []
  | bs, c :: cs =>
    if bs = false ∧ Special c then 0x5C :: c :: quoteFrom (c = 0x5C) cs
    else c :: quoteFrom (c = 0x5C) cs

/-- A word as it is typed. -/
abbrev quote (w : List UInt8) : List UInt8 := quoteFrom false w

/-- The words of one command with a blank between any two. -/
def spaced : List (List UInt8) → List UInt8
  | [] => []
  | [w] => w
  | w :: ws => w ++ 0x20 :: spaced ws

/-- One command as it is typed. -/
def cmdText (argv : List (List UInt8)) : List UInt8 := spaced (argv.map quote)

/-- A line of commands as it is typed. -/
def lineText : List (List (List UInt8)) → List UInt8
  | [] => []
  | [argv] => cmdText argv
  | argv :: cmds => cmdText argv ++ 0x20 :: 0x3B :: lineText cmds

/-! ### The first pass -/

/-- A byte that neither opens quotes nor ends the piece. -/
theorem tokens_byte {prev c : UInt8} (h : prev = 0x5C ∨ c ≠ 0x27 ∧ c ≠ 0x3B)
    (token rest : List UInt8) :
    tokens prev false token (c :: rest) = tokens c false (token ++ [c]) rest := by
  have hquote : ¬(c = 0x27 ∧ prev ≠ 0x5C) := fun hc => h.elim hc.2 fun hn => hn.1 hc.1
  have hsep : ¬(c = 0x3B ∧ token ≠ [] ∧ prev ≠ 0x5C) := fun hc =>
    h.elim hc.2.2 fun hn => hn.2 hc.1
  simp only [tokens, if_neg hquote, if_neg hsep, true_and]

theorem tokens_separator {prev : UInt8} (h : prev ≠ 0x5C) {token : List UInt8} (ht : token ≠ [])
    (rest : List UInt8) :
    tokens prev false token (0x3B :: rest) = token :: tokens 0 false [] rest := by
  rw [tokens]
  simp [h, ht]

theorem tokens_quoteFrom {bs : Bool} {prev : UInt8} (h : bs = true → prev = 0x5C)
    (token w rest : List UInt8) :
    ∃ prev', tokens prev false token (quoteFrom bs w ++ rest) =
      tokens prev' false (token ++ quoteFrom bs w) rest := by
  induction w generalizing bs prev token with
  | nil => exact ⟨prev, by simp [quoteFrom]⟩
  | cons c w ih =>
      have hnext : decide (c = 0x5C) = true → c = 0x5C := of_decide_eq_true
      unfold quoteFrom
      by_cases hq : bs = false ∧ Special c
      · obtain ⟨prev', ih⟩ := ih hnext (token ++ [0x5C] ++ [c])
        refine ⟨prev', ?_⟩
        rw [if_pos hq, List.cons_append, List.cons_append, tokens_byte (Or.inr (by decide)),
          tokens_byte (Or.inl rfl), ih]
        simp
      · have hplain : prev = 0x5C ∨ c ≠ 0x27 ∧ c ≠ 0x3B := by
          cases bs with
          | true => exact Or.inl (h rfl)
          | false =>
              have hs : ¬Special c := fun hs => hq ⟨rfl, hs⟩
              exact Or.inr ⟨fun e => hs (Or.inr (Or.inl e)),
                fun e => hs (Or.inr (Or.inr (Or.inl e)))⟩
        obtain ⟨prev', ih⟩ := ih hnext (token ++ [c])
        refine ⟨prev', ?_⟩
        rw [if_neg hq, List.cons_append, tokens_byte hplain, ih]
        simp

theorem tokens_cmdText (prev : UInt8) (token : List UInt8) (argv : List (List UInt8))
    (rest : List UInt8) :
    ∃ prev', tokens prev false token (cmdText argv ++ rest) =
      tokens prev' false (token ++ cmdText argv) rest := by
  induction argv generalizing prev token with
  | nil => exact ⟨prev, by simp [cmdText, spaced]⟩
  | cons w argv ih =>
      have hfalse : (false = true → prev = 0x5C) := fun h => absurd h (by decide)
      cases argv with
      | nil => exact tokens_quoteFrom hfalse token w rest
      | cons w' argv =>
          have htext : cmdText (w :: w' :: argv) = quote w ++ 0x20 :: cmdText (w' :: argv) := rfl
          obtain ⟨prev₁, h₁⟩ := tokens_quoteFrom hfalse token w
            (0x20 :: (cmdText (w' :: argv) ++ rest))
          obtain ⟨prev', h'⟩ := ih 0x20 (token ++ quote w ++ [0x20])
          refine ⟨prev', ?_⟩
          rw [htext, List.append_assoc, List.cons_append, h₁,
            tokens_byte (Or.inr (by decide)), h']
          simp

/-- The pieces of a line that is typed. -/
def pieces : List (List (List UInt8)) → List (List UInt8)
  | [] => []
  | [argv] => [cmdText argv]
  | argv :: cmds => (cmdText argv ++ [0x20]) :: pieces cmds

/-- **The first pass** cuts a typed line into its commands, whatever lies in front of it. -/
theorem tokens_lineText (prev : UInt8) {cmds : List (List (List UInt8))}
    (h : ∀ argv ∈ cmds, cmdText argv ≠ []) :
    tokens prev false [] (lineText cmds) = pieces cmds := by
  induction cmds generalizing prev with
  | nil => rfl
  | cons argv cmds ih =>
      cases cmds with
      | nil =>
          obtain ⟨prev', htok⟩ := tokens_cmdText prev [] argv []
          rw [List.append_nil, List.nil_append] at htok
          rw [lineText, htok, tokens, if_neg (h argv (List.mem_singleton.mpr rfl))]
          rfl
      | cons argv' cmds =>
          have htext : lineText (argv :: argv' :: cmds) =
              cmdText argv ++ 0x20 :: 0x3B :: lineText (argv' :: cmds) := rfl
          obtain ⟨prev', htok⟩ := tokens_cmdText prev [] argv
            (0x20 :: 0x3B :: lineText (argv' :: cmds))
          rw [htext, htok, tokens_byte (Or.inr (by decide)), List.nil_append,
            tokens_separator (by decide) (by simp), ih 0 fun a ha => h a (List.mem_cons_of_mem _ ha)]
          rfl

/-! ### The second pass -/

section
open Macros

theorem Macros.loop_put {prev c : UInt8} {output rest : List UInt8} {outputcnt : Nat}
    (hcnt : outputcnt ≠ 0) (h : prev = 0x5C ∨ c ≠ 0x5C ∧ c ≠ 0x27 ∧ c ≠ 0x24) :
    loop ⟨prev, .dollar, output, outputcnt⟩ (c :: rest) =
      loop ⟨c, .dollar, output ++ [c], outputcnt - 1⟩ rest := by
  have hescape : ¬(Waiting.dollar ≠ .quote ∧ c = 0x5C ∧ prev ≠ 0x5C) := fun he =>
    h.elim he.2.2 fun hc => hc.1 he.2.1
  have hquote : ¬(c = 0x27 ∧ prev ≠ 0x5C) := fun he => h.elim he.2 fun hc => hc.2.1 he.1
  have hdollar : ¬(c = 0x24 ∧ prev ≠ 0x5C) := fun he => h.elim he.2 fun hc => hc.2.2 he.1
  conv_lhs => unfold loop
  rw [if_neg hcnt, if_neg hescape]
  simp only [char, if_neg hquote, if_neg hdollar, put]

theorem Macros.loop_escape {prev c : UInt8} {output rest : List UInt8} {outputcnt : Nat}
    (hcnt : outputcnt ≠ 0) (h : prev ≠ 0x5C) :
    loop ⟨prev, .dollar, output, outputcnt⟩ (0x5C :: c :: rest) =
      loop ⟨c, .dollar, output ++ [c], outputcnt - 1⟩ rest := by
  have hstate : Waiting.dollar ≠ .quote := by decide
  conv_lhs => unfold loop
  rw [if_neg hcnt, if_pos ⟨hstate, rfl, h⟩]
  simp [char, put]

theorem Macros.loop_quoteFrom {bs : Bool} {prev : UInt8} (h : bs = true ↔ prev = 0x5C)
    (output w rest : List UInt8) {outputcnt : Nat} (hcnt : w.length < outputcnt) :
    ∃ prev', loop ⟨prev, .dollar, output, outputcnt⟩ (quoteFrom bs w ++ rest) =
      loop ⟨prev', .dollar, output ++ w, outputcnt - w.length⟩ rest := by
  induction w generalizing bs prev output outputcnt with
  | nil => exact ⟨prev, by simp [quoteFrom]⟩
  | cons c w ih =>
      rw [List.length_cons] at hcnt
      have hnext : decide (c = 0x5C) = true ↔ c = 0x5C := decide_eq_true_iff
      obtain ⟨prev', ih⟩ := ih hnext (output ++ [c]) (show w.length < outputcnt - 1 by omega)
      refine ⟨prev', ?_⟩
      have hrest : loop ⟨c, .dollar, output ++ [c], outputcnt - 1⟩
          (quoteFrom (c = 0x5C) w ++ rest) =
            loop ⟨prev', .dollar, output ++ c :: w, outputcnt - (c :: w).length⟩ rest := by
        rw [ih, List.append_assoc, List.singleton_append, List.length_cons, Nat.sub_sub,
          Nat.add_comm 1]
      unfold quoteFrom
      by_cases hq : bs = false ∧ Special c
      · have hprev : prev ≠ 0x5C := fun hp => absurd (h.mpr hp) (by rw [hq.1]; decide)
        rw [if_pos hq, List.cons_append, List.cons_append, loop_escape (by omega) hprev, hrest]
      · have hplain : prev = 0x5C ∨ c ≠ 0x5C ∧ c ≠ 0x27 ∧ c ≠ 0x24 := by
          cases bs with
          | true => exact Or.inl (h.mp rfl)
          | false =>
              have hs : ¬Special c := fun hs => hq ⟨rfl, hs⟩
              exact Or.inr ⟨fun e => hs (Or.inr (Or.inr (Or.inr e))),
                fun e => hs (Or.inr (Or.inl e)), fun e => hs (Or.inl e)⟩
        rw [if_neg hq, List.cons_append, loop_put (by omega) hplain, hrest]

theorem Macros.loop_cmdText {prev : UInt8} (h : prev ≠ 0x5C) (output rest : List UInt8)
    {argv : List (List UInt8)} {outputcnt : Nat} (hcnt : (spaced argv).length < outputcnt) :
    ∃ prev', loop ⟨prev, .dollar, output, outputcnt⟩ (cmdText argv ++ rest) =
      loop ⟨prev', .dollar, output ++ spaced argv, outputcnt - (spaced argv).length⟩ rest := by
  induction argv generalizing prev output outputcnt with
  | nil => exact ⟨prev, by simp [cmdText, spaced]⟩
  | cons w argv ih =>
      have hfalse : false = true ↔ prev = 0x5C := ⟨fun hf => absurd hf (by decide), fun hp => absurd hp h⟩
      cases argv with
      | nil => exact loop_quoteFrom hfalse output w rest hcnt
      | cons w' argv =>
          have htext : cmdText (w :: w' :: argv) = quote w ++ 0x20 :: cmdText (w' :: argv) := rfl
          have hspaced : spaced (w :: w' :: argv) = w ++ 0x20 :: spaced (w' :: argv) := rfl
          rw [hspaced, List.length_append, List.length_cons] at hcnt
          obtain ⟨prev₁, h₁⟩ := loop_quoteFrom hfalse output w
            (0x20 :: (cmdText (w' :: argv) ++ rest)) (show w.length < outputcnt by omega)
          obtain ⟨prev', h'⟩ := ih (show (0x20 : UInt8) ≠ 0x5C by decide) (output ++ w ++ [0x20])
            (show (spaced (w' :: argv)).length < outputcnt - w.length - 1 by omega)
          refine ⟨prev', ?_⟩
          rw [htext, List.append_assoc, List.cons_append, h₁,
            loop_put (by omega) (Or.inr ⟨by decide, by decide, by decide⟩), h', hspaced]
          simp [Nat.sub_sub, Nat.add_assoc, Nat.add_comm 1]

end

/-- **The second pass** takes the quoting away and nothing else. -/
theorem processMacros_cmdText {argv : List (List UInt8)} (tail : List UInt8)
    (htail : tail = [] ∨ tail = [0x20]) (h : (spaced argv).length + 1 < shellSysCbsize) :
    cliSimpleProcessMacros (cmdText argv ++ tail) = spaced argv ++ tail := by
  obtain ⟨prev', hloop⟩ := Macros.loop_cmdText (show (0 : UInt8) ≠ 0x5C by decide) [] tail
    (show (spaced argv).length < shellSysCbsize by omega)
  have hcnt : shellSysCbsize - (spaced argv).length ≠ 0 := by omega
  rw [cliSimpleProcessMacros, hloop]
  rcases htail with rfl | rfl
  · simp [Macros.loop, hcnt]
  · rw [Macros.loop_put hcnt (Or.inr ⟨by decide, by decide, by decide⟩)]
    have hcnt' : shellSysCbsize - (spaced argv).length - 1 ≠ 0 := by omega
    simp [Macros.loop, hcnt']

/-! ### The third pass -/

/-- What follows a word: nothing, or a blank. -/
def Gap (rest : List UInt8) : Prop := rest = [] ∨ ∃ rest', rest = 0x20 :: rest'

theorem parseArgs_nil (nargs : Nat) : parseArgs nargs [] = [] := by
  cases nargs <;> simp [parseArgs]

theorem parseArgs_word {w rest : List UInt8} (hne : w ≠ []) (hw : ∀ c ∈ w, ¬IsBlank c)
    (hrest : Gap rest) (nargs : Nat) :
    parseArgs (nargs + 1) (w ++ rest) = w :: parseArgs nargs (rest.drop 1) := by
  have hdrop : (w ++ rest).dropWhile (IsBlank ·) = w ++ rest := by
    cases w with
    | nil => exact absurd rfl hne
    | cons c w =>
        rw [List.cons_append, List.dropWhile_cons_of_neg]
        exact fun hc => hw c (List.mem_cons_self ..) (of_decide_eq_true hc)
  have hall : ∀ c ∈ w, (decide ¬IsBlank c) = true := fun c hc => decide_eq_true (hw c hc)
  have hblank : ∀ rest' : List UInt8, (0x20 :: rest').takeWhile (¬IsBlank ·) = [] ∧
      (0x20 :: rest').dropWhile (¬IsBlank ·) = 0x20 :: rest' := fun rest' =>
    ⟨rfl, rfl⟩
  have htake : (w ++ rest).takeWhile (¬IsBlank ·) = w := by
    rw [List.takeWhile_append_of_pos hall]
    rcases hrest with rfl | ⟨rest', rfl⟩
    · simp
    · rw [(hblank rest').1, List.append_nil]
  have hafter : (w ++ rest).dropWhile (¬IsBlank ·) = rest := by
    rw [List.dropWhile_append_of_pos hall]
    rcases hrest with rfl | ⟨rest', rfl⟩
    · rfl
    · exact (hblank rest').2
  simp only [parseArgs, hdrop, htake, hafter]
  rw [if_neg (by simp [hne])]

/-- **The third pass** splits the words again. -/
theorem parseArgs_spaced {argv : List (List UInt8)} {tail : List UInt8} {nargs : Nat}
    (htail : tail = [] ∨ tail = [0x20]) (hlen : argv.length ≤ nargs)
    (hw : ∀ w ∈ argv, w ≠ [] ∧ ∀ c ∈ w, ¬IsBlank c) :
    parseArgs nargs (spaced argv ++ tail) = argv := by
  induction argv generalizing nargs with
  | nil =>
      rcases htail with rfl | rfl
      · exact parseArgs_nil nargs
      · cases nargs with
        | zero => rfl
        | succ nargs => rfl
  | cons w argv ih =>
      obtain ⟨nargs, rfl⟩ : ∃ n, nargs = n + 1 := ⟨nargs - 1, by
        rw [List.length_cons] at hlen
        omega⟩
      obtain ⟨hne, hblank⟩ := hw w (List.mem_cons_self ..)
      have hargv : argv.length ≤ nargs := Nat.le_of_succ_le_succ hlen
      have ih := ih hargv fun v hv => hw v (List.mem_cons_of_mem _ hv)
      cases argv with
      | nil =>
          have hgap : Gap tail := htail.imp id fun h => ⟨[], h⟩
          rw [spaced, parseArgs_word hne hblank hgap]
          rcases htail with rfl | rfl
          · exact congrArg (w :: ·) (parseArgs_nil nargs)
          · exact congrArg (w :: ·) (parseArgs_nil nargs)
      | cons w' argv =>
          have hspaced : spaced (w :: w' :: argv) ++ tail =
              w ++ 0x20 :: (spaced (w' :: argv) ++ tail) := by
            show (w ++ 0x20 :: spaced (w' :: argv)) ++ tail = _
            rw [List.append_assoc, List.cons_append]
          rw [hspaced, parseArgs_word hne hblank (Or.inr ⟨_, rfl⟩), List.drop_one, List.tail_cons, ih]

/-! ### Lengths, and what the bytes are -/

theorem length_le_quoteFrom (bs : Bool) (w : List UInt8) : w.length ≤ (quoteFrom bs w).length := by
  induction w generalizing bs with
  | nil => exact Nat.zero_le _
  | cons c w ih =>
      have := ih (decide (c = 0x5C))
      unfold quoteFrom
      split <;> simp only [List.length_cons] <;> omega

theorem length_spaced_le (argv : List (List UInt8)) :
    (spaced argv).length ≤ (cmdText argv).length := by
  induction argv with
  | nil => exact Nat.zero_le _
  | cons w argv ih =>
      have hw : w.length ≤ (quote w).length := length_le_quoteFrom false w
      cases argv with
      | nil => exact hw
      | cons w' argv =>
          show (w ++ 0x20 :: spaced (w' :: argv)).length ≤
            (quote w ++ 0x20 :: cmdText (w' :: argv)).length
          simp only [List.length_append, List.length_cons]
          omega

theorem length_cmdText_le {cmds : List (List (List UInt8))} {argv : List (List UInt8)}
    (h : argv ∈ cmds) : (cmdText argv).length ≤ (lineText cmds).length := by
  induction cmds with
  | nil => exact absurd h (List.not_mem_nil)
  | cons argv' cmds ih =>
      cases cmds with
      | nil =>
          rw [List.mem_singleton.mp h]
          exact le_refl _
      | cons argv'' cmds =>
          show _ ≤ (cmdText argv' ++ 0x20 :: 0x3B :: lineText (argv'' :: cmds)).length
          simp only [List.length_append, List.length_cons]
          rcases List.mem_cons.mp h with rfl | h
          · omega
          · have := ih h
            omega

section
variable {P : UInt8 → Prop}

theorem forall_quoteFrom (hP : P 0x5C) {w : List UInt8} (h : ∀ c ∈ w, P c) (bs : Bool) :
    ∀ c ∈ quoteFrom bs w, P c := by
  induction w generalizing bs with
  | nil => exact fun c hc => absurd hc (List.not_mem_nil)
  | cons d w ih =>
      have ih := ih (fun c hc => h c (List.mem_cons_of_mem _ hc)) (decide (d = 0x5C))
      have hd := h d (List.mem_cons_self ..)
      unfold quoteFrom
      split
      · exact List.forall_mem_cons.mpr ⟨hP, List.forall_mem_cons.mpr ⟨hd, ih⟩⟩
      · exact List.forall_mem_cons.mpr ⟨hd, ih⟩

theorem forall_cmdText (hP : P 0x5C) (hblank : P 0x20) {argv : List (List UInt8)}
    (h : ∀ w ∈ argv, ∀ c ∈ w, P c) : ∀ c ∈ cmdText argv, P c := by
  induction argv with
  | nil => exact fun c hc => absurd hc (List.not_mem_nil)
  | cons w argv ih =>
      have hw := forall_quoteFrom hP (h w (List.mem_cons_self ..)) false
      have ih := ih fun v hv => h v (List.mem_cons_of_mem _ hv)
      cases argv with
      | nil => exact hw
      | cons w' argv =>
          exact List.forall_mem_append.mpr ⟨hw, List.forall_mem_cons.mpr ⟨hblank, ih⟩⟩

theorem forall_lineText (hP : P 0x5C) (hblank : P 0x20) (hsep : P 0x3B)
    {cmds : List (List (List UInt8))} (h : ∀ argv ∈ cmds, ∀ w ∈ argv, ∀ c ∈ w, P c) :
    ∀ c ∈ lineText cmds, P c := by
  induction cmds with
  | nil => exact fun c hc => absurd hc (List.not_mem_nil)
  | cons argv cmds ih =>
      have hargv := forall_cmdText hP hblank (h argv (List.mem_cons_self ..))
      have ih := ih fun a ha => h a (List.mem_cons_of_mem _ ha)
      cases cmds with
      | nil => exact hargv
      | cons argv' cmds =>
          exact List.forall_mem_append.mpr ⟨hargv,
            List.forall_mem_cons.mpr ⟨hblank, List.forall_mem_cons.mpr ⟨hsep, ih⟩⟩⟩

end

/-- Commands that fit on a line and whose bytes are not control characters. -/
structure Typable (cmds : List (List (List UInt8))) : Prop where
  ne : cmds ≠ []
  argc : ∀ argv ∈ cmds, argv ≠ [] ∧ argv.length ≤ shellSysMaxargs
  words : ∀ argv ∈ cmds, ∀ w ∈ argv, w ≠ [] ∧ ∀ c ∈ w, Glyph c ∧ c ≠ 0x20
  room : (lineText cmds).length ≤ shellSysCbsize - 2

section
variable {cmds : List (List (List UInt8))}

theorem Typable.glyphs (h : Typable cmds) : ∀ c ∈ lineText cmds, Glyph c :=
  forall_lineText (by decide) (by decide) (by decide) fun argv ha w hw c hc =>
    ((h.words argv ha w hw).2 c hc).1

theorem Typable.cmdText_ne (h : Typable cmds) {argv : List (List UInt8)} (ha : argv ∈ cmds) :
    cmdText argv ≠ [] := by
  obtain ⟨hne, -⟩ := h.argc argv ha
  obtain ⟨w, argv, rfl⟩ := List.exists_cons_of_ne_nil hne
  have hpos : 0 < w.length := List.length_pos_iff.mpr (h.words _ ha w (List.mem_cons_self ..)).1
  have hquote : w.length ≤ (quote w).length := length_le_quoteFrom false w
  intro hnil
  have hlen : (cmdText (w :: argv)).length = 0 := by rw [hnil]; rfl
  cases argv with
  | nil =>
      have : (cmdText [w]).length = (quote w).length := rfl
      omega
  | cons w' argv =>
      have : (cmdText (w :: w' :: argv)).length =
          (quote w ++ 0x20 :: cmdText (w' :: argv)).length := rfl
      rw [List.length_append] at this
      omega

theorem Typable.lineText_ne (h : Typable cmds) : lineText cmds ≠ [] := by
  obtain ⟨argv, hargv⟩ := List.exists_mem_of_ne_nil cmds h.ne
  have hpos : 0 < (cmdText argv).length := List.length_pos_iff.mpr (h.cmdText_ne hargv)
  have hle := length_cmdText_le hargv
  exact List.length_pos_iff.mp (by omega)

/-- **The three passes** give the words back. -/
theorem Typable.words_pieces (h : Typable cmds) :
    (pieces cmds).map (fun token => cliSimpleParseLine (cliSimpleProcessMacros token)) = cmds := by
  have hone : ∀ argv ∈ cmds, ∀ tail : List UInt8, tail = [] ∨ tail = [0x20] →
      cliSimpleParseLine (cliSimpleProcessMacros (cmdText argv ++ tail)) = argv := by
    intro argv ha tail htail
    have hlen : (spaced argv).length + 1 < shellSysCbsize := by
      have h₁ := length_spaced_le argv
      have h₂ := length_cmdText_le ha
      have h₃ : (lineText cmds).length ≤ 62 := h.room
      show (spaced argv).length + 1 < 64
      omega
    rw [processMacros_cmdText tail htail hlen]
    refine parseArgs_spaced htail (h.argc argv ha).2 fun w hw => ?_
    obtain ⟨hne, hc⟩ := h.words argv ha w hw
    refine ⟨hne, fun c hcw hblank => ?_⟩
    obtain ⟨hglyph, hspace⟩ := hc c hcw
    rcases hblank with hb | hb
    · exact hspace hb
    · rw [hb] at hglyph
      exact absurd hglyph (by decide)
  clear h
  induction cmds with
  | nil => rfl
  | cons argv cmds ih =>
      have ih := ih fun a ha => hone a (List.mem_cons_of_mem _ ha)
      have hargv := hone argv (List.mem_cons_self ..)
      cases cmds with
      | nil =>
          have := hargv [] (Or.inl rfl)
          rw [List.append_nil] at this
          exact congrArg (· :: []) this
      | cons argv' cmds =>
          show ((cmdText argv ++ [0x20]) :: pieces (argv' :: cmds)).map _ = _
          rw [List.map_cons, ih, hargv [0x20] (Or.inr rfl)]

end

/-! ### The commands -/

section
variable {σ : Type} (t : Table σ)

/-- A command behind others: nothing is run once a `^C` was seen. -/
def Con.command (con : Con σ) (argv : List (List UInt8)) : Con σ :=
  if con.ctrlcWasPressed then con else (cmdProcess t 0 argv true con).2.2

theorem cmdProcess_con (flag : Nat) (argv : List (List UInt8)) (repeatable : Bool) (con : Con σ) :
    (cmdProcess t flag argv repeatable con).2.2 = (cmdProcess t flag argv true con).2.2 := by
  unfold cmdProcess
  split
  · rfl
  · split <;> rfl

theorem foldl_command_of_ctrlc {con : Con σ} (h : con.ctrlcWasPressed = true)
    (cmds : List (List (List UInt8))) : cmds.foldl (Con.command t) con = con := by
  induction cmds with
  | nil => rfl
  | cons argv cmds ih => rw [List.foldl_cons, Con.command, if_pos h, ih]

/-- The loop over the pieces runs their words. -/
theorem runTokens_con (toks : List (List UInt8)) (r : Run σ)
    (hclear : r.con.ctrlcWasPressed = false)
    (hne : ∀ token ∈ toks, cliSimpleParseLine (cliSimpleProcessMacros token) ≠ []) :
    (runTokens t 0 toks r).2 =
      (toks.map fun token => cliSimpleParseLine (cliSimpleProcessMacros token)).foldl
        (Con.command t) r.con := by
  induction toks generalizing r with
  | nil => rfl
  | cons token toks ih =>
      have hargv := hne token (List.mem_cons_self ..)
      have hrest : ∀ tok ∈ toks, cliSimpleParseLine (cliSimpleProcessMacros tok) ≠ [] :=
        fun tok htok => hne tok (List.mem_cons_of_mem _ htok)
      have hcommand : Con.command t r.con (cliSimpleParseLine (cliSimpleProcessMacros token)) =
          (cmdProcess t 0 (cliSimpleParseLine (cliSimpleProcessMacros token)) r.repeatable
            r.con).2.2 := by
        rw [Con.command, if_neg (by simp [hclear])]
        exact (cmdProcess_con t 0 _ r.repeatable r.con).symm
      rw [List.map_cons, List.foldl_cons, hcommand, runTokens, if_neg hargv]
      dsimp only
      by_cases hctrlc : (cmdProcess t 0 (cliSimpleParseLine (cliSimpleProcessMacros token))
          r.repeatable r.con).2.2.ctrlcWasPressed = true
      · rw [if_pos hctrlc, foldl_command_of_ctrlc t hctrlc]
      · rw [if_neg hctrlc]
        exact ih _ (Bool.not_eq_true _ ▸ hctrlc) hrest

/-- **A line that is typed** runs its commands. -/
theorem runCommand_lineText {cmds : List (List (List UInt8))} (h : Typable cmds) (before : UInt8)
    (con : Con σ) :
    (cliSimpleRunCommand t before (lineText cmds) 0 con).2 =
      cmds.foldl (Con.command t) { con with ctrlcWasPressed := false } := by
  have hroom : ¬shellSysCbsize ≤ (lineText cmds).length := by
    have : (lineText cmds).length ≤ 62 := h.room
    show ¬64 ≤ (lineText cmds).length
    omega
  have hmap := h.words_pieces
  rw [cliSimpleRunCommand, if_neg h.lineText_ne, if_neg hroom,
    tokens_lineText before fun argv ha => h.cmdText_ne ha, runTokens_con t _ _ rfl, hmap]
  intro token htoken
  have hmem := List.mem_map_of_mem (f := fun token =>
    cliSimpleParseLine (cliSimpleProcessMacros token)) htoken
  rw [hmap] at hmem
  exact (h.argc _ hmem).1

/-! ### The keys -/

theorem edited_glyph (prompt : List UInt8) {s : List UInt8} {c : UInt8} (hc : Glyph c)
    (hroom : s.length < shellSysCbsize - 2) : edited prompt s c = s ++ [c] := by
  have hnot : ∀ d : UInt8, ¬Glyph d → c ≠ d := fun d hd heq => hd (heq ▸ hc)
  unfold edited
  rw [if_neg (hnot 0x00 (by decide)), if_neg (hnot 0x15 (by decide)),
    if_neg (hnot 0x17 (by decide)),
    if_neg fun h => h.elim (hnot 0x08 (by decide)) (hnot 0x7F (by decide)), if_pos hroom,
    if_neg fun h => hnot 0x09 (by decide) h.1]

theorem edited_glyphs (prompt : List UInt8) {ks : List Key} (hks : ∀ k ∈ ks, Glyph k.c)
    {s : List UInt8} (hroom : s.length + ks.length ≤ shellSysCbsize - 2) :
    ks.foldl (fun s k => edited prompt s k.c) s = s ++ ks.map Key.c := by
  induction ks generalizing s with
  | nil => simp
  | cons k ks ih =>
      rw [List.length_cons] at hroom
      have hk := edited_glyph prompt (hks k (List.mem_cons_self ..))
        (show s.length < shellSysCbsize - 2 by omega)
      rw [List.foldl_cons, hk, ih (fun k' hk' => hks k' (List.mem_cons_of_mem _ hk'))]
      · simp
      · rw [List.length_append, List.length_singleton]
        omega

theorem Glyph.edits {prompt : List UInt8} {k : Key} (h : Glyph k.c) : k.Edits prompt := by
  have hnot : ∀ d : UInt8, ¬Glyph d → k.c ≠ d := fun d hd heq => hd (heq ▸ h)
  exact ⟨hnot 0x0D (by decide), hnot 0x0A (by decide), hnot 0x03 (by decide),
    fun hc => absurd hc (hnot 0x09 (by decide))⟩

/-- Keys that do not end the line leave the rest of the session alone. -/
theorem keyRun_keys {ks : List Key} {s : Sess σ} {e : Edit}
    (h : s.edit.keys shellSysPrompt ks = some e) :
    ks.foldl (Sess.keyRun t) (some s) = some { s with edit := e } := by
  induction ks generalizing s with
  | nil => cases h; rfl
  | cons k ks ih =>
      rw [Edit.keys] at h
      cases hread : readKey shellSysPrompt s.edit k with
      | none => rw [hread] at h; cases h
      | some read =>
          rw [hread] at h
          cases read with
          | done len e₁ => cases h
          | more e₁ =>
              have hkey : Sess.keyRun t (some s) k = some { s with edit := e₁ } := by
                show (readKey shellSysPrompt s.edit k).map _ = _
                rw [hread]
                rfl
              rw [List.foldl_cons, hkey]
              exact ih (s := { s with edit := e₁ }) h

/-- What ends a line hands it to the interpreter. -/
theorem key_enter {k : Key} (hk : k.c = 0x0D ∨ k.c = 0x0A) (s : Sess σ) :
    ∃ e, e.line = s.edit.line ∧
      s.key t k = some (cliSimpleLoop t k.before s.edit.line.length e s) := by
  obtain ⟨e, hread, hline⟩ := readKey_enter shellSysPrompt s.edit hk
  refine ⟨e, hline, ?_⟩
  rw [Sess.key, hread]
  rfl

end

/--
**Every command can be typed.**  From any session at the start of a line, whatever lies in the
buffer and on the stack: typing the text of commands that fit on a line, and a return, runs
these commands with these words, one after the other until a `^C` is seen, and is then at the
start of a line again.
-/
theorem typed_commands_run {σ : Type} (t : Table σ) (s : Sess σ) (hstart : s.edit.n = 0)
    {cmds : List (List (List UInt8))} (h : Typable cmds) (ks : List Key)
    (hks : ks.map Key.c = lineText cmds) (enter : Key)
    (henter : enter.c = 0x0D ∨ enter.c = 0x0A) :
    ∃ s', (ks ++ [enter]).foldl (Sess.keyRun t) (some s) = some s' ∧
      s'.con = cmds.foldl (Con.command t) { s.con with ctrlcWasPressed := false } ∧
      s'.edit.n = 0 := by
  have hglyphs : ∀ k ∈ ks, Glyph k.c := fun k hk =>
    h.glyphs k.c (hks ▸ List.mem_map_of_mem hk)
  have hlen : ks.length = (lineText cmds).length := by rw [← hks, List.length_map]
  have hnil : s.edit.line = [] := List.eq_nil_of_length_eq_zero (by rw [Edit.length_line, hstart])
  have hedits : ∀ k ∈ ks, k.Edits shellSysPrompt := fun k hk => (hglyphs k hk).edits
  obtain ⟨e, hkeys, hline, -⟩ := keys_edits hedits s.edit
  have htyped : e.line = lineText cmds := by
    rw [hline, hnil, edited_glyphs _ hglyphs, List.nil_append, hks]
    rw [List.length_nil, Nat.zero_add, hlen]
    exact h.room
  obtain ⟨e', hline', hkey⟩ := key_enter t henter { s with edit := e }
  have hline' : e'.line = lineText cmds := hline'.trans htyped
  refine ⟨cliSimpleLoop t enter.before e.line.length e' { s with edit := e }, ?_, ?_, ?_⟩
  · rw [List.foldl_append, keyRun_keys t hkeys]
    exact hkey
  · have hpos : 0 < (lineText cmds).length := List.length_pos_iff.mpr h.lineText_ne
    have hzero : (lineText cmds).takeWhile (· ≠ 0) = lineText cmds :=
      List.takeWhile_eq_self_iff.mpr fun c hc => decide_eq_true fun hc0 => by
        have hglyph := h.glyphs c hc
        rw [hc0] at hglyph
        exact absurd hglyph (by decide)
    rw [cliSimpleLoop, if_neg (show ¬(e.line.length : Int) = -1 by omega)]
    show (cliSimpleRunCommand t enter.before (if (0 : Int) < e.line.length then
      e'.line.takeWhile (· ≠ 0) else s.lastcommand)
      (if (e.line.length : Int) = 0 then cmdFlagRepeat else 0) s.con).2 = _
    rw [htyped, hline', hzero, if_pos (by omega), if_neg (by omega)]
    exact runCommand_lineText t h enter.before s.con
  · rw [cliSimpleLoop, if_neg (show ¬(e.line.length : Int) = -1 by omega)]
    rfl

/-- A quote, a `$` and a `;` in words of their own, at the prompt of the device. -/
theorem typed_quotes_run : ∃ s',
    ((lineText [[[0x6D], [0x27]], [[0x64], [0x24, 0x3B]]]).map (fun c => Key.mk c 0 0x5C) ++
      [Key.mk 0x0D 0 0x5C]).foldl (Sess.keyRun appShellInit)
        (some (Sess.init ⟨true, [], fullBoard⟩)) = some s' ∧
    s'.con = [[[0x6D], [0x27]], [[0x64], [0x24, 0x3B]]].foldl (Con.command appShellInit)
      ⟨false, [], fullBoard⟩ ∧
    s'.edit.n = 0 :=
  typed_commands_run appShellInit (Sess.init ⟨true, [], fullBoard⟩) rfl
    (show Typable [[[0x6D], [0x27]], [[0x64], [0x24, 0x3B]]] from
      ⟨by decide, by decide, List.forall_mem_cons.mpr
        ⟨List.forall_mem_cons.mpr ⟨⟨by decide, forall_of_all rfl⟩,
            List.forall_mem_singleton.mpr ⟨by decide, forall_of_all rfl⟩⟩,
          List.forall_mem_singleton.mpr (List.forall_mem_cons.mpr ⟨⟨by decide, forall_of_all rfl⟩,
            List.forall_mem_singleton.mpr ⟨by decide, forall_of_all rfl⟩⟩)⟩, by decide⟩)
    ((lineText [[[0x6D], [0x27]], [[0x64], [0x24, 0x3B]]]).map fun c => Key.mk c 0 0x5C)
    (by rw [List.map_map]; exact List.map_id _) (Key.mk 0x0D 0 0x5C) (Or.inl rfl)

end SwiftAcu.Shell
