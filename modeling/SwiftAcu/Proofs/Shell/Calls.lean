/-
What the shell calls, over whole sessions.

`find_cmd_tbl` keeps a candidate and a count; `lookup` says what comes out: the entry of that
name, else the only one that begins with it.  Every call made while lines are run is then of
one shape, `Call`, whatever is typed: its entry is the one its first word stands for, its
words have no blanks and fit the buffer, there are as many as the entry takes.  What all such
calls keep, every line and every session keeps; `Sess.Kept` is what carries it from key to
key, and holds the bytes of the line and of the last command besides.
-/
import Mathlib.Data.List.TakeWhile
import SwiftAcu.Acu.Cli
import SwiftAcu.Lib.Runs
import SwiftAcu.Proofs.Shell.Edit

namespace SwiftAcu.Shell

/-! ### The entry a word stands for -/

section
variable {σ : Type} {t : Table σ}

/-- The entry of that name, else the only one that begins with it. -/
def Table.lookup (t : Table σ) (cmd : List UInt8) : Option (CmdTbl σ) :=
  (t.registered.find? (·.name = cmd)).or
    (if (t.registered.filter (cmd <+: ·.name)).length = 1 then
      (t.registered.filter (cmd <+: ·.name)).getLast?
    else none)

/-- The candidate of the loop is the last match, and counts when there is no other. -/
theorem findLoop_eq (cmd : List UInt8) (table : List (CmdTbl σ)) (temp : Option (CmdTbl σ))
    (n : Nat) :
    findLoop cmd table temp n = (table.find? (·.name = cmd)).or
      (if n + (table.filter (cmd <+: ·.name)).length = 1 then
        (table.filter (cmd <+: ·.name)).getLast?.or temp
      else none) := by
  induction table generalizing temp n with
  | nil => simp [findLoop]
  | cons e table ih =>
      rw [findLoop]
      by_cases hpre : cmd <+: e.name
      · rw [if_pos hpre, List.filter_cons_of_pos (by simpa using hpre)]
        by_cases hlen : cmd.length = e.name.length
        · have hname : e.name = cmd := (hpre.eq_of_length hlen).symm
          rw [if_pos hlen, List.find?_cons_of_pos (by simpa using hname), Option.some_or]
        · have hname : e.name ≠ cmd := fun h => hlen (by rw [h])
          rw [if_neg hlen, ih, List.find?_cons_of_neg (by simpa using hname), List.length_cons,
            List.getLast?_cons, Nat.add_right_comm, Nat.add_assoc n]
          cases (table.filter (cmd <+: ·.name)).getLast? <;> rfl
      · have hname : e.name ≠ cmd := fun h => hpre (by rw [h])
        rw [if_neg hpre, ih, List.filter_cons_of_neg (by simpa using hpre),
          List.find?_cons_of_neg (by simpa using hname)]

/-- **What `find_cmd` finds**; an entry that was never registered has no name to begin with. -/
theorem findCmd_eq_lookup {cmd : List UInt8} (h : cmd ≠ []) : findCmd t cmd = t.lookup cmd := by
  have hpre : ¬cmd <+: [] := fun hp => h (List.prefix_nil.mp hp)
  have hfilter : t.entries.filter (cmd <+: ·.name) = t.registered.filter (cmd <+: ·.name) := by
    rw [Table.entries, List.filter_append, List.filter_replicate_of_neg, List.append_nil]
    simpa [CmdTbl.unused] using h
  have hfind : t.entries.find? (·.name = cmd) = t.registered.find? (·.name = cmd) := by
    rw [Table.entries, List.find?_append]
    have hnone : (List.replicate (maxCmdLine - t.registered.length)
        (CmdTbl.unused (σ := σ))).find? (·.name = cmd) = none := by
      rw [List.find?_eq_none]
      intro e he
      rw [List.eq_of_mem_replicate he]
      simpa [CmdTbl.unused] using Ne.symm h
    rw [hnone, Option.or_none]
  rw [findCmd, findCmdTbl, findLoop_eq, hfilter, hfind, Nat.zero_add, Table.lookup]
  split
  · next hone =>
      obtain ⟨e, he⟩ := List.length_eq_one_iff.mp hone
      rw [he]
      rfl
  · rfl

theorem Table.lookup_mem {cmd : List UInt8} {e : CmdTbl σ} (h : t.lookup cmd = some e) :
    e ∈ t.registered ∧ cmd <+: e.name := by
  rw [Table.lookup, Option.or_eq_some_iff] at h
  rcases h with h | ⟨-, h⟩
  · have hname : e.name = cmd := by simpa using List.find?_some h
    exact ⟨List.mem_of_find?_eq_some h, by rw [hname]⟩
  · split at h
    · have hmem := List.mem_filter.mp (List.mem_of_getLast? h)
      exact ⟨hmem.1, by simpa using hmem.2⟩
    · cases h

end

/-! ### The words of a line -/

section
variable {B : UInt8 → Prop}

theorem forall_tokens {token line : List UInt8} (ht : ∀ c ∈ token, B c) (hl : ∀ c ∈ line, B c)
    (prev : UInt8) (inquotes : Bool) :
    ∀ tok ∈ tokens prev inquotes token line, ∀ c ∈ tok, B c := by
  induction line generalizing prev inquotes token with
  | nil =>
      rw [tokens]
      split
      · exact fun tok h => absurd h (List.not_mem_nil)
      · intro tok htok
        rw [List.mem_singleton.mp htok]
        exact ht
  | cons c line ih =>
      obtain ⟨hc, hl⟩ := List.forall_mem_cons.mp hl
      rw [tokens]
      generalize (if c = 0x27 ∧ prev ≠ 0x5C then !inquotes else inquotes) = inquotes
      split
      · exact List.forall_mem_cons.mpr
          ⟨ht, ih (fun d hd => absurd hd (List.not_mem_nil)) hl 0 false⟩
      · exact ih (List.forall_mem_append.mpr ⟨ht, List.forall_mem_singleton.mpr hc⟩) hl c inquotes

theorem tokens_ne_nil {token line : List UInt8} (h : token ≠ [] ∨ line ≠ []) (prev : UInt8)
    (inquotes : Bool) : tokens prev inquotes token line ≠ [] := by
  induction line generalizing prev inquotes token with
  | nil =>
      rw [tokens, if_neg (h.resolve_right fun hne => hne rfl)]
      exact List.cons_ne_nil _ _
  | cons c line ih =>
      rw [tokens]
      generalize (if c = 0x27 ∧ prev ≠ 0x5C then !inquotes else inquotes) = inquotes
      split
      · exact List.cons_ne_nil _ _
      · exact ih (Or.inl (List.append_ne_nil_of_right_ne_nil token (List.cons_ne_nil c []))) c inquotes

/-- What the output holds, and how much room is left. -/
structure Macros.Fits (B : UInt8 → Prop) (m : Macros) : Prop where
  bytes : ∀ c ∈ m.output, B c
  room : m.output.length + m.outputcnt = shellSysCbsize

namespace Macros

variable {m : Macros} {c : UInt8}

theorem Fits.put (h : m.Fits B) (hcnt : m.outputcnt ≠ 0) (hc : B c) : (m.put c).Fits B := by
  refine ⟨List.forall_mem_append.mpr ⟨h.bytes, List.forall_mem_singleton.mpr hc⟩, ?_⟩
  have hroom := h.room
  show (m.output ++ [c]).length + (m.outputcnt - 1) = shellSysCbsize
  rw [List.length_append, List.length_singleton]
  omega

theorem Fits.char (hB : B 0x24) (h : m.Fits B) (hcnt : m.outputcnt ≠ 0) (hc : B c) :
    (m.char c).Fits B := by
  have hput := h.put hcnt hc
  unfold Macros.char
  cases hstate : m.state with
  | dollar =>
      dsimp only
      split
      · exact ⟨h.bytes, h.room⟩
      split
      · exact ⟨h.bytes, h.room⟩
      · exact ⟨hput.bytes, hput.room⟩
  | «open» =>
      dsimp only
      split
      · exact ⟨h.bytes, h.room⟩
      · have hdollar : ({ m with state := .dollar }.put 0x24).Fits B :=
          Fits.put ⟨h.bytes, h.room⟩ hcnt hB
        split
        · exact ⟨hdollar.bytes, hdollar.room⟩
        · next hcnt' => exact ⟨(hdollar.put hcnt' hc).bytes, (hdollar.put hcnt' hc).room⟩
  | close =>
      dsimp only
      split
      · exact ⟨h.bytes, h.room⟩
      · exact ⟨h.bytes, h.room⟩
  | quote =>
      dsimp only
      split
      · exact ⟨h.bytes, h.room⟩
      · exact ⟨hput.bytes, hput.room⟩

theorem Fits.loop (hB : B 0x24) {input : List UInt8} (hin : ∀ c ∈ input, B c) (h : m.Fits B) :
    (m.loop input).Fits B := by
  fun_induction Macros.loop m input with
  | case1 => exact h
  | case2 => exact h
  | case3 => exact h
  | case4 m c hcnt _ c' input ih =>
      obtain ⟨-, hc', hin⟩ : B c ∧ B c' ∧ ∀ d ∈ input, B d := by simpa using hin
      exact ih hin (Fits.char hB ⟨h.bytes, h.room⟩ hcnt hc')
  | case5 m c input hcnt _ ih =>
      obtain ⟨hc, hin⟩ := List.forall_mem_cons.mp hin
      exact ih hin (h.char hB hcnt hc)

end Macros

theorem forall_processMacros (hB : B 0x24) {input : List UInt8} (h : ∀ c ∈ input, B c) :
    ∀ c ∈ cliSimpleProcessMacros input, B c := by
  have hfits : (Macros.mk 0 .dollar [] shellSysCbsize).Fits B :=
    ⟨fun c hc => absurd hc (List.not_mem_nil), rfl⟩
  have hbytes := (hfits.loop hB h).bytes
  rw [cliSimpleProcessMacros]
  split
  · exact hbytes
  · exact fun c hc => hbytes c (List.dropLast_subset _ hc)

theorem length_processMacros_lt (input : List UInt8) :
    (cliSimpleProcessMacros input).length < shellSysCbsize := by
  have hfits : (Macros.mk 0 .dollar [] shellSysCbsize).Fits fun _ => True :=
    ⟨fun c hc => absurd hc (List.not_mem_nil), rfl⟩
  have hroom := (hfits.loop trivial fun (c : UInt8) (_ : c ∈ input) => trivial).room
  have hsize : shellSysCbsize = 64 := rfl
  rw [cliSimpleProcessMacros]
  split
  · omega
  · rw [List.length_dropLast]
    omega

theorem length_parseArgs_le (nargs : Nat) (line : List UInt8) :
    (parseArgs nargs line).length ≤ nargs := by
  induction nargs generalizing line with
  | zero => exact le_refl _
  | succ nargs ih =>
      rw [parseArgs]
      split
      · exact Nat.zero_le _
      · exact Nat.succ_le_succ (ih _)

theorem words_parseArgs (nargs : Nat) {line : List UInt8} (h : ∀ c ∈ line, B c) :
    ∀ w ∈ parseArgs nargs line, w ≠ [] ∧ ∀ c ∈ w, ¬IsBlank c ∧ B c := by
  induction nargs generalizing line with
  | zero => exact fun w hw => absurd hw (List.not_mem_nil)
  | succ nargs ih =>
      rw [parseArgs]
      have hdrop : ∀ c ∈ line.dropWhile (IsBlank ·), B c := fun c hc =>
        h c ((List.dropWhile_suffix _).subset hc)
      split
      · exact fun w hw => absurd hw (List.not_mem_nil)
      · next hne =>
          refine List.forall_mem_cons.mpr ⟨⟨?_, fun c hc => ⟨?_, ?_⟩⟩, ih fun c hc => ?_⟩
          · obtain ⟨d, rest, hrest⟩ := List.exists_cons_of_ne_nil hne
            have hd : ¬IsBlank d := by
              have hhead := List.head?_dropWhile_not (IsBlank ·) line
              rw [hrest] at hhead
              simpa using hhead
            rw [hrest, List.takeWhile_cons_of_pos (by simpa using hd)]
            exact List.cons_ne_nil _ _
          · simpa using List.mem_takeWhile_imp hc
          · exact hdrop c ((List.takeWhile_prefix _).subset hc)
          · exact hdrop c ((List.dropWhile_suffix _).subset (List.mem_of_mem_drop hc))

/-- Each word takes its bytes and its end from the line. -/
theorem sum_parseArgs_le (nargs : Nat) (line : List UInt8) :
    ((parseArgs nargs line).map fun w => w.length + 1).sum ≤ line.length + 1 := by
  induction nargs generalizing line with
  | zero => exact Nat.zero_le _
  | succ nargs ih =>
      rw [parseArgs]
      split
      · exact Nat.zero_le _
      · have hsplit := congrArg List.length
          (List.takeWhile_append_dropWhile (p := fun c => decide ¬IsBlank c)
            (l := line.dropWhile (IsBlank ·)))
        have hdrop := (List.dropWhile_suffix (IsBlank ·) (l := line)).length_le
        rw [List.length_append] at hsplit
        rw [List.map_cons, List.sum_cons]
        generalize (line.dropWhile (IsBlank ·)).dropWhile (¬IsBlank ·) = after at hsplit ⊢
        cases after with
        | nil =>
            have hnil : parseArgs nargs ([].drop 1) = [] := by cases nargs <;> simp [parseArgs]
            rw [hnil, List.map_nil, List.sum_nil]
            rw [List.length_nil] at hsplit
            omega
        | cons c after =>
            have hrest := ih ((c :: after).drop 1)
            rw [List.length_drop] at hrest
            rw [List.length_cons] at hsplit hrest
            omega

end

/-! ### The calls -/

/-- A call, with words made of bytes of `B`. -/
structure Call {σ : Type} (t : Table σ) (B : UInt8 → Prop) (e : CmdTbl σ)
    (argv : List (List UInt8)) : Prop where
  found : t.lookup (argv.headD []) = some e
  argc : 1 ≤ argv.length ∧ argv.length ≤ shellSysMaxargs ∧ argv.length ≤ e.maxargs
  words : ∀ w ∈ argv, w ≠ [] ∧ ∀ c ∈ w, ¬IsBlank c ∧ B c
  room : (argv.map fun w => w.length + 1).sum ≤ shellSysCbsize

section
variable {σ : Type} {t : Table σ} {B : UInt8 → Prop} {P : Con σ → Prop}

/-- The words of a piece, run as a command, are a call if the table has an entry for them. -/
theorem cmdProcess_keeps (hB : B 0x24)
    (hcall : ∀ flag e argv con, Call t B e argv → P con → P (e.cmd flag argv con).2)
    {token : List UInt8} (hbytes : ∀ c ∈ token, B c)
    (hargv : cliSimpleParseLine (cliSimpleProcessMacros token) ≠ []) (flag : Nat)
    (repeatable : Bool) {con : Con σ} (h : P con) :
    P (cmdProcess t flag (cliSimpleParseLine (cliSimpleProcessMacros token)) repeatable con).2.2 := by
  have hwords := words_parseArgs shellSysMaxargs (forall_processMacros hB hbytes)
  have hmax := length_parseArgs_le shellSysMaxargs (cliSimpleProcessMacros token)
  have hroom := (sum_parseArgs_le shellSysMaxargs (cliSimpleProcessMacros token)).trans
    (length_processMacros_lt token)
  rw [cliSimpleParseLine] at hargv ⊢
  generalize parseArgs shellSysMaxargs (cliSimpleProcessMacros token) = argv at *
  obtain ⟨w, ws, rfl⟩ := List.exists_cons_of_ne_nil hargv
  have hne : w ≠ [] := (hwords w (List.mem_cons_self ..)).1
  rw [cmdProcess, List.headD_cons, findCmd_eq_lookup hne]
  split
  · exact h
  · next e he =>
      split
      · exact h
      · next hargs =>
          exact hcall flag e _ con
            ⟨he, ⟨Nat.succ_le_succ (Nat.zero_le _), hmax, Nat.not_lt.mp hargs⟩, hwords, hroom⟩ h

theorem runTokens_keeps (hB : B 0x24)
    (hcall : ∀ flag e argv con, Call t B e argv → P con → P (e.cmd flag argv con).2)
    (flag : Nat) {toks : List (List UInt8)} (hbytes : ∀ token ∈ toks, ∀ c ∈ token, B c)
    {r : Run σ} (h : P r.con) : P (runTokens t flag toks r).2 := by
  induction toks generalizing r with
  | nil => exact h
  | cons token toks ih =>
      obtain ⟨htoken, hbytes⟩ := List.forall_mem_cons.mp hbytes
      rw [runTokens]
      by_cases hargv : cliSimpleParseLine (cliSimpleProcessMacros token) = []
      · rw [if_pos hargv]
        exact ih hbytes (r := { r with rc := -1 }) h
      · rw [if_neg hargv]
        have hkept := cmdProcess_keeps hB hcall htoken hargv flag r.repeatable h
        dsimp only
        split
        · exact hkept
        · exact ih hbytes hkept

/-- **A line** keeps what its calls keep. -/
theorem runCommand_keeps (hB : B 0x24)
    (hcall : ∀ flag e argv con, Call t B e argv → P con → P (e.cmd flag argv con).2)
    (hclear : ∀ con, P con → P { con with ctrlcWasPressed := false }) (before : UInt8)
    {cmd : List UInt8} (hbytes : ∀ c ∈ cmd, B c) (flag : Nat) {con : Con σ} (h : P con) :
    P (cliSimpleRunCommand t before cmd flag con).2 := by
  rw [cliSimpleRunCommand]
  split
  · exact hclear con h
  split
  · exact hclear con h
  · exact runTokens_keeps hB hcall flag
      (forall_tokens (fun c hc => absurd hc (List.not_mem_nil)) hbytes before false) (hclear con h)

end

/-! ### The keys -/

section
variable {B : UInt8 → Prop}

theorem forall_killWord {s : List UInt8} (h : ∀ c ∈ s, B c) : ∀ c ∈ killWord s, B c := by
  intro c hc
  have hmem := List.mem_of_mem_tail (List.mem_reverse.mp hc)
  exact h c (List.mem_reverse.mp ((List.dropWhile_suffix _).subset hmem))

theorem forall_edited (prompt : List UInt8) {s : List UInt8} (h : ∀ c ∈ s, B c) {c : UInt8}
    (hc : B c) : ∀ d ∈ edited prompt s c, B d := by
  unfold edited
  split
  · exact h
  split
  · exact fun d hd => absurd hd (List.not_mem_nil)
  split
  · exact forall_killWord h
  split
  · exact fun d hd => h d (List.dropLast_subset _ hd)
  split
  · split
    · exact h
    · exact List.forall_mem_append.mpr ⟨h, List.forall_mem_singleton.mpr hc⟩
  · exact h

/-- A tab for which the source leaves open what it does, unless the line is full. -/
theorem readKey_tab {k : Key} (hc : k.c = 0x09) (hi : k.i ≠ 0) (e : Edit) :
    readKey shellSysPrompt e k = if e.n < shellSysCbsize - 2 then none
      else some (.more { e with out := e.out ++ [0x07] }) := by
  simp [readKey, hc, Edit.tab, hi]

/-- The keys there are: one that ends the line, a `^C`, one that edits, and such a tab. -/
theorem Key.cases (k : Key) :
    (k.c = 0x0D ∨ k.c = 0x0A) ∨ k.c = 0x03 ∨ k.Edits shellSysPrompt ∨ k.c = 0x09 ∧ k.i ≠ 0 := by
  by_cases hend : k.c = 0x0D ∨ k.c = 0x0A
  · exact Or.inl hend
  by_cases hctrlC : k.c = 0x03
  · exact Or.inr (Or.inl hctrlC)
  by_cases htab : k.c = 0x09 ∧ k.i ≠ 0
  · exact Or.inr (Or.inr (Or.inr htab))
  · exact Or.inr (Or.inr (Or.inl ⟨fun hc => hend (Or.inl hc), fun hc => hend (Or.inr hc), hctrlC,
      fun hc _ => by_contra fun hi => htab ⟨hc, hi⟩⟩))

theorem readKey_ctrlC {k : Key} (hc : k.c = 0x03) (prompt : List UInt8) (e : Edit) :
    ∃ e', readKey prompt e k = some (.done (-1) e') := by
  simp [readKey, hc]

/-- A key that leaves the line open has edited it, a tab at a full line among them. -/
theorem line_readKey_more {e e' : Edit} {k : Key}
    (h : readKey shellSysPrompt e k = some (.more e')) :
    e'.line = edited shellSysPrompt e.line k.c := by
  rcases k.cases with hend | hctrlC | hedits | ⟨hc, hi⟩
  · obtain ⟨e₁, hread, -⟩ := readKey_enter _ e hend
    rw [hread] at h
    cases h
  · obtain ⟨e₁, hread⟩ := readKey_ctrlC hctrlC _ e
    rw [hread] at h
    cases h
  · obtain ⟨e₁, hread, hline⟩ := readKey_edits _ e hedits
    rw [hread] at h
    cases h
    exact hline
  · rw [readKey_tab hc hi] at h
    split at h
    · cases h
    · next hroom =>
        cases h
        rw [edited, hc, Edit.length_line, if_neg hroom]
        rfl

/-- A line ends with its length, or with a `^C`. -/
theorem readKey_done {e e' : Edit} {k : Key} {len : Int}
    (h : readKey shellSysPrompt e k = some (.done len e')) :
    len = -1 ∨ len = e.line.length ∧ e'.line = e.line := by
  rcases k.cases with hend | hctrlC | hedits | ⟨hc, hi⟩
  · obtain ⟨e₁, hread, hline⟩ := readKey_enter _ e hend
    rw [hread] at h
    cases h
    exact Or.inr ⟨rfl, hline⟩
  · obtain ⟨e₁, hread⟩ := readKey_ctrlC hctrlC _ e
    rw [hread] at h
    cases h
    exact Or.inl rfl
  · obtain ⟨e₁, hread, -⟩ := readKey_edits _ e hedits
    rw [hread] at h
    cases h
  · rw [readKey_tab hc hi] at h
    split at h
    · cases h
    · cases h

end

/-! ### The sessions -/

/-- What a session keeps: its console, and the bytes of the line and of the last command. -/
structure Sess.Kept {σ : Type} (B : UInt8 → Prop) (P : Con σ → Prop) (s : Sess σ) : Prop where
  con : P s.con
  line : ∀ c ∈ s.edit.line, B c
  room : s.edit.line.length ≤ shellSysCbsize - 2
  last : ∀ c ∈ s.lastcommand, B c ∧ c ≠ 0
  lastRoom : s.lastcommand.length ≤ shellSysCbsize - 2

section
variable {σ : Type} {t : Table σ} {B : UInt8 → Prop} {P : Con σ → Prop}

theorem line_cliReadline (buffer : Nat → UInt8) (out : List UInt8) :
    (cliReadline buffer out).line = [] := rfl

/-- A session at the start of a line. -/
theorem Sess.Kept.restart {buffer : Nat → UInt8} {out last : List UInt8} {con : Con σ}
    (hcon : P con) (hlast : ∀ c ∈ last, B c ∧ c ≠ 0) (hroom : last.length ≤ shellSysCbsize - 2) :
    Sess.Kept B P ⟨cliReadline buffer out, last, con⟩ := by
  refine ⟨hcon, ?_, Nat.zero_le _, hlast, hroom⟩
  rw [line_cliReadline]
  exact fun c hc => absurd hc (List.not_mem_nil)

/-- **One key.** -/
theorem Sess.Kept.key (hB : B 0x24)
    (hcall : ∀ flag e argv con, Call t B e argv → P con → P (e.cmd flag argv con).2)
    (hclear : ∀ con, P con → P { con with ctrlcWasPressed := false }) {s s' : Sess σ} {k : Key}
    (hk : B k.c) (h : s.Kept B P) (hkey : s.key t k = some s') : s'.Kept B P := by
  rw [Sess.key, Option.map_eq_some_iff] at hkey
  obtain ⟨read, hread, rfl⟩ := hkey
  cases read with
  | more e =>
      have hline := line_readKey_more hread
      refine ⟨h.con, ?_, ?_, h.last, h.lastRoom⟩
      · rw [hline]
        exact forall_edited _ h.line hk
      · rw [hline]
        exact length_edited_le _ h.room k.c
  | done len e =>
      -- a `^C` leaves the last command, and so does an empty line
      have hlast : (∀ c ∈ (if 0 < len then e.line.takeWhile (· ≠ 0) else s.lastcommand),
            B c ∧ c ≠ 0) ∧
          (if 0 < len then e.line.takeWhile (· ≠ 0) else s.lastcommand).length ≤
            shellSysCbsize - 2 := by
        rcases readKey_done hread with rfl | ⟨-, hline⟩
        · rw [if_neg (by decide)]
          exact ⟨h.last, h.lastRoom⟩
        · split
          · rw [hline]
            refine ⟨fun c hc => ⟨h.line c ((List.takeWhile_prefix _).subset hc), ?_⟩, ?_⟩
            · simpa using List.mem_takeWhile_imp hc
            · exact (List.takeWhile_prefix _).length_le.trans h.room
          · exact ⟨h.last, h.lastRoom⟩
      show Sess.Kept B P (cliSimpleLoop t k.before len e s)
      rw [cliSimpleLoop]
      generalize (if 0 < len then e.line.takeWhile (· ≠ 0) else s.lastcommand) = last at hlast ⊢
      have hcon := runCommand_keeps hB hcall hclear k.before (fun c hc => (hlast.1 c hc).1)
        (if len = 0 then cmdFlagRepeat else 0) h.con
      generalize cliSimpleRunCommand t k.before last (if len = 0 then cmdFlagRepeat else 0)
        s.con = r at hcon ⊢
      split
      · exact .restart h.con hlast.1 hlast.2
      · refine .restart hcon ?_ ?_
        · split
          · exact fun c hc => absurd hc (List.not_mem_nil)
          · exact hlast.1
        · split
          · exact Nat.zero_le _
          · exact hlast.2

/-- **A run of keys.** -/
theorem Sess.Kept.run (hB : B 0x24)
    (hcall : ∀ flag e argv con, Call t B e argv → P con → P (e.cmd flag argv con).2)
    (hclear : ∀ con, P con → P { con with ctrlcWasPressed := false }) {ks : List Key}
    (hks : ∀ k ∈ ks, B k.c) {s s' : Sess σ} (h : s.Kept B P)
    (hrun : ks.foldl (Sess.keyRun t) (some s) = some s') : s'.Kept B P := by
  have hstep : ∀ o k, (∀ s, o = some s → s.Kept B P) → B k.c →
      ∀ s, Sess.keyRun t o k = some s → s.Kept B P := by
    intro o k ho hk s' hs'
    obtain ⟨s, hs, hkey⟩ := Option.bind_eq_some_iff.mp hs'
    exact (ho s hs).key hB hcall hclear hk hkey
  have hstart : ∀ s₁, some s = some s₁ → s₁.Kept B P := fun s₁ hs₁ => Option.some.inj hs₁ ▸ h
  have hinv := Runs.inv_run (P := fun _ (k : Key) => B k.c) hstep hstart
    ((Runs.allSteps_const (R := fun k : Key => B k.c) _ ks).mpr hks)
  exact hinv s' hrun

end

theorem Sess.Kept.init {σ : Type} {B : UInt8 → Prop} {P : Con σ → Prop} {con : Con σ}
    (h : P con) : (Sess.init con).Kept B P :=
  .restart h (fun _ hc => absurd hc (List.not_mem_nil)) (Nat.zero_le _)

/--
**Every call is well formed, whatever is typed.**  Let `P` be kept by every call whose entry is
the one its first word stands for (the entry of that name, else the only one that begins with
it), whose words are not empty, hold no blank and only bytes that were typed or a `$`, are at
most 16 and at most as many as the entry takes, and fit the 64 bytes of the buffer with their
ends.  Then `P` holds behind every session, and neither the line nor the last command has
outgrown its buffer.
-/
theorem every_call_is_well_formed {σ : Type} (t : Table σ) (B : UInt8 → Prop) (P : Con σ → Prop)
    (hB : B 0x24)
    (hcall : ∀ flag e argv con, Call t B e argv → P con → P (e.cmd flag argv con).2)
    (hclear : ∀ con, P con → P { con with ctrlcWasPressed := false }) (ks : List Key)
    (hks : ∀ k ∈ ks, B k.c) (con : Con σ) (h : P con) (s : Sess σ)
    (hrun : ks.foldl (Sess.keyRun t) (some (Sess.init con)) = some s) :
    P s.con ∧ s.edit.n ≤ shellSysCbsize - 2 ∧ s.lastcommand.length ≤ shellSysCbsize - 2 := by
  have hkept := (Sess.Kept.init h).run hB hcall hclear hks hrun
  have hroom := hkept.room
  rw [Edit.length_line] at hroom
  exact ⟨hkept.con, hroom, hkept.lastRoom⟩

/-! ### The commands of the device -/

theorem helpLoop_dev {σ : Type} (items : Nat) (con : Con σ) :
    (helpLoop items con).2.dev = con.dev := by
  induction items generalizing con with
  | zero => rfl
  | succ items ih =>
      have hctrlc : (ctrlc con).2.dev = con.dev := by
        unfold ctrlc
        split
        · rfl
        · rfl
        · split <;> rfl
      rw [helpLoop]
      split
      · exact hctrlc
      · rw [ih, hctrlc]

theorem doHelp_dev {σ : Type} (flag : Nat) (argv : List (List UInt8)) (con : Con σ) :
    (doHelp flag argv con).2.dev = con.dev := by
  unfold doHelp
  split
  · exact helpLoop_dev ..
  · rfl

/-! The deeds of the commands, each with the letter that its command begins with. -/

/-- The first byte of the name of the command. -/
def Deed.letter : Deed → UInt8
  | .load _ => 0x64
  | .store .. => 0x6D
  | .softReset => 0x72

theorem Board.act_mem (b : Board) {deed : Deed} (h : deed.letter ≠ 0x6D) :
    (b.act deed).mem = b.mem := by
  unfold Board.act
  cases deed with
  | load addr =>
      split
      · rfl
      · dsimp only
        split <;> rfl
  | store addr val => exact absurd rfl h
  | softReset => split <;> rfl

/-- A reset was told, or requested by a word. -/
theorem Board.act_course {b : Board} {deed : Deed} (h : deed.letter ≠ 0x72)
    (hstore : ∀ addr val, deed = .store addr val → ¬RequestsReset addr val)
    (hb : b.course ≠ .reset) : (b.act deed).course ≠ .reset := by
  unfold Board.act
  split
  · exact hb
  cases deed with
  | load addr =>
      dsimp only
      split
      · exact hb
      · exact fun hc => by cases hc
  | store addr val =>
      dsimp only
      rw [if_neg (hstore addr val rfl)]
      split
      · exact hb
      · exact fun hc => by cases hc
  | softReset => exact absurd rfl h

theorem foldl_act_mem {deeds : List Deed} (h : ∀ deed ∈ deeds, deed.letter ≠ 0x6D) (b : Board) :
    (deeds.foldl Board.act b).mem = b.mem := by
  induction deeds generalizing b with
  | nil => rfl
  | cons deed deeds ih =>
      obtain ⟨hdeed, hdeeds⟩ := List.forall_mem_cons.mp h
      rw [List.foldl_cons, ih hdeeds, Board.act_mem b hdeed]

theorem foldl_act_course {deeds : List Deed} (h : ∀ deed ∈ deeds, deed.letter ≠ 0x72)
    (hstore : ∀ addr val, .store addr val ∈ deeds → ¬RequestsReset addr val) {b : Board}
    (hb : b.course ≠ .reset) : (deeds.foldl Board.act b).course ≠ .reset := by
  induction deeds generalizing b with
  | nil => exact hb
  | cons deed deeds ih =>
      obtain ⟨hdeed, hdeeds⟩ := List.forall_mem_cons.mp h
      exact ih hdeeds (fun addr val hmem => hstore addr val (List.mem_cons_of_mem _ hmem))
        (Board.act_course hdeed
          (fun addr val heq => hstore addr val (heq ▸ List.mem_cons_self ..)) hb)

/-- The board is what it was behind deeds whose letters are of `B`. -/
def Done (B : UInt8 → Prop) (b b' : Board) : Prop :=
  ∃ deeds : List Deed, b' = deeds.foldl Board.act b ∧ ∀ deed ∈ deeds, B deed.letter

theorem Done.refl (B : UInt8 → Prop) (b : Board) : Done B b b :=
  ⟨[], rfl, fun _ hmem => absurd hmem List.not_mem_nil⟩

theorem Done.one {B : UInt8 → Prop} (b : Board) (deed : Deed) (h : B deed.letter) :
    Done B b (b.act deed) :=
  ⟨[deed], rfl, List.forall_mem_singleton.mpr h⟩

theorem Done.trans {B : UInt8 → Prop} {b₁ b₂ b₃ : Board} (h : Done B b₁ b₂) (h' : Done B b₂ b₃) :
    Done B b₁ b₃ := by
  obtain ⟨deeds, rfl, hdeeds⟩ := h
  obtain ⟨deeds', rfl, hdeeds'⟩ := h'
  exact ⟨deeds ++ deeds', List.foldl_append.symm, List.forall_mem_append.mpr ⟨hdeeds, hdeeds'⟩⟩

theorem Done.mem_eq {B : UInt8 → Prop} {b b' : Board} (h : Done B b b') (hm : ¬B 0x6D) :
    b'.mem = b.mem := by
  obtain ⟨deeds, rfl, hdeeds⟩ := h
  exact foldl_act_mem (fun deed hmem heq => hm (heq ▸ hdeeds deed hmem)) b

/-- **What a call does to the board** is what the first byte of its first word says. -/
theorem call_appShell {B : UInt8 → Prop} {e : CmdTbl Board} {argv : List (List UInt8)}
    (h : Call appShellInit B e argv) (flag : Nat) (con : Con Board) :
    Done B con.dev (e.cmd flag argv con).2.dev := by
  obtain ⟨hmem, hpre⟩ := Table.lookup_mem h.found
  obtain ⟨w, ws, rfl⟩ := List.exists_cons_of_length_pos h.argc.1
  obtain ⟨hne, hbytes⟩ := h.words w (List.mem_cons_self ..)
  obtain ⟨c, cs, rfl⟩ := List.exists_cons_of_ne_nil hne
  have hc : B c := (hbytes c (List.mem_cons_self ..)).2
  -- the first byte of the word is the first byte of the name
  have hhead : ∀ d ds, e.name = d :: ds → B d := fun d ds hname => by
    rw [hname, List.headD_cons] at hpre
    exact (List.cons_prefix_cons.mp hpre).1 ▸ hc
  have hhelp : Done B con.dev (doHelp flag ((c :: cs) :: ws) con).2.dev := by
    rw [doHelp_dev]
    exact .refl B con.dev
  have hregistered : e ∈ appShellCmds := hmem
  simp only [appShellCmds, List.mem_cons, List.not_mem_nil, or_false] at hregistered
  rcases hregistered with rfl | rfl | rfl | rfl | rfl | rfl
  · exact hhelp
  · exact hhelp
  · exact .refl B con.dev
  · have hd := hhead _ _ rfl
    show Done B con.dev (showMemory flag ((c :: cs) :: ws) con).2.dev
    unfold showMemory
    split
    · exact .refl B con.dev
    · exact .one con.dev (.load _) hd
  · have hm := hhead _ _ rfl
    show Done B con.dev (modifyMemory flag ((c :: cs) :: ws) con).2.dev
    unfold modifyMemory
    split
    · exact .refl B con.dev
    · exact .one con.dev (.store ..) hm
  · have hr := hhead _ _ rfl
    exact .one con.dev .softReset hr

/-- On the device a reset is such a call, and leaves the memory alone. -/
theorem every_call_reset : ∃ s,
    [Key.mk 0x72 0 0, Key.mk 0x0D 0 0].foldl (Sess.keyRun appShellInit)
        (some (Sess.init ⟨false, [], fullBoard⟩)) = some s ∧
      s.con.dev.mem = (fun _ => 0) ∧ s.edit.n ≤ shellSysCbsize - 2 ∧
        s.lastcommand.length ≤ shellSysCbsize - 2 :=
  ⟨_, rfl, every_call_is_well_formed appShellInit (· ≠ 0x6D)
    (fun con => con.dev.mem = fun _ => 0) (by decide)
    (fun flag _ _ con hcall h => ((call_appShell hcall flag con).mem_eq fun hm => hm rfl).trans h)
    (fun _ h => h) [Key.mk 0x72 0 0, Key.mk 0x0D 0 0] (by decide)
    ⟨false, [], fullBoard⟩ rfl _ rfl⟩

/-- Along a session of bytes of `B`. -/
theorem done_of_keys {B : UInt8 → Prop} (hB : B 0x24) {ks : List Key} (hks : ∀ k ∈ ks, B k.c)
    {con : Con Board} {s : Sess Board}
    (hrun : ks.foldl (Sess.keyRun appShellInit) (some (Sess.init con)) = some s) :
    Done B con.dev s.con.dev := by
  have hkept : Sess.Kept B (fun c => Done B con.dev c.dev) s :=
    (Sess.Kept.init (Done.refl B con.dev)).run hB
      (fun flag _ _ c hc hp => hp.trans (call_appShell hc flag c)) (fun _ hp => hp) hks hrun
  exact hkept.con

/--
**The device reads, writes and resets only when it is told to.**  Whatever is typed at its
console, with whatever interrupts and edits: what has become of the board is what words read and
stored and resets make of it, each by a command whose letter was typed.  Without an `m` no byte of
memory changes, and without an `r` it is reset only by a word that requests it.
-/
theorem shell_acts_only_when_told (ks : List Key) (con : Con Board) (s : Sess Board)
    (hrun : ks.foldl (Sess.keyRun appShellInit) (some (Sess.init con)) = some s) :
    ∃ deeds : List Deed, s.con.dev = deeds.foldl Board.act con.dev ∧
      (∀ deed ∈ deeds, ∃ k ∈ ks, k.c = deed.letter) ∧
      ((∀ k ∈ ks, k.c ≠ 0x6D) → s.con.dev.mem = con.dev.mem) ∧
      ((∀ k ∈ ks, k.c ≠ 0x72) → con.dev.course ≠ .reset →
        (∀ addr val, .store addr val ∈ deeds → ¬RequestsReset addr val) →
          s.con.dev.course ≠ .reset) := by
  have hdone : Done (fun c => c = 0x24 ∨ ∃ k ∈ ks, k.c = c) con.dev s.con.dev :=
    done_of_keys (Or.inl rfl) (fun k hk => Or.inr ⟨k, hk, rfl⟩) hrun
  obtain ⟨deeds, hdev, htyped⟩ := hdone
  replace htyped : ∀ deed ∈ deeds, ∃ k ∈ ks, k.c = deed.letter := fun deed hmem =>
    (htyped deed hmem).resolve_left (by cases deed <;> simp [Deed.letter])
  refine ⟨deeds, hdev, htyped, fun hm => ?_, fun hr hcourse hstore => ?_⟩
  · rw [hdev]
    refine foldl_act_mem (fun deed hmem heq => ?_) con.dev
    obtain ⟨k, hk, hletter⟩ := htyped deed hmem
    exact hm k hk (hletter.trans heq)
  · rw [hdev]
    refine foldl_act_course (fun deed hmem heq => ?_) hstore hcourse
    obtain ⟨k, hk, hletter⟩ := htyped deed hmem
    exact hr k hk (hletter.trans heq)

/-- A reset, without an `m`. -/
theorem shell_acts_reset : ∃ s,
    [Key.mk 0x72 0 0, Key.mk 0x0D 0 0].foldl (Sess.keyRun appShellInit)
        (some (Sess.init ⟨false, [], fullBoard⟩)) = some s ∧
      s.con.dev.course = .reset ∧ s.con.dev.mem = fullBoard.mem := by
  refine ⟨_, rfl, rfl, ?_⟩
  obtain ⟨-, -, -, hmem, -⟩ := shell_acts_only_when_told [Key.mk 0x72 0 0, Key.mk 0x0D 0 0]
    ⟨false, [], fullBoard⟩ _ rfl
  exact hmem (by decide)

-- `m e000ed0c 5fa0004` does what `NVIC_SystemReset` does
example : (fullBoard.act (.store 0xE000ED0C 0x05FA0004)).course = .reset := rfl

end SwiftAcu.Shell
