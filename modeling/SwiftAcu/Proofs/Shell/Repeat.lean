/-
What an empty line repeats.

`cli_simple_loop` keeps the last line in `lastcommand` and runs it again when a line is empty,
as long as `cli_simple_run_command` returns 1.  It returns that only if every piece of the
line had an entry, was run without an error, and the entry may be repeated; so what is kept in
any state a session reaches is a line of such pieces, and a table without such entries never
runs anything on an empty line.
-/
import SwiftAcu.Proofs.Shell.Calls

namespace SwiftAcu.Shell

section
variable {σ : Type} {t : Table σ}

/-- A piece whose command may be repeated. -/
def Repeats (t : Table σ) (token : List UInt8) : Prop :=
  ∃ e, t.lookup ((cliSimpleParseLine (cliSimpleProcessMacros token)).headD []) = some e ∧
    e.repeatable = true

/-- A command that returns 0 was found, and takes the flag of its entry. -/
theorem cmdProcess_eq_zero {flag : Nat} {w : List UInt8} {ws : List (List UInt8)} {r : Bool}
    {con : Con σ} (hw : w ≠ []) (h : (cmdProcess t flag (w :: ws) r con).1 = 0) :
    ∃ e, t.lookup w = some e ∧
      (cmdProcess t flag (w :: ws) r con).2.1 = (r && e.repeatable) := by
  rw [cmdProcess, List.headD_cons, findCmd_eq_lookup hw] at h ⊢
  cases hfind : t.lookup w with
  | none =>
      rw [hfind] at h
      exact absurd h (show (1 : Int) ≠ 0 by decide)
  | some e =>
      rw [hfind] at h
      refine ⟨e, rfl, ?_⟩
      dsimp only at h ⊢
      split at h
      · exact absurd h (show (1 : Int) ≠ 0 by decide)
      · next hargs => rw [if_neg hargs]

/-- **A line that returns 1** may be repeated piece by piece. -/
theorem repeats_of_runTokens_pos {flag : Nat} {toks : List (List UInt8)} {r : Run σ}
    (hrc : r.rc ≤ 0) (h : 0 < (runTokens t flag toks r).1) :
    r.rc = 0 ∧ r.repeatable = true ∧ ∀ token ∈ toks, Repeats t token := by
  induction toks generalizing r with
  | nil =>
      rw [runTokens] at h
      dsimp only at h
      split at h
      · omega
      · next hzero =>
          split at h
          · next hrep =>
              exact ⟨not_not.mp hzero, hrep, fun tok htok => absurd htok (List.not_mem_nil)⟩
          · omega
  | cons token toks ih =>
      rw [runTokens] at h
      by_cases hargv : cliSimpleParseLine (cliSimpleProcessMacros token) = []
      · rw [if_pos hargv] at h
        exact absurd (ih (show (-1 : Int) ≤ 0 by decide) h).1 (show (-1 : Int) ≠ 0 by decide)
      rw [if_neg hargv] at h
      have hwords := words_parseArgs (B := fun _ => True) shellSysMaxargs
        fun (c : UInt8) (_ : c ∈ cliSimpleProcessMacros token) => trivial
      obtain ⟨w, ws, hcons⟩ := List.exists_cons_of_ne_nil hargv
      have hw : w ≠ [] := by
        refine (hwords w ?_).1
        show w ∈ cliSimpleParseLine (cliSimpleProcessMacros token)
        rw [hcons]
        exact List.mem_cons_self ..
      dsimp only at h
      split at h
      · exact absurd h (show ¬(0 : Int) < -1 by decide)
      · have hrc' : (if (cmdProcess t flag (cliSimpleParseLine (cliSimpleProcessMacros token))
            r.repeatable r.con).1 ≠ 0 then -1 else r.rc) ≤ 0 := by
          split
          · decide
          · exact hrc
        obtain ⟨hzero, hrep, htoks⟩ := ih hrc' h
        dsimp only at hzero hrep
        split at hzero
        · exact absurd hzero (by decide)
        · next hret =>
            rw [hcons] at hret hrep
            obtain ⟨e, hfound, hflag⟩ := cmdProcess_eq_zero hw (not_not.mp hret)
            rw [hflag, Bool.and_eq_true] at hrep
            refine ⟨hzero, hrep.1, List.forall_mem_cons.mpr ⟨⟨e, ?_, hrep.2⟩, htoks⟩⟩
            rw [hcons]
            exact hfound

/-- What `lastcommand` holds in any state of a session. -/
def Sess.Repeatable (t : Table σ) (s : Sess σ) : Prop :=
  s.lastcommand = [] ∨
    ∃ before, ∀ token ∈ tokens before false [] s.lastcommand, Repeats t token

theorem repeats_of_runCommand_pos {before : UInt8} {cmd : List UInt8} {flag : Nat} {con : Con σ}
    (h : 0 < (cliSimpleRunCommand t before cmd flag con).1) :
    ∀ token ∈ tokens before false [] cmd, Repeats t token := by
  rw [cliSimpleRunCommand] at h
  split at h
  · exact absurd h (show ¬(0 : Int) < -1 by decide)
  split at h
  · exact absurd h (show ¬(0 : Int) < -1 by decide)
  · exact (repeats_of_runTokens_pos (le_refl _) h).2.2

/-- **One key.** -/
theorem Sess.Repeatable.key {s s' : Sess σ} {k : Key} (h : s.Repeatable t)
    (hkey : s.key t k = some s') : s'.Repeatable t := by
  rw [Sess.key, Option.map_eq_some_iff] at hkey
  obtain ⟨read, hread, rfl⟩ := hkey
  cases read with
  | more e => exact h
  | done len e =>
      show (cliSimpleLoop t k.before len e s).Repeatable t
      rw [cliSimpleLoop]
      by_cases hlen : len = -1
      · rw [if_pos hlen, hlen]
        exact h
      rw [if_neg hlen]
      generalize (if 0 < len then e.line.takeWhile (· ≠ 0) else s.lastcommand) = last
      generalize hflag : (if len = 0 then cmdFlagRepeat else 0) = flag
      by_cases hret : (cliSimpleRunCommand t k.before last flag s.con).1 ≤ 0
      · exact Or.inl (if_pos hret)
      · refine Or.inr ⟨k.before, ?_⟩
        show ∀ token ∈ tokens k.before false []
          (if (cliSimpleRunCommand t k.before last flag s.con).1 ≤ 0 then [] else last), _
        rw [if_neg hret]
        exact repeats_of_runCommand_pos (not_le.mp hret)

theorem repeatable_of_run {ks : List Key} {con : Con σ} {s : Sess σ}
    (hrun : ks.foldl (Sess.keyRun t) (some (Sess.init con)) = some s) : s.Repeatable t := by
  have hstep : ∀ o (k : Key), (∀ s, o = some s → s.Repeatable t) → True →
      ∀ s, Sess.keyRun t o k = some s → s.Repeatable t := by
    intro o k ho _ s' hs'
    obtain ⟨s, hs, hkey⟩ := Option.bind_eq_some_iff.mp hs'
    exact (ho s hs).key hkey
  have hstart : ∀ s, some (Sess.init con) = some s → s.Repeatable t :=
    fun s hs => Or.inl (Option.some.inj hs ▸ rfl)
  have hinv := Runs.inv_run (P := fun _ (_ : Key) => True) hstep hstart
    ((Runs.allSteps_const (R := fun _ : Key => True) _ ks).mpr fun _ _ => trivial)
  exact hinv s hrun

/--
**What an empty line repeats.**  In any state a session reaches: a return on an empty line runs
the last command again, told that it is a repetition, and then every piece of it has an entry
that may be repeated; or there is no last command, and nothing is run.  With a table that has
no such entry nothing ever is.
-/
theorem empty_line_repeats (t : Table σ) (ks : List Key) (con : Con σ) (s : Sess σ)
    (hrun : ks.foldl (Sess.keyRun t) (some (Sess.init con)) = some s) (hn : s.edit.n = 0)
    (enter : Key) (henter : enter.c = 0x0D ∨ enter.c = 0x0A) :
    ∃ s', s.key t enter = some s' ∧
      (s.lastcommand = [] → s'.con = { s.con with ctrlcWasPressed := false }) ∧
      (s.lastcommand ≠ [] →
        s'.con = (cliSimpleRunCommand t enter.before s.lastcommand cmdFlagRepeat s.con).2 ∧
          ∃ before, ∀ token ∈ tokens before false [] s.lastcommand, Repeats t token) ∧
      ((∀ e ∈ t.registered, e.repeatable = false) →
        s'.con = { s.con with ctrlcWasPressed := false }) := by
  obtain ⟨e, hread, -⟩ := readKey_enter shellSysPrompt s.edit henter
  have hlen : s.edit.line.length = 0 := by rw [Edit.length_line, hn]
  have hkey : s.key t enter = some (cliSimpleLoop t enter.before 0 e s) := by
    rw [Sess.key, hread, hlen]
    rfl
  have hcon : (cliSimpleLoop t enter.before 0 e s).con =
      (cliSimpleRunCommand t enter.before s.lastcommand cmdFlagRepeat s.con).2 := rfl
  have hnone : s.lastcommand = [] →
      (cliSimpleLoop t enter.before 0 e s).con = { s.con with ctrlcWasPressed := false } := by
    intro hlast
    rw [hcon, hlast]
    rfl
  refine ⟨_, hkey, hnone, fun hlast => ⟨hcon, ?_⟩, fun hplain => hnone ?_⟩
  · exact (repeatable_of_run hrun).resolve_left hlast
  · rcases repeatable_of_run hrun with hlast | ⟨before, hall⟩
    · exact hlast
    · by_contra hlast
      obtain ⟨token, htoken⟩ :=
        List.exists_mem_of_ne_nil _ (tokens_ne_nil (Or.inr hlast) before false)
      obtain ⟨e', hfound, hrep⟩ := hall token htoken
      rw [hplain e' (Table.lookup_mem hfound).1] at hrep
      exact absurd hrep (by decide)

/-- A command that may be repeated, typed once and then asked for again. -/
theorem empty_line_repeats_once :
    ∃ s s' : Sess Nat, [Key.mk 0x78 0 0, Key.mk 0x0D 0 0].foldl
        (Sess.keyRun ⟨[⟨[0x78], 1, true, fun flag _ con => (0, { con with dev := con.dev + flag + 1 })⟩],
          by decide⟩) (some (Sess.init ⟨false, [], 0⟩)) = some s ∧
      s.key ⟨[⟨[0x78], 1, true, fun flag _ con => (0, { con with dev := con.dev + flag + 1 })⟩],
        by decide⟩ ⟨0x0D, 0, 0⟩ = some s' ∧ s'.con.dev = 3 := by
  obtain ⟨s', hkey, -, hrepeat, -⟩ := empty_line_repeats
    ⟨[⟨[0x78], 1, true, fun flag _ con => (0, { con with dev := con.dev + flag + 1 })⟩], by decide⟩
    [Key.mk 0x78 0 0, Key.mk 0x0D 0 0] ⟨false, [], 0⟩ _ rfl rfl ⟨0x0D, 0, 0⟩ (Or.inl rfl)
  refine ⟨_, s', rfl, hkey, ?_⟩
  rw [(hrepeat (by decide)).1]
  rfl

end

end SwiftAcu.Shell
