/-
A word of memory written from the console.

`m` takes an address and a value in hexadecimal.  Followed from the keys: the two words reach
the command as they were typed, `strtoul` gives back the numbers they spell, and the four bytes
at the address are the value, lowest first, while every other byte stays.  That is so where the
word lies in RAM that holds nothing of the program.
-/
import SwiftAcu.Proofs.Shell.Typed

namespace SwiftAcu.Shell

/-! ### Hexadecimal words -/

/-- The number that digits of base 16 stand for. -/
def hexNumber (ds : List UInt8) : Nat := ds.foldl (fun n c => 16 * n + (hexValue c).getD 0) 0

/-- Digits of base 16, with or without `0x` in front, whose number is `v`. -/
def Spells (w : List UInt8) (v : UInt32) : Prop :=
  ∃ pre ds, w = pre ++ ds ∧ pre ∈ ([[], [0x30, 0x78], [0x30, 0x58]] : List (List UInt8)) ∧
    ds ≠ [] ∧ (∀ c ∈ ds, (hexValue c).isSome) ∧ hexNumber ds = v.toNat

theorem le_of_hexValue {c : UInt8} (h : (hexValue c).isSome) : 0x30 ≤ c ∧ c ≤ 0x66 := by
  simp only [hexValue, UInt8.le_iff_toNat_le] at h ⊢
  split at h
  · next hc =>
      exact ⟨hc.1, hc.2.trans (by decide)⟩
  split at h
  · next hc => exact ⟨le_trans (by decide) hc.1, hc.2.trans (by decide)⟩
  split at h
  · next hc => exact ⟨le_trans (by decide) hc.1, hc.2⟩
  · cases h

theorem hexDigits_eq_foldl {ds : List UInt8} (h : ∀ c ∈ ds, (hexValue c).isSome) (n : Nat) :
    hexDigits n ds = ds.foldl (fun n c => 16 * n + (hexValue c).getD 0) n := by
  induction ds generalizing n with
  | nil => rfl
  | cons c ds ih =>
      obtain ⟨hc, hds⟩ := List.forall_mem_cons.mp h
      obtain ⟨d, hd⟩ := Option.isSome_iff_exists.mp hc
      rw [hexDigits, hd, List.foldl_cons, hd]
      exact ih hds _

theorem skipHexPrefix_digits {ds : List UInt8} (h : ∀ c ∈ ds, (hexValue c).isSome) :
    skipHexPrefix ds = ds := by
  unfold skipHexPrefix
  split
  · next x c cs =>
      have hx : (hexValue x).isSome := h x (by simp)
      rw [if_neg]
      rintro ⟨rfl | rfl, -⟩
      · exact absurd hx (by decide)
      · exact absurd hx (by decide)
  · rfl

theorem skipHexPrefix_prefix {x : UInt8} (hx : x = 0x78 ∨ x = 0x58) {ds : List UInt8}
    (hne : ds ≠ []) (h : ∀ c ∈ ds, (hexValue c).isSome) :
    skipHexPrefix (0x30 :: x :: ds) = ds := by
  obtain ⟨c, cs, rfl⟩ := List.exists_cons_of_ne_nil hne
  rw [skipHexPrefix, if_pos ⟨hx, h c (List.mem_cons_self ..)⟩]

/-- **`strtoul`** reads what the digits spell. -/
theorem strtoul16_of_spells {w : List UInt8} {v : UInt32} (h : Spells w v) : strtoul16 w = v := by
  obtain ⟨pre, ds, rfl, hpre, hne, hds, hnum⟩ := h
  have hskip : skipHexPrefix (pre ++ ds) = ds := by
    simp only [List.mem_cons, List.not_mem_nil, or_false] at hpre
    rcases hpre with rfl | rfl | rfl
    · exact skipHexPrefix_digits hds
    · exact skipHexPrefix_prefix (Or.inl rfl) hne hds
    · exact skipHexPrefix_prefix (Or.inr rfl) hne hds
  obtain ⟨c, cs, hcons⟩ := List.exists_cons_of_ne_nil
    (show pre ++ ds ≠ [] from List.append_ne_nil_of_right_ne_nil pre hne)
  -- the first byte is a digit: no space is skipped, and there is no sign
  have hc : (hexValue c).isSome := by
    simp only [List.mem_cons, List.not_mem_nil, or_false] at hpre
    rcases hpre with rfl | rfl | rfl
    · exact hds c (by rw [← List.nil_append ds, hcons]; exact List.mem_cons_self ..)
    · obtain ⟨rfl, -⟩ := List.cons_eq_cons.mp hcons
      decide
    · obtain ⟨rfl, -⟩ := List.cons_eq_cons.mp hcons
      decide
  have hspace : ¬IsSpace c := by
    have hle := UInt8.le_iff_toNat_le.mp (le_of_hexValue hc).1
    rintro (rfl | ⟨-, hhigh⟩)
    · exact absurd hc (by decide)
    · exact absurd (hle.trans (UInt8.le_iff_toNat_le.mp hhigh)) (by decide)
  have hsign : ¬(c = 0x2D ∨ c = 0x2B) := by
    rintro (rfl | rfl)
    · exact absurd hc (by decide)
    · exact absurd hc (by decide)
  have hdrop : (pre ++ ds).dropWhile (IsSpace ·) = pre ++ ds := by
    rw [hcons, List.dropWhile_cons_of_neg]
    simpa using hspace
  have hnumber : hexDigits 0 ds = v.toNat := (hexDigits_eq_foldl hds 0).trans hnum
  have hhead : (pre ++ ds).headD 0 = c := by rw [hcons, List.headD_cons]
  rw [strtoul16, hdrop, hhead, if_neg hsign, hskip, hnumber,
    if_neg (Nat.not_le.mpr v.toNat_lt), if_neg fun h => hsign (Or.inl h), UInt32.ofNat_toNat]

/-- What such a word looks like to the shell. -/
theorem Spells.word {w : List UInt8} {v : UInt32} (h : Spells w v) :
    w ≠ [] ∧ ∀ c ∈ w, ¬Special c ∧ Glyph c ∧ c ≠ 0x20 := by
  obtain ⟨pre, ds, rfl, hpre, hne, hds, -⟩ := h
  refine ⟨List.append_ne_nil_of_right_ne_nil pre hne, List.forall_mem_append.mpr ⟨?_, ?_⟩⟩
  · simp only [List.mem_cons, List.not_mem_nil, or_false] at hpre
    rcases hpre with rfl | rfl | rfl
    · exact fun c hc => absurd hc (List.not_mem_nil)
    · exact forall_of_all rfl
    · exact forall_of_all rfl
  · intro c hc
    have hdigit := hds c hc
    have hne : ∀ d : UInt8, (hexValue d).isSome = false → c ≠ d := fun d hd heq => by
      rw [heq, hd] at hdigit
      cases hdigit
    refine ⟨?_, ⟨?_, hne 0x7F (by decide)⟩, hne 0x20 (by decide)⟩
    · rintro (rfl | rfl | rfl | rfl) <;> exact absurd hdigit (by decide)
    · exact UInt8.le_trans (show (0x20 : UInt8) ≤ 0x30 by decide) (le_of_hexValue hdigit).1

theorem quote_of_plain {w : List UInt8} (h : ∀ c ∈ w, ¬Special c) (bs : Bool) :
    quoteFrom bs w = w := by
  induction w generalizing bs with
  | nil => rfl
  | cons c w ih =>
      obtain ⟨hc, hw⟩ := List.forall_mem_cons.mp h
      rw [quoteFrom, if_neg fun hq => hc hq.2, ih hw]

/-! ### The store -/

/-- The word at an address, the lowest byte first. -/
def wordAt (mem : UInt32 → UInt8) (addr : UInt32) : Nat :=
  (mem addr).toNat + 2 ^ 8 * (mem (addr + 1)).toNat + 2 ^ 16 * (mem (addr + 2)).toNat +
    2 ^ 24 * (mem (addr + 3)).toNat

theorem storeWord_at (mem : UInt32 → UInt8) (addr val : UInt32) {i : UInt32} (hi : i < 4) :
    storeWord mem addr val (addr + i) = (val >>> (8 * i)).toUInt8 := by
  have hsub : addr + i - addr = i := by rw [UInt32.add_comm, UInt32.add_sub_cancel]
  rw [storeWord, hsub, if_pos hi]

theorem wordAt_storeWord (mem : UInt32 → UInt8) (addr val : UInt32) :
    wordAt (storeWord mem addr val) addr = val.toNat := by
  have h0 := storeWord_at mem addr val (show (0 : UInt32) < 4 by decide)
  have h1 := storeWord_at mem addr val (show (1 : UInt32) < 4 by decide)
  have h2 := storeWord_at mem addr val (show (2 : UInt32) < 4 by decide)
  have h3 := storeWord_at mem addr val (show (3 : UInt32) < 4 by decide)
  have hlt := val.toNat_lt
  rw [UInt32.add_zero] at h0
  rw [wordAt, h0, h1, h2, h3]
  simp only [UInt32.toNat_toUInt8, UInt32.toNat_shiftRight]
  simp only [show (8 * 0 : UInt32).toNat % 32 = 0 by decide,
    show (8 * 1 : UInt32).toNat % 32 = 8 by decide,
    show (8 * 2 : UInt32).toNat % 32 = 16 by decide,
    show (8 * 3 : UInt32).toNat % 32 = 24 by decide, Nat.shiftRight_eq_div_pow]
  omega

/-- `m` with an address and a value, each spelled in some way, on one line. -/
structure Store where
  wa : List UInt8
  wv : List UInt8
  addr : UInt32
  val : UInt32
  spellsAddr : Spells wa addr
  spellsVal : Spells wv val
  room : wa.length + wv.length + 3 ≤ shellSysCbsize - 2

namespace Store

variable (w : Store)

/-- The line as it is typed. -/
def line : List UInt8 := [0x6D, 0x20] ++ w.wa ++ 0x20 :: w.wv

/-- What it does to memory. -/
def apply (mem : UInt32 → UInt8) : UInt32 → UInt8 := storeWord mem w.addr w.val

theorem lineText_eq : lineText [[[0x6D], w.wa, w.wv]] = w.line := by
  have ha := quote_of_plain (fun c hc => (w.spellsAddr.word.2 c hc).1) false
  have hv := quote_of_plain (fun c hc => (w.spellsVal.word.2 c hc).1) false
  show quoteFrom false [0x6D] ++ 0x20 :: (quoteFrom false w.wa ++ 0x20 :: quoteFrom false w.wv) =
    w.line
  rw [ha, hv, line]
  rfl

theorem typable : Typable [[[0x6D], w.wa, w.wv]] := by
  have ha := w.spellsAddr.word
  have hv := w.spellsVal.word
  refine ⟨List.cons_ne_nil _ _, ?_, ?_, ?_⟩
  · exact List.forall_mem_singleton.mpr ⟨List.cons_ne_nil _ _, show 3 ≤ 16 by decide⟩
  · refine List.forall_mem_singleton.mpr (List.forall_mem_cons.mpr
      ⟨⟨List.cons_ne_nil _ _, forall_of_all rfl⟩, ?_⟩)
    exact List.forall_mem_cons.mpr ⟨⟨ha.1, fun c hc => (ha.2 c hc).2⟩,
      List.forall_mem_singleton.mpr ⟨hv.1, fun c hc => (hv.2 c hc).2⟩⟩
  · have hroom := w.room
    rw [lineText_eq, line]
    simp only [List.length_append, List.length_cons, List.length_nil]
    omega

/-- Its word lies in RAM that holds nothing of the program. -/
def Spare (b : Board) : Prop := wholeWord b.spare w.addr = true

theorem command (con : Con Board) (h : con.ctrlcWasPressed = false)
    (hrunning : con.dev.course = .running) (hspare : w.Spare con.dev) :
    Con.command appShellInit con [[0x6D], w.wa, w.wv] =
      { con with dev := { con.dev with mem := w.apply con.dev.mem } } := by
  rw [Con.command, if_neg (by simp [h])]
  show (modifyMemory 0 [[0x6D], w.wa, w.wv] con).2 = _
  rw [modifyMemory, if_neg (show ¬([[0x6D], w.wa, w.wv] : List (List UInt8)).length ≠ 3 by simp)]
  show con.act (.store (strtoul16 w.wa) (strtoul16 w.wv)) = _
  rw [strtoul16_of_spells w.spellsAddr, strtoul16_of_spells w.spellsVal, Con.act, Board.act,
    if_neg (not_not.mpr hrunning)]
  dsimp only
  rw [if_pos (show wholeWord con.dev.spare w.addr = true from hspare)]
  rfl

/-- **One line.** -/
theorem typed (s : Sess Board) (hstart : s.edit.n = 0) (hrunning : s.con.dev.course = .running)
    (hspare : w.Spare s.con.dev) {ks : List Key} (hks : ks.map Key.c = w.line ++ [0x0D]) :
    ∃ s', ks.foldl (Sess.keyRun appShellInit) (some s) = some s' ∧
      s'.con.dev = { s.con.dev with mem := w.apply s.con.dev.mem } ∧ s'.edit.n = 0 := by
  obtain ⟨body, last, rfl, hbody, hlast⟩ := List.map_eq_append_iff.mp hks
  obtain ⟨enter, rest, rfl, henter, hrest⟩ := List.map_eq_cons_iff.mp hlast
  obtain rfl := List.map_eq_nil_iff.mp hrest
  obtain ⟨s', hrun, hcon, hn⟩ := typed_commands_run appShellInit s hstart w.typable body
    (hbody.trans w.lineText_eq.symm) enter (Or.inl henter)
  refine ⟨s', hrun, ?_, hn⟩
  have hcommand := w.command { s.con with ctrlcWasPressed := false } rfl hrunning hspare
  rw [hcon, List.foldl_cons, List.foldl_nil, hcommand]

end Store

theorem storeWord_outside {mem : UInt32 → UInt8} {addr val x : UInt32} (h : 4 ≤ x - addr) :
    storeWord mem addr val x = mem x := by
  rw [storeWord, if_neg (UInt32.not_lt.mpr h)]

theorem foldl_apply_outside {ws : List Store} {x : UInt32} (h : ∀ w ∈ ws, 4 ≤ x - w.addr)
    (mem : UInt32 → UInt8) : ws.foldl (fun mem w => w.apply mem) mem x = mem x := by
  induction ws generalizing mem with
  | nil => rfl
  | cons w ws ih =>
      obtain ⟨hw, hws⟩ := List.forall_mem_cons.mp h
      rw [List.foldl_cons, ih hws]
      exact storeWord_outside hw

theorem foldl_apply_last {ws : List Store} {w : Store} (h : ws.getLast? = some w)
    (mem : UInt32 → UInt8) :
    wordAt (ws.foldl (fun mem w => w.apply mem) mem) w.addr = w.val.toNat := by
  obtain ⟨pre, rfl⟩ := List.getLast?_eq_some_iff.mp h
  rw [List.foldl_append]
  exact wordAt_storeWord ..

/--
**What is stored from the console.**  From any session of a running device at the start of a line,
typing any number of `m` commands for words of RAM that holds nothing of the program, the address
and the value of each in any of their hexadecimal spellings, stores these words one after the
other: the last of them is what is read at its address, a byte that lies in none of them stays,
nothing is reset, and the shell is at the start of a line again.
-/
theorem typed_stores (ws : List Store) (s : Sess Board) (hstart : s.edit.n = 0)
    (hrunning : s.con.dev.course = .running) (hspare : ∀ w ∈ ws, w.Spare s.con.dev)
    (ks : List Key) (hks : ks.map Key.c = (ws.map fun w => w.line ++ [0x0D]).flatten) :
    ∃ s', ks.foldl (Sess.keyRun appShellInit) (some s) = some s' ∧
      s'.con.dev = { s.con.dev with mem := ws.foldl (fun mem w => w.apply mem) s.con.dev.mem } ∧
      (∀ w, ws.getLast? = some w → wordAt s'.con.dev.mem w.addr = w.val.toNat) ∧
      (∀ x, (∀ w ∈ ws, 4 ≤ x - w.addr) → s'.con.dev.mem x = s.con.dev.mem x) ∧
      s'.edit.n = 0 := by
  have hrun : ∃ s', ks.foldl (Sess.keyRun appShellInit) (some s) = some s' ∧
      s'.con.dev = { s.con.dev with mem := ws.foldl (fun mem w => w.apply mem) s.con.dev.mem } ∧
      s'.edit.n = 0 := by
    induction ws generalizing s ks with
    | nil =>
        rw [List.map_eq_nil_iff.mp hks]
        exact ⟨s, rfl, rfl, hstart⟩
    | cons w ws ih =>
        rw [List.map_cons, List.flatten_cons] at hks
        obtain ⟨line, rest, rfl, hline, hrest⟩ := List.map_eq_append_iff.mp hks
        obtain ⟨hw, hws⟩ := List.forall_mem_cons.mp hspare
        obtain ⟨s₁, hrun₁, hdev₁, hn₁⟩ := w.typed s hstart hrunning hw hline
        -- the store has left it open to the next one which words are spare
        obtain ⟨s', hrun', hdev', hn'⟩ := ih s₁ hn₁ (by rw [hdev₁]; exact hrunning)
          (by rw [hdev₁]; exact hws) rest hrest
        refine ⟨s', ?_, ?_, hn'⟩
        · rw [List.foldl_append, hrun₁]
          exact hrun'
        · rw [hdev', hdev₁]
          rfl
  obtain ⟨s', hkeys, hdev, hn⟩ := hrun
  refine ⟨s', hkeys, hdev, fun w hw => ?_, fun x hx => ?_, hn⟩
  · rw [hdev]
    exact foldl_apply_last hw _
  · rw [hdev]
    exact foldl_apply_outside hx _

/-- A board whose program holds the first half of the RAM. -/
def halfBoard : Board := ⟨fun x => x < 0x20010000, fun _ => 0, .running⟩

/-- Two words that overlap, one with and one without `0x`. -/
theorem typed_stores_two : ∃ s',
    ([0x6D, 0x20, 0x30, 0x78, 0x32, 0x30, 0x30, 0x31, 0x30, 0x30, 0x30, 0x33, 0x20, 0x46, 0x66,
      0x0D, 0x6D, 0x20, 0x32, 0x30, 0x30, 0x31, 0x30, 0x30, 0x30, 0x35, 0x20, 0x31, 0x30,
      0x0D].map fun c => Key.mk c 0 0).foldl
        (Sess.keyRun appShellInit) (some (Sess.init ⟨false, [], halfBoard⟩)) = some s' ∧
      wordAt s'.con.dev.mem 0x20010005 = 16 := by
  obtain ⟨s', hrun, -, hlast, -⟩ := typed_stores
    [⟨[0x30, 0x78, 0x32, 0x30, 0x30, 0x31, 0x30, 0x30, 0x30, 0x33], [0x46, 0x66], 0x20010003, 0xFF,
        ⟨[0x30, 0x78], [0x32, 0x30, 0x30, 0x31, 0x30, 0x30, 0x30, 0x33], rfl, by decide, by decide,
          forall_of_all rfl, rfl⟩,
        ⟨[], [0x46, 0x66], rfl, by decide, by decide, forall_of_all rfl, rfl⟩, by decide⟩,
      ⟨[0x32, 0x30, 0x30, 0x31, 0x30, 0x30, 0x30, 0x35], [0x31, 0x30], 0x20010005, 0x10,
        ⟨[], [0x32, 0x30, 0x30, 0x31, 0x30, 0x30, 0x30, 0x35], rfl, by decide, by decide,
          forall_of_all rfl, rfl⟩,
        ⟨[], [0x31, 0x30], rfl, by decide, by decide, forall_of_all rfl, rfl⟩, by decide⟩]
    (Sess.init ⟨false, [], halfBoard⟩) rfl rfl
    (List.forall_mem_cons.mpr ⟨by rfl, List.forall_mem_singleton.mpr (by rfl)⟩)
    ([0x6D, 0x20, 0x30, 0x78, 0x32, 0x30, 0x30, 0x31, 0x30, 0x30, 0x30, 0x33, 0x20, 0x46, 0x66,
      0x0D, 0x6D, 0x20, 0x32, 0x30, 0x30, 0x31, 0x30, 0x30, 0x30, 0x35, 0x20, 0x31, 0x30,
      0x0D].map fun c => Key.mk c 0 0) rfl
  exact ⟨s', hrun, hlast _ rfl⟩

end SwiftAcu.Shell
