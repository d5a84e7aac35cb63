/-
The line editor of the shell, `cli_readline_into_buffer` of `cli_readline.c`.

`TaskShell` is the one task that `TaskCreate` starts: it reads a line from the console, key by
key, and runs it.  The pointer `p` of the source is always `buffer + n`, so that `n` alone is
kept here; what lies in the buffer from `n` on is what was typed there before, and the loop
of `^W` looks at it.  What `cputs` and `cputc` send is kept byte by byte.

A tab calls `cmd_auto_complete`, which does nothing at any prompt but the shell's.  Its variable
`i` is never set: the call that would set it is commented out.  What the stack holds there comes
with the key; where it is not 0 the function goes on with pointers that were never written, and
`none` stands for that.
-/
import SwiftAcu.Acu.Basic
import SwiftAcu.Lib.Memory

namespace SwiftAcu.Shell

/-- `SHELL_SYS_CBSIZE`. -/
abbrev shellSysCbsize : Nat := 64

/-- `SHELL_SYS_MAXARGS`. -/
abbrev shellSysMaxargs : Nat := 16

/-- `SHELL_SYS_PROMPT`, `"andisat #"`. -/
def shellSysPrompt : List UInt8 := [0x61, 0x6E, 0x64, 0x69, 0x73, 0x61, 0x74, 0x20, 0x23]

/-- `isblank`. -/
def IsBlank (c : UInt8) : Prop := c = 0x20 ∨ c = 0x09

instance (c : UInt8) : Decidable (IsBlank c) := inferInstanceAs (Decidable (_ ∨ _))

/-- The loop of `cli_simple_parse_line` and of `make_argv`, with room for `nargs` arguments. -/
def parseArgs : Nat → List UInt8 → List (List UInt8)
  | 0, _ => []
  | nargs + 1, line =>
    let line := line.dropWhile (IsBlank ·)
    if line = [] then []
    else
      line.takeWhile (¬IsBlank ·) ::
        parseArgs nargs ((line.dropWhile (¬IsBlank ·)).drop 1)

/-- `erase_seq`, `"\b \b"`. -/
def eraseSeq : List UInt8 := [0x08, 0x20, 0x08]

/-- `tab_seq + (col & 07)`. -/
def tabSeq (col : Nat) : List UInt8 := List.replicate (8 - col % 8) 0x20

/-- The buffer, its index and the column, and what was sent to the console. -/
structure Edit where
  buffer : Nat → UInt8
  n : Nat
  col : Nat
  out : List UInt8

namespace Edit

/-- In front of the first key: the prompt is printed and `console_buffer[0]` is 0. -/
def start (buffer : Nat → UInt8) (prompt out : List UInt8) : Edit :=
  ⟨Function.update buffer 0 0, 0, prompt.length, out ++ prompt⟩

/-- What has been typed. -/
def line (e : Edit) : List UInt8 := Memory.read e.buffer 0 e.n

/-- `while (*colp > plen) { cputs(erase_seq); (*colp)--; }`. -/
def eraseCols (plen : Nat) (e : Edit) : Edit :=
  { e with
    col := min e.col plen
    out := e.out ++ (List.replicate (e.col - plen) eraseSeq).flatten }

/-- One byte of a line that is typed again. -/
def retype (e : Edit) (c : UInt8) : Edit :=
  if c = 0x09 then
    { e with out := e.out ++ tabSeq e.col, col := e.col + (8 - e.col % 8) }
  else { e with out := e.out ++ [c], col := e.col + 1 }

/-- `delete_char`. -/
def deleteChar (plen : Nat) (e : Edit) : Edit :=
  if e.n = 0 then e
  else
    let p := e.n - 1
    if e.buffer p = 0x09 then
      { (Memory.read e.buffer 0 p).foldl retype (e.eraseCols plen) with n := p }
    else { e with n := p, col := e.col - 1, out := e.out ++ eraseSeq }

/-- `while ((n > 0) && (*p != ' ')) p = delete_char(...)`, which takes at most `n` rounds. -/
def eraseWord (plen : Nat) : Nat → Edit → Edit
  | 0, e => e
  | fuel + 1, e =>
    if 0 < e.n ∧ e.buffer e.n ≠ 0x20 then eraseWord plen fuel (deleteChar plen e) else e

/-- `*p++ = c; ++n;`. -/
def put (c : UInt8) (e : Edit) : Edit :=
  { e with buffer := Function.update e.buffer e.n c, n := e.n + 1 }

/-- A tab that is typed: `puts(tab_seq + (col & 07))` goes to the C library, not to the console. -/
def putTab (e : Edit) : Edit := { e with col := e.col + (8 - e.col % 8) }.put 0x09

/--
The key of a tab.  `cmd_auto_complete` leaves it to its caller where the prompt is not the one of
the shell.  With `i` at 0 it finds no match: behind a first word it leaves the tab to its caller,
else it rings the bell, which is a `putc` of the C library, and is done.
-/
def tab (prompt : List UInt8) (i : Int) (e : Edit) : Option Edit :=
  let e := { e with buffer := Function.update e.buffer e.n 0 }
  if prompt ≠ shellSysPrompt then some e.putTab
  else if i ≠ 0 then none
  else if 1 < (parseArgs shellSysMaxargs e.line).length then some e.putTab
  else some e

end Edit

/-- A key, and what the stack holds while it is dealt with. -/
structure Key where
  c : UInt8
  /-- Where `cmd_auto_complete` has its `i`. -/
  i : Int
  /-- The byte in front of `cmdbuf` in `cli_simple_run_command`. -/
  before : UInt8

/-- A line that goes on, or one that ends with what `cli_readline_into_buffer` returns. -/
inductive Read where
  | more (e : Edit)
  | done (len : Int) (e : Edit)

/-- One round of the loop of `cli_readline_into_buffer`. -/
def readKey (prompt : List UInt8) (e : Edit) (k : Key) : Option Read :=
  if k.c = 0x0D ∨ k.c = 0x0A then
    some (.done e.n
      { e with buffer := Function.update e.buffer e.n 0, out := e.out ++ [0x0D, 0x0A] })
  else if k.c = 0x00 then some (.more e)
  else if k.c = 0x03 then some (.done (-1) { e with buffer := Function.update e.buffer 0 0 })
  else if k.c = 0x15 then some (.more { e.eraseCols prompt.length with n := 0 })
  else if k.c = 0x17 then
    let e := e.deleteChar prompt.length
    some (.more (e.eraseWord prompt.length e.n))
  else if k.c = 0x08 ∨ k.c = 0x7F then some (.more (e.deleteChar prompt.length))
  else if e.n < shellSysCbsize - 2 then
    if k.c = 0x09 then (e.tab prompt k.i).map .more
    else some (.more ({ e with col := e.col + 1, out := e.out ++ [k.c] }.put k.c))
  else some (.more { e with out := e.out ++ [0x07] })

end SwiftAcu.Shell
