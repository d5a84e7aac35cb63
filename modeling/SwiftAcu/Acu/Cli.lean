/-
The command interpreter of the shell, `cli_simple.c`.

A line is cut at each `;` that is not quoted, the macros of each piece are replaced, the piece
is split into words, and the command of that name is run.  Strings are lists of the bytes in
front of their end.  `envval` is always a null pointer, so that a macro is replaced by nothing.
-/
import SwiftAcu.Acu.Command

namespace SwiftAcu.Shell

/-- `cli_simple_parse_line`. -/
def cliSimpleParseLine (line : List UInt8) : List (List UInt8) := parseArgs shellSysMaxargs line

/-! ### Macros -/

/-- The variable `state` of `cli_simple_process_macros`: what it waits for. -/
inductive Waiting where
  /-- State 0: an unescaped `$`. -/
  | dollar
  /-- State 1: `(` or `{`. -/
  | open
  /-- State 2: `)` or `}`. -/
  | close
  /-- State 3: the other `'`. -/
  | quote
  deriving DecidableEq, Repr

/-- The variables of its loop. -/
structure Macros where
  prev : UInt8
  state : Waiting
  output : List UInt8
  outputcnt : Nat
  deriving DecidableEq, Repr

namespace Macros

/-- `*(output++) = c; outputcnt--;`. -/
def put (c : UInt8) (m : Macros) : Macros :=
  { m with output := m.output ++ [c], outputcnt := m.outputcnt - 1 }

/-- The `switch`, and `prev = c` behind it. -/
def char (c : UInt8) (m : Macros) : Macros :=
  let m' :=
    match m.state with
    | .dollar =>
      if c = 0x27 ∧ m.prev ≠ 0x5C then { m with state := .quote }
      else if c = 0x24 ∧ m.prev ≠ 0x5C then { m with state := .open }
      else m.put c
    | .open =>
      if c = 0x28 ∨ c = 0x7B then { m with state := .close }
      else
        let m := { m with state := .dollar }.put 0x24
        if m.outputcnt = 0 then m else m.put c
    | .close => if c = 0x29 ∨ c = 0x7D then { m with state := .dollar } else m
    | .quote => if c = 0x27 ∧ m.prev ≠ 0x5C then { m with state := .dollar } else m.put c
  { m' with prev := c }

/-- The loop, which takes an escape and the byte behind it in one round. -/
def loop (m : Macros) : List UInt8 → Macros
  | [] => m
  | c :: input =>
    if m.outputcnt = 0 then m
    else if m.state ≠ .quote ∧ c = 0x5C ∧ m.prev ≠ 0x5C then
      match input with
      | [] => m
      | c' :: input => loop ({ m with prev := 0x5C }.char c') input
    else loop (m.char c) input

end Macros

/-- `cli_simple_process_macros`: where the output is full its last byte gives way to the end. -/
def cliSimpleProcessMacros (input : List UInt8) : List UInt8 :=
  let m := Macros.loop ⟨0, .dollar, [], shellSysCbsize⟩ input
  if m.outputcnt ≠ 0 then m.output else m.output.dropLast

/-! ### Commands -/

/--
The pieces of a line.  `token` is what lies between `str` and `sep`, and `prev` is the byte in
front of `sep`: at the start of `cmdbuf` whatever the stack holds there, at the start of a
later piece the 0 that ended the piece before.
-/
def tokens : UInt8 → Bool → List UInt8 → List UInt8 → List (List UInt8)
  | _, _, token, [] => if token = [] then [] else [token]
  | prev, inquotes, token, c :: sep =>
    let inquotes := if c = 0x27 ∧ prev ≠ 0x5C then !inquotes else inquotes
    if inquotes = false ∧ c = 0x3B ∧ token ≠ [] ∧ prev ≠ 0x5C then
      token :: tokens 0 false [] sep
    else tokens c inquotes (token ++ [c]) sep

section
variable {σ : Type}

/-- `repeatable` and `rc` of `cli_simple_run_command`, and the console. -/
structure Run (σ : Type) where
  repeatable : Bool
  rc : Int
  con : Con σ

/-- The loop over the pieces. -/
def runTokens (t : Table σ) (flag : Nat) : List (List UInt8) → Run σ → Int × Con σ
  | [], r => (if r.rc ≠ 0 then r.rc else if r.repeatable then 1 else 0, r.con)
  | token :: tokens, r =>
    let argv := cliSimpleParseLine (cliSimpleProcessMacros token)
    if argv = [] then runTokens t flag tokens { r with rc := -1 }
    else
      let p := cmdProcess t flag argv r.repeatable r.con
      if p.2.2.ctrlcWasPressed then (-1, p.2.2)
      else runTokens t flag tokens ⟨p.2.1, if p.1 ≠ 0 then -1 else r.rc, p.2.2⟩

/-- `cli_simple_run_command`. -/
def cliSimpleRunCommand (t : Table σ) (before : UInt8) (cmd : List UInt8) (flag : Nat)
    (con : Con σ) : Int × Con σ :=
  let con := { con with ctrlcWasPressed := false }
  if cmd = [] then (-1, con)
  else if shellSysCbsize ≤ cmd.length then (-1, con)
  else runTokens t flag (tokens before false [] cmd) ⟨true, 0, con⟩

/-! ### The shell -/

/-- `TaskShell`: the line that is typed, `lastcommand`, and the console. -/
structure Sess (σ : Type) where
  edit : Edit
  lastcommand : List UInt8
  con : Con σ

/-- `cli_readline`: `console_buffer` is emptied and the prompt is printed. -/
def cliReadline (buffer : Nat → UInt8) (out : List UInt8) : Edit :=
  Edit.start buffer shellSysPrompt out

/-- `"<INTERRUPT>\n"`. -/
def interrupted : List UInt8 :=
  [0x3C, 0x49, 0x4E, 0x54, 0x45, 0x52, 0x52, 0x55, 0x50, 0x54, 0x3E, 0x0A]

/-- `cli_simple_loop` from where `cli_readline` returns `len`, up to the next `cli_readline`. -/
def cliSimpleLoop (t : Table σ) (before : UInt8) (len : Int) (e : Edit) (s : Sess σ) : Sess σ :=
  let lastcommand := if 0 < len then e.line.takeWhile (· ≠ 0) else s.lastcommand
  let flag := if len = 0 then cmdFlagRepeat else 0
  if len = -1 then
    ⟨cliReadline e.buffer (e.out ++ interrupted), lastcommand, s.con⟩
  else
    let r := cliSimpleRunCommand t before lastcommand flag s.con
    ⟨cliReadline e.buffer e.out, if r.1 ≤ 0 then [] else lastcommand, r.2⟩

/-- A key at the console. -/
def Sess.key (t : Table σ) (s : Sess σ) (k : Key) : Option (Sess σ) :=
  (readKey shellSysPrompt s.edit k).map fun
    | .more e => { s with edit := e }
    | .done len e => cliSimpleLoop t k.before len e s

/-- A run; `none` from where the source leaves open what happens. -/
def Sess.keyRun (t : Table σ) (s : Option (Sess σ)) (k : Key) : Option (Sess σ) :=
  s.bind fun s => s.key t k

/-- The shell behind `APP_Shell_Init`, in front of the first key. -/
def Sess.init (con : Con σ) : Sess σ := ⟨cliReadline (fun _ => 0) [], [], con⟩

end

end SwiftAcu.Shell
