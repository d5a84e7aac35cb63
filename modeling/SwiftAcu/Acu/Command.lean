/-
The command table of the shell, `command.c`, and the commands of `cmd_help.c`, `cmd_ver.c`,
`cmd_d.c`, `cmd_m.c` and `cmd_reset.c`.

What the commands print is left to the C library and kept out here; what they return, whether
they looked for a `^C`, and what they do to the device stays.  The table has 32 entries.
Behind the registered ones the name is a null pointer, and what `strncmp` compares with there
is the first word of the vector table, the end of the stack `0x20020000`: an empty string.

`m` stores where it is told to, and `d` reads.  Which bytes of the RAM hold something of the
program is the linker's choice, and comes with the board; what an access anywhere else does is
left open, but for the word that resets the device.
-/
import SwiftAcu.Acu.Readline

namespace SwiftAcu.Shell

/-- `MAX_CMD_LINE`. -/
abbrev maxCmdLine : Nat := 32

/-- `CMD_RET_USAGE`. -/
abbrev cmdRetUsage : Int := -1

/-- `CMD_FLAG_REPEAT`. -/
abbrev cmdFlagRepeat : Nat := 0x0001

/-- The console while commands run, and the device they act on. -/
structure Con (σ : Type) where
  /-- `ctrlc_was_pressed`. -/
  ctrlcWasPressed : Bool
  /-- What the next calls of `ctstc` and `cgetc` will find. -/
  polls : List (Option UInt8)
  dev : σ

/-- A function of the table. -/
abbrev CmdFn (σ : Type) : Type := Nat → List (List UInt8) → Con σ → Int × Con σ

/-- `struct cmd_tbl_s`. -/
structure CmdTbl (σ : Type) where
  name : List UInt8
  maxargs : Nat
  repeatable : Bool
  cmd : CmdFn σ

section
variable {σ : Type}

/-- An entry that was never registered. -/
def CmdTbl.unused : CmdTbl σ := ⟨[], 0, false, fun _ _ con => (0, con)⟩

/-- The entries registered, in the order they came. -/
structure Table (σ : Type) where
  registered : List (CmdTbl σ)
  room : registered.length ≤ maxCmdLine

/-- `cmd_tbl`. -/
def Table.entries (t : Table σ) : List (CmdTbl σ) :=
  t.registered ++ List.replicate (maxCmdLine - t.registered.length) CmdTbl.unused

/-- `cmd_register`. -/
def cmdRegister (t : Table σ) (e : CmdTbl σ) : Ret × Table σ :=
  if h : t.registered.length < maxCmdLine then
    (.SUCC, ⟨t.registered ++ [e], by rw [List.length_append]; exact h⟩)
  else (.FAIL, t)

/-- The loop of `find_cmd_tbl`. -/
def findLoop (cmd : List UInt8) :
    List (CmdTbl σ) → Option (CmdTbl σ) → Nat → Option (CmdTbl σ)
  | [], cmdtp_temp, n_found => if n_found = 1 then cmdtp_temp else none
  | cmdtp :: table, cmdtp_temp, n_found =>
    if cmd <+: cmdtp.name then
      if cmd.length = cmdtp.name.length then some cmdtp
      else findLoop cmd table (some cmdtp) (n_found + 1)
    else findLoop cmd table cmdtp_temp n_found

/-- `find_cmd_tbl`. -/
def findCmdTbl (cmd : List UInt8) (table : List (CmdTbl σ)) : Option (CmdTbl σ) :=
  findLoop cmd table table.head? 0

/-- `find_cmd`. -/
def findCmd (t : Table σ) (cmd : List UInt8) : Option (CmdTbl σ) := findCmdTbl cmd t.entries

/-- `ctrlc`. -/
def ctrlc (con : Con σ) : Bool × Con σ :=
  match con.polls with
  | [] => (false, con)
  | none :: polls => (false, { con with polls })
  | some c :: polls =>
    if c = 0x03 then (true, { con with ctrlcWasPressed := true, polls })
    else (false, { con with polls })

/-- `cmd_process`; the number is `*repeatable`. -/
def cmdProcess (t : Table σ) (flag : Nat) (argv : List (List UInt8)) (repeatable : Bool)
    (con : Con σ) : Int × Bool × Con σ :=
  match findCmd t (argv.headD []) with
  | none => (1, repeatable, con)
  | some cmdtp =>
    if cmdtp.maxargs < argv.length then (1, repeatable, con)
    else
      let r := cmdtp.cmd flag argv con
      (if r.1 = cmdRetUsage then 1 else r.1, repeatable && cmdtp.repeatable, r.2)

/-! ### The commands of the device -/

/-- The list of `_do_help`, which looks for a `^C` in front of every entry. -/
def helpLoop : Nat → Con σ → Int × Con σ
  | 0, con => (0, con)
  | items + 1, con =>
    let r := ctrlc con
    if r.1 then (1, r.2) else helpLoop items r.2

/-- `do_help`: with arguments it explains each of them, and `cmd_usage` returns 1. -/
def doHelp : CmdFn σ := fun _ argv con =>
  if argv.length = 1 then helpLoop maxCmdLine con else (1, con)

/-- `show_version`. -/
def showVersion : CmdFn σ := fun _ _ con => (0, con)

end

/-- What has become of the program on the device. -/
inductive Course where
  | running
  /-- It is reset. -/
  | reset
  /-- A command has reached behind the memory; what the device does then is not in the source. -/
  | unknown
  deriving DecidableEq

/-- What the commands act on. -/
structure Board where
  /-- The bytes of RAM that hold something of the program: its data, its heap and its stacks. -/
  used : UInt32 → Bool
  mem : UInt32 → UInt8
  course : Course

namespace Board

/-- `FLASH` of `stm32f207flash.ld`. -/
def flash (x : UInt32) : Bool := 0x08000000 ≤ x && x < 0x08080000

/-- `RAM` of `stm32f207flash.ld`. -/
def ram (x : UInt32) : Bool := 0x20000000 ≤ x && x < 0x20020000

/-- RAM that holds nothing of the program. -/
def spare (b : Board) (x : UInt32) : Bool := ram x && !b.used x

end Board

/-- A board whose program holds all of the RAM. -/
def fullBoard : Board := ⟨fun _ => true, fun _ => 0, .running⟩

/-- All four bytes of the word at an address. -/
def wholeWord (p : UInt32 → Bool) (addr : UInt32) : Bool :=
  p addr && p (addr + 1) && p (addr + 2) && p (addr + 3)

/-- `&SCB->AIRCR`. -/
abbrev aircr : UInt32 := 0xE000ED0C

/-- `SCB_AIRCR_VECTKEY_Pos` with its key, `SCB_AIRCR_SYSRESETREQ_Msk`, and no other request. -/
def RequestsReset (addr val : UInt32) : Prop := addr = aircr ∧ val &&& 0xFFFF0007 = 0x05FA0004

instance (addr val : UInt32) : Decidable (RequestsReset addr val) :=
  inferInstanceAs (Decidable (_ ∧ _))

/-- `isspace`. -/
def IsSpace (c : UInt8) : Prop := c = 0x20 ∨ 0x09 ≤ c ∧ c ≤ 0x0D

instance (c : UInt8) : Decidable (IsSpace c) := inferInstanceAs (Decidable (_ ∨ _))

/-- The value of a digit of base 16. -/
def hexValue (c : UInt8) : Option Nat :=
  if 0x30 ≤ c ∧ c ≤ 0x39 then some (c.toNat - 0x30)
  else if 0x41 ≤ c ∧ c ≤ 0x46 then some (c.toNat - 0x41 + 10)
  else if 0x61 ≤ c ∧ c ≤ 0x66 then some (c.toNat - 0x61 + 10)
  else none

/-- The digits at the front of a string, as a number without bound. -/
def hexDigits (acc : Nat) : List UInt8 → Nat
  | [] => acc
  | c :: cs =>
    match hexValue c with
    | none => acc
    | some d => hexDigits (16 * acc + d) cs

/-- `0x` in front of a digit is skipped. -/
def skipHexPrefix : List UInt8 → List UInt8
  | 0x30 :: x :: c :: cs =>
    if (x = 0x78 ∨ x = 0x58) ∧ (hexValue c).isSome then c :: cs else 0x30 :: x :: c :: cs
  | cs => cs

/-- `strtoul(s, NULL, 16)`, with `unsigned long` of 32 bits. -/
def strtoul16 (s : List UInt8) : UInt32 :=
  let s := s.dropWhile (IsSpace ·)
  let sign := s.headD 0
  let num := hexDigits 0 (skipHexPrefix (if sign = 0x2D ∨ sign = 0x2B then s.drop 1 else s))
  if 2 ^ 32 ≤ num then 0xFFFFFFFF
  else if sign = 0x2D then 0 - UInt32.ofNat num
  else UInt32.ofNat num

/-- `*addr = val` in memory, the lowest byte first. -/
def storeWord (mem : UInt32 → UInt8) (addr val : UInt32) : UInt32 → UInt8 := fun x =>
  if x - addr < 4 then (val >>> (8 * (x - addr))).toUInt8 else mem x

/-- What a command does to the device. -/
inductive Deed where
  /-- `*addr`. -/
  | load (addr : UInt32)
  /-- `*addr = val`. -/
  | store (addr val : UInt32)
  /-- `BSP_SoftReset`. -/
  | softReset

/-- What becomes of the board, which does nothing for a program that does not run. -/
def Board.act (b : Board) (deed : Deed) : Board :=
  if b.course ≠ .running then b
  else
    match deed with
    | .load addr =>
      if wholeWord (fun x => Board.flash x || Board.ram x) addr then b
      else { b with course := .unknown }
    | .store addr val =>
      if wholeWord b.spare addr then { b with mem := storeWord b.mem addr val }
      else if RequestsReset addr val then { b with course := .reset }
      else { b with course := .unknown }
    | .softReset => { b with course := .reset }

/-- The same at the console. -/
def Con.act (con : Con Board) (deed : Deed) : Con Board := { con with dev := con.dev.act deed }

/-- `show_memory`. -/
def showMemory : CmdFn Board := fun _ argv con =>
  if argv.length ≠ 2 then (-1, con) else (0, con.act (.load (strtoul16 (argv.getD 1 []))))

/-- `modify_memory`. -/
def modifyMemory : CmdFn Board := fun _ argv con =>
  if argv.length ≠ 3 then (-1, con)
  else (0, con.act (.store (strtoul16 (argv.getD 1 [])) (strtoul16 (argv.getD 2 []))))

/-- `do_reset`.  `BSP_SoftReset` does not return: nothing that a session goes on with changes the
board any more. -/
def doReset : CmdFn Board := fun _ _ con => (0, con.act .softReset)

/-- `APP_Shell_Init` registers these, in this order. -/
def appShellCmds : List (CmdTbl Board) :=
  [⟨[0x68, 0x65, 0x6C, 0x70], shellSysMaxargs, false, doHelp⟩,
   ⟨[0x3F], shellSysMaxargs, false, doHelp⟩,
   ⟨[0x76, 0x65, 0x72], shellSysMaxargs, false, showVersion⟩,
   ⟨[0x64], shellSysMaxargs, false, showMemory⟩,
   ⟨[0x6D], shellSysMaxargs, false, modifyMemory⟩,
   ⟨[0x72, 0x65, 0x73, 0x65, 0x74], 1, false, doReset⟩]

/-- The table behind `APP_Shell_Init`. -/
def appShellInit : Table Board :=
  appShellCmds.foldl (fun t e => (cmdRegister t e).2) ⟨[], Nat.zero_le _⟩

end SwiftAcu.Shell
