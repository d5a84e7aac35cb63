/-
The task that drives the antenna to a place, `TaskAntennaRecordGoto` of `main.c`, and
`AimAtSatModeSel` of both front ends.

The task is cut where another task may come between: one step reads the angles or the
flag, or gives one command to a motor.  It makes three passes; a pass starts the axes that
are off their aim, and watches them until all are at rest.  The three axes share one text.
What its local variables hold before they are set is left open.  The command is cut the same
way: one test, one stop or one store is a step.  Its operation log is left out.
-/
import SwiftAcu.Acu.Motor
import SwiftAcu.Acu.Position

namespace SwiftAcu.Goto

/-! ### The task -/

/-- Why a motor is stopped. -/
inductive StopReason where
  /-- The axis is at its aim. -/
  | arrived
  /-- It lies on the other side of its aim, or at it. -/
  | turned
  /-- It has not moved for long. -/
  | stuck
  deriving DecidableEq, Repr

/-- Where the task is; `again` is the second try of a command. -/
inductive Pc where
  /-- One of the two loops that wait for `Task_Run_Flag[2]`. -/
  | wait
  /-- `TaskAntennaRecordGoto_Begin`. -/
  | gotoBegin
  | aim (part : AntennaPart)
  | start (part : AntennaPart) (again : Bool)
  | watch (part : AntennaPart)
  | stop (part : AntennaPart) (reason : StopReason) (again : Bool)
  /-- The guard against a motor that does not move. -/
  | guard (part : AntennaPart)
  /-- The end of a round of the watch. -/
  | round
  /-- The three seconds after a pass. -/
  | pause
  /-- `TaskAntennaRecordGoto_END`. -/
  | gotoEnd
  deriving DecidableEq, Repr

/-- Where an `Antenna_AllDriveEnd` is: at a stop, or its second try. -/
structure AllDriveEnd where
  part : AntennaPart
  again : Bool
  /-- A stop before has failed on both tries. -/
  failed : Bool
  /-- The second `Antenna_AllDriveEnd`. -/
  repeated : Bool
  deriving DecidableEq, Repr

/-- Where an `AimAtSatModeSel` is. -/
inductive SelPc where
  /-- The tests of `Task_Run_Flag` that are left. -/
  | test (tests : List (Option UInt8 × Fin 3))
  | stop (d : AllDriveEnd)
  /-- The store of `dev_work_sta` … -/
  | workSta
  | seekSatMode
  /-- `return SUCC`. -/
  | ret
  deriving DecidableEq, Repr

/-- An `AimAtSatModeSel` that has not returned. -/
structure ModeSel where
  mode : UInt8
  pc : SelPc
  deriving DecidableEq, Repr

/-- The local variables of the task. -/
structure Locals where
  dir : AntennaPart → UInt8
  cmpDir : AntennaPart → UInt8
  motorRunFlag : AntennaPart → UInt8
  errCnt : AntennaPart → UInt32
  /-- `aim_position` … -/
  aim : Degrees
  /-- `old_position` … -/
  old : AntennaPart → FP32
  i : Nat

/-- The task, and what it shares with the others. -/
structure Sta where
  pc : Pc
  locals : Locals
  taskRunFlag : Fin 3 → UInt8
  seekSatMode : UInt8
  devWorkSta : UInt8
  antenna : Degrees
  softLimit : SoftLimit
  /-- `aim_position` … of `AntennaParam`. -/
  aim : Degrees
  /-- `aim_position_hand` … -/
  aimHand : Degrees
  elecCoderNum : UInt8
  motorMove : AntennaPart → UInt8
  /-- The `AimAtSatModeSel` under way in a front end. -/
  sel : Front → Option ModeSel

/-- `D_value`. -/
def dValue : AntennaPart → FP32
  | .position => 0.01
  | .cabrage => 0.01
  | .polar => 0.05

/-- Within these an axis counts as not moved. -/
def stillValue : AntennaPart → FP32
  | .position => 0.008
  | .cabrage => 0.008
  | .polar => 0.2

/-- The direction to the aim, or 0. -/
def aimDir (part : AntennaPart) (antenna aim : FP32) : UInt8 :=
  if aim + dValue part < antenna then dirLeftDownAnticlock
  else if antenna < aim - dValue part then dirRightUpClock
  else 0

/-- The polarisation is left out of a device that does not measure it. -/
def Sta.drives (s : Sta) (part : AntennaPart) : Bool := part ≠ .polar || 3 ≤ s.elecCoderNum

/-- What is done after an axis is started, or need not be. -/
def afterStart : AntennaPart → Pc
  | .position => .aim .cabrage
  | .cabrage => .aim .polar
  | .polar => .watch .position

/-- What is done after an axis is watched. -/
def afterWatch : AntennaPart → Pc
  | .position => .watch .cabrage
  | .cabrage => .watch .polar
  | .polar => .round

/-- The `AimAtSatModeSel` of a front end. -/
def Sta.setSel (s : Sta) (front : Front) (c : Option ModeSel) : Sta :=
  { s with sel := Function.update s.sel front c }

/-- `motor_run_flag` of an axis. -/
def Sta.setRun (s : Sta) (part : AntennaPart) (flag : UInt8) : Sta :=
  { s with locals := { s.locals with
      motorRunFlag := Function.update s.locals.motorRunFlag part flag } }

/-- An `Antenna_DriveStart`, and what the power unit would answer. -/
def driveStart (ret : Ret) (part : AntennaPart) (s : Sta) : Ret × Sta :=
  let r := antennaDriveStart (fun _ _ => ret) s.antenna s.softLimit part.id (s.locals.dir part)
    ⟨s.motorMove, []⟩
  (r.1, { s with motorMove := r.2.motorMove })

/-- An `Antenna_DriveEnd`, and what the power unit would answer. -/
def driveEnd (ret : Ret) (part : AntennaPart) (s : Sta) : Ret × Sta :=
  let r := antennaDriveEnd (fun _ _ => ret) part.id ⟨s.motorMove, []⟩
  (r.1, { s with motorMove := r.2.motorMove })

/-- `TaskAntennaRecordGoto_Begin`. -/
def begins (s : Sta) : Sta :=
  let s := { s with taskRunFlag := Function.update s.taskRunFlag 2 1 }
  let s :=
    if s.seekSatMode = 0x04 then
      { s with locals := { s.locals with aim := s.aim }, devWorkSta := 0x40 }
    else if s.seekSatMode = 0x01 then
      { s with locals := { s.locals with aim := s.aimHand }, devWorkSta := 0x10 }
    else s
  { s with
    pc := .aim .position
    locals := { s.locals with motorRunFlag := fun _ => 0, errCnt := fun _ => 0, i := 0 } }

/-- The way to an axis' aim. -/
def aims (part : AntennaPart) (s : Sta) : Sta :=
  if s.drives part then
    let dir := aimDir part (s.antenna.part part) (s.locals.aim.part part)
    let s := { s with locals := { s.locals with dir := Function.update s.locals.dir part dir } }
    if 0 < dir then { s with pc := .start part false }
    else { s.setRun part 0 with pc := afterStart part }
  else { s with pc := afterStart part }

/-- The start of an axis. -/
def starts (ret : Ret) (part : AntennaPart) (again : Bool) (s : Sta) : Sta :=
  match driveStart ret part s with
  | (.SUCC, s) => { s.setRun part 1 with pc := afterStart part }
  | (.FAIL, s) => { s with pc := if again then .gotoEnd else .start part true }

/-- The look at an axis that runs. -/
def watches (part : AntennaPart) (s : Sta) : Sta :=
  if s.drives part && 0 < s.locals.motorRunFlag part then
    let dir := aimDir part (s.antenna.part part) (s.locals.aim.part part)
    let s := { s with locals := { s.locals with
      cmpDir := Function.update s.locals.cmpDir part dir } }
    if dir = 0 then { s with pc := .stop part .arrived false }
    else if s.locals.dir part ≠ dir then { s with pc := .stop part .turned false }
    else { s with pc := .guard part }
  else { s with pc := afterWatch part }

/-- What is done after an axis is stopped. -/
def afterStop (s : Sta) (part : AntennaPart) : StopReason → Pc
  | .arrived =>
    if s.locals.dir part ≠ s.locals.cmpDir part then .stop part .turned false else .guard part
  | .turned => .guard part
  | .stuck => afterWatch part

/-- The stop of an axis. -/
def stops (ret : Ret) (part : AntennaPart) (reason : StopReason) (again : Bool) (s : Sta) : Sta :=
  match driveEnd ret part s with
  | (.SUCC, s) => { s.setRun part 0 with pc := afterStop s part reason }
  | (.FAIL, s) => { s with pc := if again then .gotoEnd else .stop part reason true }

/-- The guard against a motor that does not move. -/
def guards (part : AntennaPart) (s : Sta) : Sta :=
  let old := s.locals.old part
  let antenna := s.antenna.part part
  if old ≤ antenna + stillValue part ∧ antenna - stillValue part ≤ old then
    let cnt := s.locals.errCnt part + 1
    { s with
      locals := { s.locals with errCnt := Function.update s.locals.errCnt part cnt }
      pc := if 1000 < cnt then .stop part .stuck false else afterWatch part }
  else
    { s with
      locals := { s.locals with
        old := Function.update s.locals.old part antenna
        errCnt := Function.update s.locals.errCnt part 0 }
      pc := afterWatch part }

/-- All three motors are at rest, as far as the task knows. -/
def Locals.AtRest (l : Locals) : Prop :=
  l.motorRunFlag .position = 0 ∧ l.motorRunFlag .cabrage = 0 ∧ l.motorRunFlag .polar = 0

instance (l : Locals) : Decidable l.AtRest := inferInstanceAs (Decidable (_ ∧ _ ∧ _))

/-- The end of a round: only here the flag is looked at. -/
def rounds (s : Sta) : Sta :=
  if s.locals.AtRest then { s with pc := .pause }
  else if s.taskRunFlag 2 = 0 then { s with pc := .gotoEnd }
  else { s with pc := .watch .position }

/-- The end of a pass. -/
def pauses (s : Sta) : Sta :=
  let i := s.locals.i + 1
  { s with
    locals := { s.locals with i }
    pc := if i < 3 then .aim .position else .gotoEnd }

/-- `TaskAntennaRecordGoto_END`. -/
def ends (s : Sta) : Sta :=
  let s := { s with pc := .wait, taskRunFlag := Function.update s.taskRunFlag 2 0 }
  if s.seekSatMode = 0x00 then { s with devWorkSta := 0x00 }
  else if s.seekSatMode = 0x04 then { s with seekSatMode := 0x00, devWorkSta := 0x00 }
  else if s.seekSatMode = 0x01 then { s with devWorkSta := 0x11 }
  else s

/-- One step of the task, and what the power unit answers if a command is given. -/
def taskAntennaRecordGoto (ret : Ret) (s : Sta) : Sta :=
  match s.pc with
  | .wait => if s.taskRunFlag 2 = 1 then { s with pc := .gotoBegin } else s
  | .gotoBegin => begins s
  | .aim part => aims part s
  | .start part again => starts ret part again s
  | .watch part => watches part s
  | .stop part reason again => stops ret part reason again s
  | .guard part => guards part s
  | .round => rounds s
  | .pause => pauses s
  | .gotoEnd => ends s

/-! ### The commands -/

/-- `TaskAntennaRecordGotoCreate`. -/
def taskAntennaRecordGotoCreate (s : Sta) : Sta :=
  { s with taskRunFlag := Function.update s.taskRunFlag 2 1 }

/-- One of the three `…Del`, if the task runs. -/
def taskDel (i : Fin 3) (s : Sta) : Sta :=
  if 0 < s.taskRunFlag i then { s with taskRunFlag := Function.update s.taskRunFlag i 0 } else s

/-- The tests of an `AimAtSatModeSel`: the `SeekSat_Mode` a test is made in, if not in any, and
the task it ends. -/
def selTests (mode : UInt8) : List (Option UInt8 × Fin 3) :=
  if mode = 0x01 ∨ mode = 0x02 ∨ mode = 0x03 then [(none, 0), (none, 1), (none, 2)]
  else if mode = 0x00 then [(some 0x01, 2), (some 0x02, 0), (some 0x04, 2), (some 0x03, 1)]
  else []

/-- The working state of a mode. -/
def modeWorkSta (mode : UInt8) : UInt8 :=
  if mode = 0x01 then 0x11 else if mode = 0x02 then 0x20 else if mode = 0x03 then 0x30 else 0x00

/-- What comes after a stop of an `Antenna_AllDriveEnd` and its answer: a second try after a
failed one, the next axis, or a second `Antenna_AllDriveEnd` after a failed one. -/
def AllDriveEnd.next (ret : Ret) (d : AllDriveEnd) : Option AllDriveEnd :=
  if ret = .FAIL ∧ ¬ d.again then some { d with again := true }
  else
    let failed := d.failed || ret = .FAIL
    match d.part with
    | .position => some { d with part := .cabrage, again := false, failed }
    | .cabrage => some { d with part := .polar, again := false, failed }
    | .polar => if failed && !d.repeated then some ⟨.position, false, false, true⟩ else none

/-- An `AimAtSatModeSel` comes in.  A mode it does not know is only taken down. -/
def aimAtSatModeSel (front : Front) (mode : UInt8) (s : Sta) : Sta :=
  match s.sel front with
  | some _ => s
  | none => s.setSel front (some ⟨mode, if mode ≤ 0x03 then .test (selTests mode) else .seekSatMode⟩)

/-- One step of an `AimAtSatModeSel`, and what the power unit answers if it gives a stop.  A task
that is created here sets its flag itself. -/
def aimAtSatModeSelStep (ret : Ret) (front : Front) (c : ModeSel) (s : Sta) : Sta :=
  match c.pc with
  | .test [] => s.setSel front (some { c with pc := .stop ⟨.position, false, false, false⟩ })
  | .test ((seekSatMode, i) :: tests) =>
    let s := if seekSatMode.all (· = s.seekSatMode) then taskDel i s else s
    s.setSel front (some { c with pc := .test tests })
  | .stop d =>
    let r := driveEnd ret d.part s
    r.2.setSel front (some { c with pc := (d.next r.1).elim .workSta .stop })
  | .workSta =>
    { s with devWorkSta := modeWorkSta c.mode }.setSel front (some { c with pc := .seekSatMode })
  | .seekSatMode =>
    { s with seekSatMode := c.mode }.setSel front (some { c with pc := .ret })
  | .ret => s.setSel front none

end SwiftAcu.Goto
