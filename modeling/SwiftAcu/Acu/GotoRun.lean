/-
Runs of the driving task and what comes between its steps.

Commands of either front end, the monitor and the other tasks may run between any two
steps, and a command may be under way in each front end.  Whether a cancel has returned,
which axes the task has started and nobody has given a stop since, and of which axes the
task gave the last start that was answered, is kept next to the state; the controller does
not know it.
-/
import SwiftAcu.Acu.Goto
import SwiftAcu.Lib.Runs

namespace SwiftAcu.Goto

/-- What happens. -/
inductive Action where
  /-- A step of `TaskAntennaRecordGoto`, and what the power unit would answer. -/
  | task (ret : Ret)
  | measure (antenna : Degrees)
  /-- An `AimAtSatModeSel` comes in … -/
  | modeSel (front : Front) (mode : UInt8)
  /-- … and goes a step on; what the power unit would answer. -/
  | modeSelStep (front : Front) (ret : Ret)
  /-- A `TaskAntennaRecordGotoCreate` of some command. -/
  | create
  /-- A `TaskAntennaRecordGotoDel` of some command or of the monitor. -/
  | del
  /-- A start or a stop of some other task. -/
  | drive (antenna_part direction : UInt8) (ret : Ret)
  | driveEnd (antenna_part : UInt8) (ret : Ret)
  /-- What the other commands change that the task reads. -/
  | others (satelliteTrack gradientTrack seekSatMode devWorkSta elecCoderNum : UInt8)
      (aim aimHand : Degrees) (softLimit : SoftLimit)

/-- One action. -/
def step (s : Sta) : Action → Sta
  | .task ret => taskAntennaRecordGoto ret s
  | .measure antenna => { s with antenna }
  | .modeSel front mode => aimAtSatModeSel front mode s
  | .modeSelStep front ret =>
    match s.sel front with
    | some c => aimAtSatModeSelStep ret front c s
    | none => s
  | .create => taskAntennaRecordGotoCreate s
  | .del => taskDel 2 s
  | .drive part direction ret =>
    { s with motorMove := (antennaDriveStart (fun _ _ => ret) s.antenna s.softLimit part direction
        ⟨s.motorMove, []⟩).2.motorMove }
  | .driveEnd part ret =>
    { s with motorMove := (antennaDriveEnd (fun _ _ => ret) part ⟨s.motorMove, []⟩).2.motorMove }
  | .others satelliteTrack gradientTrack seekSatMode devWorkSta elecCoderNum aim aimHand
      softLimit =>
    { s with
      taskRunFlag := fun i =>
        if i = 0 then satelliteTrack else if i = 1 then gradientTrack else s.taskRunFlag 2
      seekSatMode, devWorkSta, elecCoderNum, aim, aimHand, softLimit }

/-- The state, whether the move is cancelled, the axes that wait for a stop, and those whose last
start was the task's. -/
structure Watch where
  sta : Sta
  cancelled : Bool
  owed : AntennaPart → Bool
  byTask : AntennaPart → Bool

/-- A command with one of the modes that end every move is about to return. -/
def Sta.cancels (s : Sta) (front : Front) : Bool :=
  s.sel front = some ⟨0x00, .ret⟩ || s.sel front = some ⟨0x01, .ret⟩

/-- The axes that wait for a stop, after an action. -/
def Watch.owes (w : Watch) : Action → AntennaPart → Bool
  | .task ret =>
    match w.sta.pc with
    | .start part _ =>
      if (driveStart ret part w.sta).1 = .SUCC then Function.update w.owed part true else w.owed
    | .stop part _ _ => Function.update w.owed part false
    | _ => w.owed
  | .modeSelStep front _ =>
    match w.sta.sel front with
    | some ⟨_, .stop d⟩ => Function.update w.owed d.part false
    | _ => w.owed
  | .driveEnd antenna_part _ =>
    match AntennaPart.ofId antenna_part with
    | some part => Function.update w.owed part false
    | none => w.owed
  | _ => w.owed

/-- The axes whose last start was the task's, after an action. -/
def Watch.startedBy (w : Watch) : Action → AntennaPart → Bool
  | .task ret =>
    match w.sta.pc with
    | .start part _ =>
      if (driveStart ret part w.sta).1 = .SUCC then Function.update w.byTask part true
      else w.byTask
    | _ => w.byTask
  | .drive antenna_part direction ret =>
    match AntennaPart.ofId antenna_part with
    | some part =>
      if (antennaDriveStart (fun _ _ => ret) w.sta.antenna w.sta.softLimit antenna_part direction
          ⟨w.sta.motorMove, []⟩).1 = .SUCC then
        Function.update w.byTask part false
      else w.byTask
    | none => w.byTask
  | _ => w.byTask

/-- One action, watched. -/
def Watch.step (w : Watch) (a : Action) : Watch :=
  { sta := Goto.step w.sta a
    cancelled := match a with
      | .modeSelStep front _ => w.cancelled || w.sta.cancels front
      | .create => false
      | _ => w.cancelled
    owed := w.owes a
    byTask := w.startedBy a }

/-- The device as it starts: the task waits, and no command is under way. -/
def Watch.boot (s : Sta) : Watch :=
  { sta := { s with pc := .wait, taskRunFlag := fun _ => 0, motorMove := fun _ => 0,
                    sel := fun _ => none }
    cancelled := false
    owed := fun _ => false
    byTask := fun _ => false }

end SwiftAcu.Goto
