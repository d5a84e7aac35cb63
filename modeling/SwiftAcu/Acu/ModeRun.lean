/-
The tracking tasks, `TaskSatelliteTrack` and `TaskSatGradientTrack` of `main.c`, and runs of
commands and tasks.

A task that has been created is not yet running, and its `Task_Run_Flag` is not yet set: the
task sets it itself once it is scheduled.  Every statement of a task is a step, and anything
may come between two of them.  So is every part of a command: the stops, the log and the
EEPROM take their time, and a command may be under way in each front end.  What a part has
done to the tasks is done to the kernel's view of them.  A task that is created a second time
starts over.
-/
import SwiftAcu.Acu.ModeSel
import SwiftAcu.Acu.Position
import SwiftAcu.Lib.Runs

namespace SwiftAcu.Mode

variable [SoftFloat]

/-- Where a tracking task is. -/
inductive Pc where
  /-- Not created, or deleted. -/
  | dormant
  /-- `Task_Run_Flag[…] = 1` comes next. -/
  | created
  /-- `if( … SeekSat_Mode == … )`. -/
  | look
  /-- `SeekSat_Mode = 0x00`. -/
  | clearMode
  /-- `dev_work_sta = 0x00`. -/
  | clearWorkSta
  /-- `Task_Run_Flag[0] = 0`. -/
  | clearFlag
  /-- `OSTaskDel` of itself. -/
  | taskDel
  deriving DecidableEq, Repr

/-- A part of a mode command. -/
inductive Part where
  /-- `if( Task_Run_Flag[…] > 0 )`, and `…Del`. -/
  | taskDelIfRun (t : TaskId)
  /-- `if( … SeekSat_Mode == … )`, and the end of that mode. -/
  | endMode (mode : UInt8) (t : TaskId) (code : Nat)
  /-- `if( … SeekSat_Mode != 0x00)`. -/
  | leaveMode
  /-- Of the tasks that run, the first is deleted. -/
  | oneTaskDel (ts : List TaskId)
  | setMode (mode : UInt8)
  /-- `Antenna_AllDriveEnd`, for the first time or again. -/
  | allDriveEnd (again : Bool)
  | setWorkSta (sta : UInt8)
  | taskCreate (t : TaskId)
  | optLog (code : Nat)
  /-- The record is looked up and read … -/
  | findRecord (id : UInt8)
  /-- … and compared, and its satellite is taken over. -/
  | setCurrSatParam (r : Recalled)
  | setFreq (r : Recalled)
  /-- `history_max_mv`. -/
  | setHistory (r : Recalled)
  /-- The aim, and `SeekSat_Mode = 0x04`. -/
  | setAim (r : Recalled)
  | optLogPose
  | currSatParamSave
  /-- `dev_param_reflash_flag`, and `dev_work_sta`. -/
  | setReflash
  /-- `SeekSat_Mode = …`, and `return SUCC`. -/
  | returnMode (mode : UInt8)
  /-- `TaskAntennaRecordGotoCreate`, and `return SUCC`. -/
  | returnCreate
  | returnFail

/-- A command under way: the mode it selects, and what is left of it. -/
structure Running where
  mode : UInt8
  rest : List Part

/-- The device, the kernel's view of the tracking tasks, and the commands under way. -/
structure World where
  sta : Sta
  pc : TaskId → Pc
  cmds : Front → Option Running

/-- The mode a task belongs to. -/
def TaskId.mode : TaskId → UInt8
  | .satelliteTrack => 0x02
  | .satGradientTrack => 0x03
  | .antennaRecordGoto => 0x04

/-- The two tasks that are created and deleted; the third always exists. -/
def TaskId.isTracking (t : TaskId) : Bool := t ≠ .antennaRecordGoto

/-! ### The tasks -/

/-- A task that is being scheduled goes on. -/
def World.goto (w : World) (t : TaskId) (pc : Pc) : World :=
  { w with pc := Function.update w.pc t pc }

/-- `Task_Run_Flag[…]` is set by the task itself. -/
def World.setFlag (w : World) (t : TaskId) (flag : UInt8) : World :=
  { w with sta := { w.sta with taskRunFlag := Function.update w.sta.taskRunFlag t flag } }

/-- A step that both tasks make alike; behind it comes `rest`. -/
def World.track (t : TaskId) (rest : Pc) (w : World) : World :=
  match w.pc t with
  | .created => (w.setFlag t 1).goto t .look
  | .look => if w.sta.seekSatMode = t.mode then w.goto t .clearMode else w.goto t rest
  | .clearMode => { w with sta := { w.sta with seekSatMode := 0x00 } }.goto t .clearWorkSta
  | .clearWorkSta => { w with sta := { w.sta with devWorkSta := 0x00 } }.goto t rest
  | .clearFlag => (w.setFlag t 0).goto t .taskDel
  | .taskDel => w.goto t .dormant
  | .dormant => w

/-- One step of `TaskSatelliteTrack`. -/
def taskSatelliteTrack : World → World := World.track .satelliteTrack .clearFlag

/-- One step of `TaskSatGradientTrack`, which loops. -/
def taskSatGradientTrack : World → World := World.track .satGradientTrack .look

/-- One step of `TaskAntennaRecordGoto` at `TaskAntennaRecordGoto_END`; before and behind that it
is `dormant` here. -/
def taskAntennaRecordGotoEnd (w : World) : World :=
  match w.pc .antennaRecordGoto with
  | .dormant => (w.setFlag .antennaRecordGoto 0).goto .antennaRecordGoto .look
  | .look =>
    if w.sta.seekSatMode = 0x00 then w.goto .antennaRecordGoto .clearWorkSta
    else if w.sta.seekSatMode = 0x04 then w.goto .antennaRecordGoto .clearMode
    else if w.sta.seekSatMode = 0x01 then
      { w with sta := { w.sta with devWorkSta := 0x11 } }.goto .antennaRecordGoto .dormant
    else w.goto .antennaRecordGoto .dormant
  | .clearMode =>
    { w with sta := { w.sta with seekSatMode := 0x00 } }.goto .antennaRecordGoto .clearWorkSta
  | .clearWorkSta =>
    { w with sta := { w.sta with devWorkSta := 0x00 } }.goto .antennaRecordGoto .dormant
  | _ => w

/-! ### The kernel -/

/-- What an act does to the tasks: `OSTaskDel` and `OSTaskCreate`. -/
def kernel (pc : TaskId → Pc) : Act → TaskId → Pc
  | .taskDel t => if t.isTracking then Function.update pc t .dormant else pc
  | .taskCreate t => if t.isTracking then Function.update pc t .created else pc
  | _ => pc

/-- What a command has done so far. -/
def Cmd.kernel (pc : TaskId → Pc) (c : Cmd) : TaskId → Pc := c.acts.foldl Mode.kernel pc

/-- A part of a command is over. -/
def World.after (w : World) (c : Cmd) : World := { w with sta := c.toSta, pc := c.kernel w.pc }

/-! ### The commands -/

/-- The power unit, the EEPROM and the receiver, as a part meets them; `history_max_mv` is the
address of that field. -/
structure Env where
  pdu : Pdu
  faults : Faults
  beacon : UInt32 → Ret
  history_max_mv : UInt32

/-- What the two texts write differently. -/
def logCode : Front → Nat → Nat → Nat
  | .pc, pc, _ => pc
  | .oled, _, oled => oled

/-- What a front end reads from a record. -/
def gotoRecord : Front → List UInt8 → Recalled
  | .pc => pcGotoRecord
  | .oled => oledGotoRecord

/-- The tests of the modes that end every task. -/
def tasksDelParts : List Part :=
  [.taskDelIfRun .satelliteTrack, .taskDelIfRun .satGradientTrack,
    .taskDelIfRun .antennaRecordGoto]

/-- `AimAtSatModeSel` of a front end, behind the test of its datagram. -/
def modeSelParts (front : Front) (mode : UInt8) : List Part :=
  (if mode = 0x01 then
    tasksDelParts ++ [.allDriveEnd false,
      .optLog (logCode front logOptHandAimStarBeginByPc logOptHandAimStarBeginByOled),
      .setWorkSta 0x11]
  else if mode = 0x02 then
    tasksDelParts ++ [.allDriveEnd false, .setWorkSta 0x20, .taskCreate .satelliteTrack,
      .optLog (logCode front logOptAutoAimStarBeginByPc logOptAutoAimStarBeginByOled)]
  else if mode = 0x03 then
    tasksDelParts ++ [.allDriveEnd false, .setWorkSta 0x30, .taskCreate .satGradientTrack,
      .optLog (logCode front logOptFollowStarBeginByPc logOptFollowStarBeginByOled)]
  else if mode = 0x00 then
    [.endMode 0x01 .antennaRecordGoto
        (logCode front logOptHandAimStarEndByPc logOptHandAimStarEndByOled),
      .endMode 0x02 .satelliteTrack
        (logCode front logOptAutoAimStarEndByPc logOptAutoAimStarEndByOled),
      .endMode 0x04 .antennaRecordGoto
        (logCode front logOptAntennaPoseStopByPc logOptAntennaPoseStopByOled),
      .endMode 0x03 .satGradientTrack
        (logCode front logOptFollowStarEndByPc logOptFollowStarEndByOled),
      .allDriveEnd false, .setWorkSta 0x00]
  else []) ++ [.returnMode mode]

/-- `AntennaRecordGoto`. -/
def recordGotoParts (rxbuff : Nat → UInt8) : List Part :=
  [.leaveMode,
    if cmdIdOf rxbuff ≠ CmdId.antennaRecordGoto.id then .returnFail else .findRecord (rxbuff 3)]

/-- What becomes of a command in one part, and what comes next in it. -/
def Part.exec (front : Front) (env : Env) (c : Cmd) : Part → Cmd × List Part
  | .taskDelIfRun t => (c.taskDelIfRun t, [])
  | .endMode mode t code => (c, if c.seekSatMode = mode then [.taskDelIfRun t, .optLog code] else [])
  | .leaveMode =>
    (c, if c.seekSatMode ≠ 0x00 then
        [.oneTaskDel [.antennaRecordGoto, .satGradientTrack, .satelliteTrack], .setMode 0x00,
          .allDriveEnd false]
      else [])
  | .oneTaskDel [] => (c, [])
  | .oneTaskDel (t :: ts) =>
    if 0 < c.taskRunFlag t then (c.taskDel t, []) else (c, [.oneTaskDel ts])
  | .setMode mode => (c.setMode mode, [])
  | .allDriveEnd again =>
    let r := c.allDriveEnd env.pdu
    (r.2, if r.1 = .FAIL ∧ ¬ again then [.allDriveEnd true] else [])
  | .setWorkSta sta => (c.setWorkSta sta, [])
  | .taskCreate t => (c.taskCreate t, [])
  | .optLog code => (c.optLog code, [])
  | .findRecord id =>
    (c, match c.recordOf env.faults id with
      | none => [.returnFail]
      | some buff => [.setCurrSatParam (gotoRecord front buff)])
  | .setCurrSatParam r =>
    if c.otherAntenna r then (c, [.returnFail]) else (c.setCurrSatParam r, [.setFreq r])
  | .setFreq r =>
    let f := c.setFreq env.beacon (beaconFreq r.freq c.device.antennaParam.loFreq)
    (f.2, if f.1 = .FAIL then [.returnFail] else [.setHistory r])
  | .setHistory r =>
    ({ c with
      historyMaxMv := r.agcMv.toNat
      agcMaxMv := r.agcMv.toNat
      device := { c.device with
        eeprom := (env.faults.historyMaxMvSave env.history_max_mv c.device.eeprom).2 } },
      [.setAim r])
  | .setAim r =>
    ({ c with aim := ⟨r.position, r.cabrage, r.polar⟩, seekSatMode := 0x04 },
      [.optLogPose, .currSatParamSave, .setReflash, .returnCreate])
  | .optLogPose =>
    ({ c with
      acts := c.acts ++ [.optLogPose (logCode front logOptAntennaPoseAppByPc logOptAntennaPoseAppByOled)
        c.device.currSatParam c.device.antennaParam c.aim] }, [])
  | .currSatParamSave =>
    ({ c with device := { c.device with
      eeprom := (env.faults.currSatParamSave c.device.currSatParam c.device.eeprom).2 } }, [])
  | .setReflash => ({ c with devParamReflashFlag := fun _ => 0x01, devWorkSta := 0x40 }, [])
  | .returnMode mode => (c.setMode mode, [])
  | .returnCreate => (c.taskCreate .antennaRecordGoto, [])
  | .returnFail => (c, [])

/-- What a command returns in a part, if it does. -/
def Part.ret : Part → Option Ret
  | .returnMode _ => some .SUCC
  | .returnCreate => some .SUCC
  | .returnFail => some .FAIL
  | _ => none

/-- One part of the command of a front end. -/
def World.go (w : World) (front : Front) (env : Env) : World :=
  match w.cmds front with
  | none => w
  | some ⟨_, []⟩ => w
  | some ⟨mode, p :: rest⟩ =>
    let r := p.exec front env w.sta.begin
    { w.after r.1 with
      cmds := Function.update w.cmds front
        (if p.ret = none then some ⟨mode, r.2 ++ rest⟩ else none) }

/-- A command comes in; a front end has one at a time. -/
def World.comeIn (w : World) (front : Front) (mode : UInt8) (parts : List Part) : World :=
  match w.cmds front with
  | some _ => w
  | none => { w with cmds := Function.update w.cmds front (some ⟨mode, parts⟩) }

/-! ### Runs -/

/-- What happens. -/
inductive Event where
  | aimAtSatModeSel (front : Front) (rxbuff : Nat → UInt8)
  | antennaRecordGoto (front : Front) (rxbuff : Nat → UInt8)
  /-- The command of a front end goes a part on. -/
  | go (front : Front) (env : Env)
  /-- `TaskEthRelink` creates the task of the mode. -/
  | ethRelink
  /-- `TaskAntennaRecordGotoCreate` of another command. -/
  | gotoCreate
  | satelliteTrack
  | satGradientTrack
  | antennaRecordGotoEnd

/-- What a command returns. -/
def Event.ret (w : World) : Event → Option Ret
  | .go front _ =>
    match w.cmds front with
    | some ⟨_, p :: _⟩ => p.ret
    | _ => none
  | _ => none

/-- The part of `TaskEthRelink` that creates a task. -/
def taskEthRelink (w : World) : World :=
  let c := w.sta.begin
  if w.sta.seekSatMode = 0x02 then w.after (c.taskCreate .satelliteTrack)
  else if w.sta.seekSatMode = 0x03 then w.after (c.taskCreate .satGradientTrack)
  else if w.sta.seekSatMode = 0x04 then w.after (c.taskCreate .antennaRecordGoto)
  else w

/-- One event. -/
def step (w : World) : Event → World
  | .aimAtSatModeSel front rxbuff =>
    if isAimAtSatModeSel rxbuff then w.comeIn front (rxbuff 3) (modeSelParts front (rxbuff 3)) else w
  | .antennaRecordGoto front rxbuff => w.comeIn front 0x04 (recordGotoParts rxbuff)
  | .go front env => w.go front env
  | .ethRelink => taskEthRelink w
  | .gotoCreate => w.after (w.sta.begin.taskCreate .antennaRecordGoto)
  | .satelliteTrack => taskSatelliteTrack w
  | .satGradientTrack => taskSatGradientTrack w
  | .antennaRecordGotoEnd => taskAntennaRecordGotoEnd w

/-- The device comes up: it takes up the mode it was reset in, or none. -/
def boot (s : Sta) : World :=
  let mode := if 0 < ethRelinkResetMcuFlagRead s.device.eeprom
    then aimAtSatModeRead s.device.eeprom else 0x00
  { sta := { s with taskRunFlag := fun _ => 0, seekSatMode := mode }
    pc := fun _ => .dormant
    cmds := fun _ => none }

/-! ### Agreement -/

/-- No tracking task but that of the mode has been created. -/
def World.Agrees (w : World) : Prop :=
  ∀ t, t.isTracking = true → w.pc t ≠ .dormant → t.mode = w.sta.seekSatMode

/-- What is asked of an event: the mode is one of the five, and where a command returns `SUCC`
the tasks agree with it. -/
def Holds (w : World) (e : Event) : Prop :=
  (step w e).sta.seekSatMode ≤ 0x04 ∧ (e.ret w = some .SUCC → (step w e).Agrees)

/-- A part behind which a task may still be deleted, or the command fail. -/
def Part.concerns (t : TaskId) : Part → Bool
  | .taskDelIfRun u => t = u
  | .endMode _ u _ => t = u
  | .findRecord _ | .setCurrSatParam _ | .setFreq _ | .setHistory _ | .setAim _ => true
  | .returnFail => true
  | _ => false

/-- The command has made all its tests of a task. -/
def Running.past (r : Running) (t : TaskId) : Bool := r.rest.all fun p => !p.concerns t

/-- The test of a task that does not delete it: its flag is down, or the mode that is left is not
its own.  A recall that goes on has deleted what it deletes. -/
def Sta.spares (s : Sta) (t : TaskId) : Part → Bool
  | .taskDelIfRun u => t = u && !(0 < s.taskRunFlag t)
  | .endMode mode u _ => t = u && s.seekSatMode ≠ mode
  | .setAim _ => true
  | _ => false

def Part.creates (t : TaskId) : Part → Bool
  | .taskCreate u => t = u
  | _ => false

/-- A task is not created over a command past its tests that selects another mode. -/
def World.MayCreate (w : World) (t : TaskId) : Prop :=
  ∀ front, ∀ r ∈ w.cmds front, r.past t = true → t.mode = r.mode

/--
The mode is one of the five.  Where a command spares a tracking task, it is the task of the mode
that is selected, or not created; and none is created over a command past its tests that selects
another mode.
-/
def Fits (w : World) : Event → Prop
  | .aimAtSatModeSel _ rxbuff => isAimAtSatModeSel rxbuff = true →
    rxbuff 3 ≤ 0x04 ∧
      (rxbuff 3 = 0x04 → ∀ t, t.isTracking = true → w.pc t = .dormant)
  | .go front _ =>
    ∀ r ∈ w.cmds front, ∀ p ∈ r.rest.head?,
      (∀ t, t.isTracking = true → w.sta.spares t p = true →
        w.pc t = .dormant ∨ t.mode = r.mode) ∧
      (∀ t, t.isTracking = true → p.creates t = true → w.MayCreate t)
  | .ethRelink => ∀ t, t.isTracking = true → t.mode = w.sta.seekSatMode → w.MayCreate t
  | _ => True

end SwiftAcu.Mode
