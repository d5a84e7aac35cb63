/-
Saves one after the other.

A run starts at the state the controller is in after `APP_LOG_Init` on an erased
flash and makes one save after the other, to one log or to both.
-/
import SwiftAcu.Acu.LogQuery
import SwiftAcu.Lib.Runs

namespace SwiftAcu.AppLog

/-- One call of a save: the date and time the clock shows, and the payload. -/
structure Save where
  now : SysDateTime
  buff : List UInt8
  deriving DecidableEq, Repr

/-- The two logs. -/
inductive LogKind where
  | opt
  | warn
  deriving DecidableEq, Repr

def LogKind.region : LogKind → LogRegion
  | .opt => optRegion
  | .warn => warnRegion

def Board.logInfo (b : Board) : LogKind → LogInfo
  | .opt => b.optLogInfo
  | .warn => b.warnLogInfo

/-- `APP_OptLOG_Save2Flash` or `APP_WarnLOG_Save2Flash`. -/
def logSave2Flash (b : Board) (k : LogKind) (a : Save) : Ret × Board :=
  match k with
  | .opt => optLogSave2Flash b a.now a.buff
  | .warn => warnLogSave2Flash b a.now a.buff

/-- A flash that has never been programmed, in the part the controller expects. -/
def erasedChip : FlashChip where
  id := (0x20, 0xBA, 0x18)
  mem := fun _ => 0xFF
  weak := []
  ops := []

/-- The controller after `APP_LOG_Init` on an erased flash. -/
def bootBoard : Board where
  commStat := commLink
  optLogInfo := initDefaults optRegion zeroInfo
  warnLogInfo := initDefaults warnRegion zeroInfo
  flash := erasedChip

/-- The step of a run that saves to the operation log only. -/
def optStep (b : Board) (a : Save) : Board := (optLogSave2Flash b a.now a.buff).2

/-- The save `a` at `b` returns `SUCC`. -/
def OptSaved (b : Board) (a : Save) : Prop := (optLogSave2Flash b a.now a.buff).1 = .SUCC

/-- The operation log after the saves `calls` from an erased flash. -/
def optRun (calls : List Save) : Board := Runs.run optStep bootBoard calls

/-- Every one of the saves `calls` from an erased flash returned `SUCC`. -/
def AllSaved (calls : List Save) : Prop := Runs.AllSteps optStep OptSaved bootBoard calls

/-- A payload whose record has at most 255 bytes. -/
def Save.Small (a : Save) : Prop := a.buff.length ≤ 229

instance (a : Save) : Decidable a.Small := inferInstanceAs (Decidable (_ ≤ _))

/-- The step of a run that saves to both logs. -/
def logStep (b : Board) (a : LogKind × Save) : Board := (logSave2Flash b a.1 a.2).2

end SwiftAcu.AppLog
