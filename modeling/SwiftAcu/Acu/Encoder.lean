/-
How an encoder counts: `APP_ElecEncoder_DataAddDir_Set` and `…_Get` of `app_eleccoder.c`, and
`APP_ElecEncoder_DataAddDir_Adjust` of `app_monitor.c` on top of them.

The mode is kept three times: in the encoder, in `EleccoderConf` and in the EEPROM.  An encoder
takes over the mode it is sent and sends it back; the command may be lost, and so may the answer,
or be damaged.  An encoder that has not taken a command does not answer.
-/
import SwiftAcu.Acu.Faults
import SwiftAcu.Acu.SetCmd

namespace SwiftAcu.Encoders

/-- The three copies of the modes. -/
structure Modes where
  /-- What the encoders count by. -/
  encoder : AntennaPart → UInt8
  /-- `EleccoderConf.count_mode`. -/
  countMode : AntennaPart → UInt8
  eeprom : Eeprom

/-- What becomes of a command to an encoder. -/
inductive Attempt where
  /-- The semaphore of the port is not got in time. -/
  | busy
  /-- The encoder does not take it. -/
  | lost
  /-- The encoder takes it, and these bytes come back if any do in time. -/
  | taken (revbuff : Option (List UInt8))

/-- The answer to a mode is not that mode alone. -/
def badEcho (dir : UInt8) (revbuff : List UInt8) : Prop :=
  1 < revbuff.length ∨ revbuff.getD 0 0 ≠ dir

instance (dir : UInt8) (revbuff : List UInt8) : Decidable (badEcho dir revbuff) :=
  inferInstanceAs (Decidable (_ ∨ _))

/-- `APP_ElecEncoder_Position_DataAddDir_Set`, and the same for the other two. -/
def dataAddDirSet (part : AntennaPart) (dir : UInt8) (a : Attempt) (m : Modes) : Ret × Modes :=
  let dir := if dir = 0xE1 then 0xE1 else 0xE2
  match a with
  | .busy => (.FAIL, m)
  | .lost => (.FAIL, m)
  | .taken none => (.FAIL, { m with encoder := Function.update m.encoder part dir })
  | .taken (some revbuff) =>
    let m := { m with encoder := Function.update m.encoder part dir }
    if badEcho dir revbuff then (.FAIL, m)
    else (.SUCC, { m with countMode := Function.update m.countMode part dir })

/-- `APP_ElecEncoder_Position_DataAddDir_Que`, and the same for the other two; with `dir`, which
stays as it is if there is no answer of the right kind. -/
def dataAddDirGet (part : AntennaPart) (revbuff : Option (List UInt8)) (dir : UInt8) (m : Modes) :
    UInt8 × Modes :=
  match revbuff with
  | none => (dir, m)
  | some revbuff =>
    if 1 < revbuff.length ∨ revbuff.getD 0 0 &&& 0xF0 ≠ 0xE0 then (dir, m)
    else
      let dir := revbuff.getD 0 0
      (dir, { m with countMode := Function.update m.countMode part dir })

/-! ### The adjustment -/

-- numerals of the samples, `Fin 4`, take this
instance neZero_samples : NeZero (4 : Nat) := ⟨by decide⟩

/-- `databuff`. -/
abbrev Samples := Fin 4 → UInt32

/-- The encoder stands still. -/
def Samples.still (data : Samples) : Prop :=
  (data 0 = data 1 ∧ data 0 = data 2) ∨ (data 1 = data 2 ∧ data 1 = data 3)

instance (data : Samples) : Decidable data.still := inferInstanceAs (Decidable (_ ∨ _))

/-- `add_flag_now`. -/
def Samples.addFlagNow (data : Samples) : UInt8 :=
  let add_flag (i : Fin 3) : UInt8 := if data i.castSucc < data i.succ then 1 else 0
  if add_flag 0 = add_flag 1 then add_flag 0
  else if add_flag 0 = add_flag 2 then (data 0).toUInt8
  else (data 1).toUInt8

/-- `add_dir_will`. -/
def addDirWill (antenna_dir : UInt8) : UInt8 := if antenna_dir = dirRightUpClock then 1 else 0

/-- What an encoder says while its counting is adjusted. -/
structure Dialogue where
  data : Samples
  /-- What the local `count_mode` holds before it is asked for. -/
  stack : UInt8
  /-- The answer to `APP_ElecEncoder_DataAddDir_Get`. -/
  que : Option (List UInt8)
  /-- What becomes of the two `APP_ElecEncoder_DataAddDir_Set`. -/
  set : Attempt
  setAgain : Attempt

/-- The mode that is not `count_mode`. -/
def otherMode (count_mode : UInt8) : UInt8 :=
  if count_mode = 0xE1 then 0xE2 else if count_mode = 0xE2 then 0xE1 else 0xE1

/-- `APP_ElecEncoder_DataAddDir_Set`, and once more if that fails. -/
def setTwice (part : AntennaPart) (dir : UInt8) (d : Dialogue) (m : Modes) : Ret × Modes :=
  match dataAddDirSet part dir d.set m with
  | (.SUCC, m) => (.SUCC, m)
  | (.FAIL, m) => dataAddDirSet part dir d.setAgain m

/-- The end of the adjustment: the mode is stored, whether that succeeds or not, and used. -/
def keepMode (faults : Faults) (part : AntennaPart) (count_mode : UInt8) (m : Modes) : Modes :=
  { m with
    eeprom := faults.elecCodeCountModeSaveTwice part.id count_mode m.eeprom
    countMode := Function.update m.countMode part count_mode }

/-- `APP_ElecEncoder_DataAddDir_Adjust`. -/
def dataAddDirAdjust (faults : Faults) (part : AntennaPart) (antenna_dir : UInt8) (d : Dialogue)
    (m : Modes) : Ret × Modes :=
  if d.data.still then (.FAIL, m)
  else
    let (count_mode, m) := dataAddDirGet part d.que d.stack m
    if addDirWill antenna_dir ≠ d.data.addFlagNow then
      let count_mode := otherMode count_mode
      match setTwice part count_mode d m with
      | (.FAIL, m) => (.FAIL, m)
      | (.SUCC, m) => (.SUCC, keepMode faults part count_mode m)
    else (.SUCC, keepMode faults part count_mode m)

end SwiftAcu.Encoders
