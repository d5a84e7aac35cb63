/-
Runs of commands that set parameters, and what comes between them.

Everything else that the device does may change every field the commands read but the one
that only `AntennaTurnDirAdjustBegin` writes.
-/
import SwiftAcu.Acu.Position
import SwiftAcu.Acu.SetCmd
import SwiftAcu.Lib.Runs

namespace SwiftAcu.SetCmd

variable [SoftFloat]

/-- What happens: a command with whatever it is sent, and what answers meanwhile. -/
inductive Event where
  | satParamSet (faults : Faults) (rxbuff : Nat → UInt8)
  | selSat (front : Front) (faults : Faults) (stack : SatParam) (beacon : UInt32 → Ret)
      (aimDegree : AntennaParam → SatParam → Degrees) (rxbuff : Nat → UInt8)
  | antennaParamSet (faults : Faults) (agc : UInt8 → Ret)
      (aimDegree : AntennaParam → SatParam → Degrees) (rxbuff : Nat → UInt8)
  | turnDirAdjustBegin (start : Ret) (rxbuff : Nat → UInt8)
  | turnDirAdjustFinish (faults : Faults) (t : Turning) (rxbuff : Nat → UInt8)
  | hargWareLimitAdjust (faults : Faults) (g : Gauge) (data : Int → UInt32)
      (rxbuff : Nat → UInt8)
  /-- The other commands and the tasks. -/
  | others (s : Sta)

/-- `…_SelSat` of a front end. -/
def selSatOf : Front → Faults → SatParam → (UInt32 → Ret) →
    (AntennaParam → SatParam → Degrees) → (Nat → UInt8) → Sta → Ret × Cmd
  | .pc => pcSelSat
  | .oled => oledSelSat

/-- What an event comes to. -/
def handle (s : Sta) : Event → Ret × Cmd
  | .satParamSet faults rxbuff => satParamSet faults rxbuff s
  | .selSat front faults stack beacon aimDegree rxbuff =>
    selSatOf front faults stack beacon aimDegree rxbuff s
  | .antennaParamSet faults agc aimDegree rxbuff => antennaParamSet faults agc aimDegree rxbuff s
  | .turnDirAdjustBegin start rxbuff => antennaTurnDirAdjustBegin start rxbuff s
  | .turnDirAdjustFinish faults t rxbuff => antennaTurnDirAdjustFinish faults t rxbuff s
  | .hargWareLimitAdjust faults g data rxbuff => antennaHargWareLimitAdjust faults g data rxbuff s
  | .others s' => (.SUCC, { s' with antennaDir := s.antennaDir, accesses := [] })

/-- One event. -/
def step (s : Sta) (e : Event) : Sta := (handle s e).2.toSta

/-- The device comes up: the static data are zero. -/
def boot (s : Sta) : Sta := { s with antennaDir := 0 }

/-- A device with an empty EEPROM. -/
def newDevice : Sta where
  device := paramInit fun _ => 0
  seekSatMode := 0x00
  scanRangeParam := scanRangeOf 0
  aim := ⟨0, 0, 0⟩
  softLimit := ⟨⟨0, 0, 0⟩, ⟨0, 0, 0⟩⟩
  antennaDirMapMotor _ := ⟨0, ⟨0, 0⟩⟩
  countMode _ := 0
  satListRefreshFlag := 0x00
  antennaDir := 0

/-- The datagram that selects a satellite. -/
def selectSat (id : UInt8) : Nat → UInt8 := fun i => [0x02, 0x11, 0x01, id].getD i 0

/-- Every entry that is read or written is one of its array. -/
def InRange (s : Sta) (e : Event) : Prop := ∀ a ∈ (handle s e).2.accesses, a.InRange

/-- `AntennaTurnDirAdjustFinish` gets as far as the entry of its axis. -/
def turnDirFits (rxbuff : Nat → UInt8) (s : Sta) : Prop :=
  cmdIdOf rxbuff = CmdId.antennaTurnDirAdjustFinishSet.id ∧ turnDir (rxbuff 4) ≠ none ∧
    (s.antennaDir &&& 0xFF00) >>> 8 = (rxbuff 3).toUInt16

/-- A satellite with an id is stored under that id, a satellite is selected by one of the
hundred ids, and an axis is adjusted once it has been turned. -/
def Fits (s : Sta) : Event → Prop
  | .satParamSet faults rxbuff =>
    cmdIdOf rxbuff = CmdId.satParamSet.id → rxbuff 2 = 0x1B →
      faults.save (satParamAddr (rxbuff 3)) = none → rxbuff 3 ≤ 100
  | .selSat _ _ _ _ _ rxbuff =>
    cmdIdOf rxbuff = CmdId.satSel.id → rxbuff 2 = 1 → 1 ≤ rxbuff 3 ∧ rxbuff 3 ≤ 100
  | .turnDirAdjustFinish _ _ rxbuff => turnDirFits rxbuff s → rxbuff 3 ≠ 0
  | _ => True

end SwiftAcu.SetCmd
