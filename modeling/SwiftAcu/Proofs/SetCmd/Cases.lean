/-
How far a set command gets, and what it comes to there.

A command is refused before it touches anything, or it reaches the EEPROM and the receiver, and
each of these may end it.  There is one equation for each place where a command ends; what is
proved about the commands is read off from these.
-/
import SwiftAcu.Acu.SetRun

namespace SwiftAcu.SetCmd

variable [SoftFloat]

section
variable {faults : Faults} {rxbuff : Nat → UInt8} {s : Sta} {m : Eeprom}

/-! ### SatParamSet -/

/-- `APP_PCCOMM_SatParamSet` gets as far as the EEPROM. -/
def satParamFits (rxbuff : Nat → UInt8) (s : Sta) : Prop :=
  cmdIdOf rxbuff = CmdId.satParamSet.id ∧ rxbuff 2 = 0x1B ∧
    ¬ (rxbuff 3 = 0x00 ∧ 100 ≤ s.device.satList.total)

/-- What `APP_PCCOMM_SatParamSet` stores. -/
def satParamOf (rxbuff : Nat → UInt8) (s : Sta) : SatParam :=
  addSatParam (if rxbuff 3 = 0x00 ∧ s.device.satList.freeId ≠ 0 then s.device.satList.freeId
    else rxbuff 3) (pbuff rxbuff 0x1B)

theorem satParamSet_refused (h : ¬ satParamFits rxbuff s) :
    satParamSet faults rxbuff s = (.FAIL, s.begin) := by
  unfold satParamSet
  by_cases hcmd : cmdIdOf rxbuff ≠ CmdId.satParamSet.id ∨ rxbuff 2 ≠ 0x1B
  · exact if_pos hcmd
  · have hfull : rxbuff 3 = 0x00 ∧ 100 ≤ s.device.satList.total := by
      by_contra hnot
      rw [not_or, not_not, not_not] at hcmd
      exact h ⟨hcmd.1, hcmd.2, hnot⟩
    exact (if_neg hcmd).trans (if_pos hfull)

/-- The text behind the two refusals. -/
theorem satParamSet_reached (h : satParamFits rxbuff s) :
    satParamSet faults rxbuff s =
      match faults.satParamSave (satParamOf rxbuff s) s.device.eeprom with
      | (.FAIL, m) => (.FAIL, s.begin.setEeprom m)
      | (.SUCC, m) =>
        if rxbuff 3 = 0x00 ∧ s.device.satList.freeId ≠ 0 then
          let total := s.device.satList.total + 1
          let c := s.begin.setEeprom (faults.satTotalNumSave total m).2
          let l := { c.device.satList with total }
          let c : Cmd := { c with device := { c.device with satList := l } }
          (.SUCC, c.putSat (satParamOf rxbuff s).id)
        else (.SUCC, (s.begin.setEeprom m).putSat (satParamOf rxbuff s).id) := by
  obtain ⟨hcmd, hlen, hfull⟩ := h
  have hgo : ¬ (cmdIdOf rxbuff ≠ CmdId.satParamSet.id ∨ rxbuff 2 ≠ 0x1B) := by
    rw [not_or, not_not, not_not]
    exact ⟨hcmd, hlen⟩
  unfold satParamSet
  exact (if_neg hgo).trans (if_neg hfull)

theorem satParamSet_failed (h : satParamFits rxbuff s)
    (hsave : faults.satParamSave (satParamOf rxbuff s) s.device.eeprom = (.FAIL, m)) :
    satParamSet faults rxbuff s = (.FAIL, s.begin.setEeprom m) := by
  rw [satParamSet_reached h, hsave]

theorem satParamSet_stored (h : satParamFits rxbuff s)
    (hsave : faults.satParamSave (satParamOf rxbuff s) s.device.eeprom = (.SUCC, m)) :
    (satParamSet faults rxbuff s).1 = .SUCC ∧
      (satParamSet faults rxbuff s).2.accesses = [⟨.satId, indexOf (satParamOf rxbuff s).id⟩] := by
  rw [satParamSet_reached h, hsave]
  dsimp only
  split_ifs
  · exact ⟨rfl, rfl⟩
  · exact ⟨rfl, rfl⟩

/-! ### SelSat -/

variable {stack : SatParam} {beacon : UInt32 → Ret} {aimDegree : AntennaParam → SatParam → Degrees}

/-- A selection is not refused at once. -/
def selSatFits (rxbuff : Nat → UInt8) : Prop :=
  cmdIdOf rxbuff = CmdId.satSel.id ∧ rxbuff 2 = 1

/-- What a selection reads from the EEPROM, behind what it has written there. -/
def selSatParam (faults : Faults) (stack : SatParam) (rxbuff : Nat → UInt8) (s : Sta) : SatParam :=
  (faults.satParamRead (rxbuff 3) (faults.satCurrIdSave (rxbuff 3) s.device.eeprom).2).getD
    { stack with id := rxbuff 3 }

/-- What a selection makes the receiver do. -/
def selSatBeacon (faults : Faults) (stack : SatParam) (beacon : UInt32 → Ret)
    (rxbuff : Nat → UInt8) (s : Sta) : Ret :=
  beacon (Mode.beaconFreq (selSatParam faults stack rxbuff s).freq s.device.antennaParam.loFreq)

theorem selSat_refused (h : ¬ selSatFits rxbuff) :
    selSat faults stack beacon aimDegree rxbuff s = (.FAIL, s.begin) := by
  have hcmd : cmdIdOf rxbuff ≠ CmdId.satSel.id ∨ rxbuff 2 ≠ 1 := not_and_or.mp h
  exact if_pos hcmd

/-- The text behind the first refusal. -/
theorem selSat_fits (h : selSatFits rxbuff) :
    selSat faults stack beacon aimDegree rxbuff s =
      if rxbuff 3 ≠ s.device.satList.idAt (rxbuff 3) then
        (.FAIL, s.begin.access .satId (rxbuff 3))
      else
        let c := (s.begin.access .satId (rxbuff 3)).setEeprom
          (faults.satCurrIdSave (rxbuff 3) s.device.eeprom).2
        let p := selSatParam faults stack rxbuff s
        match selSatBeacon faults stack beacon rxbuff s with
        | .FAIL => (.FAIL, c)
        | .SUCC =>
          let m := (faults.historyMaxMvSave 0 c.device.eeprom).2
          let c := c.setEeprom (faults.currSatParamSave p m).2
          (.SUCC, { c with
            device := { c.device with currSatParam := p }
            aim := aimDegree s.device.antennaParam p }) := by
  have hgo : ¬ (cmdIdOf rxbuff ≠ CmdId.satSel.id ∨ rxbuff 2 ≠ 1) := by
    rw [not_or, not_not, not_not]
    exact h
  exact if_neg hgo

theorem selSat_unknown (h : selSatFits rxbuff) (hid : rxbuff 3 ≠ s.device.satList.idAt (rxbuff 3)) :
    selSat faults stack beacon aimDegree rxbuff s =
      (.FAIL, s.begin.access .satId (rxbuff 3)) := by
  rw [selSat_fits h, if_pos hid]

theorem selSat_failed (h : selSatFits rxbuff) (hid : rxbuff 3 = s.device.satList.idAt (rxbuff 3))
    (hbeacon : selSatBeacon faults stack beacon rxbuff s = .FAIL) :
    selSat faults stack beacon aimDegree rxbuff s =
      (.FAIL, (s.begin.access .satId (rxbuff 3)).setEeprom
        (faults.satCurrIdSave (rxbuff 3) s.device.eeprom).2) := by
  rw [selSat_fits h, if_neg (not_not.mpr hid)]
  dsimp only
  rw [hbeacon]

theorem selSat_selected (h : selSatFits rxbuff)
    (hid : rxbuff 3 = s.device.satList.idAt (rxbuff 3))
    (hbeacon : selSatBeacon faults stack beacon rxbuff s = .SUCC) :
    (selSat faults stack beacon aimDegree rxbuff s).1 = .SUCC ∧
      (selSat faults stack beacon aimDegree rxbuff s).2.accesses =
        [⟨.satId, indexOf (rxbuff 3)⟩] := by
  rw [selSat_fits h, if_neg (not_not.mpr hid)]
  dsimp only
  rw [hbeacon]
  exact ⟨rfl, rfl⟩

/-! ### AntennaTurnDirAdjustFinish -/

variable {t : Turning} {dir : UInt8}

omit [SoftFloat] in
theorem turnDirAdjustFinish_refused (h : ¬ turnDirFits rxbuff s) :
    antennaTurnDirAdjustFinish faults t rxbuff s = (.FAIL, s.begin.setMode 0x00) := by
  unfold antennaTurnDirAdjustFinish
  dsimp only
  by_cases hcmd : cmdIdOf rxbuff ≠ CmdId.antennaTurnDirAdjustFinishSet.id
  · rw [if_pos hcmd]
  · rw [if_neg hcmd]
    cases hdir : turnDir (rxbuff 4) with
    | none => rfl
    | some dir =>
        have hpart : (s.antennaDir &&& 0xFF00) >>> 8 ≠ (rxbuff 3).toUInt16 := by
          intro hpart
          exact h ⟨not_not.mp hcmd, by simp [hdir], hpart⟩
        exact if_pos hpart

/-- The entry of the axis after the command. -/
def turnDirEntry (dir : UInt8) (rxbuff : Nat → UInt8) (s : Sta) : AntennaDirMapMotor :=
  dirMapOf s.antennaDir (rxbuff 3) dir

omit [SoftFloat] in
/-- The text behind the refusals. -/
theorem turnDirAdjustFinish_fits (h : turnDirFits rxbuff s) (hdir : turnDir (rxbuff 4) = some dir) :
    antennaTurnDirAdjustFinish faults t rxbuff s =
      match faults.motorDirSave (rxbuff 3) (turnDirEntry dir rxbuff s).motorDir
        s.device.eeprom with
      | (.FAIL, m) =>
        (.FAIL, ((s.begin.putDirMap (rxbuff 3) (turnDirEntry dir rxbuff s)).setEeprom m).setMode 0)
      | (.SUCC, m) =>
        let r := ((s.begin.putDirMap (rxbuff 3) (turnDirEntry dir rxbuff s)).setEeprom
          m).dataAddDirAdjust faults t (rxbuff 3) dir
        r.2.turnEnd t (rxbuff 3) r.1 := by
  obtain ⟨hcmd, -, hpart⟩ := h
  unfold antennaTurnDirAdjustFinish
  dsimp only
  rw [if_neg (not_not.mpr hcmd), hdir]
  exact if_neg (not_not.mpr hpart)

omit [SoftFloat] in
theorem exists_turnDir (h : turnDirFits rxbuff s) : ∃ dir, turnDir (rxbuff 4) = some dir :=
  Option.ne_none_iff_exists'.mp h.2.1

end

end SwiftAcu.SetCmd
