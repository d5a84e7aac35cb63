/-
What a set command that fails leaves behind.

A command that is refused changes nothing.  One that has got as far as the EEPROM or the receiver
does not take back what it has changed by then, neither in RAM nor in the EEPROM, and a save that
fails may have stored a part.  So a command that fails there keeps the parameters only if what it
has set was set already; for each command this is said in terms of what it is sent, of what the
EEPROM does and of the state before.
-/
import SwiftAcu.Proofs.Mode.Recall
import SwiftAcu.Proofs.SetCmd.Cases

namespace SwiftAcu

theorem Faults.store_fst {fault : Option (Nat → UInt8)} {addr : Int} {savebuff : List UInt8}
    {m : Eeprom} : (Faults.store fault addr savebuff m).1 = .FAIL ↔ fault ≠ .none := by
  cases fault with
  | none => simp [Faults.store]
  | some left => simp [Faults.store]

namespace SetCmd

/-- The parameters, the lists and the EEPROM are what they were. -/
structure Kept (s : Sta) (c : Cmd) : Prop where
  eeprom : c.device.eeprom = s.device.eeprom
  satList : c.device.satList = s.device.satList
  satListRefreshFlag : c.satListRefreshFlag = s.satListRefreshFlag
  recordList : c.device.recordList = s.device.recordList
  currSatParam : c.device.currSatParam = s.device.currSatParam
  antennaParam : c.device.antennaParam = s.device.antennaParam
  scanRangeParam : c.scanRangeParam = s.scanRangeParam
  aim : c.aim = s.aim
  softLimit : c.softLimit = s.softLimit
  antennaDirMapMotor : c.antennaDirMapMotor = s.antennaDirMapMotor

/-- A command that fails keeps them, and the mode. -/
def FailKeeps (s : Sta) (r : Ret × Cmd) : Prop :=
  r.1 = .FAIL → Kept s r.2 ∧ r.2.seekSatMode = s.seekSatMode

section
variable {faults : Faults} {rxbuff : Nat → UInt8} {s : Sta}

theorem kept_begin (s : Sta) : Kept s s.begin := ⟨rfl, rfl, rfl, rfl, rfl, rfl, rfl, rfl, rfl, rfl⟩

theorem kept_access {c : Cmd} (h : Kept s c) (table : Table) (id : UInt8) :
    Kept s (c.access table id) := { h with }

/-- Only the EEPROM is another one. -/
theorem kept_setEeprom {c : Cmd} (h : Kept s c) (m : Eeprom) :
    Kept s (c.setEeprom m) ↔ m = s.device.eeprom := by
  constructor
  · intro hkept
    exact hkept.eeprom
  · intro hm
    exact { h with eeprom := hm }

/-! ### SatParamSet -/

/-- The satellite is not stored halfway. -/
def satParamKeeps [SoftFloat] (faults : Faults) (rxbuff : Nat → UInt8) (s : Sta) : Prop :=
  satParamFits rxbuff s →
    ∀ m, faults.satParamSave (satParamOf rxbuff s) s.device.eeprom = (.FAIL, m) →
      m = s.device.eeprom

theorem failKeeps_satParamSet [SoftFloat] :
    FailKeeps s (satParamSet faults rxbuff s) ↔ satParamKeeps faults rxbuff s := by
  unfold FailKeeps satParamKeeps
  by_cases hfits : satParamFits rxbuff s
  · rw [imp_iff_right hfits]
    rcases hsave : faults.satParamSave (satParamOf rxbuff s) s.device.eeprom with ⟨ret, m⟩
    cases ret with
    | SUCC =>
        have hsucc := (satParamSet_stored hfits hsave).1
        rw [hsucc]
        exact iff_of_true (fun h => absurd h (by simp)) (fun m' h => absurd h (by simp))
    | FAIL =>
        rw [satParamSet_failed hfits hsave, imp_iff_right rfl]
        show Kept s (s.begin.setEeprom m) ∧ s.seekSatMode = s.seekSatMode ↔ _
        rw [and_iff_left rfl, kept_setEeprom (kept_begin s)]
        simp
  · rw [satParamSet_refused hfits]
    exact iff_of_true (fun _ => ⟨kept_begin s, rfl⟩) (fun h => absurd h hfits)

/-! ### AntennaParamSet -/

/-- What `APP_PCCOMM_AntennaParamSet` sets. -/
def antennaParamOf (rxbuff : Nat → UInt8) : AntennaParam := newAntennaParam (pbuff rxbuff 12)

/-- `APP_PCCOMM_AntennaParamSet` gets as far as the parameters. -/
def antennaParamFits (agc : UInt8 → Ret) (rxbuff : Nat → UInt8) (s : Sta) : Prop :=
  cmdIdOf rxbuff = CmdId.antennaParamSet.id ∧
    ¬ ((antennaParamOf rxbuff).gainRangeFlag ≠ s.device.agcOutputRange ∧
      agc (antennaParamOf rxbuff).gainRangeFlag = .FAIL)

/-- If the antenna cannot be stored, it was set already, and with it what follows from it. -/
def antennaParamKeeps (faults : Faults) (agc : UInt8 → Ret)
    (aimDegree : AntennaParam → SatParam → Degrees) (rxbuff : Nat → UInt8) (s : Sta) : Prop :=
  antennaParamFits agc rxbuff s → faults.save 0x0000 ≠ none →
    antennaParamOf rxbuff = s.device.antennaParam ∧
      aimDegree s.device.antennaParam s.device.currSatParam = s.aim ∧
      scanRangeOf s.device.antennaParam.loFreq = s.scanRangeParam ∧
      (faults.antennaParamSave s.device.antennaParam s.device.eeprom).2 = s.device.eeprom

variable {agc : UInt8 → Ret} {aimDegree : AntennaParam → SatParam → Degrees}

theorem antennaParamSet_refused (h : ¬ antennaParamFits agc rxbuff s) :
    antennaParamSet faults agc aimDegree rxbuff s = (.FAIL, s.begin) := by
  unfold antennaParamSet
  by_cases hcmd : cmdIdOf rxbuff ≠ CmdId.antennaParamSet.id
  · exact if_pos hcmd
  · have hagc : (antennaParamOf rxbuff).gainRangeFlag ≠ s.device.agcOutputRange ∧
        agc (antennaParamOf rxbuff).gainRangeFlag = .FAIL := by
      by_contra hnot
      exact h ⟨not_not.mp hcmd, hnot⟩
    exact (if_neg hcmd).trans (if_pos hagc)

/-- What is left of the records. -/
def recordsLeft (faults : Faults) (rxbuff : Nat → UInt8) (s : Sta) : Cmd :=
  let c : Cmd := { s.begin with device :=
    { s.device with agcOutputRange := (antennaParamOf rxbuff).gainRangeFlag } }
  if bandChanges s.device.antennaParam.loFreq (antennaParamOf rxbuff).loFreq then
    c.clearRecords faults
  else c

theorem antennaParamSet_fits (h : antennaParamFits agc rxbuff s) :
    antennaParamSet faults agc aimDegree rxbuff s =
      let c := recordsLeft faults rxbuff s
      let r := faults.antennaParamSave (antennaParamOf rxbuff) c.device.eeprom
      (r.1, { c with
        device := { c.device with antennaParam := antennaParamOf rxbuff, eeprom := r.2 }
        aim := aimDegree (antennaParamOf rxbuff) s.device.currSatParam
        scanRangeParam := scanRangeOf (antennaParamOf rxbuff).loFreq }) := by
  unfold antennaParamSet
  exact (if_neg (not_not.mpr h.1)).trans (if_neg h.2)

/-- The records are forgotten, and nothing but the EEPROM is touched besides; an antenna of the
same band leaves them. -/
theorem recordsLeft_same (h : antennaParamOf rxbuff = s.device.antennaParam) :
    recordsLeft faults rxbuff s =
      { s.begin with device :=
        { s.device with agcOutputRange := s.device.antennaParam.gainRangeFlag } } := by
  have hband : ¬ bandChanges s.device.antennaParam.loFreq (antennaParamOf rxbuff).loFreq := by
    rw [h]
    rintro (⟨hle, hlt⟩ | ⟨hlt, hle⟩)
    · exact absurd hle (UInt32.not_le.mpr hlt)
    · exact absurd hle (UInt32.not_le.mpr hlt)
  unfold recordsLeft
  rw [if_neg hband, h]

theorem seekSatMode_recordsLeft : (recordsLeft faults rxbuff s).seekSatMode = s.seekSatMode := by
  unfold recordsLeft
  dsimp only
  split_ifs <;> rfl

/-- The antenna is set and cannot be stored. -/
theorem kept_antennaParamSet (h : antennaParamFits agc rxbuff s) :
    Kept s (antennaParamSet faults agc aimDegree rxbuff s).2 ↔
      antennaParamOf rxbuff = s.device.antennaParam ∧
        aimDegree s.device.antennaParam s.device.currSatParam = s.aim ∧
        scanRangeOf s.device.antennaParam.loFreq = s.scanRangeParam ∧
        (faults.antennaParamSave s.device.antennaParam s.device.eeprom).2 = s.device.eeprom := by
  rw [antennaParamSet_fits h]
  constructor
  · intro hkept
    have hsame : antennaParamOf rxbuff = s.device.antennaParam := hkept.antennaParam
    have heeprom := hkept.eeprom
    have haim := hkept.aim
    have hrange := hkept.scanRangeParam
    dsimp only at heeprom haim hrange
    rw [recordsLeft_same hsame, hsame] at heeprom
    rw [hsame] at haim hrange
    exact ⟨hsame, haim, hrange, heeprom⟩
  · rintro ⟨hsame, haim, hrange, heeprom⟩
    dsimp only
    rw [recordsLeft_same hsame, hsame]
    exact ⟨heeprom, rfl, rfl, rfl, rfl, rfl, hrange, haim, rfl, rfl⟩

theorem failKeeps_antennaParamSet :
    FailKeeps s (antennaParamSet faults agc aimDegree rxbuff s) ↔
      antennaParamKeeps faults agc aimDegree rxbuff s := by
  unfold FailKeeps antennaParamKeeps
  by_cases hfits : antennaParamFits agc rxbuff s
  · have hret : (antennaParamSet faults agc aimDegree rxbuff s).1 = .FAIL ↔
        faults.save 0x0000 ≠ none := by
      rw [antennaParamSet_fits hfits]
      exact Faults.store_fst
    have hmode : (antennaParamSet faults agc aimDegree rxbuff s).2.seekSatMode =
        s.seekSatMode := by
      rw [antennaParamSet_fits hfits]
      exact seekSatMode_recordsLeft
    rw [imp_iff_right hfits, hret, hmode, and_iff_left rfl, kept_antennaParamSet hfits]
  · rw [antennaParamSet_refused hfits]
    exact iff_of_true (fun _ => ⟨kept_begin s, rfl⟩) (fun h => absurd h hfits)

/-! ### SelSat -/

variable {stack : SatParam} {beacon : UInt32 → Ret}

/-- If the receiver does not follow, the satellite was selected already. -/
def selSatKeeps [SoftFloat] (faults : Faults) (stack : SatParam) (beacon : UInt32 → Ret)
    (rxbuff : Nat → UInt8) (s : Sta) : Prop :=
  selSatFits rxbuff → rxbuff 3 = s.device.satList.idAt (rxbuff 3) →
    selSatBeacon faults stack beacon rxbuff s = .FAIL →
      (faults.satCurrIdSave (rxbuff 3) s.device.eeprom).2 = s.device.eeprom

theorem failKeeps_selSat [SoftFloat] :
    FailKeeps s (pcSelSat faults stack beacon aimDegree rxbuff s) ↔
      selSatKeeps faults stack beacon rxbuff s := by
  unfold FailKeeps selSatKeeps pcSelSat
  by_cases hfits : selSatFits rxbuff
  · rw [imp_iff_right hfits]
    by_cases hid : rxbuff 3 = s.device.satList.idAt (rxbuff 3)
    · rw [imp_iff_right hid]
      cases hbeacon : selSatBeacon faults stack beacon rxbuff s with
      | SUCC =>
          have hsucc : (selSat faults stack beacon aimDegree rxbuff s).1 = .SUCC :=
            (selSat_selected hfits hid hbeacon).1
          rw [hsucc]
          exact iff_of_true (fun h => absurd h (by simp)) (fun h => absurd h (by simp))
      | FAIL =>
          rw [selSat_failed hfits hid hbeacon, imp_iff_right rfl, imp_iff_right rfl]
          show Kept s _ ∧ s.seekSatMode = s.seekSatMode ↔ _
          rw [and_iff_left rfl]
          exact kept_setEeprom (kept_access (kept_begin s) _ _) _
    · rw [selSat_unknown hfits hid]
      exact iff_of_true (fun _ => ⟨kept_access (kept_begin s) _ _, rfl⟩) (fun h => absurd h hid)
  · rw [selSat_refused hfits]
    exact iff_of_true (fun _ => ⟨kept_begin s, rfl⟩) (fun h => absurd h hfits)

/-! ### AntennaTurnDirAdjustFinish -/

variable {t : Turning} {dir : UInt8}

/-- Behind the entry of the axis, the command fails at the motor, at the axis or at the
encoder. -/
def turnDirFails (t : Turning) (dir antenna_part : UInt8) : Prop :=
  (t.driveEnd = .FAIL ∧ t.driveEndAgain = .FAIL) ∨
    (antenna_part ≠ 1 ∧ antenna_part ≠ 2 ∧ antenna_part ≠ 3) ∨ ¬ t.adjusts dir

/-- What the command returns behind the entry of the axis, and the EEPROM then. -/
def turnDirEeprom (faults : Faults) (t : Turning) (dir antenna_part : UInt8) (m : Eeprom) :
    Eeprom :=
  if t.adjusts dir then
    faults.elecCodeCountModeSaveTwice antenna_part (t.newCountMode dir) m
  else m

/-- The entry of the axis was set already, and the saves leave the EEPROM as it was. -/
def turnDirKeeps (faults : Faults) (t : Turning) (rxbuff : Nat → UInt8) (s : Sta) : Prop :=
  ∀ dir, turnDirFits rxbuff s → turnDir (rxbuff 4) = some dir →
    match faults.motorDirSave (rxbuff 3) (turnDirEntry dir rxbuff s).motorDir
      s.device.eeprom with
    | (.FAIL, m) =>
      s.antennaDirMapMotor (indexOf (rxbuff 3)) = turnDirEntry dir rxbuff s ∧ m = s.device.eeprom
    | (.SUCC, m) => turnDirFails t dir (rxbuff 3) →
      s.antennaDirMapMotor (indexOf (rxbuff 3)) = turnDirEntry dir rxbuff s ∧
        turnDirEeprom faults t dir (rxbuff 3) m = s.device.eeprom

/-- The mode is what it was, or the idle one of the motor that has been stopped. -/
def FailKeepsStopped (s : Sta) (r : Ret × Cmd) : Prop :=
  r.1 = .FAIL → Kept s r.2 ∧ (r.2.seekSatMode = s.seekSatMode ∨ r.2.seekSatMode = 0x00)

theorem dataAddDirAdjust_ret (antenna_part : UInt8) (c : Cmd) :
    (c.dataAddDirAdjust faults t antenna_part dir).1 = .FAIL ↔ ¬ t.adjusts dir := by
  unfold Cmd.dataAddDirAdjust
  dsimp only
  split_ifs with hadjusts
  · simp [hadjusts]
  · simp [hadjusts]

theorem turnEnd_ret (antenna_part : UInt8) (sta : Ret) (c : Cmd) :
    (c.turnEnd t antenna_part sta).1 = .FAIL ↔
      (t.driveEnd = .FAIL ∧ t.driveEndAgain = .FAIL) ∨
        (antenna_part ≠ 1 ∧ antenna_part ≠ 2 ∧ antenna_part ≠ 3) ∨ sta = .FAIL := by
  unfold Cmd.turnEnd
  by_cases hend : t.driveEnd = .FAIL ∧ t.driveEndAgain = .FAIL
  · rw [if_pos hend]
    exact iff_of_true rfl (Or.inl hend)
  · rw [if_neg hend, or_iff_right hend]
    by_cases hpart : antenna_part ≠ 1 ∧ antenna_part ≠ 2 ∧ antenna_part ≠ 3
    · rw [if_pos hpart]
      exact iff_of_true rfl (Or.inl hpart)
    · rw [if_neg hpart, or_iff_right hpart]

/-- The end of the command changes the mode, and keeps it or clears it. -/
theorem turnEnd_cases (antenna_part : UInt8) (sta : Ret) (c : Cmd) :
    (c.turnEnd t antenna_part sta).2 = c ∨ (c.turnEnd t antenna_part sta).2 = c.setMode 0x00 := by
  unfold Cmd.turnEnd
  dsimp only
  split_ifs
  · exact Or.inr rfl
  · exact Or.inr rfl
  · exact Or.inl rfl
  · exact Or.inr rfl
  · exact Or.inr rfl

theorem kept_setMode {c : Cmd} (mode : UInt8) : Kept s (c.setMode mode) ↔ Kept s c :=
  ⟨fun h => { h with }, fun h => { h with }⟩

/-- The entry of one axis is set. -/
theorem kept_putDirMap {c : Cmd} (h : Kept s c) (antenna_part : UInt8) (e : AntennaDirMapMotor) :
    Kept s (c.putDirMap antenna_part e) ↔ s.antennaDirMapMotor (indexOf antenna_part) = e := by
  have hmap : (c.putDirMap antenna_part e).antennaDirMapMotor =
      Function.update s.antennaDirMapMotor (indexOf antenna_part) e := by
    rw [← h.antennaDirMapMotor]
    rfl
  constructor
  · intro hkept
    have hsame := hkept.antennaDirMapMotor
    rw [hmap] at hsame
    rw [← hsame, Function.update_self]
  · intro hentry
    have hsame : (c.putDirMap antenna_part e).antennaDirMapMotor = s.antennaDirMapMotor := by
      rw [hmap, ← hentry, Function.update_eq_self]
    exact { h with antennaDirMapMotor := hsame }

theorem kept_entry (antenna_part : UInt8) (e : AntennaDirMapMotor) (m : Eeprom) :
    Kept s ((s.begin.putDirMap antenna_part e).setEeprom m) ↔
      s.antennaDirMapMotor (indexOf antenna_part) = e ∧ m = s.device.eeprom := by
  have hmap := kept_putDirMap (kept_begin s) antenna_part e
  constructor
  · intro hkept
    have hsame : Kept s (s.begin.putDirMap antenna_part e) := { hkept with eeprom := rfl }
    exact ⟨hmap.mp hsame, hkept.eeprom⟩
  · rintro ⟨hentry, hm⟩
    exact (kept_setEeprom (hmap.mpr hentry) m).mpr hm

/-- Of what is kept, the adjustment of the encoder touches the EEPROM alone. -/
theorem kept_dataAddDirAdjust (antenna_part : UInt8) (c : Cmd) :
    Kept s (c.dataAddDirAdjust faults t antenna_part dir).2 ↔
      Kept s (c.setEeprom (turnDirEeprom faults t dir antenna_part c.device.eeprom)) := by
  unfold Cmd.dataAddDirAdjust turnDirEeprom
  dsimp only
  split_ifs
  · exact ⟨fun h => { h with }, fun h => { h with }⟩
  · exact ⟨fun h => { h with }, fun h => { h with }⟩

theorem kept_turnEnd (antenna_part : UInt8) (sta : Ret) (c : Cmd) :
    Kept s (c.turnEnd t antenna_part sta).2 ↔ Kept s c := by
  rcases turnEnd_cases (t := t) antenna_part sta c with heq | heq
  · rw [heq]
  · rw [heq, kept_setMode]

theorem seekSatMode_turnEnd (antenna_part : UInt8) (sta : Ret) (c : Cmd) :
    (c.turnEnd t antenna_part sta).2.seekSatMode = c.seekSatMode ∨
      (c.turnEnd t antenna_part sta).2.seekSatMode = 0x00 := by
  rcases turnEnd_cases (t := t) antenna_part sta c with heq | heq
  · rw [heq]
    exact Or.inl rfl
  · rw [heq]
    exact Or.inr rfl

theorem seekSatMode_dataAddDirAdjust (antenna_part : UInt8) (c : Cmd) :
    (c.dataAddDirAdjust faults t antenna_part dir).2.seekSatMode = c.seekSatMode := by
  unfold Cmd.dataAddDirAdjust
  dsimp only
  split_ifs <;> rfl

theorem failKeeps_turnDirAdjustFinish :
    FailKeepsStopped s (antennaTurnDirAdjustFinish faults t rxbuff s) ↔
      turnDirKeeps faults t rxbuff s := by
  unfold FailKeepsStopped turnDirKeeps
  by_cases hfits : turnDirFits rxbuff s
  · obtain ⟨dir, hdir⟩ := exists_turnDir hfits
    rw [turnDirAdjustFinish_fits hfits hdir]
    simp only [hdir, Option.some.injEq, forall_eq', imp_iff_right hfits]
    rcases faults.motorDirSave (rxbuff 3) (turnDirEntry dir rxbuff s).motorDir s.device.eeprom
      with ⟨ret, m⟩
    cases ret with
    | FAIL =>
        dsimp only
        rw [imp_iff_right rfl, kept_setMode, kept_entry]
        exact and_iff_left (Or.inr rfl)
    | SUCC =>
        dsimp only
        rw [turnEnd_ret, dataAddDirAdjust_ret, kept_turnEnd, kept_dataAddDirAdjust]
        refine imp_congr_right fun _ => ?_
        refine (and_iff_left ?_).trans (kept_entry (rxbuff 3) (turnDirEntry dir rxbuff s) _)
        rcases seekSatMode_turnEnd (t := t) (rxbuff 3) _ _ with hmode | hmode
        · rw [hmode, seekSatMode_dataAddDirAdjust]
          exact Or.inl rfl
        · exact Or.inr hmode
  · rw [turnDirAdjustFinish_refused hfits]
    exact iff_of_true (fun _ => ⟨(kept_setMode 0x00).mpr (kept_begin s), Or.inr rfl⟩)
      (fun dir h => absurd h hfits)

end

end SetCmd

/-! ### AntennaRecordGoto -/

namespace Mode

/-- What `CurrSatParam` is set to from a record. -/
def Recalled.satParam (r : Recalled) : SatParam :=
  ⟨0x00, r.name, r.lonFlag, r.lon, r.freq, r.polarType⟩

/-- If the receiver does not follow, the satellite of the record is the current one already. -/
def recordGotoKeeps [SoftFloat] (faults : Faults) (beacon : UInt32 → Ret) (rxbuff : Nat → UInt8) (s : Sta) :
    Prop :=
  ∀ r, s.gotoFinds faults rxbuff r →
    beacon (beaconFreq r.freq s.device.antennaParam.loFreq) = .FAIL →
      s.device.currSatParam = Recalled.satParam r

/-- A command that fails keeps the parameters, the lists, the EEPROM and the mode. -/
def FailKeeps (s : Sta) (r : Ret × Cmd) : Prop :=
  r.1 = .FAIL →
    r.2.device = s.device ∧ r.2.aim = s.aim ∧ r.2.seekSatMode = s.seekSatMode

theorem failKeeps_pcAntennaRecordGoto [SoftFloat] {pdu : Pdu} {faults : Faults}
    {beacon : UInt32 → Ret} {history_max_mv : UInt32} {rxbuff : Nat → UInt8} {s : Sta}
    (hidle : s.seekSatMode = 0x00) :
    FailKeeps s (pcAntennaRecordGoto pdu faults beacon history_max_mv rxbuff s) ↔
      recordGotoKeeps faults beacon rxbuff s := by
  have hleave : s.begin.leaveMode pdu = s.begin := if_neg (not_not.mpr hidle)
  unfold FailKeeps recordGotoKeeps
  rcases pcAntennaRecordGoto_cases pdu faults beacon history_max_mv rxbuff s with
    ⟨hnone, heq⟩ | ⟨r, hfinds, heq⟩
  · rw [heq, hleave]
    exact iff_of_true (fun _ => ⟨rfl, rfl, rfl⟩) (fun r hfinds => absurd hfinds (hnone r))
  · have hone : (∀ r', s.gotoFinds faults rxbuff r' →
        beacon (beaconFreq r'.freq s.device.antennaParam.loFreq) = .FAIL →
          s.device.currSatParam = Recalled.satParam r') ↔
        (beacon (beaconFreq r.freq s.device.antennaParam.loFreq) = .FAIL →
          s.device.currSatParam = Recalled.satParam r) := by
      constructor
      · intro h
        exact h r hfinds
      · intro h r' hfinds'
        rw [← gotoFinds_unique hfinds hfinds']
        exact h
    rw [heq, hleave, hone]
    cases hbeacon : beacon (beaconFreq r.freq s.device.antennaParam.loFreq) with
    | SUCC =>
        rw [Cmd.recallRecord_succ s.begin hbeacon]
        exact iff_of_true (fun h => absurd h (by simp)) (fun h => absurd h (by simp))
    | FAIL =>
        rw [Cmd.recallRecord_fail s.begin hbeacon, imp_iff_right rfl, imp_iff_right rfl]
        constructor
        · rintro ⟨hdevice, -, -⟩
          rw [← hdevice]
          rfl
        · intro hsat
          refine ⟨?_, rfl, rfl⟩
          show { s.device with currSatParam := Recalled.satParam r } = s.device
          rw [← hsat]

end Mode

/-! ### The five commands -/

/-- **A set command that fails keeps the parameters exactly if what it got as far as setting was
set already.** -/
theorem failed_set_keeps_iff [SoftFloat] (pdu : Pdu) (faults : Faults) (agc : UInt8 → Ret)
    (beacon : UInt32 → Ret) (t : SetCmd.Turning) (stack : SatParam)
    (aimDegree : AntennaParam → SatParam → Degrees) (history_max_mv : UInt32)
    (rxbuff : Nat → UInt8) (s : SetCmd.Sta) (w : Mode.Sta) :
    (SetCmd.FailKeeps s (SetCmd.satParamSet faults rxbuff s) ↔
        SetCmd.satParamKeeps faults rxbuff s) ∧
      (SetCmd.FailKeeps s (SetCmd.antennaParamSet faults agc aimDegree rxbuff s) ↔
        SetCmd.antennaParamKeeps faults agc aimDegree rxbuff s) ∧
      (SetCmd.FailKeeps s (SetCmd.pcSelSat faults stack beacon aimDegree rxbuff s) ↔
        SetCmd.selSatKeeps faults stack beacon rxbuff s) ∧
      (SetCmd.FailKeepsStopped s (SetCmd.antennaTurnDirAdjustFinish faults t rxbuff s) ↔
        SetCmd.turnDirKeeps faults t rxbuff s) ∧
      (w.seekSatMode = 0x00 →
        (Mode.FailKeeps w (Mode.pcAntennaRecordGoto pdu faults beacon history_max_mv rxbuff w) ↔
          Mode.recordGotoKeeps faults beacon rxbuff w)) :=
  ⟨SetCmd.failKeeps_satParamSet, SetCmd.failKeeps_antennaParamSet, SetCmd.failKeeps_selSat,
    SetCmd.failKeeps_turnDirAdjustFinish, Mode.failKeeps_pcAntennaRecordGoto⟩

section
attribute [local instance] SoftFloat.single

namespace Mode

/-- The satellite of the record. -/
def recordedSat : SatParam := ⟨0, Vector.replicate 16 0x41, 0x45, 110.5, 12500000, 0x48⟩

/-- Where the antenna stood. -/
def recordedNow : Now where
  sysDateTime := ⟨26, 7, 1, 12, 30, 0⟩
  rtc := ⟨26, 7, 1, 12, 30, 0⟩
  beaconRxpowerMv := 6250
  beaconRxpowerDb := 17.5
  antennaPosition := 197.375
  antennaCabrage := 44.125
  antennaPolar := -37.5

/-- A device that stands by on the satellite of its first record. -/
def standingBy : Sta :=
  { newDevice with
    device := (pcAntennaRecord 0 recordedNow { newDevice.device with
      eeprom := fun _ => 0xFF
      currSatParam := recordedSat
      antennaParam := ⟨1, 22300, 12, 11300000, 0, 3⟩ }).2 }

/-- `AntennaRecordGoto` for the first record. -/
def gotoFirst : Nat → UInt8 := fun i => [0x02, 0x06, 0x01, 0x01].getD i 0

end Mode

/-- The record is found, but the receiver refuses its satellite, which is the current one. -/
theorem failed_goto_keeps :
    (Mode.pcAntennaRecordGoto (fun _ _ => .SUCC) Faults.none (fun _ => .SUCC) 0 Mode.gotoFirst
        Mode.standingBy).1 = .SUCC ∧
      (Mode.pcAntennaRecordGoto (fun _ _ => .SUCC) Faults.none (fun _ => .FAIL) 0 Mode.gotoFirst
        Mode.standingBy).1 = .FAIL ∧
      Mode.FailKeeps Mode.standingBy
        (Mode.pcAntennaRecordGoto (fun _ _ => .SUCC) Faults.none (fun _ => .FAIL) 0
          Mode.gotoFirst Mode.standingBy) := by
  obtain ⟨-, -, -, -, hgoto⟩ := failed_set_keeps_iff (fun _ _ => .SUCC) Faults.none
    (fun _ => .FAIL) (fun _ => .FAIL) ⟨fun _ => 0, 0, .FAIL, .FAIL, .FAIL, .FAIL⟩
    Mode.recordedSat (fun _ _ => ⟨0, 0, 0⟩) 0 Mode.gotoFirst SetCmd.newDevice Mode.standingBy
  refine ⟨by decide +kernel, by decide +kernel, (hgoto rfl).mpr ?_⟩
  rintro r ⟨-, ⟨buff, hbuff, rfl⟩, -⟩ -
  have hsat : (Mode.standingBy.begin.recordOf Faults.none (Mode.gotoFirst 3)).map
      (fun buff => Mode.Recalled.satParam (pcGotoRecord buff)) = some Mode.recordedSat := by
    decide +kernel
  have hcurr : Mode.standingBy.device.currSatParam = Mode.recordedSat := by decide +kernel
  rw [hbuff, Option.map_some, Option.some.injEq] at hsat
  rw [hcurr, hsat]

namespace SetCmd

/-- A device with one satellite. -/
def oneSat : Sta :=
  { newDevice with device := { newDevice.device with
      eeprom := fun _ => 0
      satList := ⟨1, Function.update (fun _ => 0) 0 1⟩ } }

/-- The receiver does not follow, and the satellite has been selected in the EEPROM. -/
theorem selSat_failed_changes :
    ¬ FailKeeps oneSat (pcSelSat Faults.none oneSat.device.currSatParam (fun _ => .FAIL)
      (fun _ _ => ⟨0, 0, 0⟩) (selectSat 1) oneSat) := by
  intro h
  have hsame : (Faults.none.satCurrIdSave 1 fun _ => 0).2 = fun _ => 0 :=
    failKeeps_selSat.mp h ⟨by decide, by decide⟩ (by decide) rfl
  exact absurd (congrFun hsame 0x0A08) (by decide)

end SetCmd

end

end SwiftAcu
