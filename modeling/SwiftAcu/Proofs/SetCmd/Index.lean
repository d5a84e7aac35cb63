/-
Which entries of an array the commands read and write.

An id out of a command is used as it comes: a satellite is selected and stored at `id - 1`
whatever the id is, so that 0 lies in front of the array and 101 behind it.  A free id is
looked for and cannot be wrong, and the axes of the hard limits are compared with their
numbers.  An axis that is adjusted is compared with the one that was turned last, and that
is none, 0, until one has been turned.
-/
import SwiftAcu.Proofs.SetCmd.Cases

namespace SwiftAcu.SetCmd

/-! ### Indices -/

theorem inRange_satId (id : UInt8) :
    (⟨.satId, indexOf id⟩ : Access).InRange ↔ 1 ≤ id ∧ id ≤ 100 := by
  rw [UInt8.le_iff_toNat_le, UInt8.le_iff_toNat_le]
  show 0 ≤ (id.toNat : Int) - 1 ∧ (id.toNat : Int) - 1 < 100 ↔ 1 ≤ id.toNat ∧ id.toNat ≤ 100
  omega

/-- The arrays of three. -/
theorem inRange_axis (table : Table) (h : table.size = 3) (id : UInt8) :
    (⟨table, indexOf id⟩ : Access).InRange ↔ 1 ≤ id ∧ id ≤ 3 := by
  rw [UInt8.le_iff_toNat_le, UInt8.le_iff_toNat_le]
  show 0 ≤ (id.toNat : Int) - 1 ∧ (id.toNat : Int) - 1 < table.size ↔ 1 ≤ id.toNat ∧ id.toNat ≤ 3
  rw [h]
  omega

/-! ### Satellites -/

section
variable {faults : Faults} {rxbuff : Nat → UInt8} {s : Sta}

/-- A free id is one of the hundred, or 0. -/
theorem freeId_le (l : SatList) : l.freeId ≤ 100 := by
  unfold SatList.freeId
  cases hfirst : Slots.first satMax l.satId 0 with
  | none => decide
  | some i =>
      have hi : i < 100 := (Slots.first_eq_some hfirst).1
      rw [UInt8.le_iff_toNat_le]
      show (i + 1) % 256 ≤ 100
      omega

theorem one_le_of_ne {id : UInt8} (h : id ≠ 0) : 1 ≤ id := by
  rw [UInt8.le_iff_toNat_le]
  show 1 ≤ id.toNat
  have hpos : id.toNat ≠ 0 := fun hzero => h (UInt8.toNat_inj.mp hzero)
  omega

/-- Nothing is stored under the id 0. -/
theorem satParamSave_zero [SoftFloat] {p : SatParam} (h : p.id = 0) (m : Eeprom) :
    faults.satParamSave p m = (.FAIL, m) := by
  have hzero : p.id ≤ 0 := by
    rw [h]
    exact le_refl 0
  exact if_pos hzero

/-- Any other id is stored as the EEPROM is able to. -/
theorem satParamSave_of_ne [SoftFloat] {p : SatParam} (h : p.id ≠ 0) (m : Eeprom) :
    (faults.satParamSave p m).1 = .SUCC ↔ faults.save (satParamAddr p.id) = none := by
  have hpos : ¬ p.id ≤ 0 := by
    rw [UInt8.le_iff_toNat_le]
    intro hle
    exact h (UInt8.toNat_inj.mp (Nat.le_zero.mp hle))
  have heq : faults.satParamSave p m = Faults.store (faults.save (satParamAddr p.id))
      (satParamAddr p.id) ([p.id] ++ satParamBytes p) m := if_neg hpos
  rw [heq]
  cases faults.save (satParamAddr p.id) with
  | none => simp [Faults.store]
  | some left => simp [Faults.store]

/-- The satellite that is stored has the id of the command, or a free one. -/
theorem satParamOf_id [SoftFloat] :
    (satParamOf rxbuff s).id =
      if rxbuff 3 = 0x00 then s.device.satList.freeId else rxbuff 3 := by
  show (if rxbuff 3 = 0x00 ∧ s.device.satList.freeId ≠ 0 then s.device.satList.freeId
    else rxbuff 3) = _
  by_cases hid : rxbuff 3 = 0x00
  · rw [if_pos hid]
    by_cases hfree : s.device.satList.freeId ≠ 0
    · rw [if_pos ⟨hid, hfree⟩]
    · rw [if_neg (fun h => hfree h.2), hid, not_not.mp hfree]
  · rw [if_neg hid, if_neg (fun h => hid h.1)]

/-- The entry that a satellite takes is in range if the command has no id, or one of the
hundred. -/
theorem inRange_satParamOf [SoftFloat] (hne : (satParamOf rxbuff s).id ≠ 0) :
    (⟨.satId, indexOf (satParamOf rxbuff s).id⟩ : Access).InRange ↔ rxbuff 3 ≤ 100 := by
  rw [inRange_satId, and_iff_right (one_le_of_ne hne), satParamOf_id]
  by_cases hid : rxbuff 3 = 0x00
  · rw [if_pos hid, hid]
    exact iff_of_true (freeId_le s.device.satList) (by decide)
  · rw [if_neg hid]

/-- The one entry that is touched is that of a satellite that has been stored. -/
theorem inRange_satParamSet_iff [SoftFloat] :
    InRange s (.satParamSet faults rxbuff) ↔
      (satParamFits rxbuff s →
        (faults.satParamSave (satParamOf rxbuff s) s.device.eeprom).1 = .SUCC →
          rxbuff 3 ≤ 100) := by
  show (∀ a ∈ (satParamSet faults rxbuff s).2.accesses, a.InRange) ↔ _
  by_cases hfits : satParamFits rxbuff s
  · rw [imp_iff_right hfits]
    rcases hsave : faults.satParamSave (satParamOf rxbuff s) s.device.eeprom with ⟨ret, m⟩
    cases ret with
    | FAIL =>
        rw [satParamSet_failed hfits hsave]
        exact iff_of_true (List.forall_mem_nil _) (fun h => absurd h (by simp))
    | SUCC =>
        have hne : (satParamOf rxbuff s).id ≠ 0 := by
          intro hid
          rw [satParamSave_zero hid] at hsave
          simp at hsave
        rw [(satParamSet_stored hfits hsave).2, List.forall_mem_singleton,
          inRange_satParamOf hne, imp_iff_right rfl]
  · rw [satParamSet_refused hfits]
    exact iff_of_true (List.forall_mem_nil _) (fun h => absurd h hfits)

theorem inRange_satParamSet [SoftFloat] :
    InRange s (.satParamSet faults rxbuff) ↔ Fits s (.satParamSet faults rxbuff) := by
  rw [inRange_satParamSet_iff]
  show _ ↔ (cmdIdOf rxbuff = CmdId.satParamSet.id → rxbuff 2 = 0x1B →
    faults.save (satParamAddr (rxbuff 3)) = none → rxbuff 3 ≤ 100)
  by_cases hzero : rxbuff 3 = 0x00
  · have hle : rxbuff 3 ≤ 100 := by
      rw [hzero]
      decide
    exact iff_of_true (fun _ _ => hle) (fun _ _ _ => hle)
  · have hid : (satParamOf rxbuff s).id = rxbuff 3 := by
      rw [satParamOf_id, if_neg hzero]
    have hsave : (faults.satParamSave (satParamOf rxbuff s) s.device.eeprom).1 = .SUCC ↔
        faults.save (satParamAddr (rxbuff 3)) = none := by
      rw [satParamSave_of_ne (hid.trans_ne hzero), hid]
    have hfits : satParamFits rxbuff s ↔
        cmdIdOf rxbuff = CmdId.satParamSet.id ∧ rxbuff 2 = 0x1B :=
      ⟨fun h => ⟨h.1, h.2.1⟩, fun h => ⟨h.1, h.2, fun hfull => hzero hfull.1⟩⟩
    rw [hsave, hfits, and_imp]

theorem inRange_selSat [SoftFloat] (front : Front) (stack : SatParam) (beacon : UInt32 → Ret)
    (aimDegree : AntennaParam → SatParam → Degrees) :
    InRange s (.selSat front faults stack beacon aimDegree rxbuff) ↔
      Fits s (.selSat front faults stack beacon aimDegree rxbuff) := by
  have hfront : handle s (.selSat front faults stack beacon aimDegree rxbuff) =
      selSat faults stack beacon aimDegree rxbuff s := by
    cases front with
    | pc => rfl
    | oled => rfl
  unfold InRange
  rw [hfront]
  show _ ↔ (cmdIdOf rxbuff = CmdId.satSel.id → rxbuff 2 = 1 → 1 ≤ rxbuff 3 ∧ rxbuff 3 ≤ 100)
  by_cases hfits : selSatFits rxbuff
  · have hone : (selSat faults stack beacon aimDegree rxbuff s).2.accesses =
        [⟨.satId, indexOf (rxbuff 3)⟩] := by
      by_cases hid : rxbuff 3 = s.device.satList.idAt (rxbuff 3)
      · cases hbeacon : selSatBeacon faults stack beacon rxbuff s with
        | SUCC => exact (selSat_selected hfits hid hbeacon).2
        | FAIL => rw [selSat_failed hfits hid hbeacon]; rfl
      · rw [selSat_unknown hfits hid]
        rfl
    rw [hone, List.forall_mem_singleton, inRange_satId, imp_iff_right hfits.1,
      imp_iff_right hfits.2]
  · rw [selSat_refused hfits]
    exact iff_of_true (List.forall_mem_nil _)
      (fun hcmd hlen => absurd ⟨hcmd, hlen⟩ hfits)

/-! ### The axes -/

/-- No entry is touched. -/
theorem inRange_of_nil [SoftFloat] {e : Event} (h : (handle s e).2.accesses = []) : InRange s e := by
  unfold InRange
  rw [h]
  exact List.forall_mem_nil _

theorem inRange_antennaParamSet [SoftFloat] (agc : UInt8 → Ret)
    (aimDegree : AntennaParam → SatParam → Degrees) :
    InRange s (.antennaParamSet faults agc aimDegree rxbuff) := by
  refine inRange_of_nil ?_
  show (antennaParamSet faults agc aimDegree rxbuff s).2.accesses = []
  unfold antennaParamSet
  dsimp only
  split_ifs <;> rfl

theorem inRange_turnDirAdjustBegin [SoftFloat] (start : Ret) :
    InRange s (.turnDirAdjustBegin start rxbuff) := by
  refine inRange_of_nil ?_
  show (antennaTurnDirAdjustBegin start rxbuff s).2.accesses = []
  unfold antennaTurnDirAdjustBegin
  dsimp only
  split_ifs <;> rfl

theorem accesses_turnEnd (t : Turning) (antenna_part : UInt8) (sta : Ret) (c : Cmd) :
    (c.turnEnd t antenna_part sta).2.accesses = c.accesses := by
  unfold Cmd.turnEnd
  dsimp only
  split_ifs <;> rfl

/-- The encoder is looked up once, and once more where its counting mode is stored. -/
theorem mem_accesses_dataAddDirAdjust {t : Turning} {antenna_part antenna_dir : UInt8} {c : Cmd}
    {a : Access} :
    a ∈ (c.dataAddDirAdjust faults t antenna_part antenna_dir).2.accesses ↔
      a ∈ c.accesses ∨ a = ⟨.eleccoderInfo, indexOf antenna_part⟩ := by
  unfold Cmd.dataAddDirAdjust
  dsimp only
  split_ifs
  · simp [Cmd.access, Cmd.setEeprom]
  · simp [Cmd.access]

/-- An axis that is adjusted is looked up with its number. -/
theorem inRange_turnDirAdjustFinish_iff [SoftFloat] (t : Turning) :
    InRange s (.turnDirAdjustFinish faults t rxbuff) ↔
      (turnDirFits rxbuff s → 1 ≤ rxbuff 3 ∧ rxbuff 3 ≤ 3) := by
  show (∀ a ∈ (antennaTurnDirAdjustFinish faults t rxbuff s).2.accesses, a.InRange) ↔ _
  by_cases hfits : turnDirFits rxbuff s
  · rw [imp_iff_right hfits]
    obtain ⟨dir, hdir⟩ := exists_turnDir hfits
    have hmap := inRange_axis .antennaDirMapMotor rfl (rxbuff 3)
    have hcoder := inRange_axis .eleccoderInfo rfl (rxbuff 3)
    rw [turnDirAdjustFinish_fits hfits hdir]
    rcases faults.motorDirSave (rxbuff 3) (turnDirEntry dir rxbuff s).motorDir s.device.eeprom
      with ⟨ret, m⟩
    cases ret with
    | FAIL =>
        show (∀ a ∈ ([_] : List Access), a.InRange) ↔ _
        rw [List.forall_mem_singleton, hmap]
    | SUCC =>
        dsimp only
        rw [accesses_turnEnd, ← hmap]
        constructor
        · intro h
          exact h _ (mem_accesses_dataAddDirAdjust.mpr (Or.inl (List.mem_singleton.mpr rfl)))
        · intro h a ha
          rcases mem_accesses_dataAddDirAdjust.mp ha with ha | ha
          · rw [List.mem_singleton.mp ha]
            exact h
          · rw [ha]
            exact hcoder.mpr (hmap.mp h)
  · rw [turnDirAdjustFinish_refused hfits]
    exact iff_of_true (List.forall_mem_nil _) (fun h => absurd h hfits)

/-- The limits that are known are those of the three axes. -/
theorem inRange_limit {limit : UInt8} (h : limit ∈ [0x10, 0x11, 0x20, 0x21, 0x30, 0x31]) :
    (⟨.eleccoderInfo, indexOf ((limit &&& 0xF0) >>> 4)⟩ : Access).InRange := by
  rw [inRange_axis .eleccoderInfo rfl]
  simp only [List.mem_cons, List.not_mem_nil, or_false] at h
  rcases h with rfl | rfl | rfl | rfl | rfl | rfl <;> decide

theorem inRange_hargWareLimitAdjust [SoftFloat] (g : Gauge) (data : Int → UInt32) :
    InRange s (.hargWareLimitAdjust faults g data rxbuff) := by
  show ∀ a ∈ (antennaHargWareLimitAdjust faults g data rxbuff s).2.accesses, a.InRange
  unfold antennaHargWareLimitAdjust
  dsimp only
  split_ifs with hcmd hlimit
  · exact List.forall_mem_nil _
  · split
    · exact List.forall_mem_singleton.mpr (inRange_limit hlimit)
    · exact List.forall_mem_singleton.mpr (inRange_limit hlimit)
  · exact List.forall_mem_nil _

end

/-! ### The axis that was turned last -/

/-- The axis that was turned last is one of the three, or none. -/
def Sta.Turned (s : Sta) : Prop := (s.antennaDir &&& 0xFF00) >>> 8 ≤ 3

theorem turned_boot (s : Sta) : (boot s).Turned := by
  show (0 &&& 0xFF00 : UInt16) >>> 8 ≤ 3
  decide

section
variable (faults : Faults) (rxbuff : Nat → UInt8) (s : Sta)

theorem antennaDir_satParamSet [SoftFloat] :
    (satParamSet faults rxbuff s).2.antennaDir = s.antennaDir := by
  by_cases hfits : satParamFits rxbuff s
  · rw [satParamSet_reached hfits]
    split
    · rfl
    · dsimp only
      split_ifs <;> rfl
  · rw [satParamSet_refused hfits]
    rfl

theorem antennaDir_selSat [SoftFloat] (stack : SatParam) (beacon : UInt32 → Ret)
    (aimDegree : AntennaParam → SatParam → Degrees) :
    (selSat faults stack beacon aimDegree rxbuff s).2.antennaDir = s.antennaDir := by
  unfold selSat
  dsimp only
  split_ifs
  · rfl
  · rfl
  · split <;> rfl

theorem antennaDir_antennaParamSet (agc : UInt8 → Ret)
    (aimDegree : AntennaParam → SatParam → Degrees) :
    (antennaParamSet faults agc aimDegree rxbuff s).2.antennaDir = s.antennaDir := by
  unfold antennaParamSet
  dsimp only
  split_ifs <;> rfl

theorem antennaDir_dataAddDirAdjust (t : Turning) (antenna_part antenna_dir : UInt8) (c : Cmd) :
    (c.dataAddDirAdjust faults t antenna_part antenna_dir).2.antennaDir = c.antennaDir := by
  unfold Cmd.dataAddDirAdjust
  dsimp only
  split_ifs <;> rfl

theorem antennaDir_turnEnd (t : Turning) (antenna_part : UInt8) (sta : Ret) (c : Cmd) :
    (c.turnEnd t antenna_part sta).2.antennaDir = c.antennaDir := by
  unfold Cmd.turnEnd
  dsimp only
  split_ifs <;> rfl

theorem antennaDir_turnDirAdjustFinish (t : Turning) :
    (antennaTurnDirAdjustFinish faults t rxbuff s).2.antennaDir = s.antennaDir := by
  by_cases hfits : turnDirFits rxbuff s
  · obtain ⟨dir, hdir⟩ := exists_turnDir hfits
    rw [turnDirAdjustFinish_fits hfits hdir]
    split
    · rfl
    · dsimp only
      rw [antennaDir_turnEnd, antennaDir_dataAddDirAdjust]
      rfl
  · rw [turnDirAdjustFinish_refused hfits]
    rfl

theorem antennaDir_hargWareLimitAdjust (g : Gauge) (data : Int → UInt32) :
    (antennaHargWareLimitAdjust faults g data rxbuff s).2.antennaDir = s.antennaDir := by
  unfold antennaHargWareLimitAdjust
  dsimp only
  split_ifs
  · rfl
  · split <;> rfl
  · rfl

/-- Only what `AntennaTurnDirAdjustBegin` accepts is turned. -/
theorem turned_turnDirAdjustBegin (start : Ret) (h : s.Turned) :
    (antennaTurnDirAdjustBegin start rxbuff s).2.toSta.Turned := by
  unfold antennaTurnDirAdjustBegin
  dsimp only
  split_ifs with hcmd hpart hdir hstart
  · exact h
  · exact h
  · exact h
  · exact h
  · show (((rxbuff 3).toUInt16 <<< 8 + 0x02) &&& 0xFF00) >>> 8 ≤ 3
    have haxis : rxbuff 3 = 1 ∨ rxbuff 3 = 2 ∨ rxbuff 3 = 3 := by
      tauto
    rcases haxis with haxis | haxis | haxis
    · rw [haxis]
      decide
    · rw [haxis]
      decide
    · rw [haxis]
      decide

/-- **The axis turned last stays one of the three, or none.** -/
theorem turned_step [SoftFloat] (e : Event) (h : s.Turned) : (step s e).Turned := by
  have keep : (handle s e).2.antennaDir = s.antennaDir → (step s e).Turned := by
    intro hdir
    show ((handle s e).2.antennaDir &&& 0xFF00) >>> 8 ≤ 3
    rw [hdir]
    exact h
  cases e with
  | satParamSet faults rxbuff => exact keep (antennaDir_satParamSet faults rxbuff s)
  | selSat front faults stack beacon aimDegree rxbuff =>
      refine keep ?_
      cases front with
      | pc => exact antennaDir_selSat faults rxbuff s stack beacon aimDegree
      | oled => exact antennaDir_selSat faults rxbuff s stack beacon aimDegree
  | antennaParamSet faults agc aimDegree rxbuff =>
      exact keep (antennaDir_antennaParamSet faults rxbuff s agc aimDegree)
  | turnDirAdjustBegin start rxbuff => exact turned_turnDirAdjustBegin rxbuff s start h
  | turnDirAdjustFinish faults t rxbuff =>
      exact keep (antennaDir_turnDirAdjustFinish faults rxbuff s t)
  | hargWareLimitAdjust faults g data rxbuff =>
      exact keep (antennaDir_hargWareLimitAdjust faults rxbuff s g data)
  | others s' => exact keep rfl

end

/-! ### Runs -/

/-- The axis of the last turn fits an axis of the command only if it is 0 or one of the three. -/
theorem part_le {s : Sta} {rxbuff : Nat → UInt8} (h : s.Turned) (hfits : turnDirFits rxbuff s) :
    rxbuff 3 ≤ 3 := by
  have hle : (rxbuff 3).toUInt16 ≤ 3 := by
    rw [← hfits.2.2]
    exact h
  rw [UInt16.le_iff_toNat_le, UInt8.toNat_toUInt16] at hle
  exact UInt8.le_iff_toNat_le.mpr hle

/-- **A command stays inside its arrays exactly if it fits.** -/
theorem inRange_iff_fits [SoftFloat] {s : Sta} (e : Event) (h : s.Turned) :
    InRange s e ↔ Fits s e := by
  cases e with
  | satParamSet faults rxbuff => exact inRange_satParamSet
  | selSat front faults stack beacon aimDegree rxbuff =>
      exact inRange_selSat front stack beacon aimDegree
  | antennaParamSet faults agc aimDegree rxbuff =>
      exact iff_of_true (inRange_antennaParamSet agc aimDegree) trivial
  | turnDirAdjustBegin start rxbuff => exact iff_of_true (inRange_turnDirAdjustBegin start) trivial
  | turnDirAdjustFinish faults t rxbuff =>
      rw [inRange_turnDirAdjustFinish_iff]
      show _ ↔ (turnDirFits rxbuff s → rxbuff 3 ≠ 0)
      refine forall_congr' fun hfits => ?_
      rw [and_iff_left (part_le h hfits)]
      constructor
      · intro hone hzero
        rw [hzero] at hone
        exact absurd hone (by decide)
      · exact one_le_of_ne
  | hargWareLimitAdjust faults g data rxbuff =>
      exact iff_of_true (inRange_hargWareLimitAdjust g data) trivial
  | others s' =>
      exact iff_of_true (inRange_of_nil rfl) trivial

/-- **Every entry is inside its array along exactly the runs of fitting commands.** -/
theorem indices_inRange_iff [SoftFloat] (s : Sta) (es : List Event) :
    Runs.AllSteps step InRange (boot s) es ↔ Runs.AllSteps step Fits (boot s) es :=
  Runs.allSteps_iff_of_inv (fun (s : Sta) e _ (h : s.Turned) => inRange_iff_fits e h)
    (fun s e _ h _ => turned_step s e h) (turned_boot s)

section
attribute [local instance] SoftFloat.single

/-- The satellite 0 is selected: its entry lies in front of the array. -/
theorem select_zero_outside :
    ¬ Runs.AllSteps step InRange (boot newDevice)
      [.selSat .pc Faults.none newDevice.device.currSatParam (fun _ => .SUCC)
        (fun _ _ => ⟨0, 0, 0⟩) (selectSat 0)] := by
  rintro ⟨h, -⟩
  have hfits := (inRange_selSat .pc _ _ _).mp h (by decide) (by decide)
  exact absurd hfits.1 (by decide)

end

end SwiftAcu.SetCmd
