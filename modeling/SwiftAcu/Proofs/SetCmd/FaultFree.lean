/-
Where nothing goes wrong, the commands are those that the parameters are followed with.

`Acu/Satellite.lean` and `Acu/AntennaRecord.lean` have the commands on an EEPROM that never fails
and on the part of the device that is stored.  The same commands with the EEPROM as it may fail,
with the mode and with the tasks, come to the same there; so what is proved of either is proved
of one program.
-/
import SwiftAcu.Proofs.Mode.Recall
import SwiftAcu.Proofs.Record.Recall
import SwiftAcu.Proofs.SetCmd.Cases

namespace SwiftAcu

section
variable [SoftFloat]

namespace Faults

theorem satParamSave_none (p : SatParam) (m : Eeprom) :
    none.satParamSave p m =
      match SwiftAcu.satParamSave p m with
      | .none => (.FAIL, m)
      | some m => (.SUCC, m) := by
  unfold satParamSave SwiftAcu.satParamSave
  by_cases hzero : p.id ≤ 0
  · rw [if_pos hzero, if_pos hzero]
  · rw [if_neg hzero, if_neg hzero]
    exact paramSave_none _ _ _

end Faults

namespace SetCmd

/-! ### What is stored -/

/-- An event as a command on what is stored. -/
def Event.store (d : Device) : Event → Ret × Device
  | .satParamSet _ rxbuff => SwiftAcu.satParamSet (pbuff rxbuff 0x1B) d
  | .selSat _ _ stack beacon _ rxbuff =>
    let p := (SwiftAcu.satParamRead (rxbuff 3) (satCurrIdSave (rxbuff 3) d.eeprom)).getD
      { stack with id := rxbuff 3 }
    SwiftAcu.selSat stack (beacon (Mode.beaconFreq p.freq d.antennaParam.loFreq)) (pbuff rxbuff 1) d
  | .antennaParamSet _ agc _ rxbuff =>
    let new := newAntennaParam (pbuff rxbuff 12)
    SwiftAcu.antennaParamSet (agc new.gainRangeFlag) (pbuff rxbuff 12) d
  | _ => (.SUCC, d)

/-- The event is a command on what is stored, in its own datagram, and no save or read of it
fails. -/
inductive FaultFree : Event → Prop where
  | satParamSet {rxbuff : Nat → UInt8} (hcmd : cmdIdOf rxbuff = CmdId.satParamSet.id)
      (hlen : rxbuff 2 = 0x1B) : FaultFree (.satParamSet Faults.none rxbuff)
  | selSat (front : Front) (stack : SatParam) (beacon : UInt32 → Ret)
      (aimDegree : AntennaParam → SatParam → Degrees) {rxbuff : Nat → UInt8}
      (hcmd : cmdIdOf rxbuff = CmdId.satSel.id) (hlen : rxbuff 2 = 1) :
      FaultFree (.selSat front Faults.none stack beacon aimDegree rxbuff)
  | antennaParamSet (agc : UInt8 → Ret) (aimDegree : AntennaParam → SatParam → Degrees)
      {rxbuff : Nat → UInt8} (hcmd : cmdIdOf rxbuff = CmdId.antennaParamSet.id) :
      FaultFree (.antennaParamSet Faults.none agc aimDegree rxbuff)

section
variable {rxbuff : Nat → UInt8} {s : Sta}

omit [SoftFloat] in
theorem getD_pbuff {n i : Nat} (hi : i < n) : (pbuff rxbuff n).getD i 0 = rxbuff (3 + i) :=
  Memory.getD_read hi

theorem satParamSet_faultFree (hcmd : cmdIdOf rxbuff = CmdId.satParamSet.id)
    (hlen : rxbuff 2 = 0x1B) :
    ((satParamSet Faults.none rxbuff s).1, (satParamSet Faults.none rxbuff s).2.device) =
      SwiftAcu.satParamSet (pbuff rxbuff 0x1B) s.device := by
  have hlength : ¬ (pbuff rxbuff 0x1B).length ≠ 0x1B := not_not.mpr (Memory.length_read _ _ _)
  have hid : (pbuff rxbuff 0x1B).getD 0 0 = rxbuff 3 := getD_pbuff (by decide)
  unfold SwiftAcu.satParamSet
  rw [if_neg hlength, hid]
  by_cases hfull : rxbuff 3 = 0x00 ∧ 100 ≤ s.device.satList.total
  · rw [if_pos hfull, satParamSet_refused fun h => h.2.2 hfull]
    rfl
  · rw [if_neg hfull, satParamSet_reached ⟨hcmd, hlen, hfull⟩, Faults.satParamSave_none]
    dsimp only
    show _ = (match SwiftAcu.satParamSave (satParamOf rxbuff s) s.device.eeprom with
      | none => (Ret.FAIL, s.device)
      | some eeprom => _)
    cases SwiftAcu.satParamSave (satParamOf rxbuff s) s.device.eeprom with
    | none => rfl
    | some m =>
        dsimp only
        split_ifs with hnew
        · rw [satParamOf, if_pos hnew]
          rfl
        · rw [satParamOf, if_neg hnew]
          rfl

theorem selSat_faultFree (hcmd : cmdIdOf rxbuff = CmdId.satSel.id) (hlen : rxbuff 2 = 1)
    (stack : SatParam) (beacon : UInt32 → Ret) (aimDegree : AntennaParam → SatParam → Degrees) :
    ((selSat Faults.none stack beacon aimDegree rxbuff s).1,
        (selSat Faults.none stack beacon aimDegree rxbuff s).2.device) =
      SwiftAcu.selSat stack (selSatBeacon Faults.none stack beacon rxbuff s) (pbuff rxbuff 1)
        s.device := by
  have hlength : ¬ (pbuff rxbuff 1).length ≠ 1 := not_not.mpr (Memory.length_read _ _ _)
  have hid : (pbuff rxbuff 1).getD 0 0 = rxbuff 3 := getD_pbuff (by decide)
  unfold SwiftAcu.selSat
  rw [if_neg hlength, hid, selSat_fits ⟨hcmd, hlen⟩]
  by_cases hknown : rxbuff 3 ≠ s.device.satList.idAt (rxbuff 3)
  · rw [if_pos hknown, if_pos hknown]
    rfl
  · rw [if_neg hknown, if_neg hknown]
    cases hbeacon : selSatBeacon Faults.none stack beacon rxbuff s with
    | FAIL => rfl
    | SUCC => rfl

omit [SoftFloat] in
theorem antennaParamSet_faultFree (hcmd : cmdIdOf rxbuff = CmdId.antennaParamSet.id)
    (agc : UInt8 → Ret) (aimDegree : AntennaParam → SatParam → Degrees) :
    ((antennaParamSet Faults.none agc aimDegree rxbuff s).1,
        (antennaParamSet Faults.none agc aimDegree rxbuff s).2.device) =
      SwiftAcu.antennaParamSet (agc (newAntennaParam (pbuff rxbuff 12)).gainRangeFlag)
        (pbuff rxbuff 12) s.device := by
  unfold SwiftAcu.antennaParamSet antennaParamSet
  dsimp only
  rw [if_neg (not_not.mpr hcmd)]
  split_ifs
  · rfl
  · rfl
  · rfl

end

/-- One command. -/
theorem handle_faultFree {e : Event} (h : FaultFree e) (s : Sta) :
    ((handle s e).1, (handle s e).2.device) = e.store s.device := by
  cases h with
  | satParamSet hcmd hlen => exact satParamSet_faultFree hcmd hlen
  | selSat front stack beacon aimDegree hcmd hlen =>
      cases front with
      | pc => exact selSat_faultFree hcmd hlen stack beacon aimDegree
      | oled => exact selSat_faultFree hcmd hlen stack beacon aimDegree
  | antennaParamSet agc aimDegree hcmd => exact antennaParamSet_faultFree hcmd agc aimDegree

/-- **A run of commands without a fault is a run of commands on what is stored.** -/
theorem device_run_faultFree {es : List Event} (hes : ∀ e ∈ es, FaultFree e) (s : Sta) :
    (Runs.run step s es).device = Runs.run (fun d e => (e.store d).2) s.device es := by
  have hstep (s : Sta) (e : Event) (h : FaultFree e) :
      (step s e).device = (e.store s.device).2 :=
    congrArg Prod.snd (handle_faultFree h s)
  exact Runs.view_run hstep ((Runs.allSteps_const s es).mpr hes)

end SetCmd

namespace Mode

/-- What the recall stores and where it sends the antenna, in idle mode or not. -/
theorem pcAntennaRecordGoto_faultFree {rxbuff : Nat → UInt8}
    (hcmd : cmdIdOf rxbuff = CmdId.antennaRecordGoto.id) (pdu : Pdu) (beacon : Ret)
    (history_max_mv : UInt32) (s : Sta) :
    (pcAntennaRecordGoto pdu Faults.none (fun _ => beacon) history_max_mv rxbuff s).2.device =
        (SwiftAcu.pcAntennaRecordGoto beacon history_max_mv (rxbuff 3) s.device).2 ∧
      ∀ r, (SwiftAcu.pcAntennaRecordGoto beacon history_max_mv (rxbuff 3) s.device).1 = some r →
        (pcAntennaRecordGoto pdu Faults.none (fun _ => beacon) history_max_mv rxbuff s).1 = .SUCC ∧
          (pcAntennaRecordGoto pdu Faults.none (fun _ => beacon) history_max_mv rxbuff s).2.aim =
            ⟨r.position, r.cabrage, r.polar⟩ := by
  have hdevice : (s.begin.leaveMode pdu).device = s.device := Cmd.device_leaveMode s.begin pdu
  unfold pcAntennaRecordGoto SwiftAcu.pcAntennaRecordGoto SwiftAcu.antennaRecordGoto Cmd.recordOf
  rw [if_neg (not_not.mpr hcmd), ← hdevice]
  -- what comes behind the mode that is left depends on the device alone
  generalize s.begin.leaveMode pdu = c
  have hread : Faults.none.antennaRecordRead (rxbuff 3) c.device.eeprom =
      some (SwiftAcu.antennaRecordRead (rxbuff 3) c.device.eeprom) :=
    Faults.paramRead_none _ _ _
  by_cases hrange : 10 < rxbuff 3 ∨ rxbuff 3 = 0
  · rw [if_pos hrange, if_pos hrange]
    exact ⟨rfl, by simp⟩
  · rw [if_neg hrange, if_neg hrange]
    by_cases hfirst : Slots.first antennaRecordMax c.device.recordList.recordId (rxbuff 3) = none
    · rw [if_pos hfirst, if_pos hfirst]
      exact ⟨rfl, by simp⟩
    · rw [if_neg hfirst, if_neg hfirst, hread]
      dsimp only
      by_cases hid : rxbuff 3 ≠ (SwiftAcu.antennaRecordRead (rxbuff 3) c.device.eeprom).getD 0 0
      · rw [if_pos hid, if_pos hid]
        exact ⟨rfl, by simp⟩
      · rw [if_neg hid, if_neg hid]
        dsimp only
        by_cases hother : c.otherAntenna
            (pcGotoRecord (SwiftAcu.antennaRecordRead (rxbuff 3) c.device.eeprom))
        · have hor : _ ∨ _ ∨ _ := hother
          rw [if_pos hother, if_pos hor]
          exact ⟨rfl, by simp⟩
        · have hnor : ¬ (_ ∨ _ ∨ _) := hother
          rw [if_neg hother, if_neg hnor]
          cases beacon with
          | FAIL =>
              rw [Cmd.recallRecord_fail c rfl]
              exact ⟨rfl, by simp⟩
          | SUCC =>
              rw [Cmd.recallRecord_succ c rfl]
              refine ⟨rfl, fun r hr => ⟨rfl, ?_⟩⟩
              rw [Option.some.injEq] at hr
              rw [← hr]
              rfl

end Mode

end

section
attribute [local instance] SoftFloat.exact

/--
**The antenna is sent back to where it was recorded**, whatever mode is left for it: behind a
record that the PC makes, the command for the id it was given aims at the angles of the record,
where the angles are computed with exactly.
-/
theorem Mode.aim_recorded {pdu : Pdu} {rxbuff : Nat → UInt8} {s : Sta} {d : Device} {now : Now}
    (hlist : Record.ListOk d.recordList) (hpose : Record.Pose d now)
    (hroom : d.recordList.total < 10) (hcmd : cmdIdOf rxbuff = CmdId.antennaRecordGoto.id)
    (hid : rxbuff 3 = d.recordList.freeId) (hdevice : s.device = (pcAntennaRecord 0 now d).2)
    (history_max_mv : UInt32) :
    (Mode.pcAntennaRecordGoto pdu Faults.none (fun _ => .SUCC) history_max_mv rxbuff s).1 = .SUCC ∧
      (Mode.pcAntennaRecordGoto pdu Faults.none (fun _ => .SUCC) history_max_mv rxbuff s).2.aim =
        ⟨now.antennaPosition, now.antennaCabrage, now.antennaPolar⟩ := by
  have hrecalls : Record.Recalls d now (rxbuff 3) s.device := by
    rw [hid, hdevice]
    exact Record.recalls_antennaRecord hlist hpose now.sysDateTime hroom
  have hgoto := hrecalls.pcGoto history_max_mv
  exact (Mode.pcAntennaRecordGoto_faultFree hcmd pdu .SUCC history_max_mv s).2 _ hgoto

end

end SwiftAcu
