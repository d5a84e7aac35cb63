/-
The handlers read what they are said to read.

`handler` lists the bytes a handler of the PC protocol reads.  The handlers of the device, as
they are followed elsewhere, take the whole buffer; that they come to the same on two buffers
that agree on the bytes listed is what ties the two.  So `deviceHandlers`, which have the bytes
alone, do what the handlers do on the buffers.
-/
import SwiftAcu.Acu.PcDevice
import SwiftAcu.Proofs.NetWork
import SwiftAcu.Proofs.Pc.NonInterference
import SwiftAcu.Proofs.SetCmd.Cases

namespace SwiftAcu.PcComm

/-! ### Cells that agree -/

section
variable {P : Cell → Prop} {m : Cell → UInt8}

theorem within_rxBytes_iff (i k : Nat) (next : List UInt8 → Handler) :
    (rxBytes i k next).Within P m ↔
      (∀ j < k, P (.rx (i + j))) ∧
        (next ((List.range k).map fun j => m (.rx (i + j)))).Within P m := by
  rw [rxBytes, Reads.within_cells, List.map_map]
  simp only [List.mem_map, List.mem_range, forall_exists_index, and_imp,
    forall_apply_eq_imp_iff₂]
  rfl

theorem within_cmdlenIs_iff (k : UInt8) (next : Handler) :
    (cmdlenIs k next).Within P m ↔ P (.rx 2) ∧ (m (.rx 2) = k → next.Within P m) := by
  rw [cmdlenIs, Reads.within_read]
  by_cases hk : m (.rx 2) = k
  · simp [hk]
  · simp [hk]

theorem within_pbuff_iff (k : Nat) : (pbuff k).Within P m ↔ ∀ j < k, P (.rx (3 + j)) := by
  rw [pbuff, within_rxBytes_iff]
  exact and_iff_left trivial

end

section
variable {rx rx' : Nat → UInt8}

theorem pbuff_congr {n : Nat} (h : ∀ j < n, rx' (3 + j) = rx (3 + j)) :
    SetCmd.pbuff rx' n = SetCmd.pbuff rx n := by
  refine Memory.read_congr fun x hlo hhi => ?_
  have hx := h (x - 3) (by omega)
  rwa [Nat.add_sub_cancel' hlo] at hx

end

/-- The last octet of an address. -/
theorem octet_addressAt (pbuff : List UInt8) (i : Nat) :
    octet (addressAt pbuff i) 3 = (pbuff.getD (i + 3) 0).toNat := by
  have h0 := (pbuff.getD i 0).toNat_lt
  have h1 := (pbuff.getD (i + 1) 0).toNat_lt
  have h2 := (pbuff.getD (i + 2) 0).toNat_lt
  have h3 := (pbuff.getD (i + 3) 0).toNat_lt
  rw [octet, addressAt]
  simp only [UInt32.toNat_add, UInt32.toNat_shiftLeft, UInt8.toNat_toUInt32, Nat.shiftLeft_eq,
    UInt32.reduceToNat, Nat.reduceMod, Nat.reducePow]
  omega

/-! ### The handlers -/

section
variable [SoftFloat] {rx rx' : Nat → UInt8} {s : SetCmd.Sta}
  (hid : cmdIdOf rx' = cmdIdOf rx)

include hid

theorem satParamSet_congr (faults : Faults) (hlen : rx' 2 = rx 2)
    (hargs : rx 2 = 0x1B → rx' 3 = rx 3 ∧
      (¬ (rx 3 = 0x00 ∧ 100 ≤ s.device.satList.total) → ∀ j < 26, rx' (4 + j) = rx (4 + j))) :
    SetCmd.satParamSet faults rx' s = SetCmd.satParamSet faults rx s := by
  by_cases hfits : SetCmd.satParamFits rx s
  · obtain ⟨hcmd, hsize, hroom⟩ := hfits
    obtain ⟨h3, hrest⟩ := hargs hsize
    have hbuff : SetCmd.pbuff rx' 0x1B = SetCmd.pbuff rx 0x1B := by
      refine pbuff_congr fun j hj => ?_
      cases j with
      | zero => exact h3
      | succ j =>
          have hj := hrest hroom j (by omega)
          rwa [show 4 + j = 3 + (j + 1) by omega] at hj
    unfold SetCmd.satParamSet
    rw [hid, hlen, h3, hbuff]
  · have hfits' : ¬ SetCmd.satParamFits rx' s := by
      rintro ⟨hcmd, hsize, hroom⟩
      rw [hid] at hcmd
      rw [hlen] at hsize
      rw [(hargs hsize).1] at hroom
      exact hfits ⟨hcmd, hsize, hroom⟩
    rw [SetCmd.satParamSet_refused hfits, SetCmd.satParamSet_refused hfits']

theorem selSat_congr (faults : Faults) (stack : SatParam) (beacon : UInt32 → Ret)
    (aimDegree : AntennaParam → SatParam → Degrees) (hlen : rx' 2 = rx 2)
    (hargs : rx 2 = 1 → rx' 3 = rx 3) :
    SetCmd.selSat faults stack beacon aimDegree rx' s =
      SetCmd.selSat faults stack beacon aimDegree rx s := by
  by_cases hsize : rx 2 = 1
  · unfold SetCmd.selSat
    rw [hid, hlen, hargs hsize]
  · have hfits : ¬ SetCmd.selSatFits rx := fun h => hsize h.2
    have hfits' : ¬ SetCmd.selSatFits rx' := fun h => hsize (hlen ▸ h.2)
    rw [SetCmd.selSat_refused hfits, SetCmd.selSat_refused hfits']

omit [SoftFloat] in
/-- The angle of a type 0 antenna is not read. -/
theorem antennaParamSet_congr (faults : Faults) (agc : UInt8 → Ret)
    (aimDegree : AntennaParam → SatParam → Degrees) (htype : rx' 3 = rx 3)
    (hangle : rx 3 ≠ 0x00 → ∀ j < 4, rx' (4 + j) = rx (4 + j))
    (hrest : ∀ j < 7, rx' (8 + j) = rx (8 + j)) :
    SetCmd.antennaParamSet faults agc aimDegree rx' s =
      SetCmd.antennaParamSet faults agc aimDegree rx s := by
  have hat {j : Nat} (hj : j < 12) (heq : rx' (3 + j) = rx (3 + j)) :
      (SetCmd.pbuff rx' 12).getD j 0 = (SetCmd.pbuff rx 12).getD j 0 := by
    rw [SetCmd.pbuff, SetCmd.pbuff, Memory.getD_read hj, Memory.getD_read hj, heq]
  have h0 := hat (j := 0) (by decide) htype
  have h5 := hat (j := 5) (by decide) (hrest 0 (by decide))
  have h6 := hat (j := 6) (by decide) (hrest 1 (by decide))
  have h7 := hat (j := 7) (by decide) (hrest 2 (by decide))
  have h8 := hat (j := 8) (by decide) (hrest 3 (by decide))
  have h9 := hat (j := 9) (by decide) (hrest 4 (by decide))
  have h10 := hat (j := 10) (by decide) (hrest 5 (by decide))
  have h11 := hat (j := 11) (by decide) (hrest 6 (by decide))
  have hnew : newAntennaParam (SetCmd.pbuff rx' 12) = newAntennaParam (SetCmd.pbuff rx 12) := by
    unfold newAntennaParam
    rw [h0, h5, h10, h11]
    have hloFreq : ofBe32At (SetCmd.pbuff rx' 12) 6 = ofBe32At (SetCmd.pbuff rx 12) 6 := by
      unfold ofBe32At
      rw [h6, h7, h8, h9]
    rw [hloFreq]
    by_cases hzero : rx 3 = 0x00
    · have htype0 : (SetCmd.pbuff rx 12).getD 0 0 = 0x00 := by
        rw [SetCmd.pbuff, Memory.getD_read (by decide)]
        exact hzero
      rw [if_pos htype0, if_pos htype0]
    · have hoffset : ofBe32At (SetCmd.pbuff rx' 12) 1 = ofBe32At (SetCmd.pbuff rx 12) 1 := by
        unfold ofBe32At
        rw [hat (j := 1) (by decide) (hangle hzero 0 (by decide)),
          hat (j := 2) (by decide) (hangle hzero 1 (by decide)),
          hat (j := 3) (by decide) (hangle hzero 2 (by decide)),
          hat (j := 4) (by decide) (hangle hzero 3 (by decide))]
      rw [hoffset]
  unfold SetCmd.antennaParamSet
  rw [hid, hnew]

omit [SoftFloat] in
theorem turnDirAdjustBegin_congr (start : Ret) (hpart : rx' 3 = rx 3)
    (hdir : ¬ (rx 3 ≠ 1 ∧ rx 3 ≠ 2 ∧ rx 3 ≠ 3) → rx' 4 = rx 4) :
    SetCmd.antennaTurnDirAdjustBegin start rx' s = SetCmd.antennaTurnDirAdjustBegin start rx s := by
  unfold SetCmd.antennaTurnDirAdjustBegin
  dsimp only
  rw [hid, hpart]
  by_cases hnone : rx 3 ≠ 1 ∧ rx 3 ≠ 2 ∧ rx 3 ≠ 3
  · rw [if_pos hnone, if_pos hnone]
  · rw [hdir hnone]

omit [SoftFloat] in
theorem hargWareLimitAdjust_congr (faults : Faults) (g : Gauge) (data : Int → UInt32)
    (hlimit : rx' 3 = rx 3) :
    SetCmd.antennaHargWareLimitAdjust faults g data rx' s =
      SetCmd.antennaHargWareLimitAdjust faults g data rx s := by
  unfold SetCmd.antennaHargWareLimitAdjust
  dsimp only
  rw [hid, hlimit]

omit [SoftFloat] in
/-- `AntennaDir` is compared with a direction that is valid only. -/
theorem turnDirAdjustFinish_congr (faults : Faults) (t : SetCmd.Turning) (r : AcuRest PcDevice)
    {antennaDir antennaDir' : UInt16} (hpart : rx' 3 = rx 3) (hdir : rx' 4 = rx 4)
    (hantennaDir : rx 4 = 0x01 ∨ rx 4 = 0x02 → antennaDir' = antennaDir) :
    handledSta r (SetCmd.antennaTurnDirAdjustFinish faults t rx' (staOf r antennaDir')) =
      handledSta r (SetCmd.antennaTurnDirAdjustFinish faults t rx (staOf r antennaDir)) := by
  unfold SetCmd.antennaTurnDirAdjustFinish
  dsimp only
  rw [hid, hpart, hdir]
  by_cases hcmd : cmdIdOf rx ≠ CmdId.antennaTurnDirAdjustFinishSet.id
  · rw [if_pos hcmd, if_pos hcmd]
    rfl
  rw [if_neg hcmd, if_neg hcmd]
  by_cases hvalid : rx 4 = 0x01 ∨ rx 4 = 0x02
  · rw [hantennaDir hvalid]
  · have hnone : SetCmd.turnDir (rx 4) = none := by
      rw [not_or] at hvalid
      unfold SetCmd.turnDir
      rw [if_neg hvalid.1, if_neg hvalid.2]
    rw [hnone]
    rfl

omit [SoftFloat] hid in
/-- A mask that ends in 255 is refused without its gateway. -/
theorem netWorkSet_congr (cmd_id : Nat) (d : NetDevice)
    (hargs : rx 2 = 12 → (∀ j < 8, rx' (3 + j) = rx (3 + j)) ∧
      (rx 10 ≠ 0xFF → ∀ j < 4, rx' (11 + j) = rx (11 + j))) :
    pcNetWorkSet cmd_id (rx 2) (SetCmd.pbuff rx' 12) d =
      pcNetWorkSet cmd_id (rx 2) (SetCmd.pbuff rx 12) d := by
  unfold pcNetWorkSet
  by_cases hlen : cmd_id ≠ CmdId.netWorkSet.id ∨ rx 2 ≠ 12
  · rw [if_pos hlen, if_pos hlen]
  rw [if_neg hlen, if_neg hlen]
  rw [not_or, not_not, not_not] at hlen
  obtain ⟨hfront, hgate⟩ := hargs hlen.2
  by_cases hend : rx 10 = 0xFF
  · have hmask (rx : Nat → UInt8) (h : rx 10 = 0xFF) :
        (netWorkAt (SetCmd.pbuff rx 12)).mask &&& 0xFF000000 = 0xFF000000 := by
      rw [and_FF000000_eq_iff]
      have hlast := octet_addressAt (SetCmd.pbuff rx 12) 4
      rw [SetCmd.pbuff, Memory.getD_read (by decide), h] at hlast
      exact hlast
    dsimp only
    rw [if_pos (hmask rx hend), if_pos (hmask rx' ((hfront 7 (by decide)).trans hend))]
  · have hbuff : SetCmd.pbuff rx' 12 = SetCmd.pbuff rx 12 := by
      refine pbuff_congr fun j hj => ?_
      by_cases hj8 : j < 8
      · exact hfront j hj8
      · have hlast := hgate hend (j - 8) (by omega)
        rwa [show 11 + (j - 8) = 3 + j by omega] at hlast
    rw [hbuff]

end

/-! ### What a handler has read -/

section
variable {m m' : Cell → UInt8}

/-- A handler that takes as many bytes as `cmdlen` says. -/
theorem pbuffCmdlen_congr (hcells : pbuffCmdlen.Within (fun cell => m' cell = m cell) m) :
    rxOf m' 2 = rxOf m 2 ∧
      SetCmd.pbuff (rxOf m') (rxOf m 2).toNat = SetCmd.pbuff (rxOf m) (rxOf m 2).toNat :=
  ⟨hcells.1, pbuff_congr ((within_pbuff_iff _).mp hcells.2)⟩

/-- A handler that takes its bytes if `cmdlen` is right. -/
theorem cmdlenIs_congr {len : UInt8} {k : Nat}
    (hcells : (cmdlenIs len (pbuff k)).Within (fun cell => m' cell = m cell) m) :
    rxOf m' 2 = rxOf m 2 ∧
      (rxOf m 2 = len → SetCmd.pbuff (rxOf m') k = SetCmd.pbuff (rxOf m) k) := by
  obtain ⟨hlen, hargs⟩ := (within_cmdlenIs_iff _ _).mp hcells
  exact ⟨hlen, fun hsize => pbuff_congr ((within_pbuff_iff _).mp (hargs hsize))⟩

/-- The handler of the antenna's parameters. -/
theorem antennaParamCells (hcells : antennaParamSet.Within (fun cell => m' cell = m cell) m) :
    rxOf m' 3 = rxOf m 3 ∧ (rxOf m 3 ≠ 0x00 → ∀ j < 4, rxOf m' (4 + j) = rxOf m (4 + j)) ∧
      ∀ j < 7, rxOf m' (8 + j) = rxOf m (8 + j) := by
  obtain ⟨htype, hargs⟩ := hcells
  dsimp only at hargs
  by_cases hzero : m (.rx 3) = 0x00
  · rw [if_pos hzero] at hargs
    exact ⟨htype, fun hne => absurd hzero hne, ((within_rxBytes_iff _ _ _).mp hargs).1⟩
  · rw [if_neg hzero] at hargs
    have hall := ((within_rxBytes_iff _ _ _).mp hargs).1
    refine ⟨htype, fun _ j hj => hall j (by omega), fun j hj => ?_⟩
    have hj := hall (4 + j) (by omega)
    rwa [show 4 + (4 + j) = 8 + j by omega] at hj

end

/-- **The handlers read what they are said to read.** -/
theorem handled_congr [SoftFloat] (env : Env) (c : CmdId) {s : AcuRest PcDevice} (hs : Synced s)
    {m m' : Cell → UInt8} (hid : cmdIdOf (rxOf m') = cmdIdOf (rxOf m))
    (hcells : (handler s c).Within (fun cell => m' cell = m cell) m) :
    handled env c m' s = handled env c m s := by
  cases c with
  | satParamSet =>
      obtain ⟨hlen, hargs⟩ := (within_cmdlenIs_iff _ _).mp hcells
      refine congrArg (fun r => some (handledSta s r)) (satParamSet_congr hid _ hlen fun h => ?_)
      obtain ⟨h3, hrest⟩ := hargs h
      refine ⟨h3, fun hroom => ?_⟩
      have hroom : ¬ (m (.rx 3) = 0x00 ∧ satMaxNum ≤ s.satTotalNum) := by
        rw [hs]
        exact hroom
      dsimp only at hrest
      rw [if_neg hroom] at hrest
      exact ((within_rxBytes_iff _ _ _).mp hrest).1
  | satSel =>
      obtain ⟨hlen, hargs⟩ := (within_cmdlenIs_iff _ _).mp hcells
      exact congrArg (fun r => some (handledSta s r)) (selSat_congr hid _ _ _ _ hlen fun h =>
        (within_pbuff_iff _).mp (hargs h) 0 (by decide))
  | satDel =>
      obtain ⟨hlen, hbuff⟩ := pbuffCmdlen_congr hcells
      unfold handled
      dsimp only
      rw [hlen, hbuff]
  | antennaRecordDel =>
      obtain ⟨hlen, hbuff⟩ := pbuffCmdlen_congr hcells
      unfold handled
      dsimp only
      rw [hlen, hbuff]
  | antennaParamSet =>
      obtain ⟨htype, hangle, hrest⟩ := antennaParamCells hcells
      exact congrArg (fun r => some (handledSta s r))
        (antennaParamSet_congr hid _ _ _ htype hangle hrest)
  | antennaTurnDirAdjustBeginSet =>
      obtain ⟨hpart, hdir⟩ := hcells
      have hknown (h : ¬ (m (.rx 3) ≠ 1 ∧ m (.rx 3) ≠ 2 ∧ m (.rx 3) ≠ 3)) :
          m' (.rx 4) = m (.rx 4) := by
        dsimp only at hdir
        rw [if_neg h] at hdir
        exact hdir.1
      have hsame := turnDirAdjustBegin_congr (s := staOf s 0) hid env.start hpart hknown
      unfold handled
      dsimp only
      rw [hsame]
  | antennaTurnDirAdjustFinishSet =>
      obtain ⟨hpart, hdir, hold⟩ := hcells
      refine congrArg some (turnDirAdjustFinish_congr hid _ _ s hpart hdir fun hvalid => ?_)
      have hvalid : m (.rx 4) = 0x01 ∨ m (.rx 4) = 0x02 := hvalid
      dsimp only at hold
      rw [if_pos hvalid] at hold
      obtain ⟨hhigh, hlow, -⟩ := hold
      unfold dirOf
      rw [hhigh, hlow]
  | antennaHardWareLimitSet =>
      have hlimit := (within_pbuff_iff _).mp hcells 0 (by decide)
      exact congrArg (fun r => some (handledSta s r)) (hargWareLimitAdjust_congr hid _ _ _ hlimit)
  | localParamSet =>
      obtain ⟨hlen, hbuff⟩ := cmdlenIs_congr hcells
      unfold handled
      dsimp only
      rw [hlen]
      by_cases hsize : rxOf m 2 = 0x0E
      · rw [hbuff hsize]
      · unfold pcLocalParamSet
        rw [if_pos hsize, if_pos hsize]
  | localParamSrcSelSet =>
      obtain ⟨hlen, hbuff⟩ := cmdlenIs_congr hcells
      unfold handled
      dsimp only
      rw [hlen]
      by_cases hsize : rxOf m 2 = 1
      · rw [hbuff hsize]
      · unfold pcLocalParamSrcSelSet localParamSrcSelSet
        rw [if_pos hsize, if_pos hsize]
  | netWorkSet =>
      obtain ⟨hlen, hargs⟩ := (within_cmdlenIs_iff _ _).mp hcells
      have hlen : rxOf m' 2 = rxOf m 2 := hlen
      have hnet : pcNetWorkSet (cmdIdOf (rxOf m)) (rxOf m 2) (SetCmd.pbuff (rxOf m') 12) (netOf s) =
          pcNetWorkSet (cmdIdOf (rxOf m)) (rxOf m 2) (SetCmd.pbuff (rxOf m) 12) (netOf s) := by
        refine netWorkSet_congr _ _ fun hsize => ?_
        obtain ⟨hfront, hgate⟩ := (within_rxBytes_iff _ _ _).mp (hargs hsize)
        refine ⟨hfront, fun hend => ?_⟩
        rw [if_neg (show ¬ ((List.range 8).map fun j => m (.rx (3 + j))).getD 7 0 = 0xFF from hend)]
          at hgate
        exact ((within_rxBytes_iff _ _ _).mp hgate).1
      unfold handled
      dsimp only
      rw [hlen, hid, hnet]
  | _ => rfl

/-- The bytes of an id. -/
theorem idCells_eq {c : CmdId} {m : Cell → UInt8} (hid : cmdIdOf (rxOf m) = c.id) :
    idCells c (.rx 0) = m (.rx 0) ∧ idCells c (.rx 1) = m (.rx 1) := by
  have hhi := (m (.rx 0)).toNat_lt
  have hlo := (m (.rx 1)).toNat_lt
  have hsum : (m (.rx 0)).toNat * 256 + (m (.rx 1)).toNat = c.id := by
    rw [← hid, cmdIdOf, Nat.shiftLeft_eq]
    rfl
  constructor
  · show UInt8.ofNat (c.id / 256) = _
    rw [← hsum, ← UInt8.toNat_inj, UInt8.toNat_ofNat']
    omega
  · show UInt8.ofNat c.id = _
    rw [← hsum, ← UInt8.toNat_inj, UInt8.toNat_ofNat']
    omega

/-- A handler finds in what it has read what it finds in the buffers. -/
theorem handled_readCells [SoftFloat] (env : Env) {c : CmdId} {s : AcuRest PcDevice}
    (hs : Synced s) {m : Cell → UInt8} (hid : cmdIdOf (rxOf m) = c.id) :
    handled env c (readCells c ((handler s c).values m) s) s = handled env c m s := by
  obtain ⟨hhi, hlo⟩ := idCells_eq hid
  have hcell {cell : Cell} (h : idCells c cell = m cell) :
      readCells c ((handler s c).values m) s cell = m cell := by
    obtain hbase | hread := Reads.replay_eq_or (idCells c) (handler s c) (m := m) cell
    · exact hbase.trans h
    · exact hread
  refine handled_congr env c hs ?_ (Reads.within_replay _ _)
  have h0 : rxOf (readCells c ((handler s c).values m) s) 0 = rxOf m 0 := hcell hhi
  have h1 : rxOf (readCells c ((handler s c).values m) s) 1 = rxOf m 1 := hcell hlo
  unfold cmdIdOf
  rw [h0, h1]

/-! ### The device -/

section
variable [SoftFloat] {env : Env} {h : PcHandlers PcDevice} {a : Acu PcDevice} {b : Buffers}

/--
**The handlers of the protocol are those of the device.**  What is done with the bytes a handler
has read is what the handler, followed from its own text, does on the buffers.
-/
theorem funcDeal_device {c : CmdId} {r : Handled} (hs : Synced a.rest)
    (hid : cmdIdOf b.rxBuff = c.id) (hr : handled env c b.cells a.rest = some r) :
    funcDeal (deviceHandlers env h) c a b =
      (r.status, { a with rest := r.rest },
        { b with antennaDir := r.antennaDir.getD b.antennaDir }) := by
  have hc : c ≠ .pcHighAdmin := by
    rintro rfl
    cases hr
  have hdeal : (deviceHandlers env h).deal c ((handler a.rest c).values b.cells) a =
      ⟨r.status, r.rest, [], [], none, r.antennaDir⟩ := by
    unfold deviceHandlers
    dsimp only
    rw [handled_readCells env hs (show cmdIdOf (rxOf b.cells) = c.id from hid), hr]
  have hscratch : overlay b.txBuff 0 [] = b.txBuff := by
    funext i
    exact if_neg fun hin => absurd hin.2 (Nat.not_lt_zero i)
  unfold funcDeal Buffers.after
  rw [if_neg hc, hdeal]
  dsimp only
  rw [hscratch, List.append_nil]

/-- The handlers that are followed keep the count of satellites. -/
theorem synced_handled {c : CmdId} {m : Cell → UInt8} {s : AcuRest PcDevice} {r : Handled}
    (hs : Synced s) (hr : handled env c m s = some r) : Synced r.rest := by
  cases c <;> cases hr
  case netWorkSet => exact hs
  all_goals exact rfl

omit [SoftFloat] in
/-- Buffers that hold the payload and zeros behind it. -/
theorem cells_recv_zero (data : List UInt8) :
    ((bufferOf fun _ => 0).recv data).cells = payloadCells data := by
  funext cell
  cases cell with
  | rx i =>
      by_cases hi : i < data.length
      · exact recv_rxBuff hi
      · have hin : ¬ (0 ≤ i ∧ i < 0 + data.length) := by omega
        have hzero : payload data i = 0 := List.getD_eq_default _ _ (not_lt.mp hi)
        exact (if_neg hin).trans hzero.symm
  | antennaDir high =>
      cases high with
      | true => exact (by decide : ((0 : UInt16) >>> 8).toUInt8 = 0)
      | false => rfl

/--
**A datagram that carries all that is read sets the device to what its payload says**, whatever
the datagrams before it have left in the buffers.
-/
theorem outcome_device {p data : List UInt8} {c : CmdId} {r : Handled} (hs : Synced a.rest)
    (hdata : rxBuffRecv p = some data) (hlen : 2 ≤ data.length)
    (href : ¬ Refused (cmdIdOf (payload data)) a)
    (hfind : findCmd (cmdIdOf (payload data)) = some c) (hsuff : Suffices a data c)
    (hr : handled env c (payloadCells data) a.rest = some r) :
    outcome (deviceHandlers env h) a b p =
      (r.status, setMcuBusy 0 { a with rest := r.rest }, [resultFrame c.id r.status]) := by
  let zeros := bufferOf fun _ => 0
  have hid : cmdIdOf (zeros.recv data).rxBuff = cmdIdOf (payload data) := cmdIdOf_recv hlen
  have hc : c.id = cmdIdOf (payload data) := id_of_findCmd hfind
  have hset : IsSet c.id := by
    revert hr
    cases c <;> first | exact fun _ => by decide | exact fun hr => nomatch hr
  have hdeal : funcDeal (deviceHandlers env h) c (setMcuBusy 1 a) (zeros.recv data) =
      (r.status, { setMcuBusy 1 a with rest := r.rest },
        { zeros.recv data with antennaDir := r.antennaDir.getD (zeros.recv data).antennaDir }) :=
    funcDeal_device hs (hid.trans hc.symm) (by rw [cells_recv_zero]; exact hr)
  have hfree : outcome (deviceHandlers env h) a b p = outcome (deviceHandlers env h) a zeros p :=
    outcome_of_suffices hdata hlen href hfind hsuff
  rw [hfree, outcome_known hdata (by rwa [hid]) (by rwa [hid]), hdeal, hid, ← hc]
  simp only [Buffers.answer, hset, if_true, sent_setResultSend]
  rfl

end

end SwiftAcu.PcComm
