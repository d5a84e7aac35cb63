/-
How far a handler reads.

`PCCOMMRxBuff` is never cleared, so a handler that reads behind the payload of its
datagram reads what an earlier one has left there.  For every command this module
says how long the payload has to be.  Some handlers compare the inner length with
what they expect, some do not, and two read as many bytes as the inner length says;
none compares it with the length of the payload.
-/
import SwiftAcu.Acu.PcComm

namespace SwiftAcu.PcComm

/-! ### Reading within the payload -/

/-- The cells that a payload of `n` bytes fills. -/
def Received (n : Nat) : Cell → Prop
  | .rx i => i < n
  | .antennaDir _ => False

section
variable {n : Nat} {m : Cell → UInt8}

@[simp] theorem received_rx (i : Nat) : Received n (.rx i) ↔ i < n := Iff.rfl

@[simp] theorem received_antennaDir (high : Bool) : ¬Received n (.antennaDir high) := id

theorem within_rxBytes (i k : Nat) (next : List UInt8 → Handler) :
    (rxBytes i k next).Within (Received n) m ↔
      (k = 0 ∨ i + k ≤ n) ∧
        (next ((List.range k).map fun j => m (.rx (i + j)))).Within (Received n) m := by
  have hcells : (∀ cell ∈ (List.range k).map (fun j => Cell.rx (i + j)), Received n cell) ↔
      (k = 0 ∨ i + k ≤ n) := by
    simp only [List.mem_map, List.mem_range, forall_exists_index, and_imp,
      forall_apply_eq_imp_iff₂, received_rx]
    constructor
    · intro hall
      by_cases hk : k = 0
      · exact Or.inl hk
      · have hlast := hall (k - 1) (by omega)
        omega
    · intro hk j hj
      omega
  rw [rxBytes, Reads.within_cells, hcells, List.map_map]
  rfl

theorem within_cmdlenIs (k : UInt8) (next : Handler) :
    (cmdlenIs k next).Within (Received n) m ↔
      2 < n ∧ (m (.rx 2) = k → next.Within (Received n) m) := by
  rw [cmdlenIs, Reads.within_read, received_rx]
  by_cases hk : m (.rx 2) = k
  · simp [hk]
  · simp [hk]

@[simp] theorem within_pbuff (k : Nat) :
    (pbuff k).Within (Received n) m ↔ k = 0 ∨ 3 + k ≤ n := by
  rw [pbuff, within_rxBytes]
  exact and_iff_left trivial

/-- A handler that checks the inner length `k` and then reads `j` parameters. -/
theorem within_checked (k : UInt8) {j : Nat} (hj : 0 < j) :
    (cmdlenIs k (pbuff j)).Within (Received n) m ↔
      (if m (.rx 2) ≠ k then 3 else 3 + j) ≤ n := by
  rw [within_cmdlenIs, within_pbuff]
  split <;> grind

/-- A handler that trusts the inner length. -/
theorem within_pbuffCmdlen :
    pbuffCmdlen.Within (Received n) m ↔ 3 + (m (.rx 2)).toNat ≤ n := by
  rw [pbuffCmdlen, Reads.within_read, within_pbuff, received_rx]
  omega

end

/-! ### The extent of each handler -/

section
variable {ρ : Type} (s : AcuRest ρ)

/-- The number of bytes of the payload `rx` that the handler of a command reads. -/
def extent (rx : Nat → UInt8) : CmdId → Nat
  | .satParamSet =>
    if rx 2 ≠ 0x1B then 3 else if rx 3 = 0x00 ∧ satMaxNum ≤ s.satTotalNum then 4 else 30
  | .antennaParamSet => 15
  | .localParamSet => if rx 2 ≠ 0x0E then 3 else 17
  | .sysDateTimeSet => if rx 2 ≠ 7 ∨ s.gpsValid = 0x41 then 3 else 10
  | .localParamSrcSelSet | .sysDateTimeSrcSelSet | .aimAtSatModeSel | .satSel | .pcHighAdmin =>
    if rx 2 ≠ 1 then 3 else 4
  | .satDel | .antennaRecordDel => 3 + (rx 2).toNat
  | .aimAtSatParamSet | .warnLogQue | .operationLogQue => 7
  | .antennaTurnDirAdjustBeginSet => if rx 3 ≠ 1 ∧ rx 3 ≠ 2 ∧ rx 3 ≠ 3 then 4 else 5
  | .antennaTurnDirAdjustFinishSet => 5
  | .antennaHardWareLimitSet | .antennaRecordGoto => 4
  | .antennaRecord | .agcRecord => 3
  | .antennaSigleStepCtr => if s.seekSatMode ≠ 0x01 then 2 else if rx 2 ≠ 2 then 3 else 5
  | .antennaDegreeCtr => if s.seekSatMode ≠ 0x01 then 2 else if rx 2 ≠ 12 then 3 else 15
  | .netWorkSet => if rx 2 ≠ 12 then 3 else if rx 10 = 0xFF then 11 else 15
  | _ => 2

/-- The handler compares the payload with `AntennaDir`, which an earlier command has left. -/
def ComparesDir (rx : Nat → UInt8) (c : CmdId) : Prop :=
  c = .antennaTurnDirAdjustFinishSet ∧ (rx 4 = 0x01 ∨ rx 4 = 0x02)

instance (rx : Nat → UInt8) (c : CmdId) : Decidable (ComparesDir rx c) :=
  inferInstanceAs (Decidable (_ ∧ _))

variable {n : Nat} {m : Cell → UInt8}

/-- **A handler reads the payload alone** exactly if the payload is as long as its extent. -/
theorem handler_within_iff (hn : 2 ≤ n) (c : CmdId) :
    (handler s c).Within (Received n) m ↔
      extent s (fun i => m (.rx i)) c ≤ n ∧ ¬ComparesDir (fun i => m (.rx i)) c := by
  cases c
  case satParamSet =>
    simp only [handler, satParamSet, extent, ComparesDir, within_cmdlenIs, Reads.within_read,
      received_rx]
    by_cases hlen : m (.rx 2) = 0x1B
    · by_cases hfull : m (.rx 3) = 0x00 ∧ satMaxNum ≤ s.satTotalNum
      · simp [hlen, hfull]
        omega
      · simp [hlen, hfull, within_rxBytes]
        omega
    · simp [hlen]
      omega
  case antennaParamSet =>
    simp only [handler, antennaParamSet, extent, ComparesDir, Reads.within_read, received_rx]
    by_cases htype : m (.rx 3) = 0x00
    · simp [htype, within_rxBytes]
      omega
    · simp [htype, within_rxBytes]
      omega
  case sysDateTimeSet =>
    simp only [handler, sysDateTimeSet, extent, ComparesDir, within_cmdlenIs]
    by_cases hgps : s.gpsValid = 0x41
    · simp [hgps]
      omega
    · by_cases hlen : m (.rx 2) = 7
      · simp [hgps, hlen]
        omega
      · simp [hgps, hlen]
        omega
  case antennaTurnDirAdjustBeginSet =>
    simp only [handler, antennaTurnDirAdjustBegin, extent, ComparesDir, Reads.within_read,
      received_rx]
    by_cases hpart : m (.rx 3) ≠ 1 ∧ m (.rx 3) ≠ 2 ∧ m (.rx 3) ≠ 3
    · simp [hpart]
      omega
    · simp only [hpart, if_false, Reads.within_read, received_rx, Reads.within_done]
      simp
      omega
  case antennaTurnDirAdjustFinishSet =>
    simp only [handler, antennaTurnDirAdjustFinish, extent, ComparesDir, Reads.within_read,
      received_rx]
    by_cases hdir : m (.rx 4) = 0x01 ∨ m (.rx 4) = 0x02
    · simp [hdir]
    · simp [hdir]
      omega
  case antennaSigleStepCtr =>
    simp only [handler, antennaSigleStepCtr, extent, ComparesDir]
    by_cases hmode : s.seekSatMode = 0x01
    · simp [hmode, within_checked]
    · simp [hmode, hn]
  case antennaDegreeCtr =>
    simp only [handler, antennaTurnCtr, extent, ComparesDir]
    by_cases hmode : s.seekSatMode = 0x01
    · by_cases hlen : m (.rx 2) = 12
      · simp [hmode, hlen]
        omega
      · simp [hmode, hlen]
        omega
    · simp [hmode, hn]
  case netWorkSet =>
    simp only [handler, netWorkSet, extent, ComparesDir, within_cmdlenIs, within_rxBytes]
    by_cases hlen : m (.rx 2) = 12
    · by_cases hend : m (.rx 10) = 0xFF
      · simp [hlen, hend]
        omega
      · simp [hlen, hend, within_rxBytes]
        omega
    · simp [hlen]
      omega
  case antennaRecord | agcRecord =>
    simp [handler, extent, ComparesDir, within_cmdlenIs]
    omega
  all_goals
    simp [handler, extent, ComparesDir, within_checked, within_pbuffCmdlen, hn]

end

end SwiftAcu.PcComm
