/-
What network settings the two front ends let in.

Both refuse a mask that ends in 255.  The PC also refuses a gateway that differs from the
address in one of the first three octets, and the front panel, where that test stands in a
comment, does not.  What is let in is kept as it is by both, so that the front panel can
store what the PC would refuse, and only it can.
-/
import Mathlib.Tactic.IntervalCases
import SwiftAcu.Acu.NetWork
import SwiftAcu.Lib.Runs
import SwiftAcu.Proofs.Param.Codec

namespace SwiftAcu

open Fields

/-! ### Octets -/

/-- An octet of an address, the first as 0. -/
def octet (address : UInt32) (k : Nat) : Nat := address.toNat / 256 ^ k % 256

/-- The gateway is in the network of the address, by its first three octets. -/
def NetWork.SameNet (n : NetWork) : Prop := ∀ k < 3, octet n.gate k = octet n.ipAddr k

/-- The mask is one of a single address. -/
def NetWork.HostMask (n : NetWork) : Prop := octet n.mask 3 = 255

instance (n : NetWork) : Decidable n.SameNet := inferInstanceAs (Decidable (∀ k < 3, _))

instance (n : NetWork) : Decidable n.HostMask := inferInstanceAs (Decidable (_ = _))

theorem and_00FFFFFF_eq_iff (a b : UInt32) :
    a &&& 0x00FFFFFF = b &&& 0x00FFFFFF ↔ ∀ k < 3, octet b k = octet a k := by
  have hand (x : UInt32) : (x &&& 0x00FFFFFF).toNat = x.toNat % 2 ^ 24 := by
    rw [UInt32.toNat_and]
    exact Nat.and_two_pow_sub_one_eq_mod x.toNat 24
  rw [← UInt32.toNat_inj, hand, hand]
  simp only [octet]
  constructor
  · intro h k hk
    interval_cases k
    · omega
    · omega
    · omega
  · intro h
    have h0 := h 0 (by decide)
    have h1 := h 1 (by decide)
    have h2 := h 2 (by decide)
    omega

theorem and_FF000000_eq_iff (a : UInt32) :
    a &&& 0xFF000000 = 0xFF000000 ↔ octet a 3 = 255 := by
  have hlt := a.toNat_lt
  rw [← UInt32.toNat_inj, UInt32.toNat_and, octet]
  have hdiv : (a.toNat &&& 0xFF000000) / 2 ^ 24 = a.toNat / 2 ^ 24 % 2 ^ 8 := by
    rw [Nat.and_div_two_pow]
    exact Nat.and_two_pow_sub_one_eq_mod _ 8
  have hmod : (a.toNat &&& 0xFF000000) % 2 ^ 24 = 0 := by
    rw [Nat.and_mod_two_pow]
    exact Nat.and_zero _
  show a.toNat &&& 0xFF000000 = 0xFF000000 ↔ a.toNat / 2 ^ 24 % 256 = 255
  omega

/-! ### What is kept -/

/-- The configuration comes back from the EEPROM as it was. -/
theorem netWorkRead_netWorkSave (n : NetWork) (m : Eeprom) : netWorkRead (netWorkSave n m) = n := by
  have hat : At (paramRead (netWorkSave n m) 0x0080 12) 0
      (be32 n.ipAddr.toNat ++ be32 n.mask.toNat ++ be32 n.gate.toNat) :=
    at_paramRead m 0x0080 (by simp)
  rw [List.append_assoc] at hat
  have hmask := hat.right (j := 4) rfl
  have hgate := hmask.right (j := 8) rfl
  simp only [netWorkRead, uint32_of_at hat.left, uint32_of_at hmask.left, uint32_of_at hgate]

/-- A configuration that is used is kept, the same whoever sent it. -/
theorem useNetWork_eq (codes : NetWorkCodes) (pbuff : List UInt8) (d : NetDevice) :
    ∃ optLog, useNetWork codes pbuff d =
      if netWorkAt pbuff = d.netWork then d
      else
        { netWork := netWorkAt pbuff
          eeprom := netWorkSave (netWorkAt pbuff) d.eeprom
          netif := netWorkAt pbuff
          optLog := optLog } := by
  obtain ⟨⟨ip, mask, gate⟩, eeprom, netif, optLog⟩ := d
  rw [useNetWork]
  generalize netWorkAt pbuff = n
  obtain ⟨ip', mask', gate'⟩ := n
  by_cases hip : ip' = ip
  · by_cases hmask : mask' = mask
    · by_cases hgate : gate' = gate
      · exact ⟨optLog, by simp [hip, hmask, hgate]⟩
      · exact ⟨_, by simp [hip, hmask, hgate]; rfl⟩
    · by_cases hgate : gate' = gate
      · exact ⟨_, by simp [hip, hmask, hgate]; rfl⟩
      · exact ⟨_, by simp [hip, hmask, hgate]; rfl⟩
  · by_cases hmask : mask' = mask
    · by_cases hgate : gate' = gate
      · exact ⟨_, by simp [hip, hmask, hgate]; rfl⟩
      · exact ⟨_, by simp [hip, hmask, hgate]; rfl⟩
    · by_cases hgate : gate' = gate
      · exact ⟨_, by simp [hip, hmask, hgate]; rfl⟩
      · exact ⟨_, by simp [hip, hmask, hgate]; rfl⟩

section
variable (codes : NetWorkCodes) (pbuff : List UInt8) (d : NetDevice)

theorem useNetWork_netWork : (useNetWork codes pbuff d).netWork = netWorkAt pbuff := by
  obtain ⟨optLog, heq⟩ := useNetWork_eq codes pbuff d
  rw [heq]
  by_cases hsame : netWorkAt pbuff = d.netWork
  · rw [if_pos hsame, hsame]
  · rw [if_neg hsame]

/-- The EEPROM and the interface do not know the front end. -/
theorem useNetWork_codes (codes' : NetWorkCodes) :
    (useNetWork codes pbuff d).eeprom = (useNetWork codes' pbuff d).eeprom ∧
      (useNetWork codes pbuff d).netif = (useNetWork codes' pbuff d).netif := by
  obtain ⟨optLog, heq⟩ := useNetWork_eq codes pbuff d
  obtain ⟨optLog', heq'⟩ := useNetWork_eq codes' pbuff d
  rw [heq, heq']
  by_cases hsame : netWorkAt pbuff = d.netWork
  · rw [if_pos hsame, if_pos hsame]
    exact ⟨rfl, rfl⟩
  · rw [if_neg hsame, if_neg hsame]
    exact ⟨rfl, rfl⟩

/-- The EEPROM holds the configuration in use. -/
def NetDevice.Held (d : NetDevice) : Prop := netWorkRead d.eeprom = d.netWork

theorem useNetWork_held (h : d.Held) : (useNetWork codes pbuff d).Held := by
  obtain ⟨optLog, heq⟩ := useNetWork_eq codes pbuff d
  rw [NetDevice.Held, heq]
  by_cases hsame : netWorkAt pbuff = d.netWork
  · rw [if_pos hsame]
    exact h
  · rw [if_neg hsame]
    dsimp only
    rw [netWorkRead_netWorkSave]

end

/-! ### What is let in -/

/-- What a front end refuses. -/
def Front.Refuses : Front → NetWork → Prop
  | .pc, n => n.HostMask ∨ ¬ n.SameNet
  | .oled, n => n.HostMask

instance (front : Front) (n : NetWork) : Decidable (front.Refuses n) :=
  match front with
  | .pc => inferInstanceAs (Decidable (_ ∨ _))
  | .oled => inferInstanceAs (Decidable n.HostMask)

/-- The codes of a front end. -/
def Front.netWorkCodes : Front → NetWorkCodes
  | .pc => netWorkSetByPc
  | .oled => netWorkSetByOled

/-- **The front ends do the same with what they let in**, and let in different settings. -/
theorem netWorkSet_eq (front : Front) (pbuff : List UInt8) (d : NetDevice) :
    front.netWorkSet pbuff d =
      if front.Refuses (netWorkAt pbuff) then (.FAIL, d)
      else (.SUCC, useNetWork front.netWorkCodes pbuff d) := by
  have hmask := and_FF000000_eq_iff (netWorkAt pbuff).mask
  have hnet := and_00FFFFFF_eq_iff (netWorkAt pbuff).ipAddr (netWorkAt pbuff).gate
  cases front with
  | pc =>
      rw [Front.netWorkSet, pcNetWorkSet, if_neg (by decide)]
      dsimp only
      by_cases hhost : (netWorkAt pbuff).HostMask
      · rw [if_pos (hmask.mpr hhost)]
        exact (if_pos (Or.inl hhost)).symm
      · rw [if_neg (mt hmask.mp hhost)]
        by_cases hsame : (netWorkAt pbuff).SameNet
        · rw [if_neg (not_not.mpr (hnet.mpr hsame))]
          exact (if_neg fun h => h.elim hhost fun hno => hno hsame).symm
        · rw [if_pos (mt hnet.mp hsame)]
          exact (if_pos (Or.inr hsame)).symm
  | oled =>
      rw [Front.netWorkSet, oledNetWorkSet, if_neg (by decide)]
      dsimp only
      by_cases hhost : (netWorkAt pbuff).HostMask
      · rw [if_pos (hmask.mpr hhost)]
        exact (if_pos hhost).symm
      · rw [if_neg (mt hmask.mp hhost)]
        exact (if_neg hhost).symm

/-- Both front ends answer with one status and leave one configuration. -/
def Agree (pbuff : List UInt8) (d : NetDevice) : Prop :=
  let pc := Front.pc.netWorkSet pbuff d
  let oled := Front.oled.netWorkSet pbuff d
  pc.1 = oled.1 ∧ pc.2.netWork = oled.2.netWork ∧ pc.2.eeprom = oled.2.eeprom ∧
    pc.2.netif = oled.2.netif

/-- A setting that the PC does not refuse alone. -/
def NetWork.Unsplit (n : NetWork) : Prop := n.HostMask ∨ n.SameNet

instance (n : NetWork) : Decidable n.Unsplit := inferInstanceAs (Decidable (_ ∨ _))

theorem agree_iff (pbuff : List UInt8) (d : NetDevice) :
    Agree pbuff d ↔ (netWorkAt pbuff).Unsplit := by
  rw [Agree, netWorkSet_eq, netWorkSet_eq]
  by_cases hhost : (netWorkAt pbuff).HostMask
  · have hpc : Front.pc.Refuses (netWorkAt pbuff) := Or.inl hhost
    have holed : Front.oled.Refuses (netWorkAt pbuff) := hhost
    rw [if_pos hpc, if_pos holed]
    exact iff_of_true ⟨rfl, rfl, rfl, rfl⟩ (Or.inl hhost)
  · have holed : ¬ Front.oled.Refuses (netWorkAt pbuff) := hhost
    rw [if_neg holed]
    by_cases hsame : (netWorkAt pbuff).SameNet
    · have hpc : ¬ Front.pc.Refuses (netWorkAt pbuff) := fun h =>
        h.elim hhost fun hno => hno hsame
      have hcodes := useNetWork_codes Front.pc.netWorkCodes pbuff d Front.oled.netWorkCodes
      rw [if_neg hpc]
      refine iff_of_true ⟨rfl, ?_, hcodes⟩ (Or.inr hsame)
      dsimp only
      rw [useNetWork_netWork, useNetWork_netWork]
    · have hpc : Front.pc.Refuses (netWorkAt pbuff) := Or.inr hsame
      rw [if_pos hpc]
      exact iff_of_false (fun h => Ret.noConfusion h.1) fun h => h.elim hhost hsame

/-! ### Runs -/

/-- A configuration that both front ends let in. -/
def NetWork.Sound (n : NetWork) : Prop := n.SameNet ∧ ¬ n.HostMask

/-- Once set, the configuration is sound, and so is the one in the EEPROM, if `held` says that
it was the one in use. -/
def NetWatch.Kept (held : Prop) (w : NetWatch) : Prop :=
  w.wasSet = true → w.dev.netWork.Sound ∧ (held → (netWorkRead w.dev.eeprom).Sound)

/-- A setting that the PC does not refuse alone, unless the PC sends it. -/
def Admitted (c : Front × List UInt8) : Prop := c.1 = .oled → (netWorkAt c.2).Unsplit

section
variable {held : Prop} {w : NetWatch} {c : Front × List UInt8}

theorem NetWatch.step_refused (h : c.1.Refuses (netWorkAt c.2)) : w.step c = w := by
  have hfail : ¬ Ret.FAIL = .SUCC := by decide
  rw [NetWatch.step, netWorkSet_eq, if_pos h]
  dsimp only
  rw [if_neg hfail]

theorem NetWatch.step_accepted (h : ¬ c.1.Refuses (netWorkAt c.2)) :
    w.step c = ⟨useNetWork c.1.netWorkCodes c.2 w.dev, true⟩ := by
  rw [NetWatch.step, netWorkSet_eq, if_neg h]
  dsimp only
  rw [if_pos rfl]

/-- What is accepted is sound, but for what the PC alone refuses. -/
theorem sound_iff_admitted (h : ¬ c.1.Refuses (netWorkAt c.2)) :
    (netWorkAt c.2).Sound ↔ Admitted c := by
  obtain ⟨front, pbuff⟩ := c
  cases front with
  | pc =>
      obtain ⟨hhost, hsame⟩ := not_or.mp h
      exact iff_of_true ⟨not_not.mp hsame, hhost⟩ fun hno => Front.noConfusion hno
  | oled =>
      have hhost : ¬ (netWorkAt pbuff).HostMask := h
      exact ⟨fun hsound _ => Or.inr hsound.1,
        fun hadmitted => ⟨(hadmitted rfl).resolve_left hhost, hhost⟩⟩

/-- The EEPROM keeps holding the configuration in use. -/
theorem NetWatch.step_held (h : held → w.dev.Held) : held → (w.step c).dev.Held := by
  intro hheld
  by_cases hrefused : c.1.Refuses (netWorkAt c.2)
  · rw [NetWatch.step_refused hrefused]
    exact h hheld
  · rw [NetWatch.step_accepted hrefused]
    dsimp only
    exact useNetWork_held c.1.netWorkCodes c.2 w.dev (h hheld)

/-- An accepted setting is sound exactly if it is admitted. -/
theorem NetWatch.step_kept_iff (h : held → w.dev.Held) (hacc : ¬ c.1.Refuses (netWorkAt c.2)) :
    (w.step c).Kept held ↔ Admitted c := by
  have hstep := NetWatch.step_held (c := c) h
  rw [NetWatch.step_accepted hacc] at hstep ⊢
  rw [← sound_iff_admitted hacc, NetWatch.Kept]
  dsimp only at hstep ⊢
  rw [useNetWork_netWork]
  refine ⟨fun hkept => (hkept rfl).1, fun hsound _ => ⟨hsound, fun hheld => ?_⟩⟩
  rwa [hstep hheld, useNetWork_netWork]

/-- The invariant: the configuration is sound, and the EEPROM still holds it. -/
def NetWatch.Sound (held : Prop) (w : NetWatch) : Prop := w.Kept held ∧ (held → w.dev.Held)

theorem NetWatch.Sound.step (h : w.Sound held) (hadm : Admitted c) : (w.step c).Sound held := by
  refine ⟨?_, NetWatch.step_held h.2⟩
  by_cases hrefused : c.1.Refuses (netWorkAt c.2)
  · rw [NetWatch.step_refused hrefused]
    exact h.1
  · exact (NetWatch.step_kept_iff h.2 hrefused).mpr hadm

theorem NetWatch.Sound.step_not_kept (h : w.Sound held) (hno : ¬ Admitted c) :
    ¬ (w.step c).Kept held := by
  by_cases hrefused : c.1.Refuses (netWorkAt c.2)
  · obtain ⟨front, pbuff⟩ := c
    cases front with
    | pc => exact absurd (fun holed => Front.noConfusion holed) hno
    | oled => exact absurd (fun _ => Or.inl hrefused) hno
  · exact mt (NetWatch.step_kept_iff h.2 hrefused).mp hno

end

/--
**The front ends agree where the PC does not refuse alone, and the stored configuration stays
sound where the front panel sends nothing that the PC refuses alone.**
-/
theorem netWorkSet_agree_iff (pbuff : List UInt8) (d : NetDevice)
    (cmds : List (Front × List UInt8)) :
    (Agree pbuff d ↔ (netWorkAt pbuff).Unsplit) ∧
      (Runs.AllStates NetWatch.step (NetWatch.Kept d.Held) ⟨d, false⟩ cmds ↔
        ∀ c ∈ cmds, c.1 = .oled → (netWorkAt c.2).Unsplit) := by
  refine ⟨agree_iff pbuff d, ?_⟩
  have hstart : NetWatch.Sound d.Held ⟨d, false⟩ := ⟨fun h => absurd h Bool.false_ne_true, id⟩
  have hall : Runs.AllSteps NetWatch.step (fun _ c => Admitted c) ⟨d, false⟩ cmds ↔
      ∀ c ∈ cmds, Admitted c := Runs.allSteps_const _ cmds
  refine Iff.trans ?_ hall
  exact Runs.allStates_iff_of_inv (fun w h => h.1) (fun w c h hadm => h.step hadm)
    (fun w c h hno => h.step_not_kept hno) hstart cmds

/-- The gateway 192.168.2.1 for the address 192.168.1.10: the front panel stores it. -/
theorem not_netWorkSet_agree :
    ¬ ((∀ pbuff d, Agree pbuff d) ∧
      ∀ (d : NetDevice) (cmds : List (Front × List UInt8)),
        Runs.AllStates NetWatch.step (NetWatch.Kept d.Held) ⟨d, false⟩ cmds) := by
  intro h
  have hagree := h.1 [192, 168, 1, 10, 255, 255, 255, 0, 192, 168, 2, 1]
    { netWork := ⟨0, 0, 0⟩, eeprom := fun _ => 0, netif := ⟨0, 0, 0⟩, optLog := [] }
  exact absurd ((agree_iff _ _).mp hagree) (by decide)

end SwiftAcu
