/-
Whether an adjusted encoder counts the way its axis turns.

Three comparisons of four readings say which way it counts, and where the first two differ the
third decides.  There the program compares the direction with a reading, cut to a byte, and not
with the comparison: a reading says nothing about the direction, and the mode is right by chance
alone, or because nothing is changed in the end.  Where the first two agree it is right, and a
mode that is set is the same in the encoder, in RAM and in the EEPROM.
-/
import SwiftAcu.Acu.Encoder
import SwiftAcu.Proofs.Param.Codec

namespace SwiftAcu.Encoders

/-! ### Setting a mode -/

/-- The command to set a mode fails. -/
def Attempt.Fails (dir : UInt8) : Attempt → Prop
  | .busy => True
  | .lost => True
  | .taken none => True
  | .taken (some revbuff) => badEcho dir revbuff

instance (dir : UInt8) (a : Attempt) : Decidable (a.Fails dir) :=
  match a with
  | .busy => isTrue trivial
  | .lost => isTrue trivial
  | .taken none => isTrue trivial
  | .taken (some revbuff) => inferInstanceAs (Decidable (badEcho dir revbuff))

/-- One of the two modes. -/
def IsMode (count_mode : UInt8) : Prop := count_mode = 0xE1 ∨ count_mode = 0xE2

section
variable (part : AntennaPart) (m : Modes) {dir : UInt8} {a : Attempt}

/-- A command that succeeds has set the mode in the encoder and in RAM, and nothing else. -/
theorem dataAddDirSet_succ (hdir : IsMode dir) (h : ¬ a.Fails dir) :
    dataAddDirSet part dir a m = (.SUCC,
      { m with
        encoder := Function.update m.encoder part dir
        countMode := Function.update m.countMode part dir }) := by
  have hsame : (if dir = 0xE1 then 0xE1 else 0xE2) = dir := by
    obtain rfl | rfl := hdir
    · rfl
    · rfl
  match a with
  | .busy => exact absurd trivial h
  | .lost => exact absurd trivial h
  | .taken none => exact absurd trivial h
  | .taken (some revbuff) =>
      rw [dataAddDirSet, hsame]
      exact if_neg h

/-- One that fails may have set it in the encoder. -/
theorem dataAddDirSet_fail (hdir : IsMode dir) (h : a.Fails dir) :
    ∃ encoder, dataAddDirSet part dir a m = (.FAIL, { m with encoder }) := by
  have hsame : (if dir = 0xE1 then 0xE1 else 0xE2) = dir := by
    obtain rfl | rfl := hdir
    · rfl
    · rfl
  match a with
  | .busy => exact ⟨m.encoder, rfl⟩
  | .lost => exact ⟨m.encoder, rfl⟩
  | .taken none => exact ⟨_, rfl⟩
  | .taken (some revbuff) =>
      rw [dataAddDirSet, hsame]
      exact ⟨_, if_pos h⟩

end

/-- Both commands to set a mode fail. -/
def Dialogue.BothFail (d : Dialogue) (dir : UInt8) : Prop :=
  d.set.Fails dir ∧ d.setAgain.Fails dir

instance (d : Dialogue) (dir : UInt8) : Decidable (d.BothFail dir) :=
  inferInstanceAs (Decidable (_ ∧ _))

section
variable (part : AntennaPart) (m : Modes) {dir : UInt8} {d : Dialogue}

theorem setTwice_fail (hdir : IsMode dir) (h : d.BothFail dir) :
    (setTwice part dir d m).1 = .FAIL := by
  obtain ⟨encoder, hset⟩ := dataAddDirSet_fail part m hdir h.1
  obtain ⟨encoder', hagain⟩ := dataAddDirSet_fail part { m with encoder } hdir h.2
  rw [setTwice, hset]
  dsimp only
  rw [hagain]

/-- One command that succeeds is enough. -/
theorem setTwice_succ (hdir : IsMode dir) (h : ¬ d.BothFail dir) :
    ∃ m', setTwice part dir d m = (.SUCC, m') ∧ m'.encoder part = dir := by
  rw [setTwice]
  by_cases hset : d.set.Fails dir
  · obtain ⟨encoder, heq⟩ := dataAddDirSet_fail part m hdir hset
    rw [heq]
    dsimp only
    rw [dataAddDirSet_succ part _ hdir fun hagain => h ⟨hset, hagain⟩]
    exact ⟨_, rfl, Function.update_self _ _ _⟩
  · rw [dataAddDirSet_succ part m hdir hset]
    exact ⟨_, rfl, Function.update_self _ _ _⟩

end

/-! ### Keeping it -/

/-- Where the EEPROM has the mode of an axis. -/
def modeAddr (part : AntennaPart) : Int := 0x00DA + part.id.toNat - 1

/-- One of the two saves of the mode succeeds. -/
def Saves (faults : Faults) (part : AntennaPart) : Prop :=
  faults.save (modeAddr part) = none ∨ faults.saveAgain (modeAddr part) = none

/-- The encoder, RAM and the EEPROM have one mode; the EEPROM if it could be written. -/
structure Copies (faults : Faults) (part : AntennaPart) (count_mode : UInt8) (m : Modes) :
    Prop where
  encoder : m.encoder part = count_mode
  ram : m.countMode part = count_mode
  eeprom : Saves faults part → byteRead m.eeprom (modeAddr part) = count_mode

theorem byteRead_byteSave (addr : Int) (x : UInt8) (m : Eeprom) :
    byteRead (paramSave addr [x] m) addr = x :=
  Fields.At.head (at_paramRead m addr (by simp))

theorem byteRead_saveTwice {faults : Faults} {part : AntennaPart} (h : Saves faults part)
    (count_mode : UInt8) (m : Eeprom) :
    byteRead (faults.elecCodeCountModeSaveTwice part.id count_mode m) (modeAddr part) =
      count_mode := by
  have hfirst : faults.paramSave (modeAddr part) [count_mode] m =
      Faults.store (faults.save (modeAddr part)) (modeAddr part) [count_mode] m := rfl
  rw [Faults.elecCodeCountModeSaveTwice, ← modeAddr, hfirst]
  match hsave : faults.save (modeAddr part) with
  | none => exact byteRead_byteSave _ _ _
  | some left =>
      obtain hno | hagain := h
      · exact absurd (hsave.symm.trans hno) (Option.some_ne_none left)
      · rw [hagain]
        exact byteRead_byteSave _ _ _

theorem keepMode_countMode (faults : Faults) (part : AntennaPart) (count_mode : UInt8) (m : Modes) :
    (keepMode faults part count_mode m).countMode part = count_mode :=
  Function.update_self _ _ _

theorem copies_keepMode (faults : Faults) {part : AntennaPart} {count_mode : UInt8} {m : Modes}
    (h : m.encoder part = count_mode) :
    Copies faults part count_mode (keepMode faults part count_mode m) :=
  ⟨h, keepMode_countMode faults part count_mode m, fun hsaves => byteRead_saveTwice hsaves _ _⟩

/-! ### The adjustment -/

/-- The encoder is asked for its mode, and says it. -/
structure Reports (part : AntennaPart) (d : Dialogue) (m : Modes) : Prop where
  mode : IsMode (m.encoder part)
  que : d.que = some [m.encoder part]

theorem isMode_otherMode (count_mode : UInt8) : IsMode (otherMode count_mode) := by
  unfold otherMode
  by_cases h1 : count_mode = 0xE1
  · exact Or.inr (if_pos h1)
  · rw [if_neg h1]
    by_cases h2 : count_mode = 0xE2
    · exact Or.inl (if_pos h2)
    · exact Or.inl (if_neg h2)

theorem otherMode_ne {count_mode : UInt8} (h : IsMode count_mode) :
    otherMode count_mode ≠ count_mode := by
  obtain rfl | rfl := h
  · decide
  · decide

section
variable {part : AntennaPart} {antenna_dir : UInt8} {d : Dialogue} {m : Modes} (faults : Faults)

theorem Reports.get (h : Reports part d m) :
    dataAddDirGet part d.que d.stack m = (m.encoder part,
      { m with countMode := Function.update m.countMode part (m.encoder part) }) := by
  obtain ⟨hmode, hque⟩ := h
  rw [hque, dataAddDirGet]
  refine if_neg (not_or.mpr ⟨Nat.lt_irrefl 1, not_not.mpr ?_⟩)
  obtain heq | heq := hmode
  · rw [heq]
    rfl
  · rw [heq]
    rfl

/-- An encoder that counts the right way is left alone. -/
theorem adjust_keep (hstill : ¬ d.data.still) (h : Reports part d m)
    (hway : addDirWill antenna_dir = d.data.addFlagNow) :
    ∃ m', dataAddDirAdjust faults part antenna_dir d m = (.SUCC, m') ∧
      Copies faults part (m.encoder part) m' := by
  rw [dataAddDirAdjust, if_neg hstill, h.get]
  dsimp only
  rw [if_neg (not_not.mpr hway)]
  exact ⟨_, rfl, copies_keepMode faults rfl⟩

/-- One that counts the wrong way is set, once or twice. -/
theorem adjust_turn (hstill : ¬ d.data.still) (h : Reports part d m)
    (hway : addDirWill antenna_dir ≠ d.data.addFlagNow)
    (hset : ¬ d.BothFail (otherMode (m.encoder part))) :
    ∃ m', dataAddDirAdjust faults part antenna_dir d m = (.SUCC, m') ∧
      Copies faults part (otherMode (m.encoder part)) m' := by
  rw [dataAddDirAdjust, if_neg hstill, h.get]
  dsimp only
  rw [if_pos hway]
  obtain ⟨m', heq, hencoder⟩ := setTwice_succ part _ (isMode_otherMode _) hset
  rw [heq]
  exact ⟨_, rfl, copies_keepMode faults hencoder⟩

theorem adjust_fail (hstill : ¬ d.data.still) (h : Reports part d m)
    (hway : addDirWill antenna_dir ≠ d.data.addFlagNow)
    (hset : d.BothFail (otherMode (m.encoder part))) :
    (dataAddDirAdjust faults part antenna_dir d m).1 = .FAIL := by
  rw [dataAddDirAdjust, if_neg hstill, h.get]
  dsimp only
  rw [if_pos hway]
  have hfail := setTwice_fail part
    { m with countMode := Function.update m.countMode part (m.encoder part) }
    (isMode_otherMode _) hset
  match setTwice part (otherMode (m.encoder part)) d
      { m with countMode := Function.update m.countMode part (m.encoder part) }, hfail with
  | (.FAIL, m'), _ => rfl

end

/-! ### The direction -/

/-- A comparison of two readings in a row says up. -/
def Samples.Up (data : Samples) (i : Fin 3) : Prop := data i.castSucc < data i.succ

instance (data : Samples) (i : Fin 3) : Decidable (data.Up i) := inferInstanceAs (Decidable (_ < _))

/-- Most of the three comparisons say up. -/
def Samples.MostUp (data : Samples) : Prop :=
  data.Up 0 ∧ data.Up 1 ∨ data.Up 0 ∧ data.Up 2 ∨ data.Up 1 ∧ data.Up 2

instance (data : Samples) : Decidable data.MostUp := inferInstanceAs (Decidable (_ ∨ _))

/-- The reading that stands where a comparison should, if the first two comparisons differ. -/
def Samples.standIn (data : Samples) : UInt8 :=
  if data.Up 0 ↔ data.Up 2 then (data 0).toUInt8 else (data 1).toUInt8

/-- The axis is to turn to the right, up or clockwise. -/
def WillUp (antenna_dir : UInt8) : Prop := antenna_dir = dirRightUpClock

instance (antenna_dir : UInt8) : Decidable (WillUp antenna_dir) :=
  inferInstanceAs (Decidable (_ = _))

/-- The mode that is right for what the comparisons say. -/
def rightMode (data : Samples) (antenna_dir count_mode : UInt8) : UInt8 :=
  if data.MostUp ↔ WillUp antenna_dir then count_mode else otherMode count_mode

theorem addDirWill_eq_iff (antenna_dir : UInt8) (p : Prop) [Decidable p] :
    addDirWill antenna_dir = (if p then 1 else 0) ↔ (p ↔ WillUp antenna_dir) := by
  unfold addDirWill WillUp
  by_cases hwill : antenna_dir = dirRightUpClock
  · by_cases hp : p
    · simp [hwill, hp]
    · simp [hwill, hp]
  · by_cases hp : p
    · simp [hwill, hp]
    · simp [hwill, hp]

theorem flag_eq_iff (p q : Prop) [Decidable p] [Decidable q] :
    ((if p then 1 else 0 : UInt8) = if q then 1 else 0) ↔ (p ↔ q) := by
  by_cases hp : p
  · by_cases hq : q
    · simp [hp, hq]
    · simp [hp, hq]
  · by_cases hq : q
    · simp [hp, hq]
    · simp [hp, hq]

theorem addFlagNow_eq (data : Samples) :
    data.addFlagNow =
      if data.Up 0 ↔ data.Up 1 then if data.Up 0 then 1 else 0 else data.standIn := by
  have hfirst := flag_eq_iff (data.Up 0) (data.Up 1)
  have hthird := flag_eq_iff (data.Up 0) (data.Up 2)
  rw [Samples.standIn, ← if_congr hfirst rfl rfl, ← if_congr hthird rfl rfl]
  rfl

/-- Where the first two comparisons agree, they are most of the three. -/
theorem mostUp_of_agree {data : Samples} (h : data.Up 0 ↔ data.Up 1) :
    data.MostUp ↔ data.Up 0 := by
  rw [Samples.MostUp, ← h]
  constructor
  · rintro (⟨hup, -⟩ | ⟨hup, -⟩ | ⟨hup, -⟩)
    · exact hup
    · exact hup
    · exact hup
  · exact fun hup => Or.inl ⟨hup, hup⟩

/-- The comparison that the program makes is the one that it should make. -/
def WayRight (data : Samples) (antenna_dir : UInt8) : Prop :=
  (data.Up 0 ↔ data.Up 1) ∨
    (data.standIn = (if WillUp antenna_dir then 1 else 0) ↔ (data.MostUp ↔ WillUp antenna_dir))

instance (data : Samples) (antenna_dir : UInt8) : Decidable (WayRight data antenna_dir) :=
  inferInstanceAs (Decidable (_ ∨ _))

theorem wayRight_iff (data : Samples) (antenna_dir : UInt8) :
    WayRight data antenna_dir ↔
      (addDirWill antenna_dir = data.addFlagNow ↔ (data.MostUp ↔ WillUp antenna_dir)) := by
  rw [addFlagNow_eq, WayRight]
  by_cases hagree : data.Up 0 ↔ data.Up 1
  · rw [if_pos hagree, addDirWill_eq_iff, mostUp_of_agree hagree]
    exact iff_of_true (Or.inl hagree) Iff.rfl
  · rw [if_neg hagree, or_iff_right hagree, eq_comm]
    rfl

/-- Where it is not, it is a reading. -/
theorem addFlagNow_of_not_wayRight {data : Samples} {antenna_dir : UInt8}
    (h : ¬ WayRight data antenna_dir) : data.addFlagNow = data.standIn := by
  rw [addFlagNow_eq, if_neg fun hagree => h (Or.inl hagree)]

/-- A mode that is kept is the right one if most comparisons say so. -/
theorem copies_iff {faults : Faults} {part : AntennaPart} {mode mode' : UInt8} {m : Modes}
    (h : Copies faults part mode m) : Copies faults part mode' m ↔ mode' = mode := by
  constructor
  · exact fun h' => h'.encoder.symm.trans h.encoder
  · rintro rfl
    exact h

/--
**An adjustment that succeeds leaves the right mode in all three places, if the program looks at
the comparisons**, or if the reading that it looks at says by chance what they do; or else it
does not succeed, both commands to the encoder having failed.
-/
theorem dataAddDirAdjust_iff (faults : Faults) (part : AntennaPart) (antenna_dir : UInt8)
    (d : Dialogue) (m : Modes) (hstill : ¬ d.data.still) (hreports : Reports part d m) :
    (∀ m', dataAddDirAdjust faults part antenna_dir d m = (.SUCC, m') →
      Copies faults part (rightMode d.data antenna_dir (m.encoder part)) m') ↔
    WayRight d.data antenna_dir ∨
      d.data.standIn ≠ (if WillUp antenna_dir then 1 else 0) ∧
        d.BothFail (otherMode (m.encoder part)) := by
  have hne := otherMode_ne hreports.mode
  have hright := wayRight_iff d.data antenna_dir
  by_cases hway : addDirWill antenna_dir = d.data.addFlagNow
  · obtain ⟨m', heq, hcopies⟩ := adjust_keep faults hstill hreports hway
    rw [iff_true_left hway] at hright
    constructor
    · intro hall
      have hmode := (copies_iff hcopies).mp (hall m' heq)
      refine Or.inl (hright.mpr ?_)
      by_contra hno
      rw [rightMode, if_neg hno] at hmode
      exact hne hmode
    · intro hcond m'' heq''
      have hwayRight : WayRight d.data antenna_dir := by
        obtain hwayRight | ⟨hstandIn, -⟩ := hcond
        · exact hwayRight
        · by_contra hno
          exact hstandIn (hway.trans (addFlagNow_of_not_wayRight hno)).symm
      obtain ⟨-, rfl⟩ := Prod.mk.inj (heq.symm.trans heq'')
      rw [rightMode, if_pos (hright.mp hwayRight)]
      exact hcopies
  · rw [iff_false_left hway] at hright
    by_cases hset : d.BothFail (otherMode (m.encoder part))
    · have hfail := adjust_fail faults hstill hreports hway hset
      refine iff_of_true (fun m' heq => ?_) ?_
      · rw [heq] at hfail
        exact Ret.noConfusion hfail
      · by_cases hwayRight : WayRight d.data antenna_dir
        · exact Or.inl hwayRight
        · refine Or.inr ⟨fun hstandIn => hway ?_, hset⟩
          rw [addFlagNow_of_not_wayRight hwayRight, hstandIn]
          rfl
    · obtain ⟨m', heq, hcopies⟩ := adjust_turn faults hstill hreports hway hset
      rw [or_iff_left fun h => hset h.2, hright]
      constructor
      · intro hall hsame
        have hmode := (copies_iff hcopies).mp (hall m' heq)
        rw [rightMode, if_pos hsame] at hmode
        exact hne hmode.symm
      · intro hdiffer m'' heq''
        obtain ⟨-, rfl⟩ := Prod.mk.inj (heq.symm.trans heq'')
        rw [rightMode, if_neg hdiffer]
        exact hcopies

/-- An axis that turns to the right over the zero of its encoder, which takes what it is sent. -/
def crossing (count_mode : UInt8) : Dialogue :=
  { data := fun i => [131060, 131070, 8, 20].getD i.val 0
    stack := 0
    que := some [count_mode]
    set := .taken (some [otherMode count_mode])
    setAgain := .lost }

/-- Encoders that all count by one mode. -/
def Modes.all (count_mode : UInt8) : Modes :=
  { encoder := fun _ => count_mode
    countMode := fun _ => count_mode
    eeprom := fun _ => count_mode }

theorem reports_crossing (part : AntennaPart) :
    Reports part (crossing 0xE1) (.all 0xE1) :=
  ⟨Or.inl rfl, rfl⟩

/-- To the left the mode is changed, and by chance that is right. -/
theorem dataAddDirAdjust_crossing :
    (∀ m', dataAddDirAdjust .none .position 0x01 (crossing 0xE1) (.all 0xE1) = (.SUCC, m') →
      Copies .none .position
        (rightMode (crossing 0xE1).data 0x01 ((Modes.all 0xE1).encoder .position)) m') ↔
    WayRight (crossing 0xE1).data 0x01 ∨
      (crossing 0xE1).data.standIn ≠ (if WillUp 0x01 then 1 else 0) ∧
        (crossing 0xE1).BothFail (otherMode ((Modes.all 0xE1).encoder .position)) :=
  dataAddDirAdjust_iff .none .position 0x01 (crossing 0xE1) (.all 0xE1) (by decide)
    (reports_crossing .position)

/-- To the right the mode is changed, where one comparison of three says that it is wrong. -/
theorem not_dataAddDirAdjust_right :
    ¬ ∀ (faults : Faults) (part : AntennaPart) (antenna_dir : UInt8) (d : Dialogue) (m : Modes),
      ¬ d.data.still → Reports part d m →
      ∀ m', dataAddDirAdjust faults part antenna_dir d m = (.SUCC, m') →
        Copies faults part (rightMode d.data antenna_dir (m.encoder part)) m' := by
  intro h
  have hreports := reports_crossing .position
  have hstill : ¬ (crossing 0xE1).data.still := by decide
  have hway : addDirWill dirRightUpClock ≠ (crossing 0xE1).data.addFlagNow := by decide
  obtain ⟨m', heq, hcopies⟩ := adjust_turn .none hstill hreports hway (by decide)
  have hmode := (copies_iff hcopies).mp (h _ _ _ _ _ hstill hreports m' heq)
  exact absurd hmode (by decide)

/-! ### The command above it -/

/-- What the command that finishes an adjustment knows of a dialogue. -/
def Dialogue.turning (d : Dialogue) (part : AntennaPart) (m : Modes)
    (driveEnd driveEndAgain : Ret) : SetCmd.Turning :=
  let got := dataAddDirGet part d.que d.stack m
  let set := dataAddDirSet part (otherMode got.1) d.set got.2
  { data := d.data
    countMode := got.1
    set := set.1
    setAgain := (dataAddDirSet part (otherMode got.1) d.setAgain set.2).1
    driveEnd
    driveEndAgain }

section
variable (part : AntennaPart) {d : Dialogue} (m : Modes)

theorem dataAddDirGet_eeprom (que : Option (List UInt8)) (dir : UInt8) :
    (dataAddDirGet part que dir m).2.eeprom = m.eeprom := by
  unfold dataAddDirGet
  match que with
  | none => rfl
  | some revbuff =>
      dsimp only
      split
      · rfl
      · rfl

theorem dataAddDirSet_eeprom (dir : UInt8) (a : Attempt) :
    (dataAddDirSet part dir a m).2.eeprom = m.eeprom := by
  unfold dataAddDirSet
  match a with
  | .busy => rfl
  | .lost => rfl
  | .taken none => rfl
  | .taken (some revbuff) =>
      dsimp only
      by_cases hbad : badEcho (if dir = 0xE1 then 0xE1 else 0xE2) revbuff
      · rw [if_pos hbad]
      · rw [if_neg hbad]

theorem setTwice_eeprom (dir : UInt8) : (setTwice part dir d m).2.eeprom = m.eeprom := by
  have hset := dataAddDirSet_eeprom part m dir d.set
  rw [setTwice]
  match dataAddDirSet part dir d.set m, hset with
  | (.SUCC, m'), hset => exact hset
  | (.FAIL, m'), hset => exact (dataAddDirSet_eeprom part m' dir d.setAgain).trans hset

theorem setTwice_fst (dir : UInt8) :
    (setTwice part dir d m).1 = .FAIL ↔ (dataAddDirSet part dir d.set m).1 = .FAIL ∧
      (dataAddDirSet part dir d.setAgain (dataAddDirSet part dir d.set m).2).1 = .FAIL := by
  rw [setTwice]
  match dataAddDirSet part dir d.set m with
  | (.SUCC, m') => exact iff_of_false Ret.noConfusion fun h => Ret.noConfusion h.1
  | (.FAIL, m') => exact (and_iff_right rfl).symm

/-- The mode that the command stores. -/
theorem newCountMode_turning (antenna_dir : UInt8) (r r' : Ret) :
    (d.turning part m r r').newCountMode antenna_dir =
      if addDirWill antenna_dir ≠ d.data.addFlagNow then
        otherMode (dataAddDirGet part d.que d.stack m).1
      else (dataAddDirGet part d.que d.stack m).1 := by
  have hother (x : UInt8) : otherMode x = if x = 0xE1 then 0xE2 else 0xE1 := by
    rw [otherMode, ite_self]
  rw [hother]
  rfl

/-- The command's view of an adjustment says how it ends. -/
theorem adjusts_turning (hstill : ¬ d.data.still) (antenna_dir : UInt8) (r r' : Ret) :
    (d.turning part m r r').adjusts antenna_dir ↔
      ¬ (addDirWill antenna_dir ≠ d.data.addFlagNow ∧
        (setTwice part (otherMode (dataAddDirGet part d.que d.stack m).1) d
          (dataAddDirGet part d.que d.stack m).2).1 = .FAIL) := by
  rw [setTwice_fst]
  exact and_iff_right hstill

/--
**The commands and the encoders have one adjustment**: it ends the same, and leaves the same in
the EEPROM and, if it succeeds, in RAM.
-/
theorem dataAddDirAdjust_turning (faults : Faults) (antenna_dir : UInt8) (c : SetCmd.Cmd)
    (heeprom : c.device.eeprom = m.eeprom) (r r' : Ret) :
    let cmd := c.dataAddDirAdjust faults (d.turning part m r r') part.id antenna_dir
    let adjusted := dataAddDirAdjust faults part antenna_dir d m
    cmd.1 = adjusted.1 ∧ cmd.2.device.eeprom = adjusted.2.eeprom ∧
      (adjusted.1 = .SUCC →
        cmd.2.countMode (SetCmd.indexOf part.id) = adjusted.2.countMode part) := by
  dsimp only
  rw [SetCmd.Cmd.dataAddDirAdjust, dataAddDirAdjust]
  dsimp only
  by_cases hstill : d.data.still
  · have hno : ¬ (d.turning part m r r').adjusts antenna_dir := fun h => h.1 hstill
    rw [if_neg hno, if_pos hstill]
    exact ⟨rfl, heeprom, fun h => Ret.noConfusion h⟩
  · have hadjusts := adjusts_turning part m hstill antenna_dir r r'
    have hmode := @newCountMode_turning part d m antenna_dir r r'
    have hget := dataAddDirGet_eeprom part m d.que d.stack
    rw [if_neg hstill]
    by_cases hway : addDirWill antenna_dir ≠ d.data.addFlagNow
    · rw [if_pos hway] at hmode ⊢
      have hset := @setTwice_eeprom part d (dataAddDirGet part d.que d.stack m).2
        (otherMode (dataAddDirGet part d.que d.stack m).1)
      match hr : setTwice part (otherMode (dataAddDirGet part d.que d.stack m).1) d
          (dataAddDirGet part d.que d.stack m).2 with
      | (.FAIL, m') =>
          rw [hr] at hadjusts hset
          rw [if_neg fun h => hadjusts.mp h ⟨hway, rfl⟩]
          exact ⟨rfl, heeprom.trans (hset.trans hget).symm, fun h => Ret.noConfusion h⟩
      | (.SUCC, m') =>
          rw [hr] at hadjusts hset
          rw [if_pos (hadjusts.mpr fun h => Ret.noConfusion h.2), hmode]
          refine ⟨rfl, ?_, fun _ => ?_⟩
          · show faults.elecCodeCountModeSaveTwice part.id _ c.device.eeprom =
              faults.elecCodeCountModeSaveTwice part.id _ m'.eeprom
            rw [heeprom, hset.trans hget]
          · exact (Function.update_self _ _ _).trans (keepMode_countMode faults part _ m').symm
    · rw [if_neg hway] at hmode ⊢
      rw [if_pos (hadjusts.mpr fun h => hway h.1), hmode]
      refine ⟨rfl, ?_, fun _ => ?_⟩
      · show faults.elecCodeCountModeSaveTwice part.id _ c.device.eeprom =
          faults.elecCodeCountModeSaveTwice part.id _ (dataAddDirGet part d.que d.stack m).2.eeprom
        rw [heeprom, hget]
      · exact (Function.update_self _ _ _).trans (keepMode_countMode faults part _ _).symm

end

end SwiftAcu.Encoders
