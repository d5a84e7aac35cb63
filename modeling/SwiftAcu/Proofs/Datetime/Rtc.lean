/-
The clock chip keeps the system time, but for the evening.

A field reads back what it keeps of the number that was written, whatever the chip held, and
no write reaches another field's register.  So the save goes through exactly when every field
keeps its number, and then every field is read as it was.  What is read of the tens decides
what is kept: the hours read one bit of them where the days read two, and no hour from 20 on
is kept.
-/
import SwiftAcu.Proofs.Datetime.Refresh

namespace SwiftAcu

open Calendar (DateTime ValidDay ValidTime)

/-! ### One field -/

namespace RtcField

/-- What a field reads back of a number. -/
def kept (f : RtcField) (x : UInt8) : UInt8 :=
  let reg_data := ((x / 10) <<< 4) + x % 10
  ((reg_data &&& f.mask) >>> 4) * 10 + (reg_data &&& 0x0F) % 10

/-- What the one field writes is not in the other's register. -/
def Apart (f g : RtcField) : Prop := g.read >>> 1 ≠ f.write >>> 1

instance (f g : RtcField) : Decidable (f.Apart g) := inferInstanceAs (Decidable (_ ≠ _))

variable {f g : RtcField} {c : Ds1302} {x : UInt8}

theorem get_set (hown : f.read >>> 1 = f.write >>> 1) : f.get (f.set c x).2 = f.kept x := by
  have hread : (f.set c x).2 (f.read >>> 1) = ((x / 10) <<< 4) + x % 10 := by
    rw [hown]
    exact Function.update_self _ _ _
  rw [get, Ds1302.readReg, hread, kept]

theorem get_set_apart (h : f.Apart g) : g.get (f.set c x).2 = g.get c := by
  have hread : (f.set c x).2 (g.read >>> 1) = c (g.read >>> 1) := Function.update_of_ne h _ _
  rw [get, Ds1302.readReg, hread, get, Ds1302.readReg]

/-- A field that keeps its number leaves the save to the others. -/
theorem saveFields_of_kept (hown : f.read >>> 1 = f.write >>> 1) (h : f.kept x = x)
    (fields : List (RtcField × UInt8)) :
    saveFields ((f, x) :: fields) c = saveFields fields (f.set c x).2 := by
  have hset : f.set c x = (.SUCC, (f.set c x).2) :=
    Prod.ext (if_neg (not_not.mpr ((get_set hown).trans h))) rfl
  rw [saveFields, hset]

/-- One that does not keep it ends the save. -/
theorem saveFields_of_not_kept (hown : f.read >>> 1 = f.write >>> 1) (h : f.kept x ≠ x)
    (fields : List (RtcField × UInt8)) :
    saveFields ((f, x) :: fields) c = (.FAIL, (f.set c x).2) := by
  have hset : f.set c x = (.FAIL, (f.set c x).2) :=
    Prod.ext (if_pos ((get_set hown).trans_ne h)) rfl
  rw [saveFields, hset]

end RtcField

/-! ### The save -/

/-- The fields read where they write, and no two in one place. -/
def Separate (fs : List RtcField) : Prop :=
  (∀ f ∈ fs, f.read >>> 1 = f.write >>> 1) ∧ fs.Pairwise fun f g => g.Apart f

instance (fs : List RtcField) : Decidable (Separate fs) := inferInstanceAs (Decidable (_ ∧ _))

theorem Separate.tail {f : RtcField} {fs : List RtcField} (h : Separate (f :: fs)) :
    Separate fs :=
  ⟨fun g hg => h.1 g (List.mem_cons_of_mem f hg), (List.pairwise_cons.mp h.2).2⟩

theorem saveFields_apart {g : RtcField} {fields : List (RtcField × UInt8)}
    (h : ∀ p ∈ fields, p.1.Apart g) (c : Ds1302) :
    g.get (saveFields fields c).2 = g.get c := by
  induction fields generalizing c with
  | nil => rfl
  | cons p fields ih =>
      obtain ⟨f, x⟩ := p
      have hset := RtcField.get_set_apart (c := c) (x := x) (h (f, x) List.mem_cons_self)
      have hrest := ih (fun q hq => h q (List.mem_cons_of_mem _ hq))
      rw [saveFields]
      match f.set c x, hset with
      | (.FAIL, c'), hset => exact hset
      | (.SUCC, c'), hset => exact (hrest c').trans hset

/-- **The save goes through exactly when every field keeps its number.** -/
theorem saveFields_succ_iff {fields : List (RtcField × UInt8)} (h : Separate (fields.map Prod.fst))
    (c : Ds1302) : (saveFields fields c).1 = .SUCC ↔ ∀ p ∈ fields, p.1.kept p.2 = p.2 := by
  induction fields generalizing c with
  | nil => exact iff_of_true rfl fun p hp => absurd hp List.not_mem_nil
  | cons p fields ih =>
      obtain ⟨f, x⟩ := p
      have hown : f.read >>> 1 = f.write >>> 1 := h.1 f List.mem_cons_self
      rw [List.forall_mem_cons]
      by_cases hkept : f.kept x = x
      · rw [RtcField.saveFields_of_kept hown hkept, ih h.tail]
        exact (and_iff_right hkept).symm
      · rw [RtcField.saveFields_of_not_kept hown hkept]
        exact iff_of_false Ret.noConfusion fun hall => hkept hall.1

/-- **A saved field is read as it was**: no later one writes into it. -/
theorem saveFields_get {fields : List (RtcField × UInt8)} (h : Separate (fields.map Prod.fst))
    (hkept : ∀ p ∈ fields, p.1.kept p.2 = p.2) (c : Ds1302) {p : RtcField × UInt8}
    (hp : p ∈ fields) : p.1.get (saveFields fields c).2 = p.2 := by
  induction fields generalizing c with
  | nil => exact absurd hp List.not_mem_nil
  | cons q fields ih =>
      obtain ⟨f, x⟩ := q
      have hown : f.read >>> 1 = f.write >>> 1 := h.1 f List.mem_cons_self
      have hfx : f.kept x = x := hkept (f, x) List.mem_cons_self
      rw [RtcField.saveFields_of_kept hown hfx]
      obtain rfl | hp := List.mem_cons.mp hp
      · have hapart := (List.pairwise_cons.mp h.2).1
        have hlater := saveFields_apart (g := f)
          (fun q hq => hapart q.1 (List.mem_map_of_mem hq)) (f.set c x).2
        exact hlater.trans ((RtcField.get_set hown).trans hfx)
      · exact ih h.tail (fun r hr => hkept r (List.mem_cons_of_mem _ hr)) (f.set c x).2 hp

/-! ### What is kept -/

/-- The numbers that a field keeps, up to a limit. -/
theorem kept_of_forall {f : RtcField} {limit : Nat}
    (h : ∀ n < limit, f.kept (UInt8.ofNat n) = UInt8.ofNat n) {x : UInt8}
    (hx : x.toNat < limit) : f.kept x = x := by
  have := h x.toNat hx
  rwa [UInt8.ofNat_toNat] at this

theorem year_kept {x : UInt8} : x.toNat < 100 → rtcYear.kept x = x :=
  kept_of_forall (by decide)

theorem month_kept {x : UInt8} : x.toNat < 13 → rtcMonth.kept x = x :=
  kept_of_forall (by decide)

theorem day_kept {x : UInt8} : x.toNat < 32 → rtcDay.kept x = x :=
  kept_of_forall (by decide)

theorem minute_kept {x : UInt8} : x.toNat < 60 → rtcMinute.kept x = x :=
  kept_of_forall (by decide)

theorem second_kept {x : UInt8} : x.toNat < 60 → rtcSecond.kept x = x :=
  kept_of_forall (by decide)

/-- **The hours lose a bit of their tens.** -/
theorem hour_kept_iff {x : UInt8} (hx : x.toNat < 24) : rtcHour.kept x = x ↔ x.toNat < 20 := by
  have hall : ∀ n < 24, rtcHour.kept (UInt8.ofNat n) = UInt8.ofNat n ↔ n < 20 := by decide
  have := hall x.toNat hx
  rwa [UInt8.ofNat_toNat] at this

/-! ### The round trip -/

theorem separate_rtcFields (t : SysDateTime) : Separate (t.rtcFields.map Prod.fst) := by
  show Separate [rtcYear, rtcMonth, rtcDay, rtcHour, rtcMinute, rtcSecond]
  decide

section
variable {t : SysDateTime} (hfrom : 2000 ≤ t.year.toNat) (hto : t.year.toNat ≤ 2099)
include hfrom hto

theorem toNat_yearOfCentury : (t.year % 100).toUInt8.toNat = t.year.toNat - 2000 := by
  rw [UInt16.toNat_toUInt8, UInt16.toNat_mod]
  show t.year.toNat % 100 % 256 = t.year.toNat - 2000
  omega

theorem yearOfCentury_add : (t.year % 100).toUInt8.toUInt16 + 2000 = t.year := by
  rw [← UInt16.toNat_inj, UInt16.toNat_add, UInt8.toNat_toUInt16, toNat_yearOfCentury hfrom hto]
  show (t.year.toNat - 2000 + 2000) % 65536 = t.year.toNat
  omega

/-- The hour is the one field that may not be kept. -/
theorem rtcFields_kept_iff (h : t.shows.Valid) :
    (∀ p ∈ t.rtcFields, p.1.kept p.2 = p.2) ↔ t.hour.toNat < 20 := by
  obtain ⟨hdate, hhour, hmin, hsec⟩ := h
  dsimp only [SysDateTime.shows] at hdate hhour hmin hsec
  have hday := hdate.day_le.trans (Calendar.monthLength_le _ _)
  have hmonth := hdate.month_le
  have hyear := toNat_yearOfCentury hfrom hto
  have hyearKept := year_kept (x := (t.year % 100).toUInt8) (by omega)
  have hmonthKept := month_kept (x := t.month) (by omega)
  have hdayKept := day_kept (x := t.day) (by omega)
  have hminKept := minute_kept hmin
  have hsecKept := second_kept hsec
  simp only [SysDateTime.rtcFields, List.forall_mem_cons, List.not_mem_nil, IsEmpty.forall_iff,
    implies_true, and_true, hyearKept, hmonthKept, hdayKept, hminKept, hsecKept, true_and]
  exact hour_kept_iff hhour

end

/--
**The clock chip keeps the time before eight in the evening**, and then alone: from 20 hours on
the save fails.
-/
theorem savetoRtcIC_roundTrip_iff (t : SysDateTime) (h : t.shows.Valid)
    (hfrom : 2000 ≤ t.year.toNat) (hto : t.year.toNat ≤ 2099) (c : Ds1302) :
    ((savetoRtcIC t c).1 = .SUCC ∧ readFromRtcIC (savetoRtcIC t c).2 = t) ↔
      t.hour.toNat < 20 := by
  have hkept := rtcFields_kept_iff hfrom hto h
  have hsave : (savetoRtcIC t c).1 = .SUCC ↔ t.hour.toNat < 20 :=
    (saveFields_succ_iff (separate_rtcFields t) c).trans hkept
  refine ⟨fun hboth => hsave.mp hboth.1, fun hhour => ⟨hsave.mpr hhour, ?_⟩⟩
  have hget : ∀ p ∈ t.rtcFields, p.1.get (savetoRtcIC t c).2 = p.2 := fun p hp =>
    saveFields_get (separate_rtcFields t) (hkept.mpr hhour) c hp
  simp only [SysDateTime.rtcFields, List.forall_mem_cons, List.not_mem_nil, IsEmpty.forall_iff,
    implies_true, and_true] at hget
  obtain ⟨hyear, hmonth, hday, hhour, hmin, hsec⟩ := hget
  have hmod (x : UInt8) (hx : x.toNat < 60) : x % 60 = x := by
    rw [← UInt8.toNat_inj, UInt8.toNat_mod]
    exact Nat.mod_eq_of_lt hx
  rw [readFromRtcIC, hyear, hmonth, hday, hhour, hmin, hsec, yearOfCentury_add hfrom hto,
    hmod t.min h.time.min, hmod t.senc h.time.sec]

/-- The last second before eight in the evening of a 29th of February. -/
theorem savetoRtcIC_roundTrip_2024 :
    ((savetoRtcIC ⟨2024, 2, 29, 19, 59, 59⟩ fun _ => 0xFF).1 = .SUCC ∧
      readFromRtcIC (savetoRtcIC ⟨2024, 2, 29, 19, 59, 59⟩ fun _ => 0xFF).2 =
        ⟨2024, 2, 29, 19, 59, 59⟩) ↔
      (⟨2024, 2, 29, 19, 59, 59⟩ : SysDateTime).hour.toNat < 20 :=
  savetoRtcIC_roundTrip_iff ⟨2024, 2, 29, 19, 59, 59⟩
    ⟨⟨by decide, by decide, by decide, by decide⟩, ⟨by decide, by decide, by decide⟩⟩
    (by decide) (by decide) fun _ => 0xFF

/-- Eight in the evening of a New Year's Day is not kept. -/
theorem not_savetoRtcIC_roundTrip :
    ¬ ∀ (t : SysDateTime) (c : Ds1302), t.shows.Valid → 2000 ≤ t.year.toNat →
      t.year.toNat ≤ 2099 →
      (savetoRtcIC t c).1 = .SUCC ∧ readFromRtcIC (savetoRtcIC t c).2 = t := by
  intro h
  have hvalid : (⟨2024, 1, 1, 20, 0, 0⟩ : SysDateTime).shows.Valid :=
    ⟨⟨by decide, by decide, by decide, by decide⟩, ⟨by decide, by decide, by decide⟩⟩
  have hfail : (savetoRtcIC ⟨2024, 1, 1, 20, 0, 0⟩ fun _ => 0).1 = .FAIL := by decide
  have hsucc := (h ⟨2024, 1, 1, 20, 0, 0⟩ (fun _ => 0) hvalid (by decide) (by decide)).1
  exact Ret.noConfusion (hfail.symm.trans hsucc)

end SwiftAcu
