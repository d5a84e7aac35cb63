/-
Beijing is eight hours ahead of the receiver.

The hours carry into the day, and the day into the month and the year by the text of the
system clock; that is right for every time of the receiver.  The second that the query adds
for its own delay carries into nothing, and the last second of a minute becomes a sixtieth.
-/
import SwiftAcu.Proofs.Datetime.Refresh
import SwiftAcu.Proofs.Gps.Reply

namespace SwiftAcu

open Calendar (DateTime ValidDay ValidTime dayNumber secondOfDay monthLength)

/-! ### The conversion -/

/-- The time of the receiver, as the conversion takes it. -/
def GpsRecord.utc (g : GpsRecord) : DateTime :=
  ⟨(if 100 < g.year then g.year else 2000 + g.year).toNat, g.month.toNat, g.day.toNat,
    g.hour.toNat, g.min.toNat, g.sec.toNat⟩

/-- Eight hours later, the day of the receiver or the one behind it. -/
structure EightLater (g : GpsRecord) (t : SysDateTime) : Prop where
  carries : t.Carries
  hour : t.hour.toNat < 24
  min : t.min = g.min
  senc : t.senc = g.sec
  seconds : t.shows.seconds = g.utc.seconds + 8 * 3600

/-- The first lines of the conversion. -/
theorem exists_eightLater {g : GpsRecord}
    (hdate : ValidDay g.utc.year g.utc.month g.utc.day) (hyear : g.utc.year < 65535)
    (hhour : g.utc.hour < 24) : ∃ t, EightLater g t ∧ utc2BeijingTime g = t.carryDate := by
  obtain ⟨hmpos, hmle, hdpos, hdle⟩ := hdate
  have hlong := Calendar.monthLength_le g.utc.year g.utc.month
  dsimp only [GpsRecord.utc] at hmpos hmle hdpos hdle hyear hhour hlong
  have hadd : (g.hour + 8).toNat = g.hour.toNat + 8 := by
    rw [UInt8.toNat_add]
    exact Nat.mod_eq_of_lt (show g.hour.toNat + 8 < 256 by omega)
  unfold utc2BeijingTime
  dsimp only
  by_cases hover : 24 ≤ g.hour + 8
  · have hlate : 24 ≤ g.hour.toNat + 8 := by
      rw [← hadd]
      exact UInt8.le_iff_toNat_le.mp hover
    have hsub : (g.hour + 8 - 24).toNat = g.hour.toNat + 8 - 24 := by
      rw [UInt8.toNat_sub_of_le _ _ hover, hadd]
      rfl
    have hnext : (g.day + 1).toNat = g.day.toNat + 1 := toNat_succ (by omega)
    rw [if_pos hover]
    refine ⟨_, ⟨⟨hmpos, hmle, ?_, ?_, Or.inl hyear⟩, ?_, rfl, rfl, ?_⟩, rfl⟩
    · dsimp only
      omega
    · dsimp only
      omega
    · dsimp only
      omega
    · dsimp only [DateTime.seconds, SysDateTime.shows, GpsRecord.utc]
      rw [hnext, hsub, dayNumber, ← Nat.add_assoc, ← dayNumber, secondOfDay, secondOfDay]
      omega
  · have hearly : g.hour.toNat + 8 < 24 := by
      have := mt UInt8.le_iff_toNat_le.mpr hover
      rw [hadd] at this
      exact Nat.not_le.mp this
    rw [if_neg hover]
    refine ⟨_, ⟨⟨hmpos, hmle, hdpos, Nat.le_succ_of_le hdle, Or.inl hyear⟩, ?_, rfl, rfl, ?_⟩, rfl⟩
    · dsimp only
      omega
    · dsimp only [DateTime.seconds, SysDateTime.shows, GpsRecord.utc]
      rw [hadd, secondOfDay, secondOfDay]
      omega

/-- **The conversion is eight hours**, whatever stands in the minutes and the seconds. -/
theorem utc2BeijingTime_later {g : GpsRecord}
    (hdate : ValidDay g.utc.year g.utc.month g.utc.day) (hyear : g.utc.year < 65535)
    (hhour : g.utc.hour < 24) :
    let t := (utc2BeijingTime g).shows
    ValidDay t.year t.month t.day ∧ t.hour < 24 ∧ t.min = g.utc.min ∧ t.sec = g.utc.sec ∧
      t.seconds = g.utc.seconds + 8 * 3600 := by
  obtain ⟨t, ht, heq⟩ := exists_eightLater hdate hyear hhour
  obtain ⟨hvalid, -, hsameHour, hsameMin, hsameSenc⟩ := ht.carries.carryDate
  rw [heq]
  refine ⟨hvalid, ?_, ?_, ?_, ht.carries.seconds_carryDate.trans ht.seconds⟩
  · dsimp only [SysDateTime.shows]
    rw [hsameHour]
    exact ht.hour
  · dsimp only [SysDateTime.shows, GpsRecord.utc]
    rw [hsameMin, ht.min]
  · dsimp only [SysDateTime.shows, GpsRecord.utc]
    rw [hsameSenc, ht.senc]

/-! ### The answer -/

/-- The time in an answer; a year of two digits is one of this century. -/
def answerUtc (reply : List UInt8) : DateTime :=
  let year := (reply.getD 20 0).toNat * 256 + (reply.getD 21 0).toNat
  ⟨if year < 100 then 2000 + year else year, (reply.getD 22 0).toNat, (reply.getD 23 0).toNat,
    (reply.getD 24 0).toNat, (reply.getD 25 0).toNat, (reply.getD 26 0).toNat⟩

/-- A valid answer with a time of this century. -/
structure IsTimed (reply : List UInt8) : Prop where
  length : 27 ≤ reply.length
  answer : IsGpsAnswer reply
  valid : reply[5]? = some 0x41
  utc : (answerUtc reply).Valid
  year_ge : 2000 ≤ (answerUtc reply).year
  year_le : (answerUtc reply).year ≤ 2099

/-- The two bytes of the year. -/
theorem toNat_year (hi lo : UInt8) :
    ((hi.toUInt16 <<< 8) + lo.toUInt16).toNat = hi.toNat * 256 + lo.toNat := by
  have hhi := hi.toNat_lt
  have hlo := lo.toNat_lt
  rw [UInt16.toNat_add, UInt16.toNat_shiftLeft, UInt8.toNat_toUInt16, UInt8.toNat_toUInt16,
    Nat.shiftLeft_eq]
  show (hi.toNat * 256 % 65536 + lo.toNat) % 65536 = hi.toNat * 256 + lo.toNat
  omega

/-- The year of this century that is meant. -/
theorem toNat_fullYear {year : UInt16} (hge : year.toNat < 100 ∨ 2000 ≤ year.toNat) :
    (if 100 < year then year else 2000 + year).toNat =
      if year.toNat < 100 then 2000 + year.toNat else year.toNat := by
  by_cases hshort : year.toNat < 100
  · have hle : ¬ 100 < year := fun hlt =>
      absurd (UInt16.lt_iff_toNat_lt.mp hlt) (Nat.not_lt.mpr (Nat.le_of_lt hshort))
    rw [if_neg hle, if_pos hshort, UInt16.toNat_add]
    exact Nat.mod_eq_of_lt (show 2000 + year.toNat < 65536 by omega)
  · have hlong := hge.resolve_left hshort
    have hlt : 100 < year :=
      UInt16.lt_iff_toNat_lt.mpr (Nat.lt_of_lt_of_le (by decide : 100 < 2000) hlong)
    rw [if_pos hlt, if_neg hshort]

/-- The query keeps the time of an answer, and a second more. -/
theorem IsTimed.utc_kept {reply : List UInt8} (h : IsTimed reply) (hlen : reply.length ≤ 32)
    (stack : Vector UInt8 32) (r : Receiver) :
    ∃ r', gpsDataGet stack (some reply) r = some (.SUCC, r') ∧
      r'.gpsData.utc = { answerUtc reply with sec := (answerUtc reply).sec + 1 } := by
  have hpass : ¬ HeaderDiffers stack reply := fun hd =>
    hd.1 (recvByte_of_getElem h.answer.1)
  refine ⟨_, gpsDataGet_valid hlen hpass (recvByte_of_getElem h.valid), ?_⟩
  have hbyte (i : Nat) (hi : i < 27) :
      (reply ++ stack.toList.drop reply.length).getD i 0 = reply.getD i 0 :=
    List.getD_append _ _ _ _ (Nat.lt_of_lt_of_le hi h.length)
  have hsec : (reply.getD 26 0).toNat < 60 := h.utc.time.sec
  have hyear := h.year_ge
  dsimp only [answerUtc] at hyear
  rw [← toNat_year] at hyear
  dsimp only [Receiver.locate, GpsRecord.fill, GpsRecord.utc, answerUtc]
  rw [hbyte 20 (by decide), hbyte 21 (by decide), hbyte 22 (by decide), hbyte 23 (by decide),
    hbyte 24 (by decide), hbyte 25 (by decide), hbyte 26 (by decide), toNat_succ (by omega),
    ← toNat_year, toNat_fullYear]
  by_contra hno
  rw [not_or] at hno
  rw [if_neg hno.1] at hyear
  exact hno.2 hyear

/-- **The time in Beijing behind a query**: only the second may be none. -/
theorem IsTimed.beijing {reply : List UInt8} (h : IsTimed reply) (hlen : reply.length ≤ 32)
    (stack : Vector UInt8 32) (r : Receiver) :
    ∃ r', gpsDataGet stack (some reply) r = some (.SUCC, r') ∧
      ((utc2BeijingTime r'.gpsData).shows.Valid ↔ (answerUtc reply).sec ≠ 59) ∧
      (utc2BeijingTime r'.gpsData).shows.seconds = (answerUtc reply).seconds + 8 * 3600 + 1 := by
  obtain ⟨r', hget, hutc⟩ := h.utc_kept hlen stack r
  have hsec := h.utc.time.sec
  have hyear : (answerUtc reply).year < 65535 := Nat.lt_of_le_of_lt h.year_le (by decide)
  have hlater := utc2BeijingTime_later (g := r'.gpsData)
  rw [hutc] at hlater
  obtain ⟨hdate, hhour, hmin, hsenc, hseconds⟩ := hlater h.utc.date hyear h.utc.time.hour
  dsimp only at hmin hsenc
  refine ⟨r', hget, ⟨fun hvalid hlast => ?_, fun hinner => ⟨hdate, hhour, ?_, ?_⟩⟩, ?_⟩
  · have hshown := hvalid.time.sec
    rw [hsenc, hlast] at hshown
    exact absurd hshown (by decide)
  · rw [hmin]
    exact h.utc.time.min
  · rw [hsenc]
    omega
  · rw [hseconds]
    dsimp only [DateTime.seconds]
    rw [secondOfDay, secondOfDay]
    omega

/--
**The station's time is right but for the last second of a minute**: there the delay makes it a
time that no clock shows.
-/
theorem gpsDataGet_beijingTime_iff (stack : Vector UInt8 32) (reply : List UInt8) (r : Receiver)
    (h : IsTimed reply) :
    (∃ r', gpsDataGet stack (some reply) r = some (.SUCC, r') ∧
      (utc2BeijingTime r'.gpsData).shows.Valid ∧
      (utc2BeijingTime r'.gpsData).shows.seconds = (answerUtc reply).seconds + 8 * 3600 + 1) ↔
    reply.length ≤ 32 ∧ (answerUtc reply).sec ≠ 59 := by
  by_cases hlen : reply.length ≤ 32
  · obtain ⟨r', hget, hvalid, hseconds⟩ := h.beijing hlen stack r
    rw [and_iff_right hlen]
    constructor
    · rintro ⟨r'', hget', hshown, -⟩
      obtain ⟨-, rfl⟩ := Prod.mk.inj (Option.some.inj (hget.symm.trans hget'))
      exact hvalid.mp hshown
    · exact fun hinner => ⟨r', hget, hvalid.mpr hinner, hseconds⟩
  · refine iff_of_false ?_ fun hboth => hlen hboth.1
    rintro ⟨r', hget, -⟩
    exact Option.some_ne_none _ (hget.symm.trans (gpsDataGet_long hlen))

/-- Half an hour into a new year in Beijing, at a second. -/
def newYearAnswer (sec checksum : UInt8) : List UInt8 :=
  [0xBC, 0x19, 0x8C, 0x01, 0x16, 0x41, 0x45, 0x00, 0x01, 0xC6, 0xAD, 0x4E, 0x00, 0x00, 0x9B, 0xE5,
    0x00, 0x00, 0x00, 0x2C, 0x07, 0xE7, 0x0C, 0x1F, 0x10, 0x1E, sec, checksum, 0xCB]

theorem newYearAnswer_isTimed :
    IsTimed (newYearAnswer 58 0xED) ∧ IsTimed (newYearAnswer 59 0xEE) :=
  ⟨⟨by decide, by decide, by decide, ⟨⟨by decide, by decide, by decide, by decide⟩,
      ⟨by decide, by decide, by decide⟩⟩, by decide, by decide⟩,
    ⟨by decide, by decide, by decide, ⟨⟨by decide, by decide, by decide, by decide⟩,
      ⟨by decide, by decide, by decide⟩⟩, by decide, by decide⟩⟩

/-- A receiver of which nothing is known. -/
def Receiver.unknown : Receiver :=
  { gpsData := ⟨⟨0, 0, 0, 0, 0, 0⟩, 0, 0, 0, 0, 0, 0⟩
    localPosition := ⟨0, 0, 0, 0, 0, 0, 0⟩
    pduLinkStat := 0 }

/-- The year has changed in Beijing. -/
theorem gpsDataGet_beijingTime_newYear :
    (∃ r', gpsDataGet (Vector.replicate 32 0) (some (newYearAnswer 58 0xED)) .unknown =
        some (.SUCC, r') ∧
      (utc2BeijingTime r'.gpsData).shows.Valid ∧
      (utc2BeijingTime r'.gpsData).shows.seconds =
        (answerUtc (newYearAnswer 58 0xED)).seconds + 8 * 3600 + 1) ↔
    (newYearAnswer 58 0xED).length ≤ 32 ∧ (answerUtc (newYearAnswer 58 0xED)).sec ≠ 59 :=
  gpsDataGet_beijingTime_iff (Vector.replicate 32 0) (newYearAnswer 58 0xED) .unknown
    newYearAnswer_isTimed.1

/-- The last second of a minute is shown as a sixtieth. -/
theorem not_gpsDataGet_beijingTime :
    ¬ ∀ (stack : Vector UInt8 32) (reply : List UInt8) (r : Receiver), IsTimed reply →
      ∃ r', gpsDataGet stack (some reply) r = some (.SUCC, r') ∧
        (utc2BeijingTime r'.gpsData).shows.Valid ∧
        (utc2BeijingTime r'.gpsData).shows.seconds =
          (answerUtc reply).seconds + 8 * 3600 + 1 := by
  intro h
  have htimed := newYearAnswer_isTimed.2
  obtain ⟨r', hget, hshown, -⟩ := h (Vector.replicate 32 0) (newYearAnswer 59 0xEE) .unknown htimed
  obtain ⟨r'', hget', hvalid, -⟩ :=
    htimed.beijing (by decide) (Vector.replicate 32 0) .unknown
  obtain ⟨-, rfl⟩ := Prod.mk.inj (Option.some.inj (hget'.symm.trans hget))
  exact hvalid.mp hshown (by decide)

end SwiftAcu
