import BoardLink.Hardware.Method
import BoardLink.Proofs.Calendar.Gregorian
import BoardLink.Proofs.Value.TimeOrder

-- The text that sets the board's clock by a local one: which time it shows for an instant, that it
-- grows with time, and what becomes of years for which it has no room.
namespace BoardLink

open Text

-- Hundredths of a second from the start of 1970 to a time of a day that is counted from there.
def Timestamp.hundredths (time : Timestamp) (day : Int) : Int :=
  (((day * 24 + time.hour.toNat) * 60 + time.minute.toNat) * 60 + time.second.toNat) * 100 +
    time.fraction.toNat

-- The years for which the text has room.
structure CivilDate.FourDigits (date : CivilDate) : Prop where
  year_nonneg : 0 ≤ date.year
  year_le : date.year ≤ 9999

-- A text that is no time for its length. A call that is given it fails before a connection is
-- opened, and only the log is written to.
def Timestamp.Refused (text : String) : Prop :=
  ofText text = .error (.invalidTimestamp text .textLength) ∧
    ∀ {σ κ : Type} (executor : Executor σ κ) (s : σ), ∃ line,
      (Hardware.Method.setClock text).run executor s =
        (.finished (.error (.decode (.invalidTimestamp text .textLength))), executor.log line s)

namespace Instant

-- A leap second comes behind the last second of a minute.
structure Proper (instant : Instant) : Prop where
  nanos_lt : instant.nanos < 2000000000
  leap : 1000000000 ≤ instant.nanos → instant.seconds % 60 = 59

def NotAfter (instant other : Instant) : Prop :=
  instant.seconds < other.seconds ∨
    (instant.seconds = other.seconds ∧ instant.nanos ≤ other.nanos)

-- Seconds and days from 1970 on as they are counted at a place so many minutes east.
def localSeconds (instant : Instant) (minutes : Int) : Int := instant.seconds + 60 * minutes

def localDay (instant : Instant) (minutes : Int) : Int := instant.localSeconds minutes / 86400

-- What a time has to be to show an instant at a place where it is `date`: a time of that day, with
-- a second 60 for a leap second and for nothing else, and the last hundredth that has begun.
structure Shown (instant : Instant) (minutes : Int) (date : CivilDate) (time : Timestamp) :
    Prop where
  year : (time.year.toNat : Int) = date.year
  month : time.month.toNat = date.month
  day : time.day.toNat = date.day
  hour_lt : time.hour.toNat < 24
  minute_lt : time.minute.toNat < 60
  second_le : time.second.toNat ≤ 60
  second_leap : time.second.toNat = 60 ↔ 1000000000 ≤ instant.nanos
  fraction : time.fraction.toNat = instant.nanos % 1000000000 / 10000000
  begun : time.hundredths (instant.localDay minutes) * 10000000 ≤
    instant.localSeconds minutes * 1000000000 + instant.nanos
  last : instant.localSeconds minutes * 1000000000 + instant.nanos <
    (time.hundredths (instant.localDay minutes) + 1) * 10000000

-- The fields that the text is written from.
def clockTime (instant : Instant) (offset : Int) : Timestamp :=
  let seconds := instant.seconds + offset
  let date := CivilDate.ofDays (seconds / secondsPerDay)
  let second := (seconds % secondsPerDay).toNat
  { year := UInt16.ofNat date.year.toNat
    month := UInt8.ofNat date.month
    day := UInt8.ofNat date.day
    hour := UInt8.ofNat (second / 3600)
    minute := UInt8.ofNat (second / 60 % 60)
    second := UInt8.ofNat (second % 60 + instant.nanos / 1000000000)
    fraction := UInt8.ofNat (instant.nanos % 1000000000 / 10000000) }

variable {instant later : Instant} {minutes : Int} {date dateLater : CivilDate}
  {time timeLater : Timestamp}

section Time

theorem toNat_byte {n : Nat} (h : n < 100) : (UInt8.ofNat n).toNat = n := by
  rw [UInt8.toNat_ofNat', Nat.mod_eq_of_lt (by omega)]

theorem numbers_clockTime (hp : instant.Proper)
    (hdate : CivilDate.Falls (instant.localDay minutes) date) (hyear : date.FourDigits) :
    (instant.clockTime (60 * minutes)).numbers =
      [date.year.toNat, date.month, date.day,
        (instant.localSeconds minutes % 86400).toNat / 3600,
        (instant.localSeconds minutes % 86400).toNat / 60 % 60,
        (instant.localSeconds minutes % 86400).toNat % 60 + instant.nanos / 1000000000,
        instant.nanos % 1000000000 / 10000000] := by
  have hnanos := hp.nanos_lt
  have hle := hyear.year_le
  have hmonth := hdate.valid.month_le
  have hday := hdate.valid.day_le
  have hlength := CivilDate.monthLength_le date.year date.month
  have hofDays : CivilDate.ofDays ((instant.seconds + 60 * minutes) / 86400) = date :=
    hdate.eq_ofDays.symm
  have hword : (UInt16.ofNat date.year.toNat).toNat = date.year.toNat := by
    rw [UInt16.toNat_ofNat', Nat.mod_eq_of_lt (by omega)]
  simp only [clockTime, secondsPerDay, hofDays, Timestamp.numbers, hword, localSeconds]
  rw [toNat_byte (by omega), toNat_byte (by omega), toNat_byte (by omega), toNat_byte (by omega),
    toNat_byte (by omega), toNat_byte (by omega)]

theorem shown_clockTime (hp : instant.Proper)
    (hdate : CivilDate.Falls (instant.localDay minutes) date) (hyear : date.FourDigits) :
    Shown instant minutes date (instant.clockTime (60 * minutes)) := by
  have hnumbers := numbers_clockTime hp hdate hyear
  obtain ⟨hnonneg, hle⟩ := hyear
  obtain ⟨hnanos, hleap⟩ := hp
  -- An offset of whole minutes leaves the second of the minute as it is.
  have hsecondOf : instant.localSeconds minutes % 60 = instant.seconds % 60 := by
    unfold localSeconds
    omega
  generalize instant.clockTime (60 * minutes) = time at hnumbers
  simp only [Timestamp.numbers, List.cons.injEq] at hnumbers
  obtain ⟨htimeYear, hmonth, hday, hhour, hminute, hsecond, hfraction, -⟩ := hnumbers
  have hhundredths : time.hundredths (instant.localDay minutes) =
      (instant.localSeconds minutes + (instant.nanos / 1000000000 : Nat)) * 100 +
        time.fraction.toNat := by
    unfold Timestamp.hundredths localDay
    omega
  exact ⟨by omega, hmonth, hday, by omega, by omega, by omega, by omega, hfraction, by omega,
    by omega⟩

theorem Shown.inRange (h : Shown instant minutes date time) (hvalid : date.Valid)
    (hyear : date.FourDigits) : time.InRange := by
  have hle := hyear.year_le
  have hmonth := hvalid.month_le
  have hday := hvalid.day_le
  have hlength := CivilDate.monthLength_le date.year date.month
  obtain ⟨htimeYear, htimeMonth, htimeDay, hhour, hminute, hsecond, -, hfraction, -, -⟩ := h
  rw [Timestamp.inRange_iff]
  omega

-- The time of day in seconds, where a leap second counts as one more.
theorem Shown.clock (h : Shown instant minutes date time) :
    (((time.hour.toNat * 60 + time.minute.toNat) * 60 + time.second.toNat : Nat) : Int) =
      instant.localSeconds minutes % 86400 + (instant.nanos / 1000000000 : Nat) := by
  have hfraction := h.fraction
  have hbegun := h.begun
  have hlast := h.last
  unfold Timestamp.hundredths localDay at hbegun hlast
  omega

end Time

section Written

theorem yearText_eq {date : CivilDate} (h : date.FourDigits) :
    yearText date.year = Timestamp.digits 4 date.year.toNat := by
  obtain ⟨hnonneg, hle⟩ := h
  have hnat : date.year.natAbs = date.year.toNat := by omega
  unfold yearText
  rw [if_neg (by omega), if_neg (by omega), hnat]
  rfl

theorem clockText_eq (hp : instant.Proper)
    (hdate : CivilDate.Falls (instant.localDay minutes) date) (hyear : date.FourDigits) :
    instant.clockText (60 * minutes) = (instant.clockTime (60 * minutes)).text := by
  have hrange := (shown_clockTime hp hdate hyear).inRange hdate.valid hyear
  have hnumbers := numbers_clockTime hp hdate hyear
  have hofDays : CivilDate.ofDays ((instant.seconds + 60 * minutes) / 86400) = date :=
    hdate.eq_ofDays.symm
  rw [Timestamp.text, Timestamp.characters_of_inRange hrange]
  generalize instant.clockTime (60 * minutes) = time at hnumbers
  simp only [Timestamp.numbers, List.cons.injEq] at hnumbers
  obtain ⟨htimeYear, hmonth, hday, hhour, hminute, hsecond, hfraction, -⟩ := hnumbers
  rw [htimeYear, hmonth, hday, hhour, hminute, hsecond, hfraction]
  simp only [clockText, secondsPerDay, hofDays, yearText_eq hyear, List.append_assoc,
    List.cons_append, List.append_nil]
  rfl

theorem ofText_clockText (hp : instant.Proper)
    (hdate : CivilDate.Falls (instant.localDay minutes) date) (hyear : date.FourDigits) :
    Timestamp.ofText (instant.clockText (60 * minutes)) =
      .ok (instant.clockTime (60 * minutes)) := by
  have hrange := (shown_clockTime hp hdate hyear).inRange hdate.valid hyear
  rw [clockText_eq hp hdate hyear, Timestamp.ofText_text_eq,
    Timestamp.reduced_eq_iff.mpr hrange]

end Written

section Order

-- In one day, the later time has the later hour, or the later minute of the same hour, and so on.
-- A leap second is still in its minute, though its number of seconds is that of the next one.
theorem not_lt_of_same_day (h : Shown instant minutes date time)
    (hl : Shown later minutes date timeLater) (hp : instant.Proper) (hpl : later.Proper)
    (hday : instant.localDay minutes = later.localDay minutes) (hle : instant.NotAfter later) :
    ¬ timeLater.numbers < time.numbers := by
  have hnanos := hp.nanos_lt
  have hnanosLater := hpl.nanos_lt
  have hclock := h.clock
  have hclockLater := hl.clock
  have horder : instant.localSeconds minutes % 86400 < later.localSeconds minutes % 86400 ∨
      (instant.localSeconds minutes % 86400 = later.localSeconds minutes % 86400 ∧
        instant.nanos ≤ later.nanos) := by
    unfold NotAfter at hle
    unfold localDay localSeconds at hday
    unfold localSeconds
    omega
  obtain ⟨hyear, hmonth, hdate, -, hminute, hsecond, hleap, hfraction, -, -⟩ := h
  obtain ⟨hyear', hmonth', hdate', -, hminute', hsecond', hleap', hfraction', -, -⟩ := hl
  simp only [Timestamp.numbers, List.cons_lt_cons_iff, List.lt_irrefl, and_false, or_false]
  generalize instant.localSeconds minutes % 86400 = seconds at hclock horder
  generalize later.localSeconds minutes % 86400 = secondsLater at hclockLater horder
  omega

theorem not_lt_of_notAfter (h : Shown instant minutes date time)
    (hl : Shown later minutes dateLater timeLater) (hp : instant.Proper) (hpl : later.Proper)
    (hdate : CivilDate.Falls (instant.localDay minutes) date)
    (hdateLater : CivilDate.Falls (later.localDay minutes) dateLater)
    (hle : instant.NotAfter later) : ¬ timeLater.numbers < time.numbers := by
  have hseconds : instant.localSeconds minutes ≤ later.localSeconds minutes := by
    unfold NotAfter at hle
    unfold localSeconds
    omega
  have hdays : instant.localDay minutes ≤ later.localDay minutes :=
    Int.ediv_le_ediv (by decide) hseconds
  by_cases hday : instant.localDay minutes = later.localDay minutes
  · have hsame : dateLater = date := by rw [hdate.eq_ofDays, hdateLater.eq_ofDays, hday]
    subst hsame
    exact not_lt_of_same_day h hl hp hpl hday hle
  · have hlt : instant.localDay minutes < later.localDay minutes := by omega
    have hbefore := CivilDate.before_ofDays hlt
    rw [← hdate.eq_ofDays, ← hdateLater.eq_ofDays] at hbefore
    unfold CivilDate.Before at hbefore
    obtain ⟨hyear, hmonth, hdayOf, -⟩ := h
    obtain ⟨hyear', hmonth', hdayOf', -⟩ := hl
    simp only [Timestamp.numbers, List.cons_lt_cons_iff]
    omega

theorem clockText_le (hp : instant.Proper) (hpl : later.Proper)
    (hdate : CivilDate.Falls (instant.localDay minutes) date)
    (hdateLater : CivilDate.Falls (later.localDay minutes) dateLater)
    (hyear : date.FourDigits) (hyearLater : dateLater.FourDigits) (hle : instant.NotAfter later) :
    instant.clockText (60 * minutes) ≤ later.clockText (60 * minutes) := by
  have hshown := shown_clockTime hp hdate hyear
  have hshownLater := shown_clockTime hpl hdateLater hyearLater
  rw [clockText_eq hp hdate hyear, clockText_eq hpl hdateLater hyearLater]
  exact Timestamp.text_le_of_numbers (hshown.inRange hdate.valid hyear)
    (hshownLater.inRange hdateLater.valid hyearLater)
    (not_lt_of_notAfter hshown hshownLater hp hpl hdate hdateLater hle)

end Order

section Refusal

theorem le_length_padLeft (width : Nat) (fill : Char) (text : List Char) :
    width ≤ (Numeral.padLeft width fill text).length := by
  rw [Numeral.padLeft, List.length_append, List.length_replicate]
  omega

theorem le_length_two (n : Nat) : 2 ≤ (two n).length :=
  le_length_padLeft 2 '0' (Numeral.decimal n)

-- A year without room has four digits and a sign at least.
theorem le_length_yearText {date : CivilDate} (h : ¬ date.FourDigits) :
    5 ≤ (yearText date.year).length := by
  have hlength := le_length_padLeft 4 '0' (Numeral.decimal date.year.natAbs)
  unfold yearText
  split
  · exact Nat.succ_le_succ hlength
  · have hlarge : 9999 < date.year := by
      by_contra hle
      exact h ⟨by omega, by omega⟩
    rw [if_pos hlarge]
    exact Nat.succ_le_succ hlength

theorem lt_length_clockText (hdate : CivilDate.Falls (instant.localDay minutes) date)
    (hyear : ¬ date.FourDigits) : 22 < (instant.clockText (60 * minutes)).toList.length := by
  have hofDays : CivilDate.ofDays ((instant.seconds + 60 * minutes) / 86400) = date :=
    hdate.eq_ofDays.symm
  have hlength := le_length_yearText hyear
  simp only [clockText, secondsPerDay, hofDays, String.toList_ofList, List.length_append,
    List.length_cons]
  generalize ((instant.seconds + 60 * minutes) % 86400).toNat = second
  have hmonth := le_length_two date.month
  have hday := le_length_two date.day
  have hhour := le_length_two (second / 3600)
  have hminute := le_length_two (second / 60 % 60)
  have hsecond := le_length_two (second % 60 + instant.nanos / 1000000000)
  have hhundredths := le_length_two (instant.nanos % 1000000000 / 10000000)
  omega

theorem length_le_length_encode (text : List Char) : text.length ≤ (Utf8.encode text).length := by
  induction text with
  | nil => exact Nat.zero_le _
  | cons c rest ih =>
      have hc := c.utf8Size_pos
      unfold Utf8.encode at ih ⊢
      rw [List.flatMap_cons, List.length_append, String.length_utf8EncodeChar, List.length_cons]
      omega

theorem run_setClock_of_error {σ κ : Type} (executor : Executor σ κ) {text : String}
    {fault : ProtocolError} (h : Timestamp.ofText text = .error fault) (s : σ) :
    ∃ line, (Hardware.Method.setClock text).run executor s =
      (.finished (.error (.decode fault)), executor.log line s) := by
  have hi : (Command.setClock text).isImplemented = true := rfl
  have hv : (Command.setClock text).validate = .error fault := by
    simp only [Command.validate, h]
  have hexecute : executor.execute (.setClock text) s =
      (.finished (.error (.decode fault)), s) := by
    rw [Executor.execute, if_pos hi, hv]
  have hcall : (Hardware.Method.setClock text).run executor s =
      Hardware.call executor (.setClock text) s := rfl
  rw [hcall, Hardware.call, hexecute]
  exact ⟨_, rfl⟩

theorem ofText_of_length_lt {text : String} (h : 22 < text.toList.length) :
    Timestamp.ofText text = .error (.invalidTimestamp text .textLength) := by
  have hbytes := length_le_length_encode text.toList
  have hne : (Utf8.encode text.toList).length ≠ Timestamp.textLength := by
    unfold Timestamp.textLength
    omega
  unfold Timestamp.ofText
  exact if_pos hne

theorem refused_clockText (hdate : CivilDate.Falls (instant.localDay minutes) date)
    (hyear : ¬ date.FourDigits) : Timestamp.Refused (instant.clockText (60 * minutes)) := by
  have hread := ofText_of_length_lt (lt_length_clockText hdate hyear)
  exact ⟨hread, fun executor s => run_setClock_of_error executor hread s⟩

end Refusal

-- Every day has one date. A text for an instant is read as a time that shows the instant, and of
-- two instants the later one has the later text or the same, as long as the years at the place have
-- four digits. For other years the text is refused.
theorem clock_text_shows_local_time :
    (∀ day, ∃! date, CivilDate.Falls day date) ∧
      (∀ (instant : Instant) (minutes : Int) (date : CivilDate), instant.Proper →
        CivilDate.Falls (instant.localDay minutes) date → date.FourDigits →
        ∃ time, Timestamp.ofText (instant.clockText (60 * minutes)) = .ok time ∧
          Shown instant minutes date time) ∧
      (∀ (instant later : Instant) (minutes : Int) (date dateLater : CivilDate),
        instant.Proper → later.Proper → CivilDate.Falls (instant.localDay minutes) date →
        CivilDate.Falls (later.localDay minutes) dateLater → date.FourDigits →
        dateLater.FourDigits → instant.NotAfter later →
        instant.clockText (60 * minutes) ≤ later.clockText (60 * minutes)) ∧
      ∀ (instant : Instant) (minutes : Int) (date : CivilDate),
        CivilDate.Falls (instant.localDay minutes) date → ¬ date.FourDigits →
        Timestamp.Refused (instant.clockText (60 * minutes)) := by
  refine ⟨?_, ?_, ?_, ?_⟩
  · intro day
    exact ⟨.ofDays day, CivilDate.falls_ofDays day, fun date h => h.eq_ofDays⟩
  · intro instant minutes date hp hdate hyear
    exact ⟨_, ofText_clockText hp hdate hyear, shown_clockTime hp hdate hyear⟩
  · intro instant later minutes date dateLater hp hpl hdate hdateLater hyear hyearLater hle
    exact clockText_le hp hpl hdate hdateLater hyear hyearLater hle
  · intro instant minutes date hdate hyear
    exact refused_clockText hdate hyear

-- A leap second, at the end of 2016.
example : (Instant.mk 1483228799 1580000000).clockText 0 = "2016-12-31 23:59:60.58" := by decide

end Instant
end BoardLink
