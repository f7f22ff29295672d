import BoardLink.Text.Numeral

-- Civil dates and times of instants, and their text as the board's clock takes it.
namespace BoardLink

open Text

structure CivilDate where
  year : Int
  month : Nat
  day : Nat
  deriving DecidableEq, Repr

namespace CivilDate

-- The Gregorian date so many days after 1970-01-01.
-- Years are counted from the first of March, so that a leap day is the last day of its year,
-- and in cycles of 400 years, which all have the same number of days.
def ofDays (days : Int) : CivilDate :=
  let shifted := days + 719468
  let cycle := shifted / 146097
  let dayOfCycle := (shifted % 146097).toNat
  let yearOfCycle :=
    (dayOfCycle - dayOfCycle / 1460 + dayOfCycle / 36524 - dayOfCycle / 146096) / 365
  let dayOfYear := dayOfCycle - (365 * yearOfCycle + yearOfCycle / 4 - yearOfCycle / 100)
  let monthFromMarch := (5 * dayOfYear + 2) / 153
  let day := dayOfYear - (153 * monthFromMarch + 2) / 5 + 1
  let month := if monthFromMarch < 10 then monthFromMarch + 3 else monthFromMarch - 9
  let year := yearOfCycle + cycle * 400 + if month ≤ 2 then 1 else 0
  ⟨year, month, day⟩

end CivilDate

-- A point in time: seconds since 1970 in universal time and nanoseconds after them.
-- A leap second is the second before it with a thousand million nanoseconds or more.
structure Instant where
  seconds : Int
  nanos : Nat
  deriving DecidableEq, Repr

namespace Instant

def secondsPerDay : Int := 86400

-- At least `width` digits, and a sign if the number does not fit in four digits without one.
def yearText (year : Int) : List Char :=
  let digits := Numeral.padLeft 4 '0' (Numeral.decimal year.natAbs)
  if year < 0 then '-' :: digits else if 9999 < year then '+' :: digits else digits

def two (n : Nat) : List Char := Numeral.padLeft 2 '0' (Numeral.decimal n)

-- The civil time `offset` seconds east of universal time, with hundredths of a second.
-- Hundredths are cut off, not rounded.
def clockText (instant : Instant) (offset : Int) : String :=
  let seconds := instant.seconds + offset
  let date := CivilDate.ofDays (seconds / secondsPerDay)
  let second := (seconds % secondsPerDay).toNat
  let shownSecond := second % 60 + instant.nanos / 1000000000
  let hundredths := instant.nanos % 1000000000 / 10000000
  String.ofList (yearText date.year ++ '-' :: two date.month ++ '-' :: two date.day ++
    ' ' :: two (second / 3600) ++ ':' :: two (second / 60 % 60) ++ ':' :: two shownSecond ++
    '.' :: two hundredths)

end Instant
end BoardLink
