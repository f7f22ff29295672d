import BoardLink.Calendar
import Mathlib.Tactic.IntervalCases

-- The Gregorian calendar, told by the days after and before a date, and the dates that are computed
-- for days. Every day has one date in the calendar, which is the computed one, and a later day has
-- a later date.
namespace BoardLink.CivilDate

def IsLeap (year : Int) : Prop := year % 4 = 0 ∧ (year % 100 ≠ 0 ∨ year % 400 = 0)

instance (year : Int) : Decidable (IsLeap year) := inferInstanceAs (Decidable (_ ∧ _))

def monthLength (year : Int) : Nat → Nat
  | 2 => if IsLeap year then 29 else 28
  | 4 | 6 | 9 | 11 => 30
  | _ => 31

-- The date of the day after.
def next (date : CivilDate) : CivilDate :=
  if date.day < monthLength date.year date.month then { date with day := date.day + 1 }
  else if date.month < 12 then ⟨date.year, date.month + 1, 1⟩
  else ⟨date.year + 1, 1, 1⟩

-- The date of the day before.
def previous (date : CivilDate) : CivilDate :=
  if 1 < date.day then { date with day := date.day - 1 }
  else if 1 < date.month then
    ⟨date.year, date.month - 1, monthLength date.year (date.month - 1)⟩
  else ⟨date.year - 1, 12, 31⟩

-- The dates of days, which are counted from 1970-01-01 on in both directions.
inductive Falls : Int → CivilDate → Prop where
  | epoch : Falls 0 ⟨1970, 1, 1⟩
  | next {day : Int} {date : CivilDate} (h : Falls day date) : Falls (day + 1) date.next
  | previous {day : Int} {date : CivilDate} (h : Falls day date) : Falls (day - 1) date.previous

-- A day that its month has.
structure Valid (date : CivilDate) : Prop where
  month_pos : 1 ≤ date.month
  month_le : date.month ≤ 12
  day_pos : 1 ≤ date.day
  day_le : date.day ≤ monthLength date.year date.month

-- Dates in the order of their days.
def Before (date other : CivilDate) : Prop :=
  date.year < other.year ∨ (date.year = other.year ∧
    (date.month < other.month ∨ (date.month = other.month ∧ date.day < other.day)))

theorem monthLength_le (year : Int) (month : Nat) : monthLength year month ≤ 31 := by
  unfold monthLength
  split
  · split <;> decide
  all_goals decide

theorem previous_next {date : CivilDate} (h : date.Valid) : date.next.previous = date := by
  obtain ⟨year, month, day⟩ := date
  obtain ⟨hm, hm', hd, hd'⟩ := h
  simp only at hm hm' hd hd'
  unfold next
  by_cases hday : day < monthLength year month
  · simp [hday, previous, show 1 < day + 1 by omega]
  · have hlast : day = monthLength year month := by omega
    by_cases hmonth : month < 12
    · simp [hmonth, previous, show 1 < month + 1 by omega, hlast]
    · have htwelve : month = 12 := by omega
      subst htwelve
      simp [previous, hlast, monthLength]

theorem before_next (date : CivilDate) : date.Before date.next := by
  unfold next
  split
  · exact .inr ⟨rfl, .inr ⟨rfl, Nat.lt_succ_self _⟩⟩
  · split
    · exact .inr ⟨rfl, .inl (Nat.lt_succ_self _)⟩
    · exact .inl (Int.lt_succ _)

theorem Before.trans {a b c : CivilDate} (hab : a.Before b) (hbc : b.Before c) : a.Before c := by
  unfold Before at *
  omega

section Computed

-- The days before the first of March of a year, and the days from it to the next one.
def daysBefore (year : Int) : Int := 365 * year + year / 4 - year / 100 + year / 400

def yearLength (year : Int) : Nat := if IsLeap (year + 1) then 366 else 365

-- Dates counted from the first of March: by day and month, and by day alone.
def ofMonth (year : Int) (month day : Nat) : CivilDate :=
  let civil := if month < 10 then month + 3 else month - 9
  ⟨year + if civil ≤ 2 then 1 else 0, civil, day + 1⟩

def firstOfMonth (month : Nat) : Nat := (153 * month + 2) / 5

def ofYear (year : Int) (day : Nat) : CivilDate :=
  ofMonth year ((5 * day + 2) / 153) (day - firstOfMonth ((5 * day + 2) / 153))

def yearOfCycle (day : Nat) : Nat := (day - day / 1460 + day / 36524 - day / 146096) / 365

theorem yearLength_cases (year : Int) : (IsLeap (year + 1) ∧ yearLength year = 366) ∨
    (¬ IsLeap (year + 1) ∧ yearLength year = 365) := by
  by_cases h : IsLeap (year + 1)
  · exact .inl ⟨h, if_pos h⟩
  · exact .inr ⟨h, if_neg h⟩

theorem daysBefore_succ (year : Int) :
    daysBefore (year + 1) = daysBefore year + yearLength year := by
  unfold daysBefore
  rcases yearLength_cases year with ⟨hleap, hlength⟩ | ⟨hleap, hlength⟩ <;>
    · unfold IsLeap at hleap
      omega

theorem daysBefore_lt {year other : Int} (h : year < other) :
    daysBefore year + yearLength year ≤ daysBefore other := by
  rw [← daysBefore_succ]
  unfold daysBefore
  omega

-- Days in front of the last one of a cycle, in whole centuries, fours of years and years.
theorem exists_parts {day : Nat} (h : day < 146096) :
    ∃ century cycle year rest,
      day = 36524 * century + 1461 * cycle + 365 * year + rest ∧
        century ≤ 3 ∧ cycle ≤ 24 ∧ year ≤ 3 ∧ rest ≤ 365 ∧ (rest = 365 → year = 3) ∧
        (cycle = 24 → year = 3 → rest ≤ 364) := by
  refine ⟨day / 36524, day % 36524 / 1461, min (day % 36524 % 1461 / 365) 3,
    day % 36524 % 1461 - 365 * min (day % 36524 % 1461 / 365) 3, ?_, ?_, ?_, ?_, ?_, ?_, ?_⟩
    <;> omega

theorem yearOfCycle_parts {century cycle year rest : Nat} (hcentury : century ≤ 3)
    (hcycle : cycle ≤ 24) (hyear : year ≤ 3) (hrest : rest ≤ 365)
    (hlast : rest = 365 → year = 3) (hfew : cycle = 24 → year = 3 → rest ≤ 364) :
    yearOfCycle (36524 * century + 1461 * cycle + 365 * year + rest) =
      100 * century + 4 * cycle + year := by
  generalize hday : 36524 * century + 1461 * cycle + 365 * year + rest = day
  have hlong : day / 36524 = century := by omega
  have hall : day / 146096 = 0 := by omega
  -- Fours of years are counted as if they had no leap day, so one too many may be counted late in
  -- the last year, where it does not matter.
  have hfour : day / 1460 = 25 * century + cycle ∨
      (day / 1460 = 25 * century + cycle + 1 ∧ year = 3 ∧ 100 ≤ rest) := by omega
  unfold yearOfCycle
  rw [hlong, hall]
  rcases hfour with hfour | ⟨hfour, hthree, hhundred⟩ <;>
    · rw [hfour]
      omega

theorem exists_yearOfCycle {day : Nat} (h : day < 146097) : ∃ rest,
    day = 365 * yearOfCycle day + yearOfCycle day / 4 - yearOfCycle day / 100 + rest ∧
      yearOfCycle day < 400 ∧ rest < yearLength (yearOfCycle day) := by
  by_cases hlast : day = 146096
  · subst hlast
    exact ⟨365, by decide, by decide, by decide⟩
  · have hparts : day < 146096 := by omega
    obtain ⟨century, cycle, year, rest, rfl, hcentury, hcycle, hyear, hrest, hthree, hfew⟩ :=
      exists_parts hparts
    rw [yearOfCycle_parts hcentury hcycle hyear hrest hthree hfew]
    have hfour : (100 * century + 4 * cycle + year) / 4 = 25 * century + cycle := by omega
    have hhundred : (100 * century + 4 * cycle + year) / 100 = century := by omega
    refine ⟨rest, by omega, by omega, ?_⟩
    rcases yearLength_cases (100 * century + 4 * cycle + year : Nat) with h | ⟨hleap, hlength⟩
    · omega
    · unfold IsLeap at hleap
      omega

theorem daysBefore_cycles (year cycle : Int) :
    daysBefore (year + cycle * 400) = daysBefore year + 146097 * cycle := by
  have hfour : (year + cycle * 400) / 4 = year / 4 + 100 * cycle := by omega
  have hhundred : (year + cycle * 400) / 100 = year / 100 + 4 * cycle := by omega
  have hall : (year + cycle * 400) / 400 = year / 400 + cycle := by omega
  unfold daysBefore
  omega

theorem yearLength_cycles (year cycle : Int) :
    yearLength (year + cycle * 400) = yearLength year := by
  have hleap : IsLeap (year + cycle * 400 + 1) ↔ IsLeap (year + 1) := by
    unfold IsLeap
    omega
  simp only [yearLength, hleap]

-- The year from March and the day of it that a date is computed from.
theorem exists_year (day : Int) : ∃ (year : Int) (rest : Nat),
    day + 719468 = daysBefore year + rest ∧ rest < yearLength year ∧
      ofDays day = ofYear year rest := by
  generalize hcycle : (day + 719468) / 146097 = cycle
  generalize hnumber : ((day + 719468) % 146097).toNat = number
  have hbound : number < 146097 := by omega
  obtain ⟨rest, hrest, hyear, hlt⟩ := exists_yearOfCycle hbound
  refine ⟨yearOfCycle number + cycle * 400, rest, ?_, ?_, ?_⟩
  · rw [daysBefore_cycles]
    unfold daysBefore
    omega
  · rw [yearLength_cycles]
    exact hlt
  · have hday : number - (365 * yearOfCycle number + yearOfCycle number / 4 -
        yearOfCycle number / 100) = rest := by omega
    rw [← hday, ← hcycle, ← hnumber]
    rfl

-- The day of the year on which the next month starts, or the next year.
def monthEnd (year : Int) (month : Nat) : Nat :=
  if month ≤ 10 then firstOfMonth (month + 1) else yearLength year

theorem monthEnd_le (year : Int) {month : Nat} (h : month ≤ 11) :
    monthEnd year month ≤ firstOfMonth (month + 1) := by
  unfold monthEnd
  split
  · exact le_rfl
  · have heleven : month = 11 := by omega
    have hend : firstOfMonth (11 + 1) = 367 := rfl
    subst heleven
    rcases yearLength_cases year with hlength | hlength <;> omega

theorem monthEnd_le_yearLength (year : Int) (month : Nat) :
    monthEnd year month ≤ yearLength year := by
  have hlength : 365 ≤ yearLength year := by
    rcases yearLength_cases year with hlength | hlength <;> omega
  unfold monthEnd firstOfMonth
  split <;> omega

theorem monthLength_ofMonth (year : Int) {month : Nat} (day : Nat) (h : month ≤ 11) :
    firstOfMonth month + monthLength (ofMonth year month day).year (ofMonth year month day).month =
      monthEnd year month := by
  by_cases hlast : month ≤ 10
  · interval_cases month <;> rfl
  · have heleven : month = 11 := by omega
    subst heleven
    by_cases hleap : IsLeap (year + 1) <;>
      simp [ofMonth, monthLength, monthEnd, yearLength, firstOfMonth, hleap]

theorem next_ofMonth {year : Int} {month day : Nat} (hm : month ≤ 11)
    (h : firstOfMonth month + day + 1 < monthEnd year month) :
    (ofMonth year month day).next = ofMonth year month (day + 1) := by
  have hlength := monthLength_ofMonth year day hm
  have hday : (ofMonth year month day).day = day + 1 := rfl
  exact if_pos (by omega)

theorem next_ofMonth_last {year : Int} {month day : Nat} (hm : month ≤ 11)
    (h : firstOfMonth month + day + 1 = monthEnd year month) :
    (ofMonth year month day).next =
      if month ≤ 10 then ofMonth year (month + 1) 0 else ofMonth (year + 1) 0 0 := by
  have hlength := monthLength_ofMonth year day hm
  have hday : (ofMonth year month day).day = day + 1 := rfl
  rw [next, if_neg (by omega)]
  interval_cases month <;> simp [ofMonth]

-- The month of a day of the year, from its first day and the first day of the next month.
theorem monthOfYear_eq {month day : Nat} (h : firstOfMonth month ≤ day)
    (hnext : day < firstOfMonth (month + 1)) : (5 * day + 2) / 153 = month := by
  unfold firstOfMonth at h hnext
  omega

theorem ofYear_eq (year : Int) {month day : Nat} (h : firstOfMonth month ≤ day)
    (hnext : day < firstOfMonth (month + 1)) :
    ofYear year day = ofMonth year month (day - firstOfMonth month) := by
  rw [ofYear, monthOfYear_eq h hnext]

theorem exists_month {year : Int} {day : Nat} (h : day < yearLength year) :
    ∃ month, month ≤ 11 ∧ firstOfMonth month ≤ day ∧ day < monthEnd year month := by
  have hmonth : (5 * day + 2) / 153 ≤ 11 := by
    rcases yearLength_cases year with hlength | hlength <;> omega
  refine ⟨(5 * day + 2) / 153, hmonth, ?_, ?_⟩
  · unfold firstOfMonth
    omega
  · unfold monthEnd firstOfMonth
    split <;> omega

theorem valid_ofYear {year : Int} {day : Nat} (h : day < yearLength year) :
    (ofYear year day).Valid := by
  obtain ⟨month, hmonth, hfirst, hend⟩ := exists_month h
  rw [ofYear_eq year hfirst (hend.trans_le (monthEnd_le year hmonth))]
  have hlength := monthLength_ofMonth year (day - firstOfMonth month) hmonth
  have hday : (ofMonth year month (day - firstOfMonth month)).day =
    day - firstOfMonth month + 1 := rfl
  refine ⟨?_, ?_, by omega, by omega⟩ <;>
    · simp only [ofMonth]
      split <;> omega

theorem next_ofYear {year : Int} {day : Nat} (h : day < yearLength year) :
    (ofYear year day).next =
      if day + 1 < yearLength year then ofYear year (day + 1) else ofYear (year + 1) 0 := by
  obtain ⟨month, hmonth, hfirst, hend⟩ := exists_month h
  have hnext := monthEnd_le year hmonth
  have hlength := monthEnd_le_yearLength year month
  rw [ofYear_eq year hfirst (by omega)]
  by_cases hinside : day + 1 < monthEnd year month
  · have hsame : day + 1 - firstOfMonth month = day - firstOfMonth month + 1 := by omega
    rw [next_ofMonth hmonth (by omega), if_pos (by omega),
      ofYear_eq year (by omega : firstOfMonth month ≤ day + 1) (by omega), hsame]
  · rw [next_ofMonth_last hmonth (by omega)]
    by_cases hlast : month ≤ 10
    · have hend : monthEnd year month = firstOfMonth (month + 1) := if_pos hlast
      have hday : day + 1 = firstOfMonth (month + 1) := by omega
      have hmore : firstOfMonth (month + 1) < firstOfMonth (month + 1 + 1) := by
        unfold firstOfMonth
        omega
      have hyear : firstOfMonth (month + 1) < yearLength year := by
        unfold firstOfMonth
        rcases yearLength_cases year with hyear | hyear <;> omega
      rw [if_pos hlast, hday, if_pos hyear, ofYear_eq year le_rfl hmore, Nat.sub_self]
    · have hend : monthEnd year month = yearLength year := if_neg hlast
      rw [if_neg hlast, if_neg (by omega)]
      rfl

-- No day belongs to two years, so the day after one is found in its year or on the first of the
-- next one.
theorem eq_of_daysBefore {year other : Int} {day more : Nat} (hday : day < yearLength year)
    (hmore : more < yearLength other) (h : daysBefore year + day = daysBefore other + more) :
    year = other ∧ day = more := by
  rcases lt_trichotomy year other with hlt | heq | hlt
  · have hle := daysBefore_lt hlt
    omega
  · subst heq
    exact ⟨rfl, by omega⟩
  · have hle := daysBefore_lt hlt
    omega

theorem next_ofDays (day : Int) : (ofDays day).next = ofDays (day + 1) := by
  obtain ⟨year, rest, hday, hrest, hdate⟩ := exists_year day
  obtain ⟨other, more, hother, hmore, hnext⟩ := exists_year (day + 1)
  rw [hdate, hnext, next_ofYear hrest]
  split
  · rename_i hlt
    obtain ⟨rfl, rfl⟩ := eq_of_daysBefore hlt hmore (by omega)
    rfl
  · have hyear := daysBefore_succ year
    have hfirst : 0 < yearLength (year + 1) := by
      rcases yearLength_cases (year + 1) with h | h <;> omega
    obtain ⟨rfl, rfl⟩ := eq_of_daysBefore hfirst hmore (by omega)
    rfl

end Computed

theorem valid_ofDays (day : Int) : (ofDays day).Valid := by
  obtain ⟨year, rest, -, hrest, hdate⟩ := exists_year day
  rw [hdate]
  exact valid_ofYear hrest

theorem previous_ofDays (day : Int) : (ofDays day).previous = ofDays (day - 1) := by
  have hnext := next_ofDays (day - 1)
  rw [Int.sub_add_cancel] at hnext
  rw [← hnext, previous_next (valid_ofDays (day - 1))]

theorem falls_ofDays (day : Int) : Falls day (ofDays day) := by
  induction day using Int.induction_on with
  | zero => exact .epoch
  | succ day ih =>
      rw [← next_ofDays]
      exact ih.next
  | pred day ih =>
      rw [← previous_ofDays]
      exact ih.previous

theorem Falls.eq_ofDays {day : Int} {date : CivilDate} (h : Falls day date) : date = ofDays day := by
  induction h with
  | epoch => rfl
  | next h ih => rw [ih, next_ofDays]
  | previous h ih => rw [ih, previous_ofDays]

theorem Falls.valid {day : Int} {date : CivilDate} (h : Falls day date) : date.Valid := by
  rw [h.eq_ofDays]
  exact valid_ofDays day

theorem before_ofDays {day other : Int} (h : day < other) :
    (ofDays day).Before (ofDays other) := by
  induction other, (h : day + 1 ≤ other) using Int.leInduction with
  | base =>
      rw [← next_ofDays]
      exact before_next _
  | succ other hle ih =>
      rw [← next_ofDays]
      exact ih.trans (before_next _)

end BoardLink.CivilDate
