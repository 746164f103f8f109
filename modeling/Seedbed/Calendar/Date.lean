/-!
# Dates

The calendar is the proleptic Gregorian one with a year 0. A date is its day number, counted from
the first of March of year 0, within the range of the calendar; adding days is addition, and
leaves the calendar exactly when the sum leaves the range. `Civil` names a day by year, month and
day. Years are counted from March, so that a leap day is the last of its year, and in eras of 400
years, which all have the same length.
-/

namespace Seedbed

/-- A day by year, month and day of the month. -/
structure Civil where
  year : Int
  month : Nat
  day : Nat
  deriving DecidableEq, Repr

/-- The days of an era of 400 years. -/
def eraDays : Int := 146097

namespace Civil

/-- Whether a year has a leap day. -/
def isLeap (year : Int) : Bool :=
  year % 4 = 0 && (year % 100 ≠ 0 || year % 400 = 0)

/-- The number of days of a month. -/
def monthLength (year : Int) (month : Nat) : Nat :=
  if month = 2 then (if isLeap year then 29 else 28)
  else if month = 4 ∨ month = 6 ∨ month = 9 ∨ month = 11 then 30
  else 31

/-- Whether the day exists. -/
def exists? (c : Civil) : Bool :=
  1 ≤ c.month && c.month ≤ 12 && 1 ≤ c.day && c.day ≤ monthLength c.year c.month

/-- The day number of an existing day. -/
def number (c : Civil) : Int :=
  let year := if c.month ≤ 2 then c.year - 1 else c.year
  let yearOfEra := (year % 400).toNat
  let monthFromMarch := (c.month + 9) % 12
  let dayOfYear := (153 * monthFromMarch + 2) / 5 + c.day - 1
  let dayOfEra := yearOfEra * 365 + yearOfEra / 4 - yearOfEra / 100 + dayOfYear
  year / 400 * eraDays + dayOfEra

/-- The day with a given number. -/
def ofNumber (n : Int) : Civil :=
  let dayOfEra := (n % eraDays).toNat
  let yearOfEra :=
    (dayOfEra - dayOfEra / 1460 + dayOfEra / 36524 - dayOfEra / 146096) / 365
  let dayOfYear := dayOfEra - (365 * yearOfEra + yearOfEra / 4 - yearOfEra / 100)
  let monthFromMarch := (5 * dayOfYear + 2) / 153
  let day := dayOfYear - (153 * monthFromMarch + 2) / 5 + 1
  let month := if monthFromMarch < 10 then monthFromMarch + 3 else monthFromMarch - 9
  let year := yearOfEra + n / eraDays * 400
  { year := if month ≤ 2 then year + 1 else year, month, day }

end Civil

/-- The number of the first day of the calendar, in the year -262143. -/
def firstDay : Int := -95745824

/-- The number of the last day of the calendar, in the year 262142. -/
def lastDay : Int := 95745704

/-- A day of the calendar. -/
structure Date where
  number : Int
  lower : firstDay ≤ number
  upper : number ≤ lastDay
  deriving DecidableEq, Repr

namespace Date

/-- The date with a day number, if the calendar has it. -/
def ofNumber? (n : Int) : Option Date :=
  if h : firstDay ≤ n ∧ n ≤ lastDay then some ⟨n, h.1, h.2⟩ else none

/-- The date of a day that exists, if the calendar has it. -/
def ofCivil? (c : Civil) : Option Date :=
  if c.exists? then ofNumber? c.number else none

/-- Year, month and day of a date. -/
def civil (d : Date) : Civil :=
  Civil.ofNumber d.number

/-- The date some days later, or earlier; nothing beyond the calendar. -/
def addDays? (d : Date) (days : Int) : Option Date :=
  ofNumber? (d.number + days)

/-- The days from one date to another. -/
def daysTo (first last : Date) : Int :=
  last.number - first.number

/-- A date is read from a number exactly when it has this number. -/
theorem ofNumber?_eq_some_iff {n : Int} {d : Date} : ofNumber? n = some d ↔ d.number = n := by
  constructor
  · intro h
    simp only [ofNumber?, Option.dite_none_right_eq_some, Option.some.injEq] at h
    obtain ⟨_, rfl⟩ := h
    rfl
  · rintro rfl
    simp [ofNumber?, d.lower, d.upper]

/-- A date is moved by exactly the days asked for. -/
theorem addDays?_eq_some_iff {d e : Date} {days : Int} :
    d.addDays? days = some e ↔ e.number = d.number + days :=
  ofNumber?_eq_some_iff

end Date

end Seedbed
