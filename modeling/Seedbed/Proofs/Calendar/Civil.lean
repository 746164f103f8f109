import Mathlib.Tactic.IntervalCases
import Seedbed.Calendar.Date

/-!
# The day of a day number

`Civil.number` and `Civil.ofNumber` are inverse to each other over all day numbers, and the day of a
number exists (`number_ofNumber`, `exists?_ofNumber`). Both go by the day's place in its era: a year
and a month, counted from March, and the days of the month before it (`ofMarch`). That the quotients
in `ofNumber` find the year is where the rule for leap days enters; it is shown century by century
(`yearOfDay_spec`). The year, month and day of a date therefore name that date
(`Date.ofCivil?_civil`).
-/

namespace Seedbed

namespace Civil

/-! ## Eras, years and months from March -/

/-- The days of an era before one of its years. -/
def daysBefore (year : Nat) : Nat :=
  365 * year + year / 4 - year / 100

/-- The days of a year before one of its months. -/
def daysBeforeMonth (month : Nat) : Nat :=
  (153 * month + 2) / 5

/-- The year of an era that a day is in. -/
def yearOfDay (day : Nat) : Nat :=
  (day - day / 1460 + day / 36524 - day / 146096) / 365

/-- The month of a year that a day is in. -/
def monthOfDay (day : Nat) : Nat :=
  (5 * day + 2) / 153

/-- Whether a year of an era ends with a leap day. -/
def EndsInLeapDay (year : Nat) : Prop :=
  year % 4 = 3 ∧ (year % 100 ≠ 99 ∨ year = 399)

/-- The day of an era by its year, its month and the days of the month before it. -/
def ofMarch (era : Int) (year month day : Nat) : Civil :=
  let civilMonth := if month < 10 then month + 3 else month - 9
  { year := if civilMonth ≤ 2 then year + era * 400 + 1 else year + era * 400
    month := civilMonth
    day := day + 1 }

/-- The day of a number by its place in its era. -/
theorem ofNumber_eq (n : Int) :
    let day := (n % eraDays).toNat
    let rest := day - daysBefore (yearOfDay day)
    ofNumber n = ofMarch (n / eraDays) (yearOfDay day) (monthOfDay rest)
      (rest - daysBeforeMonth (monthOfDay rest)) := rfl

/-- A day of an era is one of the 365 days of its year, or the leap day at the end. -/
theorem yearOfDay_spec {day : Nat} (h : day < 146097) :
    yearOfDay day < 400 ∧ daysBefore (yearOfDay day) ≤ day ∧
      day ≤ daysBefore (yearOfDay day) + 365 ∧
      (day = daysBefore (yearOfDay day) + 365 → EndsInLeapDay (yearOfDay day)) := by
  obtain ⟨year, hyear⟩ : ∃ year, year = yearOfDay day := ⟨_, rfl⟩
  rw [← hyear]
  rw [yearOfDay] at hyear
  unfold daysBefore EndsInLeapDay
  have hcenturies : day / 36524 ≤ 4 := by omega
  generalize hcycle : day / 1460 = cycle at *
  generalize hcentury : day / 36524 = century at *
  generalize hlast : day / 146096 = last at *
  have hlt : year < 400 := by omega
  -- The quotients of the day are those of the year, but for the leap days that end a cycle.
  have hyearCentury : year / 100 = century ∨ year = 399 ∧ century = 4 := by
    interval_cases century <;> omega
  have hyearCycle : year / 4 = cycle ∨ year / 4 + 1 = cycle := by omega
  refine ⟨hlt, ?_, ?_, ?_⟩
  · omega
  · omega
  · omega

/-- A day of a year is one of the days of its month. -/
theorem monthOfDay_spec {day : Nat} (h : day ≤ 365) :
    monthOfDay day < 12 ∧ daysBeforeMonth (monthOfDay day) ≤ day ∧
      day < daysBeforeMonth (monthOfDay day + 1) := by
  unfold monthOfDay daysBeforeMonth
  omega

/-- The number of a day by its place in its era. -/
theorem number_ofMarch {era : Int} {year month : Nat} (hyear : year < 400) (hmonth : month < 12)
    (day : Nat) : (ofMarch era year month day).number =
      era * eraDays + (daysBefore year + daysBeforeMonth month + day : Nat) := by
  unfold daysBefore daysBeforeMonth
  by_cases hm : month < 10
  · have hlate : ¬month + 3 ≤ 2 := by omega
    have hback : (month + 3 + 9) % 12 = month := by omega
    have hrest : ((year + era * 400) % 400).toNat = year := by omega
    have hera : (year + era * 400) / 400 = era := by omega
    simp only [number, ofMarch, if_pos hm, if_neg hlate, hback, hrest, hera]
    omega
  · have hearly : month - 9 ≤ 2 := by omega
    have hback : (month - 9 + 9) % 12 = month := by omega
    have hrest : ((year + era * 400 + 1 - 1) % 400).toNat = year := by omega
    have hera : (year + era * 400 + 1 - 1) / 400 = era := by omega
    simp only [number, ofMarch, if_neg hm, if_pos hearly, hback, hrest, hera]
    omega

/-- A month has 28 to 31 days. -/
theorem monthLength_bounds (year : Int) (month : Nat) :
    28 ≤ monthLength year month ∧ monthLength year month ≤ 31 := by
  unfold monthLength
  split_ifs <;> omega

/-- A day exists when its month does and has so many days. -/
theorem exists?_iff {c : Civil} : c.exists? = true ↔
    (1 ≤ c.month ∧ c.month ≤ 12) ∧ 1 ≤ c.day ∧ c.day ≤ monthLength c.year c.month := by
  simp [exists?, and_assoc]

/-- Within a month the number of a day goes with the day. -/
theorem number_of_day (c : Civil) (hc : 1 ≤ c.day) {day : Nat} (hday : 1 ≤ day) :
    ({ c with day } : Civil).number + c.day = c.number + day := by
  simp only [number]
  omega

/-- The leap years are those of the Gregorian calendar. -/
theorem isLeap_iff {year : Int} :
    isLeap year = true ↔ year % 4 = 0 ∧ (year % 100 ≠ 0 ∨ year % 400 = 0) := by
  simp [isLeap]

/-- A day that is one of its month's exists; the last one of the year only as a leap day. -/
theorem exists?_ofMarch {era : Int} {year month day : Nat} (hmonth : month < 12)
    (hday : daysBeforeMonth month + day < daysBeforeMonth (month + 1))
    (hyear : daysBeforeMonth month + day ≤ 365)
    (hleap : daysBeforeMonth month + day = 365 → EndsInLeapDay year) :
    (ofMarch era year month day).exists? = true := by
  simp only [exists?, ofMarch, monthLength, Bool.and_eq_true]
  unfold EndsInLeapDay daysBeforeMonth at *
  interval_cases month <;> simp at * <;> try omega
  split
  · omega
  · next hcommon =>
    rw [isLeap_iff] at hcommon
    omega

/-! ## Day numbers -/

/-- The place of each day number in its era. -/
theorem exists_ofMarch (n : Int) : ∃ year month day, year < 400 ∧ month < 12 ∧
    n = n / eraDays * eraDays + (daysBefore year + daysBeforeMonth month + day : Nat) ∧
    ofNumber n = ofMarch (n / eraDays) year month day ∧ (ofNumber n).exists? = true := by
  obtain ⟨day, hday⟩ : ∃ day, day = (n % eraDays).toNat := ⟨_, rfl⟩
  have hn : n = n / eraDays * eraDays + day := by
    unfold eraDays at *
    omega
  have hlt : day < 146097 := by
    unfold eraDays at hday
    omega
  obtain ⟨hyear, hfirst, hlast, hleap⟩ := yearOfDay_spec hlt
  obtain ⟨rest, hrest⟩ : ∃ rest, rest = day - daysBefore (yearOfDay day) := ⟨_, rfl⟩
  have hrestLe : rest ≤ 365 := by omega
  obtain ⟨hmonth, hbefore, hbehind⟩ := monthOfDay_spec hrestLe
  have heq : ofNumber n = ofMarch (n / eraDays) (yearOfDay day) (monthOfDay rest)
      (rest - daysBeforeMonth (monthOfDay rest)) := by
    rw [ofNumber_eq, hrest, hday]
  refine ⟨_, _, _, hyear, hmonth, by omega, heq, ?_⟩
  rw [heq]
  exact exists?_ofMarch hmonth (by omega) (by omega) fun h => hleap (by omega)

/-- The day of a number has that number. -/
theorem number_ofNumber (n : Int) : (ofNumber n).number = n := by
  obtain ⟨year, month, day, hyear, hmonth, hn, heq, -⟩ := exists_ofMarch n
  rw [heq, number_ofMarch hyear hmonth, ← hn]

/-- The day of a number exists. -/
theorem exists?_ofNumber (n : Int) : (ofNumber n).exists? = true := by
  obtain ⟨-, -, -, -, -, -, -, hexists⟩ := exists_ofMarch n
  exact hexists

end Civil

namespace Date

/-- The date of the year, month and day of a date is that date. -/
theorem ofCivil?_civil (d : Date) : ofCivil? d.civil = some d := by
  rw [ofCivil?, civil, Civil.exists?_ofNumber, if_pos rfl, Civil.number_ofNumber]
  exact ofNumber?_eq_some_iff.2 rfl

/-- The years of the calendar have at most six digits. -/
theorem year_bounds (d : Date) : -1000000 < d.civil.year ∧ d.civil.year < 1000000 := by
  obtain ⟨year, month, day, hyear, -, -, heq, -⟩ := Civil.exists_ofMarch d.number
  have hlower := d.lower
  have hupper := d.upper
  unfold firstDay at hlower
  unfold lastDay at hupper
  rw [civil, heq]
  simp only [Civil.ofMarch, eraDays]
  split <;> omega

/-- The day of a date exists. -/
theorem exists?_civil (d : Date) : d.civil.exists? = true :=
  Civil.exists?_ofNumber d.number

end Date

end Seedbed
