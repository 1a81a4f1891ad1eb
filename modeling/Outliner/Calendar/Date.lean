import Outliner.Numeral.Decimal

/-!
Contract: days of the Gregorian calendar, as day numbers.

Owns: the type `Date` (a day number within the years -262143 to 262142), its
year, month and day of the month in both directions, and its written form.

Main statements: `yearStart_yearOf_le` and `lt_yearStart_succ_yearOf` place a
day number inside its year, and `ofCivil?_civil` says that the year, month and
day of a date name that date again.

Does not own: times of day and time zones.
-/

namespace Outliner.Calendar

def isLeapYear (year : Int) : Bool :=
  year % 4 == 0 && (year % 100 != 0 || year % 400 == 0)

def monthLengths (year : Int) : List Nat :=
  [31, if isLeapYear year then 29 else 28, 31, 30, 31, 30, 31, 31, 30, 31, 30, 31]

def totalLength : List Nat → Nat
  | [] => 0
  | length :: rest => length + totalLength rest

/-- The day number of the first of January. Day `0` is 1970-01-01. -/
def yearStart (year : Int) : Int :=
  365 * year + (year + 3) / 4 - (year + 99) / 100 + (year + 399) / 400 - 719528

theorem yearStart_succ (year : Int) :
    yearStart (year + 1) = yearStart year + totalLength (monthLengths year) := by
  have leapDay : (totalLength (monthLengths year) : Int) =
      337 + if isLeapYear year then 29 else 28 := by
    simp only [monthLengths, totalLength]
    split <;> simp
  rw [leapDay]
  simp only [yearStart, isLeapYear, Bool.and_eq_true, Bool.or_eq_true, beq_iff_eq,
    bne_iff_ne, ne_eq]
  split <;> omega

/-- The year of a day number: an estimate from the mean length of a year, which
is off by one at most. -/
def yearOf (dayNumber : Int) : Int :=
  let estimate := 400 * (dayNumber + 719528) / 146097
  if dayNumber < yearStart estimate then estimate - 1
  else if yearStart (estimate + 1) ≤ dayNumber then estimate + 1
  else estimate

theorem yearStart_yearOf_le (dayNumber : Int) : yearStart (yearOf dayNumber) ≤ dayNumber := by
  simp only [yearOf]
  split
  · simp only [yearStart] at *
    omega
  · split <;> omega

theorem lt_yearStart_succ_yearOf (dayNumber : Int) :
    dayNumber < yearStart (yearOf dayNumber + 1) := by
  simp only [yearOf]
  split
  · simp only [Int.sub_add_cancel]
    assumption
  · split
    · simp only [yearStart] at *
      omega
    · omega

/-- Splits days from the start of a year into whole months and days left. -/
def splitMonths : List Nat → Nat → Nat × Nat
  | [], days => (0, days)
  | length :: rest, days =>
    if days < length then (0, days)
    else ((splitMonths rest (days - length)).1 + 1, (splitMonths rest (days - length)).2)

/-- Days inside a year are split into a month of that year, a day of that month, and nothing
else. -/
theorem splitMonths_spec {lengths : List Nat} {days : Nat} (within : days < totalLength lengths) :
    (splitMonths lengths days).1 < lengths.length ∧
      (splitMonths lengths days).2 < lengths.getD (splitMonths lengths days).1 0 ∧
      totalLength (lengths.take (splitMonths lengths days).1) +
        (splitMonths lengths days).2 = days := by
  induction lengths generalizing days with
  | nil => simp [totalLength] at within
  | cons length rest inductionHypothesis =>
      simp only [splitMonths]
      split
      · rename_i less
        simp [less, totalLength]
      · rename_i notLess
        simp only [totalLength] at within
        have inRest := @inductionHypothesis (days - length) (by omega)
        refine ⟨by simpa using inRest.1, by simpa using inRest.2.1, ?_⟩
        simp only [List.take_succ_cons, totalLength]
        omega

/-- The first day: -262143-01-01. -/
def firstDay : Int := -96465292

/-- The last day: 262142-12-31. -/
def lastDay : Int := 95026236

theorem firstDay_eq : firstDay = yearStart (-262143) := by decide

theorem lastDay_eq : lastDay = yearStart 262143 - 1 := by decide

structure Date where
  dayNumber : Int
  inRange : firstDay ≤ dayNumber ∧ dayNumber ≤ lastDay
deriving DecidableEq

namespace Date

instance : LT Date := ⟨fun left right => left.dayNumber < right.dayNumber⟩

instance : LE Date := ⟨fun left right => left.dayNumber ≤ right.dayNumber⟩

instance (left right : Date) : Decidable (left < right) :=
  inferInstanceAs (Decidable (left.dayNumber < right.dayNumber))

instance (left right : Date) : Decidable (left ≤ right) :=
  inferInstanceAs (Decidable (left.dayNumber ≤ right.dayNumber))

def first : Date := ⟨firstDay, by decide⟩

def last : Date := ⟨lastDay, by decide⟩

def ofDayNumber? (dayNumber : Int) : Option Date :=
  if inRange : firstDay ≤ dayNumber ∧ dayNumber ≤ lastDay then some ⟨dayNumber, inRange⟩
  else none

/-- The day some days later, or earlier if the number is negative. -/
def addDays? (date : Date) (days : Int) : Option Date :=
  ofDayNumber? (date.dayNumber + days)

def next? (date : Date) : Option Date :=
  date.addDays? 1

/-- The day number of a year, a month from 1 and a day from 1, if that day exists. -/
def dayNumberOf? (year : Int) (month day : Nat) : Option Int :=
  if 1 ≤ month ∧ month ≤ 12 ∧ 1 ≤ day ∧ day ≤ (monthLengths year).getD (month - 1) 0 then
    some (yearStart year + totalLength ((monthLengths year).take (month - 1)) + (day - 1 : Nat))
  else none

/-- The date of a year, a month from 1 and a day from 1, if that day exists. -/
def ofCivil? (year : Int) (month day : Nat) : Option Date :=
  (dayNumberOf? year month day).bind ofDayNumber?

def year (date : Date) : Int :=
  yearOf date.dayNumber

/-- Whole months and days since the start of the year. -/
def sinceNewYear (date : Date) : Nat × Nat :=
  splitMonths (monthLengths date.year) (date.dayNumber - yearStart date.year).toNat

/-- The month of a date, from 1. -/
def month (date : Date) : Nat :=
  date.sinceNewYear.1 + 1

/-- The day of the month of a date, from 1. -/
def day (date : Date) : Nat :=
  date.sinceNewYear.2 + 1

/-- A date is its month and its day counted from the first of January. -/
theorem sinceNewYear_spec (date : Date) :
    date.sinceNewYear.1 < 12 ∧
      date.sinceNewYear.2 < (monthLengths date.year).getD date.sinceNewYear.1 0 ∧
      yearStart date.year + totalLength ((monthLengths date.year).take date.sinceNewYear.1) +
        date.sinceNewYear.2 = date.dayNumber := by
  have lower := yearStart_yearOf_le date.dayNumber
  have upper := lt_yearStart_succ_yearOf date.dayNumber
  rw [yearStart_succ] at upper
  change yearStart date.year ≤ date.dayNumber at lower
  change date.dayNumber < yearStart date.year + totalLength (monthLengths date.year) at upper
  have within : (date.dayNumber - yearStart date.year).toNat <
      totalLength (monthLengths date.year) := by
    omega
  have spec := splitMonths_spec within
  change date.sinceNewYear.1 < 12 ∧ date.sinceNewYear.2 < _ ∧
    totalLength ((monthLengths date.year).take date.sinceNewYear.1) +
      date.sinceNewYear.2 = _ at spec
  exact ⟨spec.1, spec.2.1, by omega⟩

/-- The year, the month and the day of a date name it. -/
theorem ofCivil?_civil (date : Date) : ofCivil? date.year date.month date.day = some date := by
  obtain ⟨monthSmall, daySmall, total⟩ := date.sinceNewYear_spec
  have found : dayNumberOf? date.year date.month date.day = some date.dayNumber := by
    rw [dayNumberOf?, if_pos ⟨by simp [month], by simp only [month]; omega, by simp [day], by
      simp only [month, day, Nat.add_sub_cancel]; omega⟩]
    simp only [month, day, Nat.add_sub_cancel, total]
  rw [ofCivil?, found, Option.bind_some, ofDayNumber?, dif_pos date.inRange]

end Date

/-- A year as four digits; beyond them, with a sign and at least four. -/
def writeYear (year : Int) : List Char :=
  if 0 ≤ year && year ≤ 9999 then Numeral.padded 4 year.toNat
  else (if year < 0 then '-' else '+') :: Numeral.padded 4 year.natAbs

/-- A date as year, month and day with hyphens between. -/
def Date.write (date : Date) : List Char :=
  writeYear date.year ++ ['-'] ++ Numeral.padded 2 date.month ++ ['-'] ++
    Numeral.padded 2 date.day

end Outliner.Calendar
