import Outliner.Proofs.Calendar.LocalDay

/-!
Contract: days that are named by a year, a month and a day of the month.

Owns: which of these numbers name a day of the Gregorian calendar, and that the day they name has
this year, month and day of the month.

Main statements: `exists_ofCivil?`, `civil_of_ofCivil?`.

Does not own: how the numbers are written (`Proofs.Query.DayForms`).
-/

namespace Outliner.Calendar

/-- A year has a day of this month, from 1, and of this number in the month, from 1. -/
def IsCivilDay (year : Int) (month day : Nat) : Prop :=
  1 ≤ month ∧ month ≤ 12 ∧ 1 ≤ day ∧ day ≤ (monthLengths year).getD (month - 1) 0

instance (year : Int) (month day : Nat) : Decidable (IsCivilDay year month day) :=
  inferInstanceAs (Decidable (_ ∧ _))

variable {year dayNumber : Int} {month day : Nat} {lengths : List Nat} {date : Date}

theorem yearOf_eq (starts : yearStart year ≤ dayNumber) (ends : dayNumber < yearStart (year + 1)) :
    yearOf dayNumber = year := by
  have lower := yearStart_yearOf_le dayNumber
  have upper := lt_yearStart_succ_yearOf dayNumber
  rcases Int.lt_trichotomy (yearOf dayNumber) year with earlier | same | later
  · have before : yearStart (yearOf dayNumber + 1) ≤ yearStart year := yearStart_mono earlier
    omega
  · exact same
  · have behind : yearStart (year + 1) ≤ yearStart (yearOf dayNumber) := yearStart_mono later
    omega

theorem totalLength_take_add_le (inYear : month < lengths.length) :
    totalLength (lengths.take month) + lengths.getD month 0 ≤ totalLength lengths := by
  induction lengths generalizing month with
  | nil => cases inYear
  | cons length rest inductionHypothesis =>
      cases month with
      | zero =>
          simp only [List.take_zero, totalLength, List.getD_cons_zero]
          omega
      | succ month =>
          have inRest := inductionHypothesis (Nat.lt_of_succ_lt_succ inYear)
          simp only [List.take_succ_cons, totalLength, List.getD_cons_succ]
          omega

/-- The days up to a day of a month are split into that month and that day. -/
theorem splitMonths_total (inMonth : day < lengths.getD month 0) :
    splitMonths lengths (totalLength (lengths.take month) + day) = (month, day) := by
  induction lengths generalizing month with
  | nil => cases inMonth
  | cons length rest inductionHypothesis =>
      cases month with
      | zero =>
          rw [List.getD_cons_zero] at inMonth
          rw [List.take_zero, totalLength, Nat.zero_add, splitMonths, if_pos inMonth]
      | succ month =>
          have inRest := inductionHypothesis (List.getD_cons_succ ▸ inMonth)
          have notFirst : ¬ length + totalLength (rest.take month) + day < length := by omega
          have behind : length + totalLength (rest.take month) + day - length =
              totalLength (rest.take month) + day := by omega
          rw [List.take_succ_cons, totalLength, splitMonths, if_neg notFirst, behind, inRest]

/-- The number of a day counts from the start of its year. -/
theorem dayNumberOf?_spec (isDay : IsCivilDay year month day) :
    ∃ sinceNewYear : Nat, Date.dayNumberOf? year month day = some (yearStart year + sinceNewYear) ∧
      yearStart year + sinceNewYear < yearStart (year + 1) ∧
      splitMonths (monthLengths year) sinceNewYear = (month - 1, day - 1) := by
  obtain ⟨fromOne, inYear, fromFirst, inMonth⟩ := isDay
  refine ⟨totalLength ((monthLengths year).take (month - 1)) + (day - 1), ?_, ?_, ?_⟩
  · rw [Date.dayNumberOf?, if_pos ⟨fromOne, inYear, fromFirst, inMonth⟩]
    simp only [Int.natCast_add, Int.add_assoc]
  · have isMonth : month - 1 < (monthLengths year).length := by
      change month - 1 < 12
      omega
    have within := totalLength_take_add_le isMonth
    rw [yearStart_succ]
    omega
  · exact splitMonths_total (by omega)

/-- Day numbers are given to days that exist, and to no others. -/
theorem isCivilDay_of_dayNumberOf? (isNumber : Date.dayNumberOf? year month day = some dayNumber) :
    IsCivilDay year month day := by
  unfold Date.dayNumberOf? at isNumber
  split at isNumber
  · assumption
  · cases isNumber

/-- The day that a year, a month and a day of the month name has just these. -/
theorem civil_of_ofCivil? (found : Date.ofCivil? year month day = some date) :
    IsCivilDay year month day ∧ date.year = year ∧ date.month = month ∧ date.day = day := by
  obtain ⟨dayNumber, isNumber, isDate⟩ := Option.bind_eq_some_iff.mp found
  have isDay := isCivilDay_of_dayNumberOf? isNumber
  obtain ⟨sinceNewYear, isSum, inYear, isSplit⟩ := dayNumberOf?_spec isDay
  obtain rfl := Option.some.inj (isNumber.symm.trans isSum)
  unfold Date.ofDayNumber? at isDate
  split at isDate
  · obtain rfl := Option.some.inj isDate
    have isYear : yearOf (yearStart year + sinceNewYear) = year := yearOf_eq (by omega) inYear
    have since : (yearStart year + sinceNewYear - yearStart year).toNat = sinceNewYear := by omega
    simp only [Date.month, Date.day, Date.sinceNewYear, Date.year, isYear, since, isSplit]
    have fromOne := isDay.1
    have fromFirst := isDay.2.2.1
    exact ⟨isDay, trivial, by omega, by omega⟩
  · cases isDate

/-- The calendar has every day of the years that it has. -/
theorem exists_ofCivil? (isDay : IsCivilDay year month day) (notBefore : -262143 ≤ year)
    (notAfter : year ≤ 262142) : ∃ date, Date.ofCivil? year month day = some date := by
  obtain ⟨sinceNewYear, isSum, inYear, -⟩ := dayNumberOf?_spec isDay
  have starts := yearStart_mono notBefore
  have ends : yearStart (year + 1) ≤ yearStart 262143 := yearStart_mono (by omega)
  have inRange : firstDay ≤ yearStart year + sinceNewYear ∧
      yearStart year + sinceNewYear ≤ lastDay := by
    rw [firstDay_eq, lastDay_eq]
    omega
  rw [Date.ofCivil?, isSum, Option.bind_some, Date.ofDayNumber?, dif_pos inRange]
  exact ⟨_, rfl⟩

end Outliner.Calendar
