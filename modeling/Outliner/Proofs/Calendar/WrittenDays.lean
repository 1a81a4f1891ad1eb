import Mathlib.Data.List.Basic
import Mathlib.Data.List.TakeWhile
import Outliner.Calendar.DayRef
import Outliner.Proofs.Calendar.LocalDay

/-!
Contract: days and local readings that are written are read back.

Owns: that the day `YYYY-MM-DD` is read as the day it was written from, and a local date and time
without an offset as the reading it was written from; that none of the other forms of an instant
takes such a text; and the instants that values of attributes in these forms stand for.

Main statements: `readDay_write`, `readAttributeInstant_write`, `readAttributeInstant_reading`.

Does not own: the day that such an instant counts to (`Proofs.Calendar.WallTimes`).
-/

namespace Outliner.Calendar

open Outliner.Text Outliner.Numeral

/-! ## Readers of fields -/

namespace Reader

variable {α β : Type} {text rest numeral : List Char}

theorem bind_apply (first : Reader α) (next : α → Reader β) (text : List Char) :
    (first >>= next) text = (first text).bind fun (value, rest) => next value rest :=
  rfl

/-- What a reader takes off the front is not read again by the readers behind it. -/
theorem bind_of_reads {first : Reader α} {value : α} (reads : first text = some (value, rest))
    (next : α → Reader β) : (first >>= next) text = next value rest := by
  rw [bind_apply, reads, Option.bind_some]

theorem lift_apply (found : Option α) (text : List Char) :
    (liftM found : Reader α) text = found.map fun value => (value, text) := by
  cases found <;> rfl

theorem char_cons (expected : Char) (rest : List Char) :
    char expected (expected :: rest) = some ((), rest) :=
  if_pos rfl

theorem blanks_cons {first : Char} (noBlank : isBlank first = false) (rest : List Char) :
    blanks (first :: rest) = some ((), first :: rest) := by
  unfold blanks trimStart
  rw [List.dropWhile_cons_of_neg (by simp [noBlank])]

theorem blanks_of_digit {first : Char} (isDigit : first.isDigit = true) (rest : List Char) :
    blanks (first :: rest) = some ((), first :: rest) :=
  blanks_cons (isBlank_of_isDigit isDigit) rest

/-- A number is read up to its greatest count of digits, whatever is behind it. -/
theorem number_append {least : Nat} (areDigits : ∀ char ∈ numeral, char.isDigit = true)
    (enough : least ≤ numeral.length) (rest : List Char) :
    number least numeral.length (numeral ++ rest) = some (ofDigits numeral, rest) := by
  have taken : ((numeral ++ rest).take numeral.length).takeWhile Char.isDigit = numeral := by
    rw [List.take_left, List.takeWhile_eq_self_iff.mpr areDigits]
  unfold number
  simp only [taken, if_neg (Nat.not_lt.mpr enough), List.drop_left]

/-- A numeral that fills its width is read as its number, whatever stands behind it. -/
theorem number_padded {least width value : Nat} (positive : 0 < width) (enough : least ≤ width)
    (fits : value < Nat.pow 10 width) (rest : List Char) :
    number least width (padded width value ++ rest) = some (value, rest) := by
  have length := length_padded positive fits
  have read := number_append (fun _ => isDigit_of_mem_padded) (length.symm ▸ enough) rest
  rwa [length, ofDigits_padded] at read

theorem spacedNumber_padded {value : Nat} (fits : value < 100) (rest : List Char) :
    spacedNumber 2 (padded 2 value ++ rest) = some (value, rest) := by
  have read : number 1 2 (padded 2 value ++ rest) = some (value, rest) :=
    number_padded (by decide) (by decide) fits rest
  obtain ⟨first, more, isPadded, isDigit⟩ := exists_padded 2 value
  rw [isPadded, List.cons_append] at read ⊢
  unfold spacedNumber
  rw [bind_apply, blanks_of_digit isDigit]
  exact read

theorem spacedYear_padded {year : Nat} (fits : year < 10000) (rest : List Char) :
    spacedYear (padded 4 year ++ rest) = some ((year : Int), rest) := by
  have read : number 1 4 (padded 4 year ++ rest) = some (year, rest) :=
    number_padded (by decide) (by decide) fits rest
  obtain ⟨first, more, isPadded, isDigit⟩ := exists_padded 4 year
  rw [isPadded, List.cons_append] at read ⊢
  unfold spacedYear
  rw [bind_apply, blanks_of_digit isDigit, Option.bind_some]
  dsimp only
  -- A digit is no sign, so the year is taken as one without a sign.
  split
  · rename_i isMinus
    obtain ⟨rfl, -⟩ := List.cons.inj isMinus
    cases isDigit
  · rename_i isPlus
    obtain ⟨rfl, -⟩ := List.cons.inj isPlus
    cases isDigit
  · rw [read]
    rfl

end Reader

/-! ## Days -/

namespace Date

/-- A year that is written with four digits and no sign. -/
def HasPlainYear (date : Date) : Prop :=
  0 ≤ date.year ∧ date.year ≤ 9999

instance (date : Date) : Decidable date.HasPlainYear :=
  inferInstanceAs (Decidable (_ ∧ _))

variable {date : Date}

theorem HasPlainYear.year_eq (plain : date.HasPlainYear) : (date.year.toNat : Int) = date.year :=
  Int.toNat_of_nonneg plain.1

theorem HasPlainYear.year_fits (plain : date.HasPlainYear) : date.year.toNat < 10000 := by
  have isYear := plain.year_eq
  have upper := plain.2
  omega

theorem month_fits (date : Date) : date.month < 100 := by
  have within := date.sinceNewYear_spec.1
  unfold month
  omega

theorem day_fits (date : Date) : date.day < 100 := by
  obtain ⟨isMonth, within, -⟩ := date.sinceNewYear_spec
  have inYear : date.sinceNewYear.1 < (monthLengths date.year).length := isMonth
  rw [← List.getElem_eq_getD (h := inYear) 0] at within
  have bounds := monthLength_bounds date.year _ (List.getElem_mem inYear)
  unfold day
  omega

theorem HasPlainYear.write_eq (plain : date.HasPlainYear) :
    date.write = padded 4 date.year.toNat ++ '-' :: (padded 2 date.month ++
      '-' :: padded 2 date.day) := by
  have isPlain : (decide (0 ≤ date.year) && decide (date.year ≤ 9999)) = true := by
    rw [decide_eq_true plain.1, decide_eq_true plain.2]
    rfl
  rw [write, writeYear, if_pos isPlain]
  simp only [List.append_assoc, List.cons_append, List.nil_append]

theorem HasPlainYear.write_append (plain : date.HasPlainYear) (rest : List Char) :
    date.write ++ rest = padded 4 date.year.toNat ++ '-' :: (padded 2 date.month ++
      '-' :: (padded 2 date.day ++ rest)) := by
  rw [plain.write_eq, List.append_assoc, List.cons_append, List.append_assoc, List.cons_append]

end Date

variable {date : Date} {rest : List Char}

/-- A date with a plain year is read as it is written. -/
theorem readDay_write (plain : date.HasPlainYear) : readDay date.write = some date := by
  have yearLength : (padded 4 date.year.toNat).length = 4 :=
    length_padded (by decide) plain.year_fits
  have monthLength : (padded 2 date.month).length = 2 := length_padded (by decide) date.month_fits
  have dayLength : (padded 2 date.day).length = 2 := length_padded (by decide) date.day_fits
  obtain ⟨y₁, y₂, y₃, y₄, isYear⟩ := List.length_eq_four.mp yearLength
  obtain ⟨m₁, m₂, isMonth⟩ := List.length_eq_two.mp monthLength
  obtain ⟨d₁, d₂, isDay⟩ := List.length_eq_two.mp dayLength
  have areDigits : [y₁, y₂, y₃, y₄, m₁, m₂, d₁, d₂].all Char.isDigit = true := by
    rw [List.all_eq_true]
    change ∀ char ∈ [y₁, y₂, y₃, y₄] ++ ([m₁, m₂] ++ [d₁, d₂]), char.isDigit = true
    rw [← isYear, ← isMonth, ← isDay]
    simp only [List.mem_append]
    rintro char (ofYear | ofMonth | ofDay)
    · exact isDigit_of_mem_padded ofYear
    · exact isDigit_of_mem_padded ofMonth
    · exact isDigit_of_mem_padded ofDay
  have shape : date.write = [y₁, y₂, y₃, y₄, '-', m₁, m₂, '-', d₁, d₂] := by
    rw [plain.write_eq, isYear, isMonth, isDay]
    rfl
  rw [shape, readDay, if_pos areDigits, ← isYear, ← isMonth, ← isDay, ofDigits_padded,
    ofDigits_padded, ofDigits_padded, plain.year_eq, Date.ofCivil?_civil]

theorem Date.HasPlainYear.mem_write (plain : date.HasPlainYear) {char : Char}
    (member : char ∈ date.write) : char.isDigit = true ∨ char = '-' := by
  rw [plain.write_eq] at member
  simp only [List.mem_append, List.mem_cons] at member
  rcases member with ofYear | rfl | ofMonth | rfl | ofDay
  · exact .inl (isDigit_of_mem_padded ofYear)
  · exact .inr rfl
  · exact .inl (isDigit_of_mem_padded ofMonth)
  · exact .inr rfl
  · exact .inl (isDigit_of_mem_padded ofDay)

theorem isBlank_of_mem_write (plain : date.HasPlainYear) :
    ∀ char ∈ date.write, isBlank char = false := by
  intro char member
  rcases plain.mem_write member with isDigit | rfl
  · exact isBlank_of_isDigit isDigit
  · rfl

/-- A written date has no blanks at its ends to drop. -/
theorem trim_write (plain : date.HasPlainYear) : trim date.write = date.write :=
  trim_eq_self (fun _ first => isBlank_of_mem_write plain _ (List.mem_of_mem_head? first))
    (fun _ last => isBlank_of_mem_write plain _ (List.mem_of_getLast? last))

/-- The first character is a digit, so a day is no distance from today. -/
theorem DayRef.read_write (plain : date.HasPlainYear) :
    DayRef.read date.write = some (.on date) := by
  have noDistance : readDistance date.write = none := by
    obtain ⟨first, more, isYear, isDigit⟩ := exists_padded 4 date.year.toNat
    rw [plain.write_eq, isYear, List.cons_append, readDistance]
    have noSign : (first == '+' || first == '-') = false := by
      rw [Bool.or_eq_false_iff, beq_eq_false_iff_ne, beq_eq_false_iff_ne]
      constructor <;> rintro rfl <;> cases isDigit
    simp only [noSign, Bool.false_and, Bool.false_eq_true, if_false]
  unfold read
  rw [trim_write plain]
  dsimp only
  rw [noDistance, readDay_write plain]
  rfl

/-! ## Instants -/

open Reader

/-- A time of day as it is written: hours, minutes and perhaps seconds. Second 60 is a leap
second. -/
structure ClockTime where
  hour : Nat
  minute : Nat
  second : Option Nat
  valid : hour < 24 ∧ minute < 60 ∧ second.getD 0 ≤ 60
deriving DecidableEq

namespace ClockTime

def write (time : ClockTime) : List Char :=
  padded 2 time.hour ++ [':'] ++ padded 2 time.minute ++
    time.second.elim [] fun second => ':' :: padded 2 second

/-- The seconds since midnight; a leap second belongs to the second before it. -/
def secondOfDay (time : ClockTime) : Nat :=
  time.hour * 3600 + time.minute * 60 + min (time.second.getD 0) 59

def nanos (time : ClockTime) : Nat :=
  if time.second = some 60 then nanosPerSecond else 0

theorem secondOfDay_lt (time : ClockTime) : (time.secondOfDay : Int) < secondsPerDay := by
  have valid := time.valid
  simp only [secondOfDay, secondsPerDay]
  omega

/-- A time of day is an instant on every day. -/
theorem isInstant (time : ClockTime) (date : Date) :
    IsInstant (date.dayNumber * secondsPerDay + time.secondOfDay) time.nanos := by
  obtain ⟨notBefore, notAfter⟩ := date.inRange
  have upper := time.secondOfDay_lt
  unfold IsInstant
  refine ⟨?_, ?_, ?_⟩
  · simp only [secondsPerDay] at upper ⊢
    omega
  · simp only [secondsPerDay] at upper ⊢
    omega
  · unfold nanos
    split
    · rename_i isLeap
      right
      simp only [secondOfDay, isLeap, Option.getD_some, secondsPerDay, nanosPerSecond]
      omega
    · exact .inl (by decide)

def on (time : ClockTime) (date : Date) : WallTime :=
  ⟨date.dayNumber * secondsPerDay + time.secondOfDay, time.nanos, time.isInstant date⟩

theorem wallTime?_eq (time : ClockTime) (date : Date) :
    wallTime? date time.hour time.minute (time.second.getD 0) 0 = some (time.on date) := by
  obtain ⟨isHour, isMinute, isSecond⟩ := time.valid
  have isLeap : (time.second.getD 0 == 60) = true ↔ time.second = some 60 := by
    rw [beq_iff_eq]
    cases time.second <;> simp
  have nanos : 0 + (if (time.second.getD 0 == 60) = true then nanosPerSecond else 0) =
      (time.on date).nanos := by
    rw [Nat.zero_add]
    exact if_congr isLeap rfl rfl
  unfold wallTime?
  rw [if_pos (by simp [isHour, isMinute, isSecond]), nanos]
  exact (time.on date).ofParts?_parts

end ClockTime

namespace Reader

def mark : TimeMark → Reader Unit
  | .letter => char 'T'
  | .blank => blanks

def seconds (withSeconds : Bool) : Reader Nat :=
  if withSeconds then do
    char ':'
    spacedNumber 2
  else pure 0

theorem seconds_bind {β : Type} (withSeconds : Bool) (next : Nat → Reader β) :
    seconds withSeconds >>= next =
      (if withSeconds then char ':' >>= fun _ => spacedNumber 2 >>= next else next 0) := by
  cases withSeconds with
  | false => rfl
  | true => exact bind_assoc _ _ _

def clock (date : Date) (between : TimeMark) (withSeconds : Bool) : Reader WallTime := do
  mark between
  let hour ← spacedNumber 2
  char ':'
  let minute ← spacedNumber 2
  let second ← seconds withSeconds
  wallTime? date hour minute second 0

end Reader

/-- Behind a date with a plain year, a local reading goes on with what stands between and a
clock. -/
theorem readWallTime_append (plain : date.HasPlainYear) (between : TimeMark)
    (withSeconds : Bool) (rest : List Char) :
    readWallTime between withSeconds (date.write ++ rest) =
      whole (clock date between withSeconds) rest := by
  unfold readWallTime whole
  rw [plain.write_append, bind_of_reads (spacedYear_padded plain.year_fits _),
    bind_of_reads (char_cons '-' _), bind_of_reads (spacedNumber_padded date.month_fits _),
    bind_of_reads (char_cons '-' _), bind_of_reads (spacedNumber_padded date.day_fits _),
    plain.year_eq, Date.ofCivil?_civil]
  cases between <;> simp only [clock, mark, seconds_bind] <;> rfl

/-- A date alone is no local reading. -/
theorem readWallTime_write (plain : date.HasPlainYear) (mark : TimeMark) (withSeconds : Bool) :
    readWallTime mark withSeconds date.write = none := by
  have read := readWallTime_append plain mark withSeconds []
  rw [List.append_nil] at read
  rw [read]
  cases mark <;> rfl

def TimeMark.char : TimeMark → Char
  | .letter => 'T'
  | .blank => ' '

def writeReading (date : Date) (between : TimeMark) (time : ClockTime) : List Char :=
  date.write ++ between.char :: time.write

theorem blanks_blank_padded (width number : Nat) (rest : List Char) :
    blanks (' ' :: (padded width number ++ rest)) = some ((), padded width number ++ rest) := by
  obtain ⟨first, more, isPadded, isDigit⟩ := exists_padded width number
  rw [isPadded, List.cons_append]
  exact blanks_of_digit isDigit _

theorem mark_padded (between : TimeMark) (width number : Nat) (rest : List Char) :
    mark between (between.char :: (padded width number ++ rest)) =
      some ((), padded width number ++ rest) := by
  cases between with
  | letter => exact char_cons 'T' _
  | blank => exact blanks_blank_padded width number rest

/-- Hours and minutes are taken, and the seconds are left to a reader of their own. -/
theorem clock_write (date : Date) (between : TimeMark) (withSeconds : Bool) (time : ClockTime) :
    clock date between withSeconds (between.char :: time.write) =
      (seconds withSeconds >>= fun second =>
        (liftM (wallTime? date time.hour time.minute second 0) : Reader WallTime))
          (time.second.elim [] fun second => ':' :: padded 2 second) := by
  obtain ⟨isHour, isMinute, -⟩ := time.valid
  have hourFits : time.hour < 100 := by omega
  have minuteFits : time.minute < 100 := by omega
  unfold clock ClockTime.write
  rw [List.append_assoc, List.append_assoc, List.singleton_append,
    bind_of_reads (mark_padded between 2 time.hour _),
    bind_of_reads (spacedNumber_padded hourFits _), bind_of_reads (char_cons ':' _),
    bind_of_reads (spacedNumber_padded minuteFits _)]

/-- A reader of times with or without seconds takes those that are written so. -/
theorem whole_clock (date : Date) (between : TimeMark) (withSeconds : Bool) (time : ClockTime) :
    whole (clock date between withSeconds) (between.char :: time.write) =
      if withSeconds = time.second.isSome then some (time.on date) else none := by
  have isSecond := time.valid.2.2
  have isTime := time.wallTime?_eq date
  have noSeconds (text : List Char) : seconds false text = some (0, text) := rfl
  unfold whole
  rw [clock_write]
  cases given : time.second with
  | none =>
      rw [given, Option.getD_none] at isTime
      cases withSeconds with
      | true => rfl
      | false =>
          rw [Option.elim_none, bind_of_reads (noSeconds _), lift_apply, isTime]
          rfl
  | some second =>
      rw [given, Option.getD_some] at isTime isSecond
      cases withSeconds with
      | false =>
          rw [Option.elim_some, bind_of_reads (noSeconds _), lift_apply]
          cases wallTime? date time.hour time.minute 0 0 <;> rfl
      | true =>
          have taken : spacedNumber 2 (padded 2 second ++ []) = some (second, []) :=
            spacedNumber_padded (by omega) []
          rw [List.append_nil] at taken
          have isSeconds : seconds true (':' :: padded 2 second) = some (second, []) := by
            rw [seconds, if_pos rfl, bind_of_reads (char_cons ':' _), taken]
          rw [Option.elim_some, bind_of_reads isSeconds, lift_apply, isTime]
          rfl

theorem whole_clock_of_blank (date : Date) (withSeconds : Bool) (rest : List Char) :
    whole (clock date .letter withSeconds) (' ' :: rest) = none :=
  rfl

/-! ## Values of attributes -/

/-- Takes what stands behind the date of the strict form of an instant. -/
def Reader.zonedClock (date : Date) : Reader Instant := do
  oneOf fun mark => mark == 'T' || mark == 't' || mark == ' '
  let hour ← number 2 2
  char ':'
  let minute ← number 2 2
  char ':'
  let second ← number 2 2
  let nanos ← fraction
  let offset ← offset (char ':')
  let reading ← wallTime? date hour minute second nanos
  if offset.natAbs < 86400 then reading.addSeconds? (-offset) else failure

theorem readStrictInstant_append (plain : date.HasPlainYear) (rest : List Char) :
    readStrictInstant (date.write ++ rest) = whole (zonedClock date) rest := by
  have year := @number_padded 4 4 date.year.toNat (by decide) (by decide) plain.year_fits
  have month := @number_padded 2 2 date.month (by decide) (by decide) date.month_fits
  have day := @number_padded 2 2 date.day (by decide) (by decide) date.day_fits
  unfold readStrictInstant whole
  rw [plain.write_append, bind_of_reads (year _), bind_of_reads (char_cons '-' _),
    bind_of_reads (month _), bind_of_reads (char_cons '-' _), bind_of_reads (day _),
    plain.year_eq, Date.ofCivil?_civil]
  rfl

/-- The strict form of an instant needs a time and an offset. -/
theorem readStrictInstant_reading (plain : date.HasPlainYear) (between : TimeMark)
    (time : ClockTime) : readStrictInstant (writeReading date between time) = none := by
  obtain ⟨isHour, isMinute, isSecond⟩ := time.valid
  have hourFits : time.hour < 100 := by omega
  have minuteFits : time.minute < 100 := by omega
  have hour := @number_padded 2 2 time.hour (by decide) (by decide) hourFits
  have minute := @number_padded 2 2 time.minute (by decide) (by decide) minuteFits
  have isMark (rest : List Char) : oneOf (fun mark => mark == 'T' || mark == 't' || mark == ' ')
      (between.char :: rest) = some ((), rest) := by
    cases between <;> rfl
  rw [writeReading, readStrictInstant_append plain]
  unfold whole zonedClock ClockTime.write
  rw [List.append_assoc, List.append_assoc, List.singleton_append, bind_of_reads (isMark _),
    bind_of_reads (hour _), bind_of_reads (char_cons ':' _), bind_of_reads (minute _)]
  cases given : time.second with
  | none => rfl
  | some second =>
      rw [given, Option.getD_some] at isSecond
      have secondFits : second < 100 := by omega
      have taken := @number_padded 2 2 second (by decide) (by decide) secondFits []
      rw [List.append_nil] at taken
      rw [Option.elim_some, bind_of_reads (char_cons ':' _), bind_of_reads taken]
      rfl

/-- A date alone is no instant in the strict form. -/
theorem readStrictInstant_write (plain : date.HasPlainYear) :
    readStrictInstant date.write = none := by
  have read := readStrictInstant_append plain []
  rwa [List.append_nil] at read

/-- As the value of an attribute, a date stands for the start of that local day. -/
theorem readAttributeInstant_write (plain : date.HasPlainYear) (zone : Zone) :
    readAttributeInstant zone date.write = some (zone.startOfDay date) := by
  unfold readAttributeInstant
  simp only [trim_write plain, readStrictInstant_write plain, readWallTime_write plain,
    readDay_write plain]
  rfl

theorem isBlank_of_mem_clockTime {time : ClockTime} : ∀ char ∈ time.write,
    isBlank char = false := by
  unfold ClockTime.write
  simp only [List.mem_append, List.mem_singleton]
  rintro char (((ofHour | rfl) | ofMinute) | ofSecond)
  · exact isBlank_of_isDigit (isDigit_of_mem_padded ofHour)
  · rfl
  · exact isBlank_of_isDigit (isDigit_of_mem_padded ofMinute)
  · cases given : time.second with
    | none =>
        rw [given] at ofSecond
        cases ofSecond
    | some second =>
        rw [given, Option.elim_some, List.mem_cons] at ofSecond
        rcases ofSecond with rfl | ofSecond
        · rfl
        · exact isBlank_of_isDigit (isDigit_of_mem_padded ofSecond)

/-- A written reading has no blanks at its ends to drop. -/
theorem trim_reading (plain : date.HasPlainYear) (between : TimeMark) (time : ClockTime) :
    trim (writeReading date between time) = writeReading date between time := by
  have dateStarts : date.write ≠ [] := by
    rw [plain.write_eq]
    simp
  have timeEnds : time.write ≠ [] := by
    simp [ClockTime.write]
  unfold writeReading
  apply trim_eq_self
  · rw [List.head?_append_of_ne_nil _ dateStarts]
    exact fun _ first => isBlank_of_mem_write plain _ (List.mem_of_mem_head? first)
  · rw [List.getLast?_append_of_ne_nil _ (List.cons_ne_nil _ _),
      List.getLast?_cons_of_ne_nil timeEnds]
    exact fun _ last => isBlank_of_mem_clockTime _ (List.mem_of_getLast? last)

/-- A local date and time is read as the instant that the reading means. -/
theorem readAttributeInstant_reading (plain : date.HasPlainYear) (between : TimeMark)
    (time : ClockTime) (zone : Zone) :
    readAttributeInstant zone (writeReading date between time) =
      some (zone.instantOf (time.on date)) := by
  have strict := readStrictInstant_reading plain between time
  unfold readAttributeInstant
  simp only [trim_reading plain between time, strict]
  simp only [writeReading, readWallTime_append plain]
  cases between with
  | letter =>
      have read withSeconds := whole_clock date .letter withSeconds time
      simp only [read]
      cases time.second <;> rfl
  | blank =>
      have read withSeconds : whole (clock date .blank withSeconds) (' ' :: time.write) = _ :=
        whole_clock date .blank withSeconds time
      simp only [TimeMark.char, whole_clock_of_blank, read]
      cases time.second <;> rfl

end Outliner.Calendar
