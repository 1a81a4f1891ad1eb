import Outliner.Proofs.Calendar.DaySpans

/-!
Contract: the instants that the readings of a clock mean, and the days they lie in.

Owns: that a reading which the clock shows lies in the day it names, unless the clock skips the
midnight that ends this day; and that a reading which the clock skips, taken as universal time,
comes to lie before this day, unless its midnight is skipped with it.

What this rests on beyond orderly zones is `Zone.Regular`: whether daylight saving spans the
summer or the turn of the year, and how early in the day the clock goes forward.

Main statements: `named_regular`, `Regular.lies_in_day`, `Regular.lies_before_day`.

Does not own: how readings are written (`Proofs.Calendar.WrittenDays`).
-/

namespace Outliner.Calendar

/-- Daylight saving starts before it stops in every year, or stops before it starts in every
year. -/
def Daylight.KeepsSide (rule : Daylight) : Prop :=
  (∀ year, rule.start.reading year < rule.stop.reading year) ∨
    ∀ year, rule.stop.reading year < rule.start.reading year

/-- A day that is neither the first day of the calendar nor one of its last two. -/
def Date.IsInner (date : Date) : Prop :=
  firstDay < date.dayNumber ∧ date.dayNumber + 1 < lastDay

/-- Offsets are whole minutes, and the clock goes forward so early in the day that the hour
which it skips, taken as universal time, is over before the day starts. -/
structure Zone.Regular (zone : Zone) : Prop extends zone.Orderly where
  minutes : zone.standard % 60 = 0
  side : ∀ rule, zone.daylight = some rule → rule.KeepsSide
  early : ∀ rule, zone.daylight = some rule →
    rule.start.hour < 23 ∧ (rule.start.hour + 1) * 3600 ≤ -zone.standard

theorem northAmerican_keepsSide : (Daylight.mk ⟨3, 2, 2⟩ ⟨11, 1, 2⟩).KeepsSide := by
  left
  intro year
  obtain ⟨start, isStart, startLower, startUpper⟩ :=
    Changeover.exists_reading ⟨3, 2, 2⟩ year (by decide)
  obtain ⟨stop, isStop, stopLower, stopUpper⟩ :=
    Changeover.exists_reading ⟨11, 1, 2⟩ year (by decide)
  rw [isStart, isStop]
  simp only [secondsPerDay] at *
  omega

theorem brazilian_keepsSide : (Daylight.mk ⟨10, 3, 0⟩ ⟨2, 3, 0⟩).KeepsSide := by
  right
  intro year
  obtain ⟨start, isStart, startLower, startUpper⟩ :=
    Changeover.exists_reading ⟨10, 3, 0⟩ year (by decide)
  obtain ⟨stop, isStop, stopLower, stopUpper⟩ :=
    Changeover.exists_reading ⟨2, 3, 0⟩ year (by decide)
  rw [isStart, isStop]
  simp only [secondsPerDay] at *
  omega

namespace Zone

variable {zone : Zone} {rule : Daylight} {date next : Date} {reading : WallTime}
  {seconds offset day : Int}

theorem Regular.of_fixed {standard : Int} (orderly : (Zone.mk standard none).Orderly)
    (minutes : standard % 60 = 0) : (Zone.mk standard none).Regular :=
  ⟨orderly, minutes, nofun, nofun⟩

/-- A zone is regular if its changes keep their order over the years and are over early in the
day. -/
theorem Regular.of_rule (isRule : zone.daylight = some rule) (orderly : zone.Orderly)
    (minutes : zone.standard % 60 = 0) (side : rule.KeepsSide)
    (early : rule.start.hour < 23 ∧ (rule.start.hour + 1) * 3600 ≤ -zone.standard) :
    zone.Regular := by
  have only {other : Daylight} (isOther : zone.daylight = some other) : rule = other :=
    Option.some.inj (isRule.symm.trans isOther)
  refine ⟨orderly, minutes, fun other isOther => ?_, fun other isOther => ?_⟩
  · obtain rfl := only isOther
    exact side
  · obtain rfl := only isOther
    exact early

/-- The zones a program can run in are regular. -/
theorem named_regular {name : String} (isNamed : (name, zone) ∈ Zone.named) : zone.Regular := by
  have orderly := named_orderly isNamed
  simp only [Zone.named, List.mem_cons, Prod.mk.injEq, List.not_mem_nil, or_false] at isNamed
  obtain ⟨-, rfl⟩ | ⟨-, rfl⟩ | ⟨-, rfl⟩ | ⟨-, rfl⟩ | ⟨-, rfl⟩ := isNamed
  · exact .of_fixed orderly (by decide)
  · exact .of_fixed orderly (by decide)
  · exact .of_fixed orderly (by decide)
  · exact .of_rule rfl orderly (by decide) northAmerican_keepsSide (by decide)
  · exact .of_rule rfl orderly (by decide) brazilian_keepsSide (by decide)

/-! ## Two readings -/

/-- Within one year a later reading means a later instant, but where the clock goes forward from
the earlier one to the later one: these two may mean the same instant. -/
theorem meant_mono_of_year (isRule : zone.daylight = some rule) {year earlier later : Int}
    {first second : Int} (firstYear : yearOf (earlier / secondsPerDay) = year)
    (secondYear : yearOf (later / secondsPerDay) = year) (before : earlier < later)
    (apart : rule.start.reading year + daylightShift < rule.stop.reading year ∨
      rule.stop.reading year ≤ rule.start.reading year)
    (meansFirst : zone.offsetOfReading? earlier = some first)
    (meansSecond : zone.offsetOfReading? later = some second) :
    earlier - first ≤ later - second ∧
      (earlier - first < later - second ∨ earlier = rule.start.reading year ∧
        later = rule.start.reading year + daylightShift) := by
  have shift : daylightShift = 3600 := rfl
  have changes {reading : Int} (isYear : yearOf (reading / secondsPerDay) = year) :
      rule.start.reading (yearOf (reading / secondsPerDay)) = rule.start.reading year ∧
        rule.stop.reading (yearOf (reading / secondsPerDay)) = rule.stop.reading year := by
    rw [isYear]
    exact ⟨rfl, rfl⟩
  obtain ⟨startFirst, stopFirst⟩ := changes firstYear
  obtain ⟨startSecond, stopSecond⟩ := changes secondYear
  rcases apart with north | south
  · have atFirst := offsetOfReading?_of_north isRule startFirst stopFirst (by omega) meansFirst
    have atSecond := offsetOfReading?_of_north isRule startSecond stopSecond (by omega) meansSecond
    omega
  · have atFirst := offsetOfReading?_of_south isRule startFirst stopFirst south meansFirst
    have atSecond := offsetOfReading?_of_south isRule startSecond stopSecond south meansSecond
    omega

/-- The changes of the clock are more than the shift apart. -/
theorem Orderly.changes_apart (orderly : zone.Orderly) (isRule : zone.daylight = some rule)
    (year : Int) : rule.start.reading year + daylightShift < rule.stop.reading year ∨
      rule.stop.reading year ≤ rule.start.reading year := by
  obtain ⟨startDay, stopDay, isStart, isStop, -, -, apart⟩ := orderly.spread rule isRule year
  obtain ⟨startHour, stopHour, -⟩ := orderly.midnight rule isRule
  simp only [isStart, isStop, secondsPerDay, daylightShift]
  omega

/-- The last day of a year is followed by the start of the next year. -/
theorem newYear_of_yearOf_ne (other : yearOf (day + 1) ≠ yearOf day) :
    day + 1 = yearStart (yearOf day + 1) ∧ day + 1 = yearStart (yearOf (day + 1)) := by
  have ends := lt_yearStart_succ_yearOf day
  have starts := yearStart_yearOf_le (day + 1)
  rcases Int.lt_trichotomy (yearOf day) (yearOf (day + 1)) with later | same | earlier
  · have mono := yearStart_mono later
    have isNext : yearOf day + 1 ≤ yearOf (day + 1) := later
    have further := yearStart_mono isNext
    omega
  · exact absurd same.symm other
  · have before := lt_of_yearOf_lt earlier
    have begins := yearStart_yearOf_le day
    omega

/-- The clock stands the same way at the end of a year and at the start of the next one. -/
theorem Regular.meant_lt_of_new_year (regular : zone.Regular) (isRule : zone.daylight = some rule)
    (other : yearOf (day + 1) ≠ yearOf day) (isDay : seconds / secondsPerDay = day)
    {second : Int} (means : zone.offsetOfReading? seconds = some offset)
    (atMidnight : zone.offsetOfReading? ((day + 1) * secondsPerDay) = some second) :
    seconds - offset < (day + 1) * secondsPerDay - second := by
  obtain ⟨ends, starts⟩ := newYear_of_yearOf_ne other
  have shift : daylightShift = 3600 := rfl
  obtain ⟨startHour, stopHour, -⟩ := regular.midnight rule isRule
  obtain ⟨firstStart, firstStop, isFirstStart, isFirstStop, startWithin, stopWithin, -⟩ :=
    regular.spread rule isRule (yearOf day)
  obtain ⟨secondStart, secondStop, isSecondStart, isSecondStop, startAfter, stopAfter, -⟩ :=
    regular.spread rule isRule (yearOf (day + 1))
  have midnightDay := day_of_midnight (day + 1)
  rw [← isDay] at isFirstStart isFirstStop
  rw [← midnightDay] at isSecondStart isSecondStop
  rcases regular.side rule isRule with north | south
  · have northFirst := north (yearOf (seconds / secondsPerDay))
    have northSecond := north (yearOf ((day + 1) * secondsPerDay / secondsPerDay))
    rw [isFirstStart, isFirstStop] at northFirst
    rw [isSecondStart, isSecondStop] at northSecond
    have atReading := offsetOfReading?_of_north isRule isFirstStart isFirstStop northFirst means
    have atSecond :=
      offsetOfReading?_of_north isRule isSecondStart isSecondStop northSecond atMidnight
    simp only [secondsPerDay] at *
    omega
  · have southFirst := Int.le_of_lt (south (yearOf (seconds / secondsPerDay)))
    have southSecond := Int.le_of_lt (south (yearOf ((day + 1) * secondsPerDay / secondsPerDay)))
    rw [isFirstStart, isFirstStop] at southFirst
    rw [isSecondStart, isSecondStop] at southSecond
    have atReading := offsetOfReading?_of_south isRule isFirstStart isFirstStop southFirst means
    have atSecond :=
      offsetOfReading?_of_south isRule isSecondStart isSecondStop southSecond atMidnight
    simp only [secondsPerDay] at *
    omega

/-! ## Readings of one day -/

/-- A reading of a day means no instant before the one that its midnight means. -/
theorem Orderly.since_midnight (orderly : zone.Orderly) (isDay : seconds / secondsPerDay = day)
    {first : Int} (means : zone.offsetOfReading? seconds = some offset)
    (atMidnight : zone.offsetOfReading? (day * secondsPerDay) = some first) :
    day * secondsPerDay - first ≤ seconds - offset := by
  cases isRule : zone.daylight with
  | none =>
      rw [offsetOfReading?_of_fixed isRule, Option.some.injEq] at means atMidnight
      simp only [secondsPerDay] at *
      omega
  | some rule =>
      have notBefore : day * secondsPerDay ≤ seconds := by
        simp only [secondsPerDay] at *
        omega
      rcases Int.lt_or_eq_of_le notBefore with before | same
      · exact (meant_mono_of_year isRule (congrArg yearOf (day_of_midnight day))
          (congrArg yearOf isDay) before (orderly.changes_apart isRule _) atMidnight means).1
      · rw [same, means] at atMidnight
        obtain rfl := Option.some.inj atMidnight
        omega

/-- A reading of a day means an instant before the one that the next midnight means. -/
theorem Regular.before_midnight (regular : zone.Regular) (isDay : seconds / secondsPerDay = day)
    {second : Int} (means : zone.offsetOfReading? seconds = some offset)
    (atMidnight : zone.offsetOfReading? ((day + 1) * secondsPerDay) = some second) :
    seconds - offset < (day + 1) * secondsPerDay - second := by
  have before : seconds < (day + 1) * secondsPerDay := by
    simp only [secondsPerDay] at *
    omega
  cases isRule : zone.daylight with
  | none =>
      rw [offsetOfReading?_of_fixed isRule, Option.some.injEq] at means atMidnight
      omega
  | some rule =>
      by_cases sameYear : yearOf (day + 1) = yearOf day
      · have secondYear : yearOf ((day + 1) * secondsPerDay / secondsPerDay) = yearOf day := by
          rw [day_of_midnight, sameYear]
        have mono := meant_mono_of_year isRule (congrArg yearOf isDay) secondYear before
          (regular.changes_apart isRule _) means atMidnight
        rcases mono.2 with less | ⟨-, isForward⟩
        · exact less
        · -- The clock would have to go forward at 23 o'clock.
          obtain ⟨startDay, -, isStart, -⟩ := regular.spread rule isRule (yearOf day)
          obtain ⟨startHour, -⟩ := regular.midnight rule isRule
          have early := (regular.early rule isRule).1
          rw [isStart] at isForward
          simp only [secondsPerDay, daylightShift] at isForward
          omega
      · exact regular.meant_lt_of_new_year isRule sameYear isDay means atMidnight

/-! ## Instants of one day -/

theorem Orderly.offset_near (orderly : zone.Orderly)
    (means : zone.offsetOfReading? seconds = some offset) :
    -secondsPerDay < offset ∧ offset < secondsPerDay := by
  cases isRule : zone.daylight with
  | none =>
      rw [offsetOfReading?_of_fixed isRule, Option.some.injEq] at means
      exact means ▸ orderly.near
  | some rule =>
      have behind := orderly.offset_behind isRule means
      simp only [secondsPerDay] at *
      omega

theorem Regular.offset_minutes (regular : zone.Regular)
    (means : zone.offsetOfReading? seconds = some offset) : offset % 60 = 0 := by
  have minutes := regular.minutes
  cases isRule : zone.daylight with
  | none =>
      rw [offsetOfReading?_of_fixed isRule, Option.some.injEq] at means
      exact means ▸ minutes
  | some rule =>
      have atReading := offsetOfReading?_of_rule isRule means
      simp only [daylightShift] at atReading
      omega

/-- A reading that the clock never shows is taken as universal time. -/
theorem instantOf_of_skipped (skips : zone.offsetOfReading? reading.seconds = none) :
    zone.instantOf reading = reading := by
  unfold instantOf
  rw [skips]
  rfl

/-- A reading that the clock shows means an instant as far from it as the offset says. -/
theorem Regular.seconds_instantOf (regular : zone.Regular) (inner : date.IsInner)
    (isDay : reading.seconds / secondsPerDay = date.dayNumber)
    (means : zone.offsetOfReading? reading.seconds = some offset) :
    (zone.instantOf reading).seconds = reading.seconds - offset := by
  have near := regular.offset_near means
  have minutes := regular.offset_minutes means
  have isInstant : IsInstant (reading.seconds + -offset) reading.nanos := by
    have valid := reading.valid
    simp only [IsInstant, Date.IsInner, secondsPerDay] at *
    omega
  unfold instantOf
  rw [means, Option.bind_some, Instant.addSeconds?, Instant.ofParts?, dif_pos isInstant]
  rfl

theorem Orderly.seconds_startOfDay (orderly : zone.Orderly)
    (inner : firstDay < date.dayNumber ∧ date.dayNumber < lastDay)
    (means : zone.offsetOfReading? (date.dayNumber * secondsPerDay) = some offset) :
    (zone.startOfDay date).seconds = date.dayNumber * secondsPerDay - offset := by
  have near := orderly.offset_near means
  rcases startOfDay_cases means with ⟨-, isStart⟩ | ⟨-, outside⟩
  · exact isStart
  · refine absurd ?_ outside
    simp only [IsInstant, secondsPerDay, nanosPerSecond] at *
    omega

/-- A reading that the clock shows, or skips together with the midnight of its day, means an
instant of its day, unless the clock skips the next midnight and the instant lies behind this
midnight in universal time. -/
theorem Regular.lies_in_day (regular : zone.Regular) (inner : date.IsInner)
    (isNext : date.next? = some next)
    (isDay : reading.seconds / secondsPerDay = date.dayNumber)
    (shown : zone.offsetOfReading? reading.seconds = none → zone.SkipsMidnight date)
    (kept : zone.SkipsMidnight next → zone.instantOf reading < Instant.midnight next) :
    zone.startOfDay date ≤ zone.instantOf reading ∧
      zone.instantOf reading < zone.startOfDay next := by
  have orderly := regular.toOrderly
  have follows := next?_eq_some_iff.mp isNext
  have dayInner : firstDay < date.dayNumber ∧ date.dayNumber < lastDay := by
    unfold Date.IsInner at inner
    omega
  have nextInner : firstDay < next.dayNumber ∧ next.dayNumber < lastDay := by
    unfold Date.IsInner at inner
    omega
  have midnight (date : Date) :
      (Instant.midnight date).seconds = date.dayNumber * secondsPerDay := rfl
  have within : date.dayNumber * secondsPerDay ≤ reading.seconds ∧
      reading.seconds < next.dayNumber * secondsPerDay := by
    simp only [secondsPerDay] at *
    omega
  rw [le_iff_of_whole (nanos_startOfDay zone date)]
  cases means : zone.offsetOfReading? reading.seconds with
  | none =>
      have skips := shown means
      obtain ⟨rule, isRule⟩ := Option.ne_none_iff_exists'.mp skips.has_rule
      have behind := orderly.startOfDay_behind isRule next
      rw [instantOf_of_skipped means, startOfDay_of_skipped skips, midnight, Instant.lt_iff]
      omega
  | some offset =>
      have isInstant := regular.seconds_instantOf inner isDay means
      constructor
      · by_cases skips : zone.SkipsMidnight date
        · obtain ⟨rule, isRule⟩ := Option.ne_none_iff_exists'.mp skips.has_rule
          have behind := orderly.offset_behind isRule means
          rw [startOfDay_of_skipped skips, isInstant, midnight]
          omega
        · obtain ⟨first, atMidnight⟩ := Option.ne_none_iff_exists'.mp skips
          rw [orderly.seconds_startOfDay dayInner atMidnight, isInstant]
          exact orderly.since_midnight isDay means atMidnight
      · by_cases skips : zone.SkipsMidnight next
        · rw [startOfDay_of_skipped skips]
          exact kept skips
        · obtain ⟨second, atMidnight⟩ := Option.ne_none_iff_exists'.mp skips
          rw [midnight] at atMidnight
          rw [Instant.lt_iff, orderly.seconds_startOfDay nextInner atMidnight, isInstant, follows]
          rw [follows] at atMidnight
          exact .inl (regular.before_midnight isDay means atMidnight)

/-- A reading that the clock skips, though it shows the midnight of its day, is over in universal
time before its day starts. -/
theorem Regular.lies_before_day (regular : zone.Regular) (inner : date.IsInner)
    (isDay : reading.seconds / secondsPerDay = date.dayNumber)
    (skips : zone.offsetOfReading? reading.seconds = none) (shown : ¬ zone.SkipsMidnight date) :
    zone.instantOf reading < zone.startOfDay date := by
  have orderly := regular.toOrderly
  have isRule : ∃ rule, zone.daylight = some rule := by
    cases isRule : zone.daylight with
    | some rule => exact ⟨rule, rfl⟩
    | none =>
        rw [offsetOfReading?_of_fixed isRule] at skips
        cases skips
  obtain ⟨rule, isRule⟩ := isRule
  obtain ⟨first, atMidnight⟩ := Option.ne_none_iff_exists'.mp shown
  have isMidnight : (Instant.midnight date).seconds = date.dayNumber * secondsPerDay := rfl
  rw [isMidnight] at atMidnight
  obtain ⟨startDay, stopDay, isStart, isStop, -, -, apart⟩ :=
    regular.spread rule isRule (yearOf date.dayNumber)
  obtain ⟨startHour, stopHour, -⟩ := regular.midnight rule isRule
  have early := regular.early rule isRule
  have dayInner : firstDay < date.dayNumber ∧ date.dayNumber < lastDay := by
    unfold Date.IsInner at inner
    omega
  have gap := offsetOfReading?_eq_none_bounds isRule (isDay ▸ isStart) skips
  rw [instantOf_of_skipped skips, Instant.lt_iff, orderly.seconds_startOfDay dayInner atMidnight]
  left
  rw [← day_of_midnight date.dayNumber] at isStart isStop
  by_cases north : startDay < stopDay
  · have atFirst := offsetOfReading?_of_north isRule isStart isStop
      (by simp only [secondsPerDay]; omega) atMidnight
    simp only [secondsPerDay, daylightShift] at *
    omega
  · have atFirst := offsetOfReading?_of_south isRule isStart isStop
      (by simp only [secondsPerDay]; omega) atMidnight
    simp only [secondsPerDay, daylightShift] at *
    omega

end Zone

end Outliner.Calendar
