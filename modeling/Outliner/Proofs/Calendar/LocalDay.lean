import Mathlib.Logic.Basic
import Outliner.Calendar.Zone

/-!
Contract: when a local day has started, by the clock of its zone.

Owns: what the conversions of a zone rest on (`Zone.Orderly`), that every zone a program can
run in is orderly, the days whose midnight the clock skips, and the day that an instant
counts to.

A clock that goes forward at midnight never shows the midnight at which the day should start.
That midnight is taken as universal time, which in a western zone is some hours before the
day starts, and the last hours of the day before count to the day that is about to start.

Main statements: `named_orderly`, `Orderly.startOfDay_le_iff`.

Does not own: what is asked of a day (`Proofs.Query.DayTests`).
-/

namespace Outliner.Calendar

/-! ## Years -/

theorem yearStart_mono {earlier later : Int} (le : earlier ≤ later) :
    yearStart earlier ≤ yearStart later := by
  simp only [yearStart]
  omega

theorem lt_of_yearOf_lt {earlier later : Int} (lt : yearOf earlier < yearOf later) :
    earlier < yearStart (yearOf later) :=
  Int.lt_of_lt_of_le (lt_yearStart_succ_yearOf earlier) (yearStart_mono lt)

theorem Date.eq_of_dayNumber {left right : Date} (same : left.dayNumber = right.dayNumber) :
    left = right := by
  cases left
  cases right
  simpa using same

/-- Months of 28 to 31 days each have 28 to 31 days on average. -/
theorem totalLength_bounds {lengths : List Nat}
    (each : ∀ length ∈ lengths, 28 ≤ length ∧ length ≤ 31) :
    28 * lengths.length ≤ totalLength lengths ∧
      totalLength lengths ≤ 31 * lengths.length := by
  induction lengths with
  | nil => decide
  | cons length rest inductionHypothesis =>
      obtain ⟨first, others⟩ := List.forall_mem_cons.mp each
      have bounds := inductionHypothesis others
      simp only [totalLength, List.length_cons]
      omega

theorem monthLength_bounds (year : Int) :
    ∀ length ∈ monthLengths year, 28 ≤ length ∧ length ≤ 31 := by
  unfold monthLengths
  cases isLeapYear year <;> decide

/-! ## Changes of the clock -/

/-- A change of the clock falls on a day that the lengths of months and weeks bound. -/
theorem Changeover.exists_reading (change : Changeover) (year : Int)
    (within : change.month ≤ 12) :
    ∃ day : Int, change.reading year = day * secondsPerDay + change.hour * 3600 ∧
      yearStart year + 28 * (change.month - 1 : Nat) + 7 * (change.sunday - 1) ≤ day ∧
      day ≤ yearStart year + 31 * (change.month - 1 : Nat) + 7 * (change.sunday - 1) + 6 := by
  have bounds : 28 * ((monthLengths year).take (change.month - 1)).length ≤ _ ∧ _ :=
    totalLength_bounds fun length member =>
      monthLength_bounds year length (List.mem_of_mem_take member)
  have count : ((monthLengths year).take (change.month - 1)).length = change.month - 1 :=
    List.length_take_of_le (Nat.le_trans (Nat.sub_le _ _) within)
  rw [count] at bounds
  refine ⟨_, rfl, ?_, ?_⟩ <;> omega

/-- The changes of a year fall on days inside it, away from its ends and from each other. -/
def Daylight.WellSpread (rule : Daylight) : Prop :=
  ∀ year, ∃ start stop : Int,
    rule.start.reading year = start * secondsPerDay + rule.start.hour * 3600 ∧
    rule.stop.reading year = stop * secondsPerDay + rule.stop.hour * 3600 ∧
    (yearStart year < start ∧ start + 1 < yearStart (year + 1)) ∧
    (yearStart year < stop ∧ stop + 1 < yearStart (year + 1)) ∧
    (start + 1 < stop ∨ stop + 1 < start)

/-- The changes fall on hours of their days, and the hour that the clock shows twice does not
begin with a midnight. -/
def Daylight.KeepsMidnight (rule : Daylight) : Prop :=
  (0 ≤ rule.start.hour ∧ rule.start.hour < 24) ∧
    (0 ≤ rule.stop.hour ∧ rule.stop.hour < 24) ∧ rule.stop.hour ≠ 1

/-- Local time is less than a day away from universal time, and a zone with daylight saving
is in the west. -/
structure Zone.Orderly (zone : Zone) : Prop where
  near : -secondsPerDay < zone.standard ∧ zone.standard < secondsPerDay
  west : ∀ rule, zone.daylight = some rule → zone.standard + daylightShift ≤ 0
  spread : ∀ rule, zone.daylight = some rule → rule.WellSpread
  midnight : ∀ rule, zone.daylight = some rule → rule.KeepsMidnight

theorem orderly_of_fixed {standard : Int}
    (near : -secondsPerDay < standard ∧ standard < secondsPerDay) :
    (Zone.mk standard none).Orderly where
  near := near
  west := nofun
  spread := nofun
  midnight := nofun

theorem northAmerican_spread : (Daylight.mk ⟨3, 2, 2⟩ ⟨11, 1, 2⟩).WellSpread := by
  intro year
  obtain ⟨start, isStart, startLower, startUpper⟩ :=
    Changeover.exists_reading ⟨3, 2, 2⟩ year (by decide)
  obtain ⟨stop, isStop, stopLower, stopUpper⟩ :=
    Changeover.exists_reading ⟨11, 1, 2⟩ year (by decide)
  refine ⟨start, stop, isStart, isStop, ?_⟩
  simp only [yearStart] at *
  omega

theorem brazilian_spread : (Daylight.mk ⟨10, 3, 0⟩ ⟨2, 3, 0⟩).WellSpread := by
  intro year
  obtain ⟨start, isStart, startLower, startUpper⟩ :=
    Changeover.exists_reading ⟨10, 3, 0⟩ year (by decide)
  obtain ⟨stop, isStop, stopLower, stopUpper⟩ :=
    Changeover.exists_reading ⟨2, 3, 0⟩ year (by decide)
  refine ⟨start, stop, isStart, isStop, ?_⟩
  simp only [yearStart] at *
  omega

/-- A zone in the west is orderly if the changes of its clock are well spread and keep midnights. -/
theorem Zone.orderly_of_rule {zone : Zone} {rule : Daylight} (isRule : zone.daylight = some rule)
    (near : -secondsPerDay < zone.standard ∧ zone.standard < secondsPerDay)
    (west : zone.standard + daylightShift ≤ 0) (spread : rule.WellSpread)
    (midnight : rule.KeepsMidnight) : zone.Orderly := by
  have only {other : Daylight} (isOther : zone.daylight = some other) : rule = other :=
    Option.some.inj (isRule.symm.trans isOther)
  refine ⟨near, fun _ _ => west, fun other isOther => ?_, fun other isOther => ?_⟩
  · obtain rfl := only isOther
    exact spread
  · obtain rfl := only isOther
    exact midnight

/-- The zones a program can run in are orderly. -/
theorem named_orderly {name : String} {zone : Zone} (isNamed : (name, zone) ∈ Zone.named) :
    zone.Orderly := by
  simp only [Zone.named, List.mem_cons, Prod.mk.injEq, List.not_mem_nil, or_false] at isNamed
  obtain ⟨-, rfl⟩ | ⟨-, rfl⟩ | ⟨-, rfl⟩ | ⟨-, rfl⟩ | ⟨-, rfl⟩ := isNamed
  · exact orderly_of_fixed (by decide)
  · exact orderly_of_fixed (by decide)
  · exact orderly_of_fixed (by decide)
  · exact Zone.orderly_of_rule rfl (by decide) (by decide) northAmerican_spread
      ⟨by decide, by decide, by decide⟩
  · exact Zone.orderly_of_rule rfl (by decide) (by decide) brazilian_spread
      ⟨by decide, by decide, by decide⟩

/-! ## Offsets -/

namespace Zone

variable {zone : Zone} {rule : Daylight} {seconds reading offset start stop : Int}
  {date : Date} {instant : Instant}

theorem offsetAt_of_fixed (fixed : zone.daylight = none) (seconds : Int) :
    zone.offsetAt seconds = zone.standard := by
  simp only [offsetAt, fixed]

theorem offsetAt_of_rule (isRule : zone.daylight = some rule) (seconds : Int) :
    zone.offsetAt seconds = zone.standard + daylightShift ∨
      zone.offsetAt seconds = zone.standard := by
  simp only [offsetAt, isRule]
  exact ite_eq_or_eq _ _ _

/-- Local time is less than a day away from universal time, and behind it where there is
daylight saving. -/
theorem Orderly.offsetAt_bounds (orderly : zone.Orderly) (seconds : Int) :
    (-secondsPerDay < zone.offsetAt seconds ∧ zone.offsetAt seconds < secondsPerDay) ∧
      (zone.daylight ≠ none → zone.offsetAt seconds ≤ 0) := by
  have shift : daylightShift = 3600 := rfl
  have perDay : secondsPerDay = 86400 := rfl
  have near := orderly.near
  cases isRule : zone.daylight with
  | none =>
      rw [offsetAt_of_fixed isRule]
      exact ⟨near, fun hasRule => absurd rfl hasRule⟩
  | some rule =>
      have west := orderly.west rule isRule
      have atInstant := offsetAt_of_rule isRule seconds
      omega

/-- Where daylight saving starts before it stops in a year, it holds between the two. -/
theorem offsetAt_of_north (isRule : zone.daylight = some rule)
    (isStart : rule.start.reading (yearOf (seconds / secondsPerDay)) = start)
    (isStop : rule.stop.reading (yearOf (seconds / secondsPerDay)) = stop)
    (north : start + daylightShift < stop) :
    zone.offsetAt seconds =
      if start - zone.standard ≤ seconds ∧ seconds < stop - (zone.standard + daylightShift) then
        zone.standard + daylightShift
      else zone.standard := by
  have order : start - zone.standard < stop - (zone.standard + daylightShift) := by omega
  simp only [offsetAt, isRule, isStart, isStop, if_pos order, Bool.and_eq_true, decide_eq_true_eq]

/-- Where it stops before it starts, it holds at both ends of the year. -/
theorem offsetAt_of_south (isRule : zone.daylight = some rule)
    (isStart : rule.start.reading (yearOf (seconds / secondsPerDay)) = start)
    (isStop : rule.stop.reading (yearOf (seconds / secondsPerDay)) = stop)
    (south : stop ≤ start) :
    zone.offsetAt seconds =
      if seconds < stop - (zone.standard + daylightShift) ∨ start - zone.standard ≤ seconds then
        zone.standard + daylightShift
      else zone.standard := by
  have order : ¬ start - zone.standard < stop - (zone.standard + daylightShift) := by
    simp only [daylightShift]
    omega
  simp only [offsetAt, isRule, isStart, isStop, if_neg order, Bool.or_eq_true, decide_eq_true_eq]

/-- Which offset a reading means where daylight saving starts before it stops: before the hour
that is skipped and from the hour that is shown twice on, it is the standard one. -/
theorem offsetOfReading?_of_north (isRule : zone.daylight = some rule)
    (isStart : rule.start.reading (yearOf (reading / secondsPerDay)) = start)
    (isStop : rule.stop.reading (yearOf (reading / secondsPerDay)) = stop)
    (north : start < stop) (means : zone.offsetOfReading? reading = some offset) :
    (reading ≤ start ∨ stop - daylightShift ≤ reading) ∧ offset = zone.standard ∨
      (start + daylightShift ≤ reading ∧ reading < stop - daylightShift) ∧
        offset = zone.standard + daylightShift := by
  simp only [offsetOfReading?, isRule, isStart, isStop, if_pos north] at means
  split at means
  · obtain rfl := Option.some.inj means
    omega
  · split at means
    · cases means
    · split at means <;> obtain rfl := Option.some.inj means <;> omega

/-- Which offset a reading means where daylight saving stops before it starts. -/
theorem offsetOfReading?_of_south (isRule : zone.daylight = some rule)
    (isStart : rule.start.reading (yearOf (reading / secondsPerDay)) = start)
    (isStop : rule.stop.reading (yearOf (reading / secondsPerDay)) = stop)
    (south : stop ≤ start) (means : zone.offsetOfReading? reading = some offset) :
    (reading < stop - daylightShift ∨ start + daylightShift ≤ reading) ∧
        offset = zone.standard + daylightShift ∨
      (stop - daylightShift ≤ reading ∧ reading < start) ∧ offset = zone.standard := by
  simp only [offsetOfReading?, isRule, isStart, isStop, if_neg (Int.not_lt.mpr south)] at means
  split at means
  · obtain rfl := Option.some.inj means
    omega
  · split at means
    · obtain rfl := Option.some.inj means
      omega
    · split at means
      · cases means
      · obtain rfl := Option.some.inj means
        omega

/-! ## Readings -/

/-- Within one year, the clock shows a reading or a later one from the instant on that the
reading means, if the clock does not show it twice. -/
theorem reading_le_iff_of_north (isRule : zone.daylight = some rule)
    (sameYear : yearOf (seconds / secondsPerDay) = yearOf (reading / secondsPerDay))
    (isStart : rule.start.reading (yearOf (reading / secondsPerDay)) = start)
    (isStop : rule.stop.reading (yearOf (reading / secondsPerDay)) = stop)
    (north : start + daylightShift < stop) (once : stop - daylightShift ≤ reading → stop ≤ reading)
    (means : zone.offsetOfReading? reading = some offset) :
    reading - offset ≤ seconds ↔ reading ≤ seconds + zone.offsetAt seconds := by
  have shift : daylightShift = 3600 := rfl
  have atReading := offsetOfReading?_of_north isRule isStart isStop (by omega) means
  rw [offsetAt_of_north isRule (sameYear ▸ isStart) (sameYear ▸ isStop) north]
  by_cases saving :
      start - zone.standard ≤ seconds ∧ seconds < stop - (zone.standard + daylightShift)
  · rw [if_pos saving]
    omega
  · rw [if_neg saving]
    omega

theorem reading_le_iff_of_south (isRule : zone.daylight = some rule)
    (sameYear : yearOf (seconds / secondsPerDay) = yearOf (reading / secondsPerDay))
    (isStart : rule.start.reading (yearOf (reading / secondsPerDay)) = start)
    (isStop : rule.stop.reading (yearOf (reading / secondsPerDay)) = stop)
    (south : stop ≤ start) (once : stop - daylightShift ≤ reading → stop ≤ reading)
    (means : zone.offsetOfReading? reading = some offset) :
    reading - offset ≤ seconds ↔ reading ≤ seconds + zone.offsetAt seconds := by
  have shift : daylightShift = 3600 := rfl
  have atReading := offsetOfReading?_of_south isRule isStart isStop south means
  rw [offsetAt_of_south isRule (sameYear ▸ isStart) (sameYear ▸ isStop) south]
  by_cases saving :
      seconds < stop - (zone.standard + daylightShift) ∨ start - zone.standard ≤ seconds
  · rw [if_pos saving]
    omega
  · rw [if_neg saving]
    omega

theorem day_of_midnight (day : Int) : day * secondsPerDay / secondsPerDay = day :=
  Int.mul_ediv_cancel day (by decide)

/-- In the year of its midnight, an instant is past the midnight exactly if the clock shows a
time past it. -/
theorem Orderly.midnight_le_iff_of_same_year (orderly : zone.Orderly)
    (isRule : zone.daylight = some rule) {day : Int}
    (sameYear : yearOf (seconds / secondsPerDay) = yearOf day)
    (means : zone.offsetOfReading? (day * secondsPerDay) = some offset) :
    day * secondsPerDay - offset ≤ seconds ↔
      day * secondsPerDay ≤ seconds + zone.offsetAt seconds := by
  obtain ⟨startDay, stopDay, isStart, isStop, -, -, apart⟩ :=
    orderly.spread rule isRule (yearOf day)
  obtain ⟨startHour, stopHour, notOne⟩ := orderly.midnight rule isRule
  have shift : daylightShift = 3600 := rfl
  rw [← day_of_midnight day] at sameYear isStart isStop
  have once : stopDay * secondsPerDay + rule.stop.hour * 3600 - daylightShift ≤
      day * secondsPerDay → stopDay * secondsPerDay + rule.stop.hour * 3600 ≤
        day * secondsPerDay := by
    simp only [secondsPerDay]
    omega
  rcases apart with north | south
  · refine reading_le_iff_of_north isRule sameYear isStart isStop ?_ once means
    simp only [secondsPerDay]
    omega
  · refine reading_le_iff_of_south isRule sameYear isStart isStop ?_ once means
    simp only [secondsPerDay]
    omega

theorem offsetOfReading?_of_rule (isRule : zone.daylight = some rule)
    (means : zone.offsetOfReading? reading = some offset) :
    offset = zone.standard ∨ offset = zone.standard + daylightShift := by
  by_cases north : rule.start.reading (yearOf (reading / secondsPerDay)) <
      rule.stop.reading (yearOf (reading / secondsPerDay))
  · exact (offsetOfReading?_of_north isRule rfl rfl north means).imp And.right And.right
  · exact (offsetOfReading?_of_south isRule rfl rfl (Int.not_lt.mp north) means).symm.imp
      And.right And.right

/-- The clock shows a midnight or a later reading from the instant on that the midnight
means. -/
theorem Orderly.midnight_le_iff (orderly : zone.Orderly) {day : Int}
    (means : zone.offsetOfReading? (day * secondsPerDay) = some offset) (seconds : Int) :
    day * secondsPerDay - offset ≤ seconds ↔
      day * secondsPerDay ≤ seconds + zone.offsetAt seconds := by
  cases isRule : zone.daylight with
  | none =>
      simp only [offsetOfReading?, isRule, Option.some.injEq] at means
      rw [offsetAt_of_fixed isRule, means]
      omega
  | some rule =>
      have near := orderly.near
      have west := orderly.west rule isRule
      have atReading := offsetOfReading?_of_rule isRule means
      have atInstant := offsetAt_of_rule isRule seconds
      simp only [secondsPerDay, daylightShift] at *
      rcases Int.lt_trichotomy (yearOf (seconds / 86400)) (yearOf day) with
        earlier | sameYear | later
      · have before := lt_of_yearOf_lt earlier
        have starts := yearStart_yearOf_le day
        omega
      · exact orderly.midnight_le_iff_of_same_year isRule sameYear means
      · have before := lt_of_yearOf_lt later
        have starts := yearStart_yearOf_le (seconds / 86400)
        omega

/-! ## Days -/

/-- The clock never shows the midnight at which a day should start. -/
def SkipsMidnight (zone : Zone) (date : Date) : Prop :=
  zone.offsetOfReading? (Instant.midnight date).seconds = none

instance (zone : Zone) (date : Date) : Decidable (zone.SkipsMidnight date) :=
  inferInstanceAs (Decidable (_ = _))

/-- The day that an instant counts to: its local day, or its day in universal time if that is
one whose midnight the clock skips. -/
def countedDay? (zone : Zone) (instant : Instant) : Option Date :=
  if zone.SkipsMidnight instant.date then some instant.date else zone.dateAt? instant

/-- Only daylight saving skips a midnight. -/
theorem SkipsMidnight.has_rule (skips : zone.SkipsMidnight date) : zone.daylight ≠ none := by
  intro fixed
  simp only [SkipsMidnight, offsetOfReading?, fixed] at skips
  cases skips

/-- A reading that means nothing is in the hour behind the start of daylight saving. -/
theorem offsetOfReading?_eq_none_bounds (isRule : zone.daylight = some rule)
    (isStart : rule.start.reading (yearOf (reading / secondsPerDay)) = start)
    (skips : zone.offsetOfReading? reading = none) :
    start ≤ reading ∧ reading < start + daylightShift := by
  simp only [offsetOfReading?, isRule, isStart] at skips
  split at skips
  · split at skips
    · cases skips
    · split at skips
      · omega
      · split at skips <;> cases skips
  · split at skips
    · cases skips
    · split at skips
      · cases skips
      · split at skips
        · omega
        · cases skips

/-- A midnight is only skipped where the clock goes forward at that very midnight. -/
theorem Orderly.exists_change_of_skips (orderly : zone.Orderly)
    (skips : zone.SkipsMidnight date) :
    ∃ rule, zone.daylight = some rule ∧
      rule.start.reading (yearOf date.dayNumber) = (Instant.midnight date).seconds := by
  obtain ⟨rule, isRule⟩ := Option.ne_none_iff_exists'.mp skips.has_rule
  obtain ⟨startDay, -, isStart, -⟩ := orderly.spread rule isRule (yearOf date.dayNumber)
  obtain ⟨startHour, -⟩ := orderly.midnight rule isRule
  refine ⟨rule, isRule, ?_⟩
  rw [← day_of_midnight date.dayNumber] at isStart ⊢
  have bounds := offsetOfReading?_eq_none_bounds isRule isStart skips
  rw [isStart]
  simp only [Instant.midnight, secondsPerDay, daylightShift] at *
  omega

theorem dayNumber_of_dateAt? (isLocal : zone.dateAt? instant = some date) :
    date.dayNumber = (instant.seconds + zone.offsetAt instant.seconds) / secondsPerDay := by
  obtain ⟨shown, isShown, rfl⟩ := Option.map_eq_some_iff.mp isLocal
  unfold Instant.addSeconds? Instant.ofParts? at isShown
  split at isShown
  · obtain rfl := Option.some.inj isShown
    rfl
  · cases isShown

/-- A whole second is reached with its first nanosecond. -/
theorem le_iff_of_whole {start : Instant} (whole : start.nanos = 0) :
    start ≤ instant ↔ start.seconds ≤ instant.seconds := by
  have notBefore : start ≤ instant ↔ ¬ (instant.seconds < start.seconds ∨
      instant.seconds = start.seconds ∧ instant.nanos < start.nanos) := Iff.rfl
  rw [notBefore, whole]
  omega

/-- Where its midnight is skipped, a day starts with its midnight in universal time. -/
theorem startOfDay_of_skipped (skips : zone.SkipsMidnight date) :
    zone.startOfDay date = Instant.midnight date := by
  unfold startOfDay instantOf
  rw [skips]
  rfl

/-- A day starts as far from its midnight in universal time as the clock says, unless the
calendar does not reach that instant. -/
theorem startOfDay_cases
    (means : zone.offsetOfReading? (Instant.midnight date).seconds = some offset) :
    ((zone.startOfDay date).nanos = 0 ∧
        (zone.startOfDay date).seconds = date.dayNumber * secondsPerDay - offset) ∨
      zone.startOfDay date = Instant.midnight date ∧
        ¬ IsInstant (date.dayNumber * secondsPerDay - offset) 0 := by
  unfold startOfDay instantOf
  rw [means, Option.bind_some, Instant.addSeconds?, Instant.ofParts?]
  split
  · exact .inl ⟨rfl, rfl⟩
  · rename_i outside
    exact .inr ⟨rfl, outside⟩

theorem Orderly.startOfDay_le_iff_of_shown (orderly : zone.Orderly)
    (shown : ¬ zone.SkipsMidnight date) (instant : Instant) :
    zone.startOfDay date ≤ instant ↔
      date.dayNumber * secondsPerDay ≤ instant.seconds + zone.offsetAt instant.seconds := by
  obtain ⟨offset, means⟩ := Option.ne_none_iff_exists'.mp shown
  rw [← orderly.midnight_le_iff means]
  rcases startOfDay_cases means with ⟨whole, isStart⟩ | ⟨isMidnight, outside⟩
  · rw [le_iff_of_whole whole, isStart]
  · -- Only the first day can start before the calendar does, and then every instant is later.
    rw [isMidnight, le_iff_of_whole rfl]
    have near := orderly.near
    have inRange := date.inRange
    have valid := instant.valid
    have small : -secondsPerDay < offset ∧ offset < secondsPerDay := by
      cases isRule : zone.daylight with
      | none =>
          simp only [offsetOfReading?, isRule, Option.some.injEq] at means
          rwa [← means]
      | some rule =>
          have west := orderly.west rule isRule
          have atReading := offsetOfReading?_of_rule isRule means
          simp only [daylightShift] at west atReading
          omega
    simp only [Instant.midnight, IsInstant, secondsPerDay, nanosPerSecond] at *
    omega

/-- A day with a midnight is not one whose midnight is skipped. -/
theorem ne_of_skips {other : Date} (skips : zone.SkipsMidnight date)
    (shown : ¬ zone.SkipsMidnight other) : date.dayNumber ≠ other.dayNumber :=
  fun same => shown (Date.eq_of_dayNumber same ▸ skips)

/-- A day has started exactly if the instant counts to it or to a later one. -/
theorem Orderly.startOfDay_le_iff (orderly : zone.Orderly) {counted : Date}
    (counts : zone.countedDay? instant = some counted) (date : Date) :
    zone.startOfDay date ≤ instant ↔ date ≤ counted := by
  have bounds := orderly.offsetAt_bounds instant.seconds
  have today : instant.date.dayNumber = instant.seconds / secondsPerDay := rfl
  have order : date ≤ counted ↔ date.dayNumber ≤ counted.dayNumber := Iff.rfl
  unfold countedDay? at counts
  rw [order]
  split at counts
  · rename_i skipsToday
    obtain rfl := Option.some.inj counts
    have behind := bounds.2 skipsToday.has_rule
    by_cases skips : zone.SkipsMidnight date
    · rw [startOfDay_of_skipped skips, le_iff_of_whole rfl, today]
      simp only [Instant.midnight, secondsPerDay]
      omega
    · have different := ne_of_skips skipsToday skips
      rw [orderly.startOfDay_le_iff_of_shown skips]
      simp only [secondsPerDay] at *
      omega
  · rename_i showsToday
    rw [dayNumber_of_dateAt? counts]
    by_cases skips : zone.SkipsMidnight date
    · have behind := bounds.2 skips.has_rule
      have different := ne_of_skips skips showsToday
      rw [startOfDay_of_skipped skips, le_iff_of_whole rfl]
      simp only [Instant.midnight, secondsPerDay] at *
      omega
    · rw [orderly.startOfDay_le_iff_of_shown skips]
      simp only [secondsPerDay]
      omega

theorem next?_eq_some_iff {next : Date} :
    date.next? = some next ↔ next.dayNumber = date.dayNumber + 1 := by
  have inRange := next.inRange
  unfold Date.next? Date.addDays? Date.ofDayNumber?
  constructor
  · intro isNext
    split at isNext
    · obtain rfl := Option.some.inj isNext
      rfl
    · cases isNext
  · intro follows
    rw [dif_pos (follows ▸ inRange)]
    exact congrArg some (Date.eq_of_dayNumber follows.symm)

theorem eq_last_of_next? (noNext : date.next? = none) : date = Date.last := by
  have inRange := date.inRange
  unfold Date.next? Date.addDays? Date.ofDayNumber? at noNext
  split at noNext
  · cases noNext
  · apply Date.eq_of_dayNumber
    simp only [Date.last]
    omega

/-- A day has not ended exactly if the instant counts to it or to an earlier one. The last day
ends with the last instant that no leap second follows. -/
theorem Orderly.lt_endOfDay_iff (orderly : zone.Orderly) {counted : Date}
    (counts : zone.countedDay? instant = some counted) (date : Date) :
    instant < zone.endOfDay date ↔
      counted ≤ date ∧ (date = Date.last → instant < Instant.last) := by
  have order : counted ≤ date ↔ counted.dayNumber ≤ date.dayNumber := Iff.rfl
  have inRange := counted.inRange
  rw [order]
  unfold endOfDay
  split
  · rename_i next isNext
    have follows := next?_eq_some_iff.mp isNext
    have nextInRange := next.inRange
    have notLast : date ≠ Date.last := by
      rintro rfl
      simp only [Date.last] at follows
      omega
    have notStarted : instant < zone.startOfDay next ↔ ¬ zone.startOfDay next ≤ instant :=
      Decidable.not_not.symm
    have nextOrder : next ≤ counted ↔ next.dayNumber ≤ counted.dayNumber := Iff.rfl
    rw [notStarted, orderly.startOfDay_le_iff counts, nextOrder]
    constructor
    · intro earlier
      exact ⟨by omega, fun isLast => absurd isLast notLast⟩
    · rintro ⟨earlier, -⟩
      omega
  · rename_i noNext
    obtain rfl := eq_last_of_next? noNext
    exact ⟨fun before => ⟨inRange.2, fun _ => before⟩, fun both => both.2 rfl⟩

end Zone

end Outliner.Calendar
