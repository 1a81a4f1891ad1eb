import Outliner.Proofs.Calendar.LocalDay

/-!
Contract: the days of a zone follow each other without a gap and without an overlap.

Owns: that the start of a later day is a later instant, also where the clock skips a midnight
and at both ends of the calendar, and that a day ends where the next one starts.

Main statements: `Orderly.startOfDay_lt`, `Orderly.startOfDay_lt_endOfDay`,
`Orderly.endOfDay_le_startOfDay`.

Does not own: which instants a day holds by the clock of its zone (`Proofs.Calendar.LocalDay`).
-/

namespace Outliner.Calendar

/-! ## The order of instants -/

namespace Instant

variable {first second third : Instant}

theorem lt_iff : first < second ↔ first.seconds < second.seconds ∨
    first.seconds = second.seconds ∧ first.nanos < second.nanos :=
  Iff.rfl

theorem le_iff : first ≤ second ↔ first.seconds < second.seconds ∨
    first.seconds = second.seconds ∧ first.nanos ≤ second.nanos := by
  have notBefore : first ≤ second ↔ ¬ second < first := Iff.rfl
  rw [notBefore, lt_iff]
  omega

theorem not_lt : ¬ first < second ↔ second ≤ first :=
  Iff.rfl

theorem not_le : ¬ first ≤ second ↔ second < first := by
  rw [le_iff, lt_iff]
  omega

theorem le_refl (instant : Instant) : instant ≤ instant :=
  le_iff.mpr (.inr ⟨rfl, Nat.le_refl _⟩)

theorem le_of_lt (before : first < second) : first ≤ second := by
  rw [lt_iff] at before
  rw [le_iff]
  omega

theorem lt_of_lt_of_le (before : first < second) (notAfter : second ≤ third) : first < third := by
  rw [lt_iff] at before ⊢
  rw [le_iff] at notAfter
  omega

theorem lt_trans (before : first < second) (further : second < third) : first < third :=
  lt_of_lt_of_le before (le_of_lt further)

end Instant

/-! ## Starts of days -/

namespace Zone

variable {zone : Zone} {date earlier later : Date} {rule : Daylight} {reading offset : Int}

theorem offsetOfReading?_of_fixed (fixed : zone.daylight = none) (reading : Int) :
    zone.offsetOfReading? reading = some zone.standard := by
  simp only [offsetOfReading?, fixed]

/-- Where there is daylight saving, the clock is behind universal time by less than a day. -/
theorem Orderly.offset_behind (orderly : zone.Orderly) (isRule : zone.daylight = some rule)
    (means : zone.offsetOfReading? reading = some offset) :
    -secondsPerDay < offset ∧ offset ≤ 0 := by
  have near := orderly.near
  have west := orderly.west rule isRule
  have atReading := offsetOfReading?_of_rule isRule means
  simp only [secondsPerDay, daylightShift] at *
  omega

/-- A day starts with a whole second. -/
theorem nanos_startOfDay (zone : Zone) (date : Date) : (zone.startOfDay date).nanos = 0 := by
  by_cases skips : zone.SkipsMidnight date
  · rw [startOfDay_of_skipped skips]
    rfl
  · obtain ⟨offset, means⟩ := Option.ne_none_iff_exists'.mp skips
    rcases startOfDay_cases means with ⟨whole, -⟩ | ⟨isMidnight, -⟩
    · exact whole
    · rw [isMidnight]
      rfl

/-- In a zone with daylight saving, a day starts during the same day in universal time. -/
theorem Orderly.startOfDay_behind (orderly : zone.Orderly) (isRule : zone.daylight = some rule)
    (date : Date) :
    date.dayNumber * secondsPerDay ≤ (zone.startOfDay date).seconds ∧
      (zone.startOfDay date).seconds < (date.dayNumber + 1) * secondsPerDay := by
  have midnight : (Instant.midnight date).seconds = date.dayNumber * secondsPerDay := rfl
  by_cases skips : zone.SkipsMidnight date
  · rw [startOfDay_of_skipped skips, midnight]
    simp only [secondsPerDay]
    omega
  · obtain ⟨offset, means⟩ := Option.ne_none_iff_exists'.mp skips
    have behind := orderly.offset_behind isRule means
    rcases startOfDay_cases means with ⟨-, isStart⟩ | ⟨isMidnight, -⟩
    · simp only [secondsPerDay] at *
      omega
    · rw [isMidnight, midnight]
      simp only [secondsPerDay]
      omega

/-- In a zone without daylight saving, all days start equally far from their midnights in
universal time, but for those whose start the calendar does not reach. -/
theorem startOfDay_of_fixed (fixed : zone.daylight = none) (date : Date) :
    (zone.startOfDay date).seconds = date.dayNumber * secondsPerDay - zone.standard ∨
      (zone.startOfDay date).seconds = date.dayNumber * secondsPerDay ∧
        ¬ IsInstant (date.dayNumber * secondsPerDay - zone.standard) 0 := by
  rcases startOfDay_cases (offsetOfReading?_of_fixed fixed _) with
    ⟨-, isStart⟩ | ⟨isMidnight, outside⟩
  · exact .inl isStart
  · exact .inr ⟨congrArg Instant.seconds isMidnight, outside⟩

/-- A later day starts later. -/
theorem Orderly.startOfDay_lt (orderly : zone.Orderly) (before : earlier < later) :
    zone.startOfDay earlier < zone.startOfDay later := by
  have before : earlier.dayNumber < later.dayNumber := before
  refine Instant.lt_iff.mpr (.inl ?_)
  cases isRule : zone.daylight with
  | some rule =>
      have first := orderly.startOfDay_behind isRule earlier
      have second := orderly.startOfDay_behind isRule later
      simp only [secondsPerDay] at first second
      omega
  | none =>
      -- A start that the calendar does not reach lies less than a day from the midnight that
      -- stands in for it, and the starts that are reached keep their distances.
      have near := orderly.near
      have first := startOfDay_of_fixed isRule earlier
      have second := startOfDay_of_fixed isRule later
      have validFirst := (zone.startOfDay earlier).valid
      have validSecond := (zone.startOfDay later).valid
      have firstInRange := earlier.inRange
      have secondInRange := later.inRange
      simp only [IsInstant, secondsPerDay, nanosPerSecond, firstDay, lastDay] at *
      omega

/-- Days start in the order of the calendar. -/
theorem Orderly.startOfDay_lt_iff (orderly : zone.Orderly) :
    zone.startOfDay earlier < zone.startOfDay later ↔ earlier < later := by
  refine ⟨fun before => ?_, orderly.startOfDay_lt⟩
  rcases Int.lt_trichotomy earlier.dayNumber later.dayNumber with earlier | same | after
  · exact earlier
  · obtain rfl := Date.eq_of_dayNumber same
    rw [Instant.lt_iff] at before
    omega
  · exact absurd before (Instant.not_lt.mpr (Instant.le_of_lt (orderly.startOfDay_lt after)))

/-! ## Ends of days -/

theorem endOfDay_of_next? {next : Date} (isNext : date.next? = some next) :
    zone.endOfDay date = zone.startOfDay next := by
  rw [endOfDay, isNext]

theorem endOfDay_of_last (noNext : date.next? = none) : zone.endOfDay date = Instant.last := by
  rw [endOfDay, noNext]

/-- No day is empty. -/
theorem Orderly.startOfDay_lt_endOfDay (orderly : zone.Orderly) (date : Date) :
    zone.startOfDay date < zone.endOfDay date := by
  cases isNext : date.next? with
  | some next =>
      have follows : date.dayNumber < next.dayNumber := by
        rw [next?_eq_some_iff.mp isNext]
        exact Int.lt_succ _
      rw [endOfDay_of_next? isNext]
      exact orderly.startOfDay_lt follows
  | none =>
      have valid := (zone.startOfDay date).valid
      rw [endOfDay_of_last isNext, Instant.lt_iff, nanos_startOfDay]
      simp only [Instant.last, IsInstant, nanosPerSecond] at *
      omega

/-- Every day before another one is followed by a day, which is not past that one. -/
theorem exists_next? (before : earlier < later) :
    ∃ next, earlier.next? = some next ∧ next ≤ later := by
  have before : earlier.dayNumber < later.dayNumber := before
  have firstInRange := earlier.inRange
  have secondInRange := later.inRange
  exact ⟨⟨earlier.dayNumber + 1, by omega⟩, next?_eq_some_iff.mpr rfl, before⟩

/-- A day has ended where a later one starts. -/
theorem Orderly.endOfDay_le_startOfDay (orderly : zone.Orderly) (before : earlier < later) :
    zone.endOfDay earlier ≤ zone.startOfDay later := by
  obtain ⟨next, isNext, notLater⟩ := exists_next? before
  have notLater : next.dayNumber ≤ later.dayNumber := notLater
  rw [endOfDay_of_next? isNext, ← Instant.not_lt, orderly.startOfDay_lt_iff]
  exact Int.not_lt.mpr notLater

end Zone

end Outliner.Calendar
