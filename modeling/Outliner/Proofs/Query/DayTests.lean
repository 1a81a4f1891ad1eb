import Outliner.Proofs.Calendar.LocalDay
import Outliner.Query.DayTest

/-!
Contract: which instants pass the test of a day.

Owns: that the test for equality asks for the day that an instant counts to, and where this is
another day than the local one.

The day that an instant counts to is its local day, except in the hours before a midnight that
the clock skips. The last instant of the calendar, and a leap second behind it, pass the test
of no day.

Main statement: `equal_iff_local_day`.

Does not own: when a local day starts and ends (`Proofs.Calendar.LocalDay`).
-/

namespace Outliner.Query.DayTest

open Outliner.Calendar

variable {zone : Zone} {test : DayTest} {today day date : Date} {instant : Instant}

/-- On a day that the calendar reaches, the test compares with the span of the day. -/
theorem holds_of_resolve (resolves : test.day.resolve today = some day) :
    test.holds zone today instant =
      holdsOfSpan test.sign (zone.startOfDay day) (zone.endOfDay day) instant := by
  rw [holds, resolves]

theorem holdsOfSpan_equal_iff {start stop : Instant} :
    holdsOfSpan .equal start stop instant = true ↔ start ≤ instant ∧ instant < stop := by
  simp only [holdsOfSpan, Bool.and_eq_true, decide_eq_true_eq]

/-- The test for equality asks for the day that an instant counts to. -/
theorem holds_equal_iff (orderly : zone.Orderly) (isEqual : test.sign = .equal)
    (resolves : test.day.resolve today = some day) {counted : Date}
    (counts : zone.countedDay? instant = some counted) :
    test.holds zone today instant = true ↔
      counted = day ∧ (day = Date.last → instant < Instant.last) := by
  rw [holds_of_resolve resolves, isEqual, holdsOfSpan_equal_iff, orderly.startOfDay_le_iff counts,
    orderly.lt_endOfDay_iff counts]
  constructor
  · rintro ⟨started, notEnded, beforeLast⟩
    exact ⟨Date.eq_of_dayNumber (Int.le_antisymm notEnded started), beforeLast⟩
  · rintro ⟨rfl, beforeLast⟩
    exact ⟨Int.le_refl _, Int.le_refl _, beforeLast⟩

/-- In every zone, the test for equality with a day passes for the instants whose local day it
is, with two exceptions: where the clock skips the midnight of a day, by going forward at that
midnight, all instants of that day in universal time count to it, and the last day ends with
its last instant. -/
theorem equal_iff_local_day {name : String} (isNamed : (name, zone) ∈ Zone.named)
    (isEqual : test.sign = .equal) (resolves : test.day.resolve today = some day)
    (isLocal : zone.dateAt? instant = some date) :
    (test.holds zone today instant = true ↔
      (if zone.SkipsMidnight instant.date then instant.date else date) = day ∧
        (day = Date.last → instant < Instant.last)) ∧
    (zone.SkipsMidnight instant.date → ∃ rule, zone.daylight = some rule ∧
      rule.start.reading (yearOf instant.date.dayNumber) =
        (Instant.midnight instant.date).seconds) ∧
    (¬ zone.SkipsMidnight instant.date → instant < Instant.last →
      (test.holds zone today instant = true ↔ date = day)) := by
  have orderly := named_orderly isNamed
  have counts : zone.countedDay? instant =
      some (if zone.SkipsMidnight instant.date then instant.date else date) := by
    unfold Zone.countedDay?
    rw [isLocal]
    split <;> rfl
  have exact := holds_equal_iff orderly isEqual resolves counts
  refine ⟨exact, orderly.exists_change_of_skips, fun shown beforeLast => ?_⟩
  rw [exact, if_neg shown]
  exact ⟨And.left, fun same => ⟨same, fun _ => beforeLast⟩⟩

/-- On the day on which the clock goes forward at two o'clock, the last second is four hours
behind universal time. -/
theorem equal_iff_local_day_short :
    let zone := Zone.northAmericanEastern
    let sunday : Date := ⟨19792, by decide⟩
    let test : DayTest := ⟨.equal, .fromToday (-1)⟩
    let today : Date := ⟨19793, by decide⟩
    let instant : Instant := ⟨1710129599, 0, by decide⟩
    ("EST5EDT,M3.2.0,M11.1.0", zone) ∈ Zone.named ∧ test.sign = .equal ∧
      Date.ofCivil? 2024 3 10 = some sunday ∧ test.day.resolve today = some sunday ∧
      zone.dateAt? instant = some sunday ∧ ¬ zone.SkipsMidnight instant.date ∧
      instant < Instant.last ∧ test.holds zone today instant = true := by
  intro zone sunday test today instant
  have isNamed : ("EST5EDT,M3.2.0,M11.1.0", zone) ∈ Zone.named := by simp [Zone.named, zone]
  have resolves : test.day.resolve today = some sunday := by decide +kernel
  have isLocal : zone.dateAt? instant = some sunday := by decide +kernel
  have shown : ¬ zone.SkipsMidnight instant.date := by decide +kernel
  have beforeLast : instant < Instant.last := by decide +kernel
  obtain ⟨-, -, agrees⟩ := equal_iff_local_day isNamed rfl resolves isLocal
  exact ⟨isNamed, rfl, by decide +kernel, resolves, isLocal, shown, beforeLast,
    (agrees shown beforeLast).mpr rfl⟩

/-- Where the clock goes forward at midnight, the last second of a Saturday passes the test of
the Sunday and fails that of the Saturday. -/
theorem equal_before_skipped_midnight :
    let zone := Zone.brazilian
    let saturday : Date := ⟨20015, by decide⟩
    let sunday : Date := ⟨20016, by decide⟩
    let instant : Instant := ⟨1729393199, 0, by decide⟩
    ("BRT3BRST,M10.3.0/0,M2.3.0/0", zone) ∈ Zone.named ∧
      Date.ofCivil? 2024 10 19 = some saturday ∧ Date.ofCivil? 2024 10 20 = some sunday ∧
      zone.dateAt? instant = some saturday ∧
      (DayTest.mk .equal (.on sunday)).holds zone sunday instant = true ∧
      (DayTest.mk .equal (.on saturday)).holds zone sunday instant = false := by
  intro zone saturday sunday instant
  refine ⟨by simp [Zone.named, zone], ?_⟩
  decide +kernel

end Outliner.Query.DayTest
