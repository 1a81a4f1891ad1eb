import Outliner.Calendar.Instant

/-!
Contract: local time zones with one fixed offset, or with a yearly rule for
daylight saving.

Owns: the offset that holds at an instant, the offset that a wall clock's
reading means, and both conversions. A reading that the clock skips has no
offset and is taken as universal time, and so is one whose instant would lie
outside the calendar. A reading that occurs twice means standard time.

Does not own: which zone a program runs in.
-/

namespace Outliner.Calendar

/-- A yearly change of the clock: the hour of the n-th Sunday of a month, by the
clock that is about to change. -/
structure Changeover where
  month : Nat
  sunday : Nat
  hour : Int
deriving DecidableEq, Repr

/-- Daylight saving: the clock goes forward by one hour between two changes of
each year. -/
structure Daylight where
  start : Changeover
  stop : Changeover
deriving DecidableEq, Repr

/-- A time zone; offsets are seconds of local time ahead of universal time. -/
structure Zone where
  standard : Int
  daylight : Option Daylight
deriving DecidableEq, Repr

/-- A reading of a wall clock, held as the instant at which a clock on
universal time shows the same. -/
abbrev WallTime := Instant

/-- Seconds by which daylight saving moves the clock. -/
def daylightShift : Int := 3600

/-- The reading of the clock at a change in a given year, in seconds. -/
def Changeover.reading (change : Changeover) (year : Int) : Int :=
  let monthStart := yearStart year + totalLength ((monthLengths year).take (change.month - 1))
  let weekday := (monthStart + 4) % 7
  let sunday := monthStart + (7 - weekday) % 7 + 7 * ((change.sunday : Int) - 1)
  sunday * secondsPerDay + change.hour * 3600

namespace Zone

/-- The offset at an instant, given in seconds of universal time. -/
def offsetAt (zone : Zone) (seconds : Int) : Int :=
  match zone.daylight with
  | none => zone.standard
  | some rule =>
    let year := yearOf (seconds / secondsPerDay)
    let start := rule.start.reading year - zone.standard
    let stop := rule.stop.reading year - (zone.standard + daylightShift)
    let saving :=
      if start < stop then start ≤ seconds && seconds < stop
      else seconds < stop || start ≤ seconds
    if saving then zone.standard + daylightShift else zone.standard

/-- The offset that a reading of the clock means, if it means one. -/
def offsetOfReading? (zone : Zone) (seconds : Int) : Option Int :=
  match zone.daylight with
  | none => some zone.standard
  | some rule =>
    let year := yearOf (seconds / secondsPerDay)
    let start := rule.start.reading year
    let stop := rule.stop.reading year
    if start < stop then
      if seconds ≤ start then some zone.standard
      else if seconds < start + daylightShift then none
      else if seconds < stop - daylightShift then some (zone.standard + daylightShift)
      else some zone.standard
    else
      if seconds < stop - daylightShift then some (zone.standard + daylightShift)
      else if seconds < start then some zone.standard
      else if seconds < start + daylightShift then none
      else some (zone.standard + daylightShift)

def instantOf (zone : Zone) (reading : WallTime) : Instant :=
  ((zone.offsetOfReading? reading.seconds).bind fun offset =>
    reading.addSeconds? (-offset)).getD reading

/-- The local day of an instant, if it lies inside the calendar. -/
def dateAt? (zone : Zone) (instant : Instant) : Option Date :=
  (instant.addSeconds? (zone.offsetAt instant.seconds)).map Instant.date

/-- The local day of an instant; its day in universal time where the local one
lies outside the calendar. -/
def dateAt (zone : Zone) (instant : Instant) : Date :=
  (zone.dateAt? instant).getD instant.date

def startOfDay (zone : Zone) (date : Date) : Instant :=
  zone.instantOf (Instant.midnight date)

def endOfDay (zone : Zone) (date : Date) : Instant :=
  match date.next? with
  | some next => zone.startOfDay next
  | none => Instant.last

def universal : Zone := ⟨0, none⟩

/-- India: five and a half hours ahead. -/
def indian : Zone := ⟨19800, none⟩

/-- The Pacific coast of North America, without daylight saving. -/
def pacificStandard : Zone := ⟨-28800, none⟩

/-- The east of North America: daylight saving from the second Sunday of March
to the first Sunday of November, both at two o'clock. -/
def northAmericanEastern : Zone := ⟨-18000, some ⟨⟨3, 2, 2⟩, ⟨11, 1, 2⟩⟩⟩

/-- The south-east of Brazil: daylight saving from the third Sunday of October
to the third Sunday of February, both at midnight. -/
def brazilian : Zone := ⟨-10800, some ⟨⟨10, 3, 0⟩, ⟨2, 3, 0⟩⟩⟩

/-- The zones a program can run in, by the names that select them. -/
def named : List (String × Zone) :=
  [("UTC0", universal), ("IST-5:30", indian), ("PST8", pacificStandard),
    ("EST5EDT,M3.2.0,M11.1.0", northAmericanEastern),
    ("BRT3BRST,M10.3.0/0,M2.3.0/0", brazilian)]

def ofName? (name : String) : Option Zone :=
  named.lookup name

end Zone

end Outliner.Calendar
