import Outliner.Calendar.Date

/-!
Contract: instants of universal time, to the nanosecond.

Owns: the type `Instant` with its order, its range (the days of the calendar)
and its leap seconds, and the written form with the shortest exact fraction.

A leap second belongs to the second before it: its nanoseconds go on counting
from one thousand million, and it is written as second 60.

Does not own: reading instants (`Calendar.Reading`), local time
(`Calendar.Zone`).
-/

namespace Outliner.Calendar

def secondsPerDay : Int := 86400

def nanosPerSecond : Nat := 1000000000

/-- Whether a second and its nanoseconds name an instant: the day exists, and
only the last second of a minute can be followed by a leap second. -/
def IsInstant (seconds : Int) (nanos : Nat) : Prop :=
  firstDay * secondsPerDay ≤ seconds ∧ seconds < (lastDay + 1) * secondsPerDay ∧
    (nanos < nanosPerSecond ∨ nanos < 2 * nanosPerSecond ∧ seconds % 60 = 59)

instance (seconds : Int) (nanos : Nat) : Decidable (IsInstant seconds nanos) := by
  unfold IsInstant
  infer_instance

/-- An instant, in seconds since 1970-01-01T00:00:00Z and nanoseconds. -/
structure Instant where
  seconds : Int
  nanos : Nat
  valid : IsInstant seconds nanos
deriving DecidableEq

namespace Instant

instance : LT Instant :=
  ⟨fun left right => left.seconds < right.seconds ∨
    left.seconds = right.seconds ∧ left.nanos < right.nanos⟩

instance : LE Instant := ⟨fun left right => ¬ right < left⟩

instance (left right : Instant) : Decidable (left < right) :=
  inferInstanceAs (Decidable (_ ∨ _))

instance (left right : Instant) : Decidable (left ≤ right) :=
  inferInstanceAs (Decidable (¬ _))

def ofParts? (seconds : Int) (nanos : Nat) : Option Instant :=
  if valid : IsInstant seconds nanos then some ⟨seconds, nanos, valid⟩ else none

theorem ofParts?_parts (instant : Instant) :
    ofParts? instant.seconds instant.nanos = some instant :=
  dif_pos instant.valid

/-- The instant some seconds later, or earlier if the number is negative. -/
def addSeconds? (instant : Instant) (seconds : Int) : Option Instant :=
  ofParts? (instant.seconds + seconds) instant.nanos

/-- Midnight at the start of a day, in universal time. -/
def midnight (date : Date) : Instant :=
  ⟨date.dayNumber * secondsPerDay, 0, by
    have inRange := date.inRange
    simp only [IsInstant, secondsPerDay, nanosPerSecond]
    omega⟩

/-- The last instant of the calendar that no leap second follows. -/
def last : Instant :=
  ⟨(lastDay + 1) * secondsPerDay - 1, nanosPerSecond - 1, by decide⟩

def date (instant : Instant) : Date :=
  ⟨instant.seconds / secondsPerDay, by
    have valid := instant.valid
    simp only [IsInstant, secondsPerDay, nanosPerSecond] at valid ⊢
    omega⟩

def secondOfDay (instant : Instant) : Nat :=
  (instant.seconds % secondsPerDay).toNat

/-- A fraction of a second with the fewest of 0, 3, 6 or 9 digits. -/
def writeFraction (nanos : Nat) : List Char :=
  if nanos == 0 then []
  else if nanos % 1000000 == 0 then '.' :: Numeral.padded 3 (nanos / 1000000)
  else if nanos % 1000 == 0 then '.' :: Numeral.padded 6 (nanos / 1000)
  else '.' :: Numeral.padded 9 nanos

/-- Hours, minutes and seconds of a day, with the fraction. A second whose
nanoseconds have run over is the leap second. -/
def writeTime (secondOfDay nanos : Nat) : List Char :=
  let second := secondOfDay % 60 + nanos / nanosPerSecond
  Numeral.padded 2 (secondOfDay / 3600) ++ [':'] ++
    Numeral.padded 2 (secondOfDay / 60 % 60) ++ [':'] ++ Numeral.padded 2 second ++
      writeFraction (nanos % nanosPerSecond)

/-- An instant in universal time, with the mark `Z`. -/
def write (instant : Instant) : List Char :=
  instant.date.write ++ ['T'] ++ writeTime instant.secondOfDay instant.nanos ++ ['Z']

end Instant

end Outliner.Calendar
