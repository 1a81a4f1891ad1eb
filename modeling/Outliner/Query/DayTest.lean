import Outliner.Calendar.DayRef
import Outliner.Query.Comparison

/-!
Contract: comparing an instant with a local day.

Owns: the test of a comparison sign against the bounds of the day, and its
written form.

Does not own: which instant of a node is tested.
-/

namespace Outliner.Query

open Outliner.Calendar

structure DayTest where
  sign : Comparison
  day : DayRef
deriving DecidableEq

namespace DayTest

/-- Compares an instant with the span from the start of a day to its end. -/
def holdsOfSpan (sign : Comparison) (start stop instant : Instant) : Bool :=
  match sign with
  | .equal => start ≤ instant && instant < stop
  | .notEqual => !(start ≤ instant && instant < stop)
  | .less => instant < start
  | .lessOrEqual => instant < stop
  | .greater => stop ≤ instant
  | .greaterOrEqual => start ≤ instant

/-- Whether an instant passes the test. No instant passes when the calendar does
not reach the day, whatever the sign. -/
def holds (test : DayTest) (zone : Zone) (today : Date) (instant : Instant) : Bool :=
  match test.day.resolve today with
  | some day => holdsOfSpan test.sign (zone.startOfDay day) (zone.endOfDay day) instant
  | none => false

def write (test : DayTest) : List Char :=
  test.sign.spelling.toList ++ test.day.write

end DayTest

end Outliner.Query
