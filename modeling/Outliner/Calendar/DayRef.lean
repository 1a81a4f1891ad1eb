import Outliner.Calendar.Reading

/-!
Contract: days named by themselves or by their distance from today.

Owns: the two written forms, `YYYY-MM-DD` and a signed number of days with the
letter `d`, and the day that is meant once today is known.

Does not own: comparing instants with a day (`Query.DayTest`).
-/

namespace Outliner.Calendar

open Outliner.Text

/-- A day, or a number of days from today. -/
inductive DayRef where
  | on (date : Date)
  | fromToday (days : Int)
deriving DecidableEq

namespace DayRef

/-- No distance from today is longer than this many days. -/
def farthest : Nat := 9223372036854775807

/-- Reads a distance: a sign, digits and the letter `d` in either case. -/
def readDistance : List Char → Option Int
  | sign :: rest =>
    let numeral := rest.dropLast
    if (sign == '+' || sign == '-') && (rest.getLast? == some 'd' || rest.getLast? == some 'D') &&
        Numeral.isDigits numeral && Numeral.ofDigits numeral ≤ farthest then
      let days : Int := Numeral.ofDigits numeral
      some (if sign == '+' then days else -days)
    else none
  | [] => none

/-- Reads either form. Blanks around it are dropped. -/
def read (text : List Char) : Option DayRef :=
  let text := trim text
  (readDistance text).map fromToday <|> (readDay text).map on

/-- The day that is meant, if the calendar reaches it. -/
def resolve (today : Date) : DayRef → Option Date
  | on date => some date
  | fromToday days => today.addDays? days

def write : DayRef → List Char
  | on date => date.write
  | fromToday days => (if days < 0 then '-' else '+') :: Numeral.digits days.natAbs ++ ['d']

end DayRef

end Outliner.Calendar
