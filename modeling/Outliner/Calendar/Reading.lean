import Outliner.Calendar.Zone
import Outliner.Text.Blank

/-!
Contract: the texts that name a day or an instant.

Owns: the plain day `YYYY-MM-DD`; the strict and the relaxed form of an instant
with an offset; the local date and time without an offset; and the reading of
an attribute's value, which accepts each of these but the relaxed form.

Does not own: writing days and instants, and days relative to another day.
-/

namespace Outliner.Calendar

open Outliner.Text

/-- A reader takes a value off the front of a text, or refuses. -/
abbrev Reader (α : Type) := StateT (List Char) Option α

namespace Reader

def char (expected : Char) : Reader Unit := fun text =>
  match text with
  | first :: rest => if first = expected then some ((), rest) else none
  | [] => none

def oneOf (accepts : Char → Bool) : Reader Unit := fun text =>
  match text with
  | first :: rest => if accepts first then some ((), rest) else none
  | [] => none

def blanks : Reader Unit := fun text => some ((), trimStart text)

def number (least most : Nat) : Reader Nat := fun text =>
  let numeral := (text.take most).takeWhile Char.isDigit
  if numeral.length < least then none
  else some (Numeral.ofDigits numeral, text.drop numeral.length)

def longNumber : Reader Nat := fun text =>
  let numeral := text.takeWhile Char.isDigit
  if numeral.isEmpty then none
  else some (Numeral.ofDigits numeral, text.drop numeral.length)

def spacedNumber (most : Nat) : Reader Nat := do
  blanks
  number 1 most

/-- Takes a year: up to four digits, or a sign and any number of digits. Blanks
may come before it. -/
def spacedYear : Reader Int := do
  blanks
  fun text => match text with
    | '-' :: rest => (longNumber rest).map fun (year, rest) => (-(year : Int), rest)
    | '+' :: rest => (longNumber rest).map fun (year, rest) => ((year : Int), rest)
    | _ => (number 1 4 text).map fun (year, rest) => ((year : Int), rest)

/-- Takes the fraction of a second, if there is one: a point and digits, of
which the first nine count. -/
def fraction : Reader Nat := fun text =>
  match text with
  | '.' :: rest =>
    let numeral := (rest.take 9).takeWhile Char.isDigit
    if numeral.isEmpty then none
    else some (Numeral.ofDigits numeral * Nat.pow 10 (9 - numeral.length),
      rest.dropWhile Char.isDigit)
  | _ => some (0, text)

/-- Takes the offset of a zone in seconds: `Z`, or a sign, two digits of hours,
a separator and two digits of minutes. -/
def offset (separator : Reader Unit) : Reader Int := fun text =>
  match text with
  | [] => none
  | sign :: rest =>
    if sign == 'Z' || sign == 'z' then some (0, rest)
    else if sign == '+' || sign == '-' || sign == '−' then
      (do let hours ← number 2 2
          separator
          let minutes ← number 2 2
          if minutes < 60 then
            let seconds : Int := hours * 3600 + minutes * 60
            pure (if sign == '+' then seconds else -seconds)
          else failure : Reader Int) rest
    else none

/-- Runs a reader that must take the whole text. -/
def whole {α : Type} (reader : Reader α) (text : List Char) : Option α :=
  match reader text with
  | some (value, []) => some value
  | _ => none

end Reader

/-- The reading of a clock, from its fields. Second 60 is a leap second. -/
def wallTime? (date : Date) (hour minute second nanos : Nat) : Option WallTime :=
  if hour < 24 && minute < 60 && second ≤ 60 then
    let time := hour * 3600 + minute * 60 + min second 59
    Instant.ofParts? (date.dayNumber * secondsPerDay + time)
      (nanos + if second == 60 then nanosPerSecond else 0)
  else none

/-- Reads `YYYY-MM-DD`, ten characters in all. -/
def readDay (text : List Char) : Option Date :=
  match text with
  | [y₁, y₂, y₃, y₄, '-', m₁, m₂, '-', d₁, d₂] =>
    if [y₁, y₂, y₃, y₄, m₁, m₂, d₁, d₂].all Char.isDigit then
      Date.ofCivil? (Numeral.ofDigits [y₁, y₂, y₃, y₄]) (Numeral.ofDigits [m₁, m₂])
        (Numeral.ofDigits [d₁, d₂])
    else none
  | _ => none

open Reader in
/-- Reads the strict form of an instant: every field at its full width, one
separator before the time, and an offset. -/
def readStrictInstant : List Char → Option Instant :=
  whole do
    let year ← number 4 4
    char '-'
    let month ← number 2 2
    char '-'
    let day ← number 2 2
    oneOf (fun mark => mark == 'T' || mark == 't' || mark == ' ')
    let hour ← number 2 2
    char ':'
    let minute ← number 2 2
    char ':'
    let second ← number 2 2
    let nanos ← fraction
    let offset ← offset (char ':')
    let date ← Date.ofCivil? year month day
    let reading ← wallTime? date hour minute second nanos
    if offset.natAbs < 86400 then reading.addSeconds? (-offset) else failure

open Reader in
/-- Takes a date whose fields may have blanks around them and fewer digits. -/
def spacedDate : Reader (Option Date) := do
  let year ← spacedYear
  blanks
  char '-'
  let month ← spacedNumber 2
  blanks
  char '-'
  let day ← spacedNumber 2
  pure (Date.ofCivil? year month day)

open Reader in
/-- Reads the relaxed form of an instant: blanks may stand between the fields,
the year may be signed, and the offset may be the letters `UTC`. -/
def readInstant : List Char → Option Instant :=
  whole do
    let date ← spacedDate
    oneOf (fun mark => mark == 'T' || mark == 't' || mark == ' ')
    let hour ← spacedNumber 2
    blanks
    char ':'
    let minute ← spacedNumber 2
    blanks
    char ':'
    let second ← spacedNumber 2
    let nanos ← fraction
    blanks
    let offset ← fun text => match text with
      | u :: t :: c :: rest =>
        if [u, t, c].map Char.toLower == ['u', 't', 'c'] then some (0, rest)
        else offset separators text
      | _ => offset separators text
    blanks
    let date ← date
    let reading ← wallTime? date hour minute second nanos
    if offset.natAbs < 86400 then reading.addSeconds? (-offset) else failure
where
  separators : Reader Unit := fun text =>
    some ((), text.dropWhile fun char => char == ':' || isBlank char)

/-- What stands between the date and the time of a local reading. -/
inductive TimeMark where
  | letter
  | blank
deriving DecidableEq, Repr

open Reader in
/-- Reads a local date and time without an offset. Numbers may have blanks
before them and fewer digits. -/
def readWallTime (mark : TimeMark) (withSeconds : Bool) : List Char → Option WallTime :=
  whole do
    let year ← spacedYear
    char '-'
    let month ← spacedNumber 2
    char '-'
    let day ← spacedNumber 2
    match mark with
    | .letter => char 'T'
    | .blank => blanks
    let hour ← spacedNumber 2
    char ':'
    let minute ← spacedNumber 2
    let second ← if withSeconds then do
        char ':'
        spacedNumber 2
      else pure 0
    let date ← Date.ofCivil? year month day
    wallTime? date hour minute second 0

/-- Reads an attribute's value as an instant: the strict form, a local date and
time, or a plain day, which stands for the start of that local day. -/
def readAttributeInstant (zone : Zone) (value : List Char) : Option Instant :=
  let text := trim value
  let localTime := readWallTime .letter true text
    <|> readWallTime .letter false text
    <|> readWallTime .blank true text
    <|> readWallTime .blank false text
  readStrictInstant text
    <|> localTime.map zone.instantOf
    <|> (readDay text).map zone.startOfDay

end Outliner.Calendar
