import Outliner.Numeral.Decimal

/-!
Contract: decimal fractions rounded to 64-bit binary floating point, for the
sake of their order.

Owns: the written forms of a number, the rounding to the nearest double with
ties to the even one, and the partial order in which a NaN has no place.

Does not own: when two texts are compared as numbers.
-/

namespace Outliner.Numeral

/-- A double. A finite one is a whole multiple of `2 ^ (-1074)`, the least
positive double, and that multiple is what it holds; both zeros hold `0`. -/
inductive Binary64 where
  | notANumber
  | infinite (negative : Bool)
  | finite (units : Int)
deriving DecidableEq, Repr

namespace Binary64

/-- The quotient rounded to the nearest whole number, a half to the even one. -/
def divideToEven (numerator denominator : Nat) : Nat :=
  let quotient := numerator / denominator
  let twice := 2 * (numerator % denominator)
  if twice < denominator || (twice == denominator && quotient % 2 == 0) then quotient
  else quotient + 1

/-- A quotient rounded to 53 significant bits. -/
def roundTo53Bits (numerator denominator : Nat) : Nat :=
  let dropped := (numerator / denominator).log2 + 1 - 53
  divideToEven numerator (denominator * Nat.pow 2 dropped) * Nat.pow 2 dropped

/-- The double nearest to `mantissa * 10 ^ exponent`. -/
def ofDecimal (negative : Bool) (mantissa : Nat) (exponent : Int) : Binary64 :=
  let units :=
    if 0 ≤ exponent then roundTo53Bits (mantissa * Nat.pow 10 exponent.toNat * Nat.pow 2 1074) 1
    else roundTo53Bits (mantissa * Nat.pow 2 1074) (Nat.pow 10 (-exponent).toNat)
  if Nat.pow 2 (1024 + 1074) ≤ units then infinite negative
  else finite (if negative then -(units : Int) else units)

/-- The value of an exponent's digits. Digits after the value has reached
`2 ^ 16` no longer count: the power is out of range either way. -/
def exponentValue (numeral : List Char) : Nat :=
  numeral.foldl
    (fun value digit => if value < 0x10000 then 10 * value + (digit.toNat - '0'.toNat) else value) 0

def readExponent : List Char → Option Int
  | [] => some 0
  | mark :: rest =>
    if mark.toLower != 'e' then none
    else match rest with
      | '-' :: numeral => if isDigits numeral then some (-(exponentValue numeral : Int)) else none
      | '+' :: numeral => if isDigits numeral then some (exponentValue numeral) else none
      | numeral => if isDigits numeral then some (exponentValue numeral) else none

def splitFraction : List Char → List Char × List Char
  | '.' :: rest => (rest.takeWhile Char.isDigit, rest.dropWhile Char.isDigit)
  | text => ([], text)

def readMagnitude (negative : Bool) (text : List Char) : Option Binary64 :=
  let small := text.map Char.toLower
  if small == "inf".toList || small == "infinity".toList then some (infinite negative)
  else if small == "nan".toList then some notANumber
  else
    let whole := text.takeWhile Char.isDigit
    let (fraction, rest) := splitFraction (text.dropWhile Char.isDigit)
    if whole.isEmpty && fraction.isEmpty then none
    else (readExponent rest).map fun exponent =>
      ofDecimal negative (ofDigits (whole ++ fraction)) (exponent - fraction.length)

def read : List Char → Option Binary64
  | '-' :: rest => readMagnitude true rest
  | '+' :: rest => readMagnitude false rest
  | text => readMagnitude false text

/-- The order of two doubles; nothing compares with a NaN. -/
def compare? : Binary64 → Binary64 → Option Ordering
  | notANumber, _ => none
  | _, notANumber => none
  | infinite left, infinite right => some (Ord.compare right left)
  | infinite negative, finite _ => some (if negative then .lt else .gt)
  | finite _, infinite negative => some (if negative then .gt else .lt)
  | finite left, finite right => some (Ord.compare left right)

end Binary64

end Outliner.Numeral
