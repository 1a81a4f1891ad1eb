/-!
Contract: hexadecimal numerals of a fixed width.

Owns: the value of a digit in either case, the value of a numeral, and the
numeral with small letters that has a given width.

Does not own: what the numerals stand for (identifiers, escapes).
-/

namespace Outliner.Numeral

def hexDigit? (char : Char) : Option Nat :=
  let code := char.toNat
  if char.isDigit then some (code - '0'.toNat)
  else if 'a'.toNat ≤ code ∧ code ≤ 'f'.toNat then some (code - 'a'.toNat + 10)
  else if 'A'.toNat ≤ code ∧ code ≤ 'F'.toNat then some (code - 'A'.toNat + 10)
  else none

/-- The value of a numeral read after another one with value `value`. -/
def ofHexFrom? (value : Nat) : List Char → Option Nat
  | [] => some value
  | char :: rest => (hexDigit? char).bind fun digit => ofHexFrom? (16 * value + digit) rest

def ofHex? (numeral : List Char) : Option Nat :=
  ofHexFrom? 0 numeral

def hexDigits : Nat → Nat → List Char
  | 0, _ => []
  | width + 1, number => hexDigits width (number / 16) ++ [Nat.digitChar (number % 16)]

theorem length_hexDigits (width number : Nat) : (hexDigits width number).length = width := by
  induction width generalizing number with
  | zero => rfl
  | succ width inductionHypothesis => simp [hexDigits, inductionHypothesis]

theorem hexDigit?_digitChar {digit : Nat} (small : digit < 16) :
    hexDigit? (Nat.digitChar digit) = some digit := by
  have check : ∀ digit : Fin 16, hexDigit? (Nat.digitChar digit) = some digit.val := by
    decide
  exact check ⟨digit, small⟩

/-- A numeral can be read in two parts, the second from the value of the first. -/
theorem ofHexFrom?_append (value : Nat) (left right : List Char) :
    ofHexFrom? value (left ++ right) =
      (ofHexFrom? value left).bind fun middle => ofHexFrom? middle right := by
  induction left generalizing value with
  | nil => rfl
  | cons head rest inductionHypothesis =>
      simp only [List.cons_append, ofHexFrom?]
      cases hexDigit? head with
      | none => rfl
      | some digit => exact inductionHypothesis _

/-- A numeral wide enough for its number is read as that number. -/
theorem ofHex?_hexDigits {width number : Nat} (fits : number < Nat.pow 16 width) :
    ofHex? (hexDigits width number) = some number := by
  unfold ofHex?
  induction width generalizing number with
  | zero =>
      have fits : number = 0 := Nat.lt_one_iff.mp fits
      simp [hexDigits, ofHexFrom?, fits]
  | succ width inductionHypothesis =>
      have fitsRest : number / 16 < Nat.pow 16 width :=
        Nat.div_lt_of_lt_mul (by rw [Nat.mul_comm]; exact fits)
      rw [hexDigits, ofHexFrom?_append, inductionHypothesis fitsRest]
      simp only [Option.bind_some, ofHexFrom?, hexDigit?_digitChar (Nat.mod_lt number (by decide))]
      congr 1
      omega

end Outliner.Numeral
