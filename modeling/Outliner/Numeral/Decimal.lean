/-!
Contract: decimal numerals of natural numbers, read and written.

Owns: runs of ASCII digits and their value, counts of 64 bits, and numerals
padded with zeros to a width.

Does not own: signed day offsets and fractions, which read such runs.
-/

namespace Outliner.Numeral

def isDigits (text : List Char) : Bool :=
  !text.isEmpty && text.all Char.isDigit

def ofDigits (digits : List Char) : Nat :=
  Nat.ofDigitChars 10 digits 0

/-- The shortest numeral of a number. -/
def digits (number : Nat) : List Char :=
  Nat.toDigits 10 number

/-- The numeral of a number with zeros in front up to a width. -/
def padded (width number : Nat) : List Char :=
  List.replicate (width - (digits number).length) '0' ++ digits number

/-- A numeral has the value of the number that it was written for. -/
theorem ofDigits_digits (number : Nat) : ofDigits (digits number) = number :=
  Nat.ofDigitChars_toDigits (by decide) (by decide)

theorem isDigits_digits (number : Nat) : isDigits (digits number) = true := by
  simp only [isDigits, digits, Bool.and_eq_true, Bool.not_eq_true', List.isEmpty_eq_false_iff,
    List.all_eq_true]
  exact ⟨Nat.toDigits_ne_nil, fun char member =>
    Nat.isDigit_of_mem_toDigits (by decide) (by decide) member⟩

theorem length_padded {width number : Nat} (positive : 0 < width)
    (fits : number < Nat.pow 10 width) : (padded width number).length = width := by
  have short := (Nat.length_toDigits_le_iff (b := 10) (n := number) (by decide) positive).mpr fits
  simp only [padded, digits, List.length_append, List.length_replicate]
  omega

theorem isDigit_of_mem_padded {width number : Nat} {char : Char}
    (member : char ∈ padded width number) : char.isDigit = true := by
  rcases List.mem_append.mp member with isZero | isDigit
  · rw [List.eq_of_mem_replicate isZero]
    rfl
  · exact Nat.isDigit_of_mem_toDigits (by decide) (by decide) isDigit

theorem ofDigits_padded (width number : Nat) : ofDigits (padded width number) = number := by
  unfold ofDigits padded
  rw [Nat.ofDigitChars_append, Nat.ofDigitChars_replicate_zero]
  exact ofDigits_digits number

/-- A padded numeral is not empty and starts with a digit. -/
theorem exists_padded (width number : Nat) :
    ∃ first more, padded width number = first :: more ∧ first.isDigit = true := by
  have notEmpty : padded width number ≠ [] := by
    simp [padded, digits, Nat.toDigits_ne_nil]
  obtain ⟨first, more, isPadded⟩ := List.exists_cons_of_ne_nil notEmpty
  exact ⟨first, more, isPadded, isDigit_of_mem_padded (isPadded ▸ List.mem_cons_self)⟩

/-- Counts are below this number, the 64th power of two. -/
def countLimit : Nat := 18446744073709551616

/-- Reads a count: digits, with one plus sign allowed in front. -/
def readCount (text : List Char) : Option Nat :=
  let numeral := match text with
    | '+' :: rest => rest
    | _ => text
  if isDigits numeral && ofDigits numeral < countLimit then some (ofDigits numeral) else none

end Outliner.Numeral
