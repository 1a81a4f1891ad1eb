import Mathlib.Data.List.TakeWhile
import Outliner.Proofs.Calendar.WrittenDays

/-!
Contract: instants that are written are read back.

Owns: that the relaxed form of an instant takes every written day, whatever its year, and every
written time of a day, with its fraction and its leap second.

The strict form does not: it takes no signed year, so instants are saved for the relaxed form only.

Main statement: `readInstant_write`.

Does not own: days and local readings (`Proofs.Calendar.WrittenDays`).
-/

namespace Outliner.Calendar

open Outliner.Text Outliner.Numeral

/-! ## Days of any year -/

namespace Reader

variable {stop : Char}

theorem longNumber_padded (notDigit : stop.isDigit = false) (width number : Nat)
    (rest : List Char) :
    longNumber (padded width number ++ stop :: rest) = some (number, stop :: rest) := by
  have taken : (padded width number ++ stop :: rest).takeWhile Char.isDigit =
      padded width number := by
    rw [List.takeWhile_append_of_pos fun _ => isDigit_of_mem_padded,
      List.takeWhile_cons_of_neg (by simp [notDigit]), List.append_nil]
  have notEmpty : (padded width number).isEmpty = false := by
    obtain ⟨first, more, isPadded, -⟩ := exists_padded width number
    rw [isPadded, List.isEmpty_cons]
  unfold longNumber
  simp only [taken, notEmpty, List.drop_left, ofDigits_padded, Bool.false_eq_true, if_false]

theorem spacedYear_minus (text : List Char) :
    spacedYear ('-' :: text) = (longNumber text).map fun (year, rest) => (-(year : Int), rest) :=
  rfl

theorem spacedYear_plus (text : List Char) :
    spacedYear ('+' :: text) = (longNumber text).map fun (year, rest) => ((year : Int), rest) :=
  rfl

/-- A written year is read back up to the hyphen behind it. -/
theorem spacedYear_writeYear (year : Int) (rest : List Char) :
    spacedYear (writeYear year ++ '-' :: rest) = some (year, '-' :: rest) := by
  have number := @longNumber_padded '-' rfl 4 year.natAbs rest
  unfold writeYear
  split
  · rename_i isPlain
    simp only [Bool.and_eq_true, decide_eq_true_eq] at isPlain
    rw [spacedYear_padded (by omega), Int.toNat_of_nonneg isPlain.1]
  · split
    · rename_i negative
      have isYear : -(year.natAbs : Int) = year := by omega
      simp only [List.cons_append, spacedYear_minus, number, Option.map_some, isYear]
    · rename_i notNegative
      have isYear : (year.natAbs : Int) = year := by omega
      simp only [List.cons_append, spacedYear_plus, number, Option.map_some, isYear]

/-- A date is read back, whatever is behind it. -/
theorem spacedDate_write (date : Date) (rest : List Char) :
    spacedDate (date.write ++ rest) = some (some date, rest) := by
  have shape : date.write ++ rest = writeYear date.year ++ '-' :: (padded 2 date.month ++
      '-' :: (padded 2 date.day ++ rest)) := by
    simp only [Date.write, List.append_assoc, List.cons_append, List.nil_append]
  unfold spacedDate
  rw [shape, bind_of_reads (spacedYear_writeYear date.year _), bind_of_reads (blanks_cons rfl _),
    bind_of_reads (char_cons '-' _), bind_of_reads (spacedNumber_padded date.month_fits _),
    bind_of_reads (blanks_cons rfl _), bind_of_reads (char_cons '-' _),
    bind_of_reads (spacedNumber_padded date.day_fits _), Date.ofCivil?_civil]
  rfl

/-! ## Fractions -/

/-- A fraction of at most nine digits is read as its nanoseconds. -/
theorem fraction_point {numeral : List Char} (areDigits : ∀ char ∈ numeral, char.isDigit = true)
    (notEmpty : numeral ≠ []) (short : numeral.length ≤ 9) (notDigit : stop.isDigit = false)
    (rest : List Char) :
    fraction ('.' :: (numeral ++ stop :: rest)) =
      some (ofDigits numeral * Nat.pow 10 (9 - numeral.length), stop :: rest) := by
  have stops : ((stop :: rest).take (9 - numeral.length)).takeWhile Char.isDigit = [] := by
    cases 9 - numeral.length with
    | zero => rfl
    | succ more => rw [List.take_succ_cons, List.takeWhile_cons_of_neg (by simp [notDigit])]
  have taken : ((numeral ++ stop :: rest).take 9).takeWhile Char.isDigit = numeral := by
    rw [List.take_append, List.take_of_length_le short, List.takeWhile_append_of_pos areDigits,
      stops, List.append_nil]
  have left : (numeral ++ stop :: rest).dropWhile Char.isDigit = stop :: rest := by
    rw [List.dropWhile_append_of_pos areDigits, List.dropWhile_cons_of_neg (by simp [notDigit])]
  unfold fraction
  simp only [taken, left, List.isEmpty_eq_false_iff.mpr notEmpty, Bool.false_eq_true, if_false]

/-- A fraction of up to nine digits is read as that many nanoseconds. -/
theorem fraction_padded {width value : Nat} (positive : 0 < width) (short : width ≤ 9)
    (fits : value < Nat.pow 10 width) (notDigit : stop.isDigit = false) (rest : List Char) :
    fraction ('.' :: (padded width value ++ stop :: rest)) =
      some (value * Nat.pow 10 (9 - width), stop :: rest) := by
  have length := length_padded positive fits
  have notEmpty : padded width value ≠ [] := by
    rw [← List.length_pos_iff, length]
    exact positive
  rw [fraction_point (fun _ => isDigit_of_mem_padded) notEmpty (length.symm ▸ short) notDigit,
    length, ofDigits_padded]

/-- The fraction is written with as few digits as are exact. -/
theorem fraction_writeFraction {nanos : Nat} (isFraction : nanos < nanosPerSecond)
    (rest : List Char) :
    fraction (Instant.writeFraction nanos ++ 'Z' :: rest) = some (nanos, 'Z' :: rest) := by
  unfold nanosPerSecond at isFraction
  unfold Instant.writeFraction
  split
  · rename_i isZero
    rw [beq_iff_eq.mp isZero]
    rfl
  · split
    · rename_i isMilli
      have whole : nanos / 1000000 * Nat.pow 10 (9 - 3) = nanos :=
        Nat.div_mul_cancel (Nat.dvd_of_mod_eq_zero (beq_iff_eq.mp isMilli))
      rw [List.cons_append, fraction_padded (by decide) (by decide)
        (show nanos / 1000000 < 1000 by omega) rfl, whole]
    · split
      · rename_i isMicro
        have whole : nanos / 1000 * Nat.pow 10 (9 - 6) = nanos :=
          Nat.div_mul_cancel (Nat.dvd_of_mod_eq_zero (beq_iff_eq.mp isMicro))
        rw [List.cons_append, fraction_padded (by decide) (by decide)
          (show nanos / 1000 < 1000000 by omega) rfl, whole]
      · rw [List.cons_append, fraction_padded (by decide) (by decide)
          (show nanos < 1000000000 from isFraction) rfl]
        exact congrArg some (Prod.ext (Nat.mul_one _) rfl)

end Reader

/-! ## Instants -/

open Reader

theorem Instant.secondOfDay_lt (instant : Instant) : instant.secondOfDay < 86400 := by
  unfold secondOfDay secondsPerDay
  omega

/-- The fields that are written of an instant name it again. A leap second is written as second
60, and the second before it is the last one of its minute. -/
theorem Instant.wallTime?_fields (instant : Instant) :
    wallTime? instant.date (instant.secondOfDay / 3600) (instant.secondOfDay / 60 % 60)
        (instant.secondOfDay % 60 + instant.nanos / nanosPerSecond)
        (instant.nanos % nanosPerSecond) = some instant := by
  have upper := instant.secondOfDay_lt
  have isSecondOfDay : (instant.secondOfDay : Int) = instant.seconds % 86400 := by
    unfold secondOfDay secondsPerDay
    omega
  have nanosFit := instant.valid.2.2
  unfold nanosPerSecond at *
  have inDay : instant.secondOfDay / 3600 < 24 ∧ instant.secondOfDay / 60 % 60 < 60 ∧
      instant.secondOfDay % 60 + instant.nanos / 1000000000 ≤ 60 := by
    omega
  have isNanos : instant.nanos % 1000000000 +
      (if instant.secondOfDay % 60 + instant.nanos / 1000000000 == 60 then 1000000000 else 0) =
        instant.nanos := by
    simp only [beq_iff_eq]
    split <;> omega
  have isSecond : instant.date.dayNumber * secondsPerDay +
      ((instant.secondOfDay / 3600 * 3600 + instant.secondOfDay / 60 % 60 * 60 +
        min (instant.secondOfDay % 60 + instant.nanos / 1000000000) 59 : Nat) : Int) =
          instant.seconds := by
    simp only [date, secondsPerDay]
    omega
  unfold wallTime?
  rw [if_pos (by simp [inDay])]
  dsimp only
  unfold nanosPerSecond
  rw [isNanos, isSecond, ofParts?_parts]

/-- Instants are read back from the form in which they are written. -/
theorem readInstant_write (instant : Instant) : readInstant instant.write = some instant := by
  have upper := instant.secondOfDay_lt
  have nanosFit := instant.valid.2.2
  unfold nanosPerSecond at nanosFit
  have hourFits : instant.secondOfDay / 3600 < 100 := by omega
  have minuteFits : instant.secondOfDay / 60 % 60 < 100 := by omega
  have secondFits : instant.secondOfDay % 60 + instant.nanos / nanosPerSecond < 100 := by
    unfold nanosPerSecond
    omega
  have isFraction : instant.nanos % nanosPerSecond < nanosPerSecond :=
    Nat.mod_lt _ (by decide)
  have shape : instant.write = instant.date.write ++ 'T' ::
      (padded 2 (instant.secondOfDay / 3600) ++ ':' ::
        (padded 2 (instant.secondOfDay / 60 % 60) ++ ':' ::
          (padded 2 (instant.secondOfDay % 60 + instant.nanos / nanosPerSecond) ++
            (Instant.writeFraction (instant.nanos % nanosPerSecond) ++ ['Z'])))) := by
    simp only [Instant.write, Instant.writeTime, List.append_assoc, List.cons_append,
      List.nil_append]
  have isMark (rest : List Char) : oneOf (fun mark => mark == 'T' || mark == 't' || mark == ' ')
      ('T' :: rest) = some ((), rest) := rfl
  unfold readInstant whole
  rw [shape, bind_of_reads (spacedDate_write _ _), bind_of_reads (isMark _),
    bind_of_reads (spacedNumber_padded hourFits _), bind_of_reads (blanks_cons rfl _),
    bind_of_reads (char_cons ':' _), bind_of_reads (spacedNumber_padded minuteFits _),
    bind_of_reads (blanks_cons rfl _), bind_of_reads (char_cons ':' _),
    bind_of_reads (spacedNumber_padded secondFits _),
    bind_of_reads (fraction_writeFraction isFraction []), bind_of_reads (blanks_cons rfl _)]
  have isOffset : offset readInstant.separators ['Z'] = some (0, []) := rfl
  have noBlanks : blanks [] = some ((), []) := rfl
  have isInstant : instant.addSeconds? (-0) = some instant := by
    rw [Instant.addSeconds?, Int.neg_zero, Int.add_zero, Instant.ofParts?_parts]
  simp only [bind_apply, isOffset, noBlanks, Option.bind_some, lift_apply, Option.map_some,
    instant.wallTime?_fields]
  rw [if_pos (by decide), lift_apply, isInstant]
  rfl

end Outliner.Calendar
