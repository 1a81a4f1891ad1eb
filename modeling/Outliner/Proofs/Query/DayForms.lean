import Mathlib.Algebra.Ring.Int.Defs
import Outliner.Proofs.Calendar.CivilDays
import Outliner.Proofs.Calendar.WrittenDays
import Outliner.Query.DayTest

/-!
Contract: the texts that name a day in a query.

Owns: the two written forms of a day, which texts have them and what they mean; that no text has
both; and that a day which was read is written in a form that is read as the same day, alone and
behind a comparison sign.

Main statements: `readDistance_eq_some_iff`, `readDay_eq_some_iff`, `DayRef.reads_exactly_forms`.

Does not own: the day that is meant once today is known (`Calendar.DayRef`).
-/

namespace Outliner.Calendar

open Outliner.Query Outliner.Text Outliner.Numeral

/-- A text is a sign, digits of a number that is not too large, and the letter `d` in either
case. It stands for the signed number. -/
inductive SpellsDistance : List Char → Int → Prop where
  | later {numeral : List Char} {letter : Char} : isDigits numeral = true →
      ofDigits numeral ≤ 9223372036854775807 → letter = 'd' ∨ letter = 'D' →
      SpellsDistance ('+' :: (numeral ++ [letter])) (ofDigits numeral)
  | earlier {numeral : List Char} {letter : Char} : isDigits numeral = true →
      ofDigits numeral ≤ 9223372036854775807 → letter = 'd' ∨ letter = 'D' →
      SpellsDistance ('-' :: (numeral ++ [letter])) (-ofDigits numeral)

/-- A text is a year of four digits, a month of two and a day of two, with hyphens between. -/
inductive SpellsDay : List Char → Int → Nat → Nat → Prop where
  | fields {year month day : List Char} : year.length = 4 → month.length = 2 → day.length = 2 →
      (∀ char ∈ year ++ month ++ day, char.isDigit = true) →
      SpellsDay (year ++ '-' :: (month ++ '-' :: day)) (ofDigits year) (ofDigits month)
        (ofDigits day)

variable {text : List Char} {days year : Int} {month day : Nat} {ref : DayRef} {date : Date}

/-! ## Distances -/

/-- Exactly the texts that spell a distance are read as one. -/
theorem readDistance_eq_some_iff :
    DayRef.readDistance text = some days ↔ SpellsDistance text days := by
  constructor
  · intro isRead
    cases text with
    | nil => cases isRead
    | cons sign rest =>
        unfold DayRef.readDistance at isRead
        dsimp only at isRead
        split at isRead
        · rename_i isShape
          simp only [Bool.and_eq_true, Bool.or_eq_true, beq_iff_eq, decide_eq_true_eq] at isShape
          obtain ⟨⟨⟨isSign, isLetter⟩, areDigits⟩, notTooLarge⟩ := isShape
          obtain ⟨letter, isLast, isEither⟩ :
              ∃ letter, rest.getLast? = some letter ∧ (letter = 'd' ∨ letter = 'D') := by
            rcases isLetter with isSmall | isCapital
            · exact ⟨'d', isSmall, .inl rfl⟩
            · exact ⟨'D', isCapital, .inr rfl⟩
          obtain ⟨numeral, rfl⟩ := List.getLast?_eq_some_iff.mp isLast
          rw [List.dropLast_concat] at areDigits notTooLarge isRead
          obtain rfl := Option.some.inj isRead
          rcases isSign with rfl | rfl
          · exact .later areDigits notTooLarge isEither
          · exact .earlier areDigits notTooLarge isEither
        · cases isRead
  · intro spells
    cases spells with
    | later areDigits notTooLarge isLetter =>
        unfold DayRef.readDistance
        rcases isLetter with rfl | rfl <;>
          simp [areDigits, DayRef.farthest, notTooLarge]
    | earlier areDigits notTooLarge isLetter =>
        unfold DayRef.readDistance
        rcases isLetter with rfl | rfl <;>
          simp [areDigits, DayRef.farthest, notTooLarge]

/-! ## Days -/

theorem readDay_of_spells (spells : SpellsDay text year month day) :
    readDay text = Date.ofCivil? year month day := by
  cases spells with
  | @fields year month day yearLength monthLength dayLength areDigits =>
      obtain ⟨y₁, y₂, y₃, y₄, rfl⟩ := List.length_eq_four.mp yearLength
      obtain ⟨m₁, m₂, rfl⟩ := List.length_eq_two.mp monthLength
      obtain ⟨d₁, d₂, rfl⟩ := List.length_eq_two.mp dayLength
      have allDigits : [y₁, y₂, y₃, y₄, m₁, m₂, d₁, d₂].all Char.isDigit = true :=
        List.all_eq_true.mpr areDigits
      change readDay [y₁, y₂, y₃, y₄, '-', m₁, m₂, '-', d₁, d₂] = _
      rw [readDay, if_pos allDigits]

theorem spells_of_readDay (isRead : readDay text = some date) :
    SpellsDay text date.year date.month date.day := by
  unfold readDay at isRead
  split at isRead
  · rename_i y₁ y₂ y₃ y₄ m₁ m₂ d₁ d₂
    split at isRead
    · rename_i allDigits
      obtain ⟨-, isYear, isMonth, isDay⟩ := civil_of_ofCivil? isRead
      rw [isYear, isMonth, isDay]
      have areDigits : ∀ char ∈ [y₁, y₂, y₃, y₄] ++ [m₁, m₂] ++ [d₁, d₂], char.isDigit = true :=
        List.all_eq_true.mp allDigits
      exact .fields rfl rfl rfl areDigits
    · cases isRead
  · cases isRead

theorem ofDigitChars_lt {numeral : List Char}
    (areDigits : ∀ char ∈ numeral, char.isDigit = true) (init : Nat) :
    Nat.ofDigitChars 10 numeral init < (init + 1) * Nat.pow 10 numeral.length := by
  induction numeral generalizing init with
  | nil => simp
  | cons char rest inductionHypothesis =>
      obtain ⟨isDigit, others⟩ := List.forall_mem_cons.mp areDigits
      have isSmall : char.toNat - '0'.toNat ≤ 9 := by
        have code : 48 ≤ char.toNat ∧ char.toNat ≤ 57 := by
          simpa [Char.isDigit, UInt32.le_iff_toNat_le] using isDigit
        have zero : '0'.toNat = 48 := rfl
        omega
      have isPower : Nat.pow 10 (rest.length + 1) = 10 * Nat.pow 10 rest.length :=
        Nat.mul_comm _ _
      rw [Nat.ofDigitChars_cons, List.length_cons, isPower]
      refine Nat.lt_of_lt_of_le (inductionHypothesis others _) ?_
      rw [← Nat.mul_assoc]
      apply Nat.mul_le_mul_right
      omega

/-- A year of four digits is one that dates have. -/
theorem SpellsDay.year_bounds (spells : SpellsDay text year month day) :
    0 ≤ year ∧ year ≤ 9999 := by
  cases spells with
  | @fields year month day yearLength _ _ areDigits =>
      have small :=
        @ofDigitChars_lt year (fun char isYear => areDigits char (by simp [isYear])) 0
      have isBound : Nat.pow 10 4 = 10000 := rfl
      rw [yearLength, isBound] at small
      unfold ofDigits
      omega

/-- Exactly the texts that spell a day of the calendar are read as one, which is that day. -/
theorem readDay_eq_some_iff : (∃ date, readDay text = some date) ↔
    ∃ year month day, SpellsDay text year month day ∧ IsCivilDay year month day := by
  constructor
  · rintro ⟨date, isRead⟩
    have spells := spells_of_readDay isRead
    rw [readDay_of_spells spells] at isRead
    exact ⟨_, _, _, spells, (civil_of_ofCivil? isRead).1⟩
  · rintro ⟨year, month, day, spells, isDay⟩
    obtain ⟨notNegative, fourDigits⟩ := spells.year_bounds
    rw [readDay_of_spells spells]
    exact exists_ofCivil? isDay (by omega) (by omega)

/-! ## Either form -/

/-- A distance starts with a sign, a day with a digit. -/
theorem not_spells_both (distance : SpellsDistance text days) :
    ¬ SpellsDay text year month day := by
  intro spells
  generalize isText : text = other at spells
  cases spells with
  | @fields year month day yearLength _ _ areDigits =>
      obtain ⟨y₁, y₂, y₃, y₄, rfl⟩ := List.length_eq_four.mp yearLength
      have isDigit := areDigits y₁ (by simp)
      cases distance with
      | later | earlier =>
          obtain ⟨rfl, -⟩ := List.cons.inj isText
          cases isDigit

/-- A text that spells a distance, blanks around it apart, is read as that distance. -/
theorem read_of_distance (distance : SpellsDistance (trim text) days) :
    DayRef.read text = some (.fromToday days) := by
  unfold DayRef.read
  dsimp only
  rw [readDistance_eq_some_iff.mpr distance]
  rfl

/-- A text that spells a day, blanks around it apart, is read as that day. -/
theorem read_of_day (spells : SpellsDay (trim text) year month day)
    (isRead : readDay (trim text) = some date) : DayRef.read text = some (.on date) := by
  have noDistance : DayRef.readDistance (trim text) = none := by
    rw [Option.eq_none_iff_forall_ne_some]
    intro days isDistance
    exact not_spells_both (readDistance_eq_some_iff.mp isDistance) spells
  unfold DayRef.read
  dsimp only
  rw [noDistance, isRead]
  rfl

/-- What is read of a text is what its form stands for. -/
theorem spells_of_read (isRead : DayRef.read text = some ref) :
    (∃ days, SpellsDistance (trim text) days ∧ ref = .fromToday days) ∨
      ∃ date, readDay (trim text) = some date ∧ ref = .on date := by
  unfold DayRef.read at isRead
  dsimp only at isRead
  cases isDistance : DayRef.readDistance (trim text) with
  | some days =>
      rw [isDistance] at isRead
      exact .inl ⟨days, readDistance_eq_some_iff.mp isDistance, (Option.some.inj isRead).symm⟩
  | none =>
      rw [isDistance] at isRead
      obtain ⟨date, isDay, isRef⟩ := Option.map_eq_some_iff.mp isRead
      exact .inr ⟨date, isDay, isRef.symm⟩

/-! ## Written forms -/

/-- Whether a day has a form in which it is read: its year has four digits, or its distance from
today is not too large. -/
def DayRef.HasForm : DayRef → Prop
  | .on date => date.HasPlainYear
  | .fromToday days => days.natAbs ≤ farthest

theorem SpellsDistance.natAbs_le (distance : SpellsDistance text days) :
    days.natAbs ≤ DayRef.farthest := by
  cases distance with
  | later _ notTooLarge _ => exact notTooLarge
  | earlier _ notTooLarge _ =>
      rw [Int.natAbs_neg]
      exact notTooLarge

/-- What is read has a form in which it is read. -/
theorem hasForm_of_read (isRead : DayRef.read text = some ref) : ref.HasForm := by
  rcases spells_of_read isRead with ⟨days, distance, rfl⟩ | ⟨date, isDay, rfl⟩
  · exact distance.natAbs_le
  · exact (spells_of_readDay isDay).year_bounds

/-- A distance that is not too large is written as it is spelled. -/
theorem spellsDistance_write (notTooLarge : days.natAbs ≤ DayRef.farthest) :
    SpellsDistance (DayRef.fromToday days).write days := by
  have areDigits := isDigits_digits days.natAbs
  have bounded : ofDigits (digits days.natAbs) ≤ 9223372036854775807 := by
    rw [ofDigits_digits]
    exact notTooLarge
  unfold DayRef.write
  dsimp only
  by_cases isNegative : days < 0
  · have spells := SpellsDistance.earlier areDigits bounded (.inl rfl)
    rw [ofDigits_digits, Int.ofNat_natAbs_of_nonpos (Int.le_of_lt isNegative), Int.neg_neg]
      at spells
    rw [if_pos isNegative]
    exact spells
  · have spells := SpellsDistance.later areDigits bounded (.inl rfl)
    rw [ofDigits_digits, Int.natAbs_of_nonneg (Int.not_lt.mp isNegative)] at spells
    rw [if_neg isNegative]
    exact spells

/-- What a day is written with. -/
theorem DayRef.HasForm.mem_write (hasForm : ref.HasForm) {char : Char}
    (member : char ∈ ref.write) : char.isDigit = true ∨ char ∈ ['+', '-', 'd'] := by
  cases ref with
  | on date =>
      rcases Date.HasPlainYear.mem_write hasForm member with isDigit | rfl
      · exact .inl isDigit
      · exact .inr (by decide)
  | fromToday days =>
      have ofDigit (isDigit : char ∈ digits days.natAbs) : char.isDigit = true :=
        Nat.isDigit_of_mem_toDigits (by decide) (by decide) isDigit
      unfold DayRef.write at member
      simp only [List.cons_append, List.mem_cons, List.mem_append, List.not_mem_nil,
        or_false] at member
      rcases member with rfl | isDigit | rfl
      · right
        split <;> decide
      · exact .inl (ofDigit isDigit)
      · exact .inr (by decide)

theorem DayRef.HasForm.not_blank (hasForm : ref.HasForm) :
    ∀ char ∈ ref.write, isBlank char = false := by
  intro char member
  rcases hasForm.mem_write member with isDigit | isOther
  · exact isBlank_of_isDigit isDigit
  · simp only [List.mem_cons, List.not_mem_nil, or_false] at isOther
    rcases isOther with rfl | rfl | rfl <;> decide

/-- A day is read back from its form. -/
theorem DayRef.HasForm.read_write (hasForm : ref.HasForm) :
    DayRef.read ref.write = some ref := by
  cases ref with
  | on date => exact DayRef.read_write hasForm
  | fromToday days =>
      have isTrimmed : trim (DayRef.fromToday days).write = (DayRef.fromToday days).write :=
        trim_eq_self (fun _ first => hasForm.not_blank _ (List.mem_of_mem_head? first))
          fun _ last => hasForm.not_blank _ (List.mem_of_getLast? last)
      apply read_of_distance
      rw [isTrimmed]
      exact spellsDistance_write hasForm

theorem DayRef.HasForm.head?_ne (hasForm : ref.HasForm) : ref.write.head? ≠ some '=' := by
  intro isFirst
  rcases hasForm.mem_write (List.mem_of_mem_head? isFirst) with isDigit | isOther
  · cases isDigit
  · exact absurd isOther (by decide)

/-- A text is read as a day exactly if it is, blanks around it aside, a signed number of days of
64 bits or a day of the calendar in ten characters; no text is both. It is read as that number
or that day, which is written so that it is read again, and so that a comparison sign in front
of it is split off. -/
theorem DayRef.reads_exactly_forms (text : List Char) :
    ((∃ ref, DayRef.read text = some ref) ↔
      (∃ days, SpellsDistance (trim text) days) ∨
        ∃ year month day, SpellsDay (trim text) year month day ∧ IsCivilDay year month day) ∧
    (∀ days year month day, SpellsDistance (trim text) days →
      ¬ SpellsDay (trim text) year month day) ∧
    (∀ days, SpellsDistance (trim text) days →
      DayRef.read text = some (.fromToday days) ∧ -2 ^ 63 ≤ days ∧ days < 2 ^ 63) ∧
    (∀ year month day, SpellsDay (trim text) year month day → IsCivilDay year month day →
      ∃ date, DayRef.read text = some (.on date) ∧
        date.year = year ∧ date.month = month ∧ date.day = day) ∧
    ∀ ref, DayRef.read text = some ref → DayRef.read ref.write = some ref ∧
      ∀ sign, Comparison.split (DayTest.mk sign ref).write = (some sign, ref.write) := by
  refine ⟨⟨?_, ?_⟩, fun _ _ _ _ => not_spells_both, ?_, ?_, ?_⟩
  · rintro ⟨ref, isRead⟩
    rcases spells_of_read isRead with ⟨days, distance, -⟩ | ⟨date, isDay, -⟩
    · exact .inl ⟨days, distance⟩
    · exact .inr (readDay_eq_some_iff.mp ⟨date, isDay⟩)
  · rintro (⟨days, distance⟩ | ⟨year, month, day, spells, isDay⟩)
    · exact ⟨_, read_of_distance distance⟩
    · obtain ⟨date, isRead⟩ := readDay_eq_some_iff.mpr ⟨year, month, day, spells, isDay⟩
      exact ⟨_, read_of_day spells isRead⟩
  · intro days distance
    have bounded : days.natAbs ≤ 9223372036854775807 := distance.natAbs_le
    exact ⟨read_of_distance distance, by omega, by omega⟩
  · intro year month day spells isDay
    obtain ⟨date, isRead⟩ := readDay_eq_some_iff.mpr ⟨year, month, day, spells, isDay⟩
    have isDate := isRead
    rw [readDay_of_spells spells] at isDate
    exact ⟨date, read_of_day spells isRead, (civil_of_ofCivil? isDate).2⟩
  · intro ref isRead
    have hasForm := hasForm_of_read isRead
    exact ⟨hasForm.read_write, fun sign => Comparison.split_spelling sign _ hasForm.head?_ne⟩

/-- The leap day of the year 0 and the number of days that is farthest before today. -/
theorem reads_exactly_forms_extremes :
    let leapDay := " 0000-02-29\t".toList
    let longAgo := "-09223372036854775807D".toList
    SpellsDay (trim leapDay) 0 2 29 ∧ IsCivilDay 0 2 29 ∧
    SpellsDistance (trim longAgo) (-9223372036854775807) ∧
    (∃ date, DayRef.read leapDay = some (.on date) ∧ date.year = 0 ∧ date.month = 2 ∧
      date.day = 29 ∧ DayRef.read (DayRef.on date).write = some (.on date)) ∧
    DayRef.read longAgo = some (.fromToday (-9223372036854775807)) ∧
    Comparison.split (DayTest.mk .less (.fromToday (-9223372036854775807))).write =
      (some .less, "-9223372036854775807d".toList) := by
  intro leapDay longAgo
  have spells : SpellsDay (trim leapDay) 0 2 29 :=
    @SpellsDay.fields "0000".toList "02".toList "29".toList rfl rfl rfl
      (List.all_eq_true.mp (by decide))
  have isDay : IsCivilDay 0 2 29 := by decide
  have distance : SpellsDistance (trim longAgo) (-9223372036854775807) :=
    @SpellsDistance.earlier "09223372036854775807".toList 'D' (by decide) (by decide) (.inr rfl)
  obtain ⟨-, -, -, isOn, again⟩ := DayRef.reads_exactly_forms leapDay
  obtain ⟨date, isRead, isYear, isMonth, isDate⟩ := isOn 0 2 29 spells isDay
  obtain ⟨-, -, isFromToday, -, behindSign⟩ := DayRef.reads_exactly_forms longAgo
  have isDistance := (isFromToday _ distance).1
  exact ⟨spells, isDay, distance, ⟨date, isRead, isYear, isMonth, isDate, (again _ isRead).1⟩,
    isDistance, (behindSign _ isDistance).2 .less⟩

end Outliner.Calendar
