import Outliner.Text.Lowercase

/-!
Contract: texts in lower case stay as they are in lower case.

Owns: that no small letter of the case table is a capital of it, so what a character becomes in
lower case is its own lower case, and that putting a text into lower case twice is putting it
into lower case once.

The table is checked run by run and not letter by letter: the small letters of a run lie outside
every other run, or both run over every second place and miss each other.

Main statements: `isSmall_of_mem_lowerFrom`, `lowerFrom_of_isSmall`.

Does not own: what a part of a text becomes (`Proofs.Text.Lowering`).
-/

namespace Outliner.Text

variable {run other : CaseRun} {code : Nat} {char : Char} {text : List Char} {inWord : Bool}

/-! ## The case table -/

/-- The place of the last small letter of a run. -/
def CaseRun.smallLast (run : CaseRun) : Nat :=
  run.small + (run.last - run.first)

/-- Whether the small letters of a run are no capitals of another run, as far as the ends of the
runs and their steps tell. -/
def CaseRun.misses (run other : CaseRun) : Bool :=
  run.smallLast.blt other.first || other.last.blt run.small ||
    (run.step == 2 || run.first == run.last) && other.step == 2 &&
      (run.small + other.first) % 2 == 1

/-- Whether all places of small letters of a run are characters, and no others than small letters
if they are ASCII or if they are the one capital that no run has. -/
def CaseRun.isSound (run : CaseRun) : Bool :=
  (run.smallLast < 0xD800 || 0xE000 ≤ run.small && run.smallLast < 0x110000) &&
    (0x80 ≤ run.small || 0x61 ≤ run.small && run.smallLast < 0x80) &&
    (run.smallLast < 0x130 || 0x130 < run.small)

/-- No run of capitals maps into a run of capitals, so lowering twice is lowering once. -/
theorem capitalRuns_miss :
    (capitalRuns.all fun run => capitalRuns.all fun other => run.misses other) = true := by
  decide +kernel

theorem capitalRuns_isSound : ∀ run ∈ capitalRuns, run.isSound = true := by
  decide +kernel

theorem smallOf_le (covers : run.covers code = true) :
    run.small ≤ run.smallOf code ∧ run.smallOf code ≤ run.smallLast := by
  simp only [CaseRun.covers, Bool.and_eq_true, decide_eq_true_eq] at covers
  unfold CaseRun.smallOf CaseRun.smallLast
  omega

theorem not_covers_smallOf (misses : run.misses other = true) (covers : run.covers code = true) :
    other.covers (run.smallOf code) = false := by
  obtain ⟨atLeast, atMost⟩ := smallOf_le covers
  rw [Bool.eq_false_iff]
  intro isCapital
  simp only [CaseRun.covers, Bool.and_eq_true, decide_eq_true_eq, beq_iff_eq] at covers isCapital
  simp only [CaseRun.misses, Bool.or_eq_true, Bool.and_eq_true, Nat.blt_eq,
    beq_iff_eq] at misses
  obtain ⟨⟨fromFirst, toLast⟩, inStep⟩ := covers
  obtain ⟨⟨fromOther, toOther⟩, inOtherStep⟩ := isCapital
  rcases misses with (before | behind) | ⟨⟨isEven, otherEven⟩, apart⟩
  · omega
  · omega
  · unfold CaseRun.smallOf at *
    rw [otherEven] at inOtherStep
    have even : (code - run.first) % 2 = 0 := by
      rcases isEven with isTwo | isOne
      · rwa [isTwo] at inStep
      · omega
    omega

/-! ## Characters -/

/-- A character is in lower case, and no capital sigma, which is treated apart. -/
def IsSmall (char : Char) : Prop :=
  char ≠ 'Σ' ∧ lowerChar char = [char]

instance (char : Char) : Decidable (IsSmall char) :=
  inferInstanceAs (Decidable (_ ∧ _))

/-- Below 0x80 the letters are checked one by one. -/
theorem isSmall_ascii : ∀ code < 0x80, IsSmall (Char.ofNat code).toLower ∧
    (0x61 ≤ code → IsSmall (Char.ofNat code)) := by
  decide +kernel

theorem isSmall_of_no_run (notAscii : ¬ char.toNat < 0x80) (notDotted : char ≠ 'İ')
    (noRun : ∀ run ∈ capitalRuns, run.covers char.toNat = false) : IsSmall char := by
  have noneFound : capitalRuns.find? (·.covers char.toNat) = none := by
    rw [List.find?_eq_none]
    exact fun run member => Bool.eq_false_iff.mp (noRun run member)
  constructor
  · rintro rfl
    exact absurd noneFound (by decide +kernel)
  · rw [lowerChar, if_neg notAscii, if_neg (by simpa using notDotted), smallBeyondAscii, noneFound]

theorem isSmall_smallOf (member : run ∈ capitalRuns) (covers : run.covers code = true) :
    IsSmall (Char.ofNat (run.smallOf code)) := by
  obtain ⟨atLeast, atMost⟩ := smallOf_le covers
  have sound := capitalRuns_isSound run member
  simp only [CaseRun.isSound, Bool.or_eq_true, Bool.and_eq_true, decide_eq_true_eq] at sound
  obtain ⟨⟨isScalar, isLetter⟩, notDotted⟩ := sound
  have isCode : (Char.ofNat (run.smallOf code)).toNat = run.smallOf code := by
    have isValid : (run.smallOf code).isValidChar := by
      unfold Nat.isValidChar
      omega
    rw [Char.ofNat, dif_pos isValid]
    rfl
  by_cases isAscii : run.smallOf code < 0x80
  · exact (isSmall_ascii _ isAscii).2 (by omega)
  · refine isSmall_of_no_run (by rwa [isCode]) ?_ fun other isOther => ?_
    · intro isDotted
      rw [isDotted] at isCode
      have isCode : 0x130 = run.smallOf code := isCode
      omega
    · rw [isCode]
      have misses := List.all_eq_true.mp capitalRuns_miss run member
      exact not_covers_smallOf (List.all_eq_true.mp misses other isOther) covers

theorem isSmall_smallBeyondAscii (notAscii : ¬ char.toNat < 0x80) (notDotted : char ≠ 'İ') :
    IsSmall (smallBeyondAscii char) := by
  unfold smallBeyondAscii
  split
  · rename_i run found
    have covers : run.covers char.toNat = true := by simpa using List.find?_some found
    exact isSmall_smallOf (List.mem_of_find?_eq_some found) covers
  · rename_i noneFound
    rw [List.find?_eq_none] at noneFound
    exact isSmall_of_no_run notAscii notDotted fun run member =>
      Bool.eq_false_iff.mpr (noneFound run member)

/-- Every character of a lower case is its own lower case. -/
theorem isSmall_of_mem_lowerChar {small : Char} (member : small ∈ lowerChar char) :
    IsSmall small := by
  unfold lowerChar at member
  split at member
  · rename_i isAscii
    obtain rfl := List.mem_singleton.mp member
    rw [← Char.ofNat_toNat char]
    exact (isSmall_ascii _ isAscii).1
  split at member
  · have dotted : IsSmall 'i' ∧ IsSmall (Char.ofNat 0x307) := by decide +kernel
    simp only [List.mem_cons, List.not_mem_nil, or_false] at member
    rcases member with rfl | rfl
    · exact dotted.1
    · exact dotted.2
  · rename_i notAscii notDotted
    obtain rfl := List.mem_singleton.mp member
    exact isSmall_smallBeyondAscii notAscii (by simpa using notDotted)

theorem isSmall_of_mem_lowerFrom (member : char ∈ lowerFrom inWord text) : IsSmall char := by
  induction text generalizing inWord with
  | nil => cases member
  | cons first rest inductionHypothesis =>
      rw [lowerFrom, List.mem_append] at member
      rcases member with isFirst | isLater
      · split at isFirst
        · have sigmas : IsSmall 'ς' ∧ IsSmall 'σ' := by decide +kernel
          obtain rfl := List.mem_singleton.mp isFirst
          split
          · exact sigmas.1
          · exact sigmas.2
        · exact isSmall_of_mem_lowerChar isFirst
      · exact inductionHypothesis isLater

/-- Small letters are left as they are. -/
theorem lowerFrom_of_isSmall (small : ∀ char ∈ text, IsSmall char) (inWord : Bool) :
    lowerFrom inWord text = text := by
  induction text generalizing inWord with
  | nil => rfl
  | cons char rest inductionHypothesis =>
      obtain ⟨⟨noSigma, isLower⟩, restSmall⟩ := List.forall_mem_cons.mp small
      rw [lowerFrom, inductionHypothesis restSmall, if_neg (by simpa using noSigma), isLower]
      rfl

/-- A text in lower case is its own lower case. -/
theorem lowerChars_lowerChars (text : List Char) :
    lowerChars (lowerChars text) = lowerChars text :=
  lowerFrom_of_isSmall (fun _ => isSmall_of_mem_lowerFrom) false

end Outliner.Text
