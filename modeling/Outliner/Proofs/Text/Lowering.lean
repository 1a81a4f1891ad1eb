import Outliner.Text.Lowercase
import Outliner.Text.Occurrence

/-!
Contract: what a part of a text becomes when the whole text is put in lower case.

Owns: that the lower case of a text is put together from what each of its characters becomes
at its place, that only a capital sigma depends on what stands around it, and that the lower
case of a part stands in the lower case of the whole at its place exactly if the sigmas of
the part read the same alone.

Main statements: `lowerWithin_eq_iff`, `occursIn_lowerChars`.

Does not own: what an occurrence is (`Text.Occurrence`).
-/

namespace Outliner.Text

variable {before part behind : List Char} {char : Char} {ends other : Bool}

/-- Whether a place of a text is the last one of a word: what is before it ends in a letter with
a case and what is behind it does not start with one, ignorable characters aside. -/
def endsWordAt (text : List Char) (place : Nat) : Bool :=
  startsCased (text.take place).reverse && !startsCased (text.drop (place + 1))

/-- The lower case of a character, where `ends` says whether a word ends with it. -/
def lowerAt (ends : Bool) (char : Char) : List Char :=
  if char == 'Σ' then [if ends then 'ς' else 'σ'] else lowerChar char

/-- What a part of a text becomes in the lower case of the whole. -/
def lowerWithin (before part behind : List Char) : List Char :=
  (part.mapIdx fun place =>
    lowerAt (endsWordAt (before ++ part ++ behind) (before.length + place))).flatten

/-- Each capital sigma of a part of a text ends a word of the part exactly if it ends a word of
the whole text. -/
def SigmasAgree (before part behind : List Char) : Prop :=
  ∀ place < part.length, part[place]? = some 'Σ' →
    endsWordAt part place = endsWordAt (before ++ part ++ behind) (before.length + place)

instance : Decidable (SigmasAgree before part behind) :=
  inferInstanceAs (Decidable (∀ place < part.length, _ → _))

/-! ## Characters at their places -/

theorem lowerAt_of_ne (noSigma : char ≠ 'Σ') : lowerAt ends char = lowerChar char :=
  if_neg (by rwa [beq_iff_eq])

theorem length_lowerAt (ends other : Bool) (char : Char) :
    (lowerAt ends char).length = (lowerAt other char).length := by
  by_cases isSigma : char = 'Σ'
  · rw [isSigma]
    rfl
  · rw [lowerAt_of_ne isSigma, lowerAt_of_ne isSigma]

/-- Only a capital sigma depends on where it stands. -/
theorem lowerAt_eq_iff :
    lowerAt ends char = lowerAt other char ↔ (char = 'Σ' → ends = other) := by
  by_cases isSigma : char = 'Σ'
  · subst isSigma
    revert ends other
    decide
  · simp only [lowerAt_of_ne isSigma, isSigma, false_implies]

/-- The state of the lower case behind `before` is what `endsWordAt` looks up there. -/
theorem lowerFrom_eq (before rest : List Char) :
    lowerFrom (startsCased before.reverse) rest = lowerWithin before rest [] := by
  unfold lowerWithin
  rw [List.append_nil]
  induction rest generalizing before with
  | nil => rfl
  | cons char rest inductionHypothesis =>
      have state : (if isCaseIgnorable char then startsCased before.reverse else isCased char) =
          startsCased (before ++ [char]).reverse := by
        rw [List.reverse_append]
        rfl
      have ends : endsWordAt (before ++ char :: rest) before.length =
          (startsCased before.reverse && !startsCased rest) := by
        unfold endsWordAt
        rw [List.take_left, ← List.drop_drop, List.drop_left]
        rfl
      rw [List.mapIdx_cons, List.flatten_cons, Nat.add_zero, ends, lowerFrom, state,
        inductionHypothesis (before ++ [char])]
      simp only [List.append_assoc, List.singleton_append, List.length_append,
        List.length_singleton, Nat.add_assoc, Nat.add_comm 1]
      rfl

/-! ## Parts of a text -/

/-- The lower case of a whole is made of the lower cases of its parts, each in its place. -/
theorem lowerWithin_append (before part more behind : List Char) :
    lowerWithin before (part ++ more) behind =
      lowerWithin before part (more ++ behind) ++ lowerWithin (before ++ part) more behind := by
  unfold lowerWithin
  rw [List.mapIdx_append, List.flatten_append]
  simp only [List.append_assoc, List.length_append, Nat.add_assoc, Nat.add_comm part.length]

theorem lowerChars_eq (text : List Char) : lowerChars text = lowerWithin [] text [] :=
  lowerFrom_eq [] text

/-- A part of a text reads in the lower case of the whole as it does alone exactly if its sigmas
agree. -/
theorem lowerWithin_eq_iff :
    lowerWithin before part behind = lowerChars part ↔ SigmasAgree before part behind := by
  let whole := before ++ part ++ behind
  let within := part.mapIdx fun place => lowerAt (endsWordAt whole (before.length + place))
  let alone := part.mapIdx fun place => lowerAt (endsWordAt part place)
  have isAlone : lowerChars part = alone.flatten := by
    rw [lowerChars_eq, lowerWithin]
    simp only [List.append_nil, List.nil_append, List.length_nil, Nat.zero_add, alone]
  -- The pieces are as long in both, so that equal texts have equal pieces.
  have lengths : within.map List.length = alone.map List.length := by
    refine List.ext_getElem (by simp only [within, alone, List.length_map, List.length_mapIdx])
      fun place _ _ => ?_
    simp only [within, alone, List.getElem_map, List.getElem_mapIdx]
    exact length_lowerAt _ _ _
  calc lowerWithin before part behind = lowerChars part
    _ ↔ within.flatten = alone.flatten := by rw [isAlone]; rfl
    _ ↔ within = alone := by rw [List.eq_iff_flatten_eq, and_iff_left lengths]
    _ ↔ SigmasAgree before part behind := by
      simp only [within, alone, List.mapIdx_eq_mapIdx_iff, lowerAt_eq_iff, SigmasAgree]
      refine forall₂_congr fun place inPart => ?_
      rw [List.getElem?_eq_getElem inPart, Option.some_inj]
      exact imp_congr_right fun _ => eq_comm

/-- The lower case of a text has the lower case of each of its parts whose sigmas agree. -/
theorem occursIn_lowerChars (agree : SigmasAgree before part behind) :
    occursIn (lowerChars part) (lowerChars (before ++ part ++ behind)) = true := by
  refine (occursIn_iff _ _).mpr ⟨lowerWithin [] before (part ++ behind),
    lowerWithin (before ++ part) behind [], Eq.symm ?_⟩
  rw [lowerChars_eq (before ++ part ++ behind), lowerWithin_append, lowerWithin_append,
    List.append_nil, List.nil_append, List.nil_append, lowerWithin_eq_iff.mpr agree]

end Outliner.Text
