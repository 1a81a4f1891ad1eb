import Outliner.Proofs.Query.Alone
import Outliner.Proofs.Query.NormalForm

/-!
Contract: how the filters among the tokens of a query are written.

Owns: that the scan for the end of an argument takes all of the value of a sub-filter, and what a
query says about a key: either nothing, or a sign that the key can stand in front of. This holds
of the filters in the arguments of sub-filters too.

Main statement: `isWritten_of_occursIn`.

Does not own: what the filters are read as (`Proofs.Query.Terms`).
-/

namespace Outliner.Query

open Outliner.Text

variable {levels : Nat} {cursor stop : Cursor} {source key rest : List Char}
  {written : WrittenFilter} {kind : TokenKind} {subject : FilterSubject}

/-- A filter about a key says nothing about it, and the key is as it is read at the end of a
text, or there is a sign, and the key is as it is read in front of that sign. -/
def WrittenFilter.HasKey (written : WrittenFilter) (key : List Char) : Prop :=
  match written.sign with
  | none => key ≠ [] ∧ attributeKey key = key ∧ written.value = ""
  | some sign => IsKeyBefore sign key

/-- A filter as it is written in a query: the argument of a sub-filter is what the scan for its
end takes, and a key is followed by a sign or by nothing. -/
structure WrittenFilter.IsWritten (written : WrittenFilter) : Prop where
  argument : written.subject = .parent ∨ written.subject = .ancestor → ∃ levels offset place,
    skipArgument (readWordToken levels) ⟨offset, written.value.toList⟩ = .ok ⟨place, []⟩
  key : ∀ key, written.subject = .attr key → written.HasKey key.toList

theorem attributeKey_behind (isKey : attributeKey (key ++ rest) = key) :
    attributeKey rest = [] := by
  induction key with
  | nil => exact isKey
  | cons char more inductionHypothesis =>
      have noPair (behind : List Char) (isPair : char :: (more ++ rest) = '!' :: '=' :: behind) :
          False := by
        rw [List.cons_append, isPair] at isKey
        cases isKey
      rw [List.cons_append, attributeKey_cons noPair] at isKey
      split at isKey
      · cases isKey
      · exact inductionHypothesis (List.cons.inj isKey).2

/-- A key that is over without a sign is over where its word is. -/
theorem stopsWord_of_no_sign (noKey : attributeKey rest = [])
    (noSign : Comparison.split rest = (none, rest)) : StopsWord rest := by
  rintro char isFirst
  obtain ⟨more, rfl⟩ := List.head?_eq_some_iff.mp isFirst
  have noPair (behind : List Char) (isPair : char :: more = '!' :: '=' :: behind) : False := by
    rw [isPair] at noSign
    cases noSign
  rw [attributeKey_cons noPair] at noKey
  split at noKey
  · rename_i ends
    simp only [Bool.or_eq_true, beq_iff_eq] at ends
    rcases ends with ((isBreak | rfl) | rfl) | rfl
    · exact isBreak
    · exact absurd (congrArg Prod.fst noSign) (split_spelling_ne_none .less more)
    · exact absurd (congrArg Prod.fst noSign) (split_spelling_ne_none .greater more)
    · exact absurd (congrArg Prod.fst noSign) (split_spelling_ne_none .equal more)
  · cases noKey

theorem hasKey_of_readComparison {key : String} (notEmpty : key.toList ≠ [])
    (isKey : attributeKey (key.toList ++ cursor.rest) = key.toList)
    (isRead : readComparison (.attr key) cursor = .ok (.filter written, stop)) :
    written.HasKey key.toList := by
  obtain ⟨offset, text⟩ := cursor
  rcases split_cases text with ⟨sign, value, rfl, ends⟩ | noSign
  · rw [readComparison_of_split ends] at isRead
    obtain ⟨⟨word, last⟩, -, equal⟩ := exists_of_map_eq_ok isRead
    obtain ⟨isFilter, -⟩ := Prod.mk.inj equal
    obtain rfl := TokenKind.filter.inj isFilter
    exact (isKeyBefore_iff sign key.toList value).mpr ⟨notEmpty, isKey⟩
  · have stops := stopsWord_of_no_sign (attributeKey_behind isKey) noSign
    have isRead : readComparison (.attr key) ⟨offset, [] ++ text⟩ = .ok (.filter written, stop) :=
      isRead
    have noSign : Comparison.split ([] ++ text) = (none, text) := noSign
    rw [readComparison_of_split noSign, readWord_of_stop stops] at isRead
    obtain ⟨isFilter, -⟩ := Prod.mk.inj (Except.ok.inj isRead)
    obtain rfl := TokenKind.filter.inj isFilter
    rw [attributeKey_append stops] at isKey
    exact ⟨notEmpty, isKey, rfl⟩

theorem isWritten_of_readComparison (noKey : ∀ key, subject ≠ .attr key)
    (notAbove : ¬ (subject = .parent ∨ subject = .ancestor))
    (isRead : readComparison subject cursor = .ok (.filter written, stop)) :
    written.IsWritten := by
  obtain ⟨other, isFilter, isSubject⟩ := subject_of_readComparison isRead
  obtain rfl := TokenKind.filter.inj isFilter
  rw [← isSubject] at noKey notAbove
  exact ⟨fun isAbove => absurd isAbove notAbove, fun key isKey => absurd isKey (noKey key)⟩

theorem isWritten_of_readPlainWord
    (isRead : readPlainWord cursor = .ok (.filter written, stop)) : written.IsWritten := by
  obtain ⟨offset, text⟩ := cursor
  rcases readPlainWord_cases offset text with
    noKey | ⟨key, rest, rfl, notEmpty, isKey, isFilter⟩
  · rw [readPlainWord_of_no_key noKey] at isRead
    obtain ⟨word, -, equal⟩ := exists_of_map_eq_ok isRead
    cases equal
  · rw [isFilter] at isRead
    obtain ⟨other, isOther, isSubject⟩ := subject_of_readComparison isRead
    obtain rfl := TokenKind.filter.inj isOther
    refine ⟨by simp [isSubject], fun name isName => ?_⟩
    obtain rfl := FilterSubject.attr.inj (isSubject.symm.trans isName)
    rw [← @String.toList_ofList key] at notEmpty isKey
    exact hasKey_of_readComparison notEmpty isKey isRead

theorem isWritten_of_readWordToken
    (isRead : readWordToken levels cursor = .ok (.filter written, stop)) : written.IsWritten := by
  cases isWord : filterWord? cursor.rest with
  | none =>
      rw [readWordToken_of_none isWord] at isRead
      exact isWritten_of_readPlainWord isRead
  | some found =>
      obtain ⟨word, subject⟩ := found
      have noKey : ∀ key, subject ≠ .attr key := noKey_of_filterWord isWord
      rw [readWordToken_of_word isWord] at isRead
      split at isRead
      · rename_i isAbove
        cases levels with
        | zero => cases isRead
        | succ levels =>
            obtain ⟨last, found, equal⟩ := exists_of_map_eq_ok isRead
            obtain ⟨isFilter, rfl⟩ := Prod.mk.inj equal
            obtain rfl := TokenKind.filter.inj isFilter
            obtain ⟨passed, isValue, alone⟩ := (readWordToken_alone levels).skipArgument found
            have isSlice : (cursor.skip word.length).textUntil last = passed :=
              Cursor.textUntil_of_append isValue
            rw [← @String.toList_ofList passed, ← isSlice] at alone
            exact ⟨fun _ => ⟨levels, _, _, alone⟩, fun key isKey => absurd isKey (noKey key)⟩
      · rename_i notAbove
        exact isWritten_of_readComparison noKey (by simpa using notAbove) isRead

/-- The filters in a query, those in the arguments of its sub-filters included, are written as
the grammar of filters has them. -/
theorem isWritten_of_occursIn (occurs : (TokenKind.filter written).OccursIn source) :
    written.IsWritten := by
  generalize isKind : TokenKind.filter written = kind at occurs
  induction occurs with
  | token scanned member =>
      obtain ⟨char, rest, stop, -, -, isRead, -⟩ := mem_of_scanFrom scanned member
      rw [← isKind] at isRead
      rcases readLexeme_cases isRead with
        ⟨isSign, -⟩ | ⟨-, content, isQuoted, -⟩ | ⟨-, -, isWord⟩
      · simp [mem_signTokens] at isSign
      · cases isQuoted
      · exact isWritten_of_readWordToken isWord
  | argument _ _ _ _ inductionHypothesis => exact inductionHypothesis isKind

end Outliner.Query
