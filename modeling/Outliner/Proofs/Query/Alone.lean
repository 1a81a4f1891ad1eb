import Outliner.Proofs.Query.Arguments
import Outliner.Proofs.Query.SingleFilter

/-!
Contract: what is read of the part of a text that was taken, with nothing behind it.

Owns: that each reader of the scan takes the same part again and finds the same in it, and that
the argument of a sub-filter that was found in a text is found in the slice that is cut out.

The readers look ahead: a word ends at a break, a key at a sign. So the part alone has to be
read to its end for another reason, the end of the text.

Main statements: `WordsAlone.skipArgument`, `readWordToken_alone`.

Does not own: what the slice is split into, which starts again (`Proofs.Query.Arguments`).
-/

namespace Outliner.Query

open Outliner.Text

variable {mark char : Char} {offset levels : Nat} {text word : List Char} {cursor stop : Cursor}
  {kind : TokenKind} {subject : FilterSubject}

/-! ## Phrases and words -/

/-- A phrase is over with its closing mark, whatever stands behind it. -/
theorem readPhrase_alone {content : List Char}
    (read : readPhrase mark offset text = some (content, stop)) :
    ∃ passed, text = passed ++ stop.rest ∧ ∀ tail,
      readPhrase mark offset (passed ++ tail) = some (content, ⟨stop.offset, tail⟩) := by
  fun_induction readPhrase mark offset text generalizing content with
  | case1 => cases read
  | case2 => cases read
  | case3 offset char rest inductionHypothesis =>
      obtain ⟨⟨inner, innerStop⟩, readInner, equal⟩ := Option.map_eq_some_iff.mp read
      obtain ⟨rfl, rfl⟩ := Prod.mk.inj equal
      obtain ⟨passed, rfl, alone⟩ := inductionHypothesis readInner
      refine ⟨'\\' :: char :: passed, rfl, fun tail => ?_⟩
      rw [List.cons_append, List.cons_append, readPhrase, alone]
      rfl
  | case4 offset rest noEnd noEscape =>
      obtain ⟨rfl, rfl⟩ := Prod.mk.inj (Option.some.inj read)
      refine ⟨[mark], rfl, fun tail => ?_⟩
      rw [List.cons_append, readPhrase_cons (ne_backslash noEnd noEscape), if_pos rfl]
      rfl
  | case5 offset char rest noEnd noEscape notMark inductionHypothesis =>
      obtain ⟨⟨inner, innerStop⟩, readInner, equal⟩ := Option.map_eq_some_iff.mp read
      obtain ⟨rfl, rfl⟩ := Prod.mk.inj equal
      obtain ⟨passed, rfl, alone⟩ := inductionHypothesis readInner
      refine ⟨char :: passed, rfl, fun tail => ?_⟩
      rw [List.cons_append, readPhrase_cons (ne_backslash noEnd noEscape), if_neg notMark, alone]
      rfl

/-- A word that something stopped is read again with nothing behind it. -/
theorem readWord_alone {afterMark : Bool}
    (read : readWord afterMark offset text = .ok (word, stop)) :
    StopsWord stop.rest ∧ ∃ passed, text = passed ++ stop.rest ∧
      readWord afterMark offset passed = .ok (word, ⟨stop.offset, []⟩) := by
  fun_induction readWord afterMark offset text generalizing word stop with
  | case1 =>
      obtain ⟨rfl, rfl⟩ := Prod.mk.inj (Except.ok.inj read)
      exact ⟨stopsWord_nil, [], rfl, readWord_of_stop stopsWord_nil _ _⟩
  | case2 afterMark offset char rest isBreak =>
      obtain ⟨rfl, rfl⟩ := Prod.mk.inj (Except.ok.inj read)
      have stops : StopsWord (char :: rest) := by
        rintro other ⟨⟩
        exact isBreak
      exact ⟨stops, [], rfl, readWord_of_stop stopsWord_nil _ _⟩
  | case3 => cases read
  | case4 afterMark offset char rest noBreak opens content innerStop phrase _
      inductionHypothesis =>
      obtain ⟨⟨inner, last⟩, readInner, equal⟩ := exists_of_map_eq_ok read
      obtain ⟨rfl, rfl⟩ := Prod.mk.inj equal
      obtain ⟨quoted, isRest, phraseAlone⟩ := readPhrase_alone phrase
      obtain ⟨stops, passed, isBehind, alone⟩ := inductionHypothesis readInner
      refine ⟨stops, char :: (quoted ++ passed), ?_, ?_⟩
      · rw [isRest, isBehind, List.cons_append, List.append_assoc]
      · rw [readWord_of_phrase noBreak opens (phraseAlone passed), alone]
        rfl
  | case5 afterMark offset char rest noBreak noOpen inductionHypothesis =>
      obtain ⟨⟨inner, last⟩, readInner, equal⟩ := exists_of_map_eq_ok read
      obtain ⟨rfl, rfl⟩ := Prod.mk.inj equal
      obtain ⟨stops, passed, rfl, alone⟩ := inductionHypothesis readInner
      refine ⟨stops, char :: passed, rfl, ?_⟩
      rw [readWord_of_char noBreak noOpen, alone]
      rfl

/-! ## Filters -/

/-- What is split off a text is its sign, which stays the same with less behind it. -/
theorem split_alone (text : List Char) : ∃ front value sign, text = front ++ value ∧
    ∀ part tail, value = part ++ tail → Comparison.split (front ++ part) = (sign, part) := by
  rcases split_cases text with ⟨sign, value, isText, ends⟩ | noSign
  · refine ⟨sign.spelling.toList, value, some sign, isText, fun part tail isValue => ?_⟩
    subst isValue
    exact ends.front
  · refine ⟨[], text, none, rfl, fun part tail isText => ?_⟩
    subst isText
    exact split_front noSign

theorem readComparison_alone (isRead : readComparison subject cursor = .ok (kind, stop)) :
    StopsWord stop.rest ∧ ∃ passed, cursor.rest = passed ++ stop.rest ∧
      readComparison subject ⟨cursor.offset, passed⟩ = .ok (kind, ⟨stop.offset, []⟩) := by
  obtain ⟨offset, text⟩ := cursor
  obtain ⟨front, value, sign, rfl, splits⟩ := split_alone text
  rw [readComparison_of_split (splits value [] (List.append_nil value).symm)] at isRead
  obtain ⟨⟨word, last⟩, readValue, equal⟩ := exists_of_map_eq_ok isRead
  obtain ⟨rfl, rfl⟩ := Prod.mk.inj equal
  obtain ⟨stops, passed, isValue, alone⟩ := readWord_alone readValue
  refine ⟨stops, front ++ passed, ?_, ?_⟩
  · rw [List.append_assoc, ← isValue]
  · rw [readComparison_of_split (splits passed _ isValue), alone]
    rfl

theorem readTextWord_alone (isRead : readTextWord cursor = .ok (kind, stop)) :
    StopsWord stop.rest ∧ ∃ passed, cursor.rest = passed ++ stop.rest ∧
      readTextWord ⟨cursor.offset, passed⟩ = .ok (kind, ⟨stop.offset, []⟩) := by
  obtain ⟨⟨word, last⟩, readValue, equal⟩ := exists_of_map_eq_ok isRead
  obtain ⟨rfl, rfl⟩ := Prod.mk.inj equal
  obtain ⟨stops, passed, isText, alone⟩ := readWord_alone readValue
  refine ⟨stops, passed, isText, ?_⟩
  rw [readTextWord, alone]
  rfl

theorem readPlainWord_alone (isRead : readPlainWord cursor = .ok (kind, stop)) :
    ∃ passed, cursor.rest = passed ++ stop.rest ∧
      readPlainWord ⟨cursor.offset, passed⟩ = .ok (kind, ⟨stop.offset, []⟩) := by
  obtain ⟨offset, text⟩ := cursor
  dsimp only
  rcases readPlainWord_cases offset text with
    noKey | ⟨key, rest, rfl, notEmpty, isKey, isFilter⟩
  · rw [readPlainWord_of_no_key noKey] at isRead
    obtain ⟨stops, passed, isText, alone⟩ := readTextWord_alone isRead
    refine ⟨passed, isText, ?_⟩
    have isText : text = passed ++ stop.rest := isText
    have stillNoKey (rest : List Char) (isAt : passed = '@' :: rest) :
        attributeKey rest = [] := by
      rw [isAt] at isText
      rw [← attributeKey_append stops]
      exact noKey _ isText
    exact (readPlainWord_of_no_key stillNoKey offset).trans alone
  · rw [isFilter] at isRead
    obtain ⟨stops, passed, isRest, alone⟩ := readComparison_alone isRead
    have isRest : rest = passed ++ stop.rest := isRest
    refine ⟨'@' :: (key ++ passed), ?_, ?_⟩
    · rw [isRest, List.cons_append, List.append_assoc]
    · rw [isRest, ← List.append_assoc, attributeKey_append stops] at isKey
      exact (readPlainWord_of_key notEmpty isKey offset).trans alone

/-- A word at the front of a part is at the front of the whole text. -/
theorem map_toLower_take_front {front word : List Char}
    (isFront : (front.take word.length).map Char.toLower = word) (tail : List Char) :
    ((front ++ tail).take word.length).map Char.toLower = word := by
  have lengths := congrArg List.length isFront
  rw [List.length_map, List.length_take] at lengths
  rwa [List.take_append_of_le_length (by omega)]

/-- A filter word inside the front of a text is the one of the front. -/
theorem filterWord?_front {front tail : List Char} {found : String × FilterSubject}
    (isFound : filterWord? (front ++ tail) = some found)
    (within : found.1.length ≤ front.length) : filterWord? front = some found := by
  unfold filterWord? at isFound ⊢
  rw [List.find?_eq_some_iff_append] at isFound ⊢
  obtain ⟨isFront, before, behind, areWords, notBefore⟩ := isFound
  dsimp only at isFront
  rw [List.take_append_of_le_length within] at isFront
  refine ⟨isFront, before, behind, areWords, fun entry isBefore => ?_⟩
  have notEntry := notBefore entry isBefore
  simp only [Bool.not_eq_true', beq_eq_false_iff_ne, ← String.length_toList] at notEntry ⊢
  exact fun isEntry => notEntry (map_toLower_take_front isEntry tail)

theorem filterWord?_front_none {front tail : List Char}
    (noWord : filterWord? (front ++ tail) = none) : filterWord? front = none := by
  unfold filterWord? at noWord ⊢
  rw [List.find?_eq_none] at noWord ⊢
  intro entry isEntry
  have notEntry := noWord entry isEntry
  simp only [beq_iff_eq, ← String.length_toList] at notEntry ⊢
  exact fun isFront => notEntry (map_toLower_take_front isFront tail)

/-- Whatever is taken behind a filter word, the word is read in front of it. -/
theorem exists_filterWord_front {found : String × FilterSubject}
    (isWord : filterWord? text = some found) : ∃ front value,
      text = front ++ value ∧ front.length = found.1.length ∧
      ∀ passed tail, value = passed ++ tail → filterWord? (front ++ passed) = some found := by
  have isLength := List.length_take_of_le (filterWord?_length_le isWord)
  rw [← List.take_append_drop found.1.length text] at isWord
  refine ⟨_, _, (List.take_append_drop found.1.length text).symm, isLength, ?_⟩
  intro passed tail isValue
  rw [isValue, ← List.append_assoc] at isWord
  refine filterWord?_front isWord ?_
  rw [List.length_append, isLength]
  exact Nat.le_add_right _ _

/-! ## Arguments -/

/-- A group is over with its closing parenthesis, whatever stands behind it. -/
theorem skipGroup_alone {start inner : Nat} {opens : Bool}
    (found : skipGroup start inner opens offset text = .ok stop) :
    ∃ passed, text = passed ++ stop.rest ∧
      skipGroup start inner opens offset passed = .ok ⟨stop.offset, []⟩ := by
  fun_induction skipGroup start inner opens offset text with
  | case1 => cases found
  | case2 inner opens offset char rest isOpen inductionHypothesis =>
      obtain rfl := beq_iff_eq.mp isOpen
      obtain ⟨passed, rfl, alone⟩ := inductionHypothesis found
      exact ⟨'(' :: passed, rfl, (skipGroup_of_open ..).trans alone⟩
  | case3 opens offset char rest _ isClose =>
      obtain rfl := beq_iff_eq.mp isClose
      obtain rfl := Except.ok.inj found
      exact ⟨[')'], rfl, skipGroup_of_close start 0 opens offset []⟩
  | case4 opens offset char rest _ isClose inner inductionHypothesis =>
      obtain rfl := beq_iff_eq.mp isClose
      obtain ⟨passed, rfl, alone⟩ := inductionHypothesis found
      exact ⟨')' :: passed, rfl, (skipGroup_of_close start (inner + 1) ..).trans alone⟩
  | case5 => cases found
  | case6 inner opens offset char rest notOpen notClose isPhrase content phraseStop phrase _
      inductionHypothesis =>
      obtain ⟨quoted, isRest, phraseAlone⟩ := readPhrase_alone phrase
      obtain ⟨passed, isBehind, alone⟩ := inductionHypothesis found
      refine ⟨char :: (quoted ++ passed), ?_, ?_⟩
      · rw [isRest, isBehind, List.cons_append, List.append_assoc]
      · rwa [skipGroup_of_phrase notOpen notClose isPhrase (phraseAlone passed)]
  | case7 inner opens offset char rest notOpen notClose noPhrase inductionHypothesis =>
      obtain ⟨passed, rfl, alone⟩ := inductionHypothesis found
      exact ⟨char :: passed, rfl, (skipGroup_of_char notOpen notClose noPhrase).trans alone⟩

/-- What the reader of words takes, it takes again alone. -/
def WordsAlone (levels : Nat) : Prop :=
  ∀ cursor kind stop, readWordToken levels cursor = .ok (kind, stop) →
    ∃ passed, cursor.rest = passed ++ stop.rest ∧
      readWordToken levels ⟨cursor.offset, passed⟩ = .ok (kind, ⟨stop.offset, []⟩)

/-- The argument of a sub-filter ends at the same place where nothing is behind it. -/
theorem WordsAlone.skipArgument (wordsAlone : WordsAlone levels)
    (found : skipArgument (readWordToken levels) ⟨offset, text⟩ = .ok stop) :
    ∃ passed, text = passed ++ stop.rest ∧
      skipArgument (readWordToken levels) ⟨offset, passed⟩ = .ok ⟨stop.offset, []⟩ := by
  induction text generalizing offset with
  | nil =>
      obtain rfl := Except.ok.inj found
      exact ⟨[], rfl, rfl⟩
  | cons char rest inductionHypothesis =>
      by_cases isMinus : char = '-'
      · subst isMinus
        rw [skipArgument_minus] at found
        obtain ⟨passed, rfl, alone⟩ := inductionHypothesis found
        exact ⟨'-' :: passed, rfl, (skipArgument_minus ..).trans alone⟩
      · have noMinus : ¬ (char == '-') = true := by simpa using isMinus
        rw [skipArgument_of_no_minus _ noMinus] at found
        split at found
        · rename_i isOpen
          obtain ⟨passed, rfl, alone⟩ := skipGroup_alone found
          refine ⟨char :: passed, rfl, ?_⟩
          rw [skipArgument_of_no_minus _ noMinus, if_pos isOpen, alone]
        rename_i notOpen
        split at found
        · rename_i isMark
          split at found
          · cases found
          · rename_i content phraseStop phrase
            obtain rfl := Except.ok.inj found
            obtain ⟨passed, rfl, alone⟩ := readPhrase_alone phrase
            have phraseAlone := alone []
            rw [List.append_nil] at phraseAlone
            refine ⟨char :: passed, rfl, ?_⟩
            rw [skipArgument_of_no_minus _ noMinus, if_neg notOpen, if_pos isMark, phraseAlone]
        rename_i noMark
        split at found
        · obtain rfl := Except.ok.inj found
          exact ⟨[], rfl, rfl⟩
        · rename_i noBreak
          obtain ⟨⟨kind, last⟩, isRead, rfl⟩ := exists_of_map_eq_ok found
          have isShorter := readWordToken_shorter rfl (Bool.eq_false_iff.mpr noBreak) isRead
          obtain ⟨passed, isText, alone⟩ := wordsAlone _ _ _ isRead
          cases passed with
          | nil =>
              dsimp only at isShorter isText
              rw [isText, List.nil_append] at isShorter
              exact absurd isShorter (Nat.lt_irrefl _)
          | cons first passed =>
              obtain ⟨rfl, isRest⟩ := List.cons.inj isText
              refine ⟨char :: passed, isText, ?_⟩
              rw [skipArgument_of_no_minus _ noMinus, if_neg notOpen, if_neg noMark,
                if_neg noBreak, alone]
              rfl

/-- A word is read of just the characters it takes as of all those to come. -/
theorem readWordToken_alone (levels : Nat) : WordsAlone levels := by
  induction levels using Nat.strongRecOn with
  | ind levels inductionHypothesis =>
      rintro ⟨offset, text⟩ kind stop isRead
      cases isWord : filterWord? text with
      | none =>
          rw [readWordToken_of_none isWord] at isRead
          obtain ⟨passed, isText, alone⟩ := readPlainWord_alone isRead
          refine ⟨passed, isText, ?_⟩
          rw [show text = passed ++ stop.rest from isText] at isWord
          rw [readWordToken_of_none (filterWord?_front_none isWord)]
          exact alone
      | some found =>
          obtain ⟨word, subject⟩ := found
          obtain ⟨front, value, rfl, isLength, wordAgain⟩ := exists_filterWord_front isWord
          have skipped (rest : List Char) : Cursor.skip ⟨offset, front ++ rest⟩ word.length =
              ⟨offset + byteLength front, rest⟩ := by
            rw [← isLength, skip_front]
          rw [@readWordToken_of_word ⟨offset, front ++ value⟩ _ _ isWord, skipped] at isRead
          dsimp only
          split at isRead
          · rename_i isAbove
            cases levels with
            | zero => cases isRead
            | succ levels =>
                obtain ⟨last, found, equal⟩ := exists_of_map_eq_ok isRead
                obtain ⟨rfl, rfl⟩ := Prod.mk.inj equal
                obtain ⟨passed, rfl, alone⟩ :=
                  (inductionHypothesis levels (Nat.lt_succ_self levels)).skipArgument found
                refine ⟨front ++ passed, (List.append_assoc ..).symm, ?_⟩
                rw [@readWordToken_of_word ⟨offset, front ++ passed⟩ _ _
                  (wordAgain passed _ rfl), skipped, if_pos isAbove]
                dsimp only
                rw [alone, Cursor.textUntil_of_append rfl]
                exact congrArg (fun slice => Except.ok
                  (TokenKind.filter ⟨subject, none, String.ofList slice, _⟩, _))
                  List.take_length
          · rename_i notAbove
            obtain ⟨-, passed, isValue, alone⟩ := readComparison_alone isRead
            have isValue : value = passed ++ stop.rest := isValue
            refine ⟨front ++ passed, ?_, ?_⟩
            · rw [isValue, List.append_assoc]
            · rw [@readWordToken_of_word ⟨offset, front ++ passed⟩ _ _
                (wordAgain passed _ isValue), skipped, if_neg notAbove]
              exact alone

end Outliner.Query
