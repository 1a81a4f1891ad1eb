import Outliner.Proofs.Query.Rescanning

/-!
Contract: the tokens of a text that stands further on, or is written with other letters.

Owns: the changes of letters that the scan for tokens does not see, and that the scan then finds
the same tokens, with the other letters in what they hold, and with all the places that it names
so many bytes further on. So the argument of a sub-filter can be scanned on its own, and capital
letters make the same tokens as small ones.

Main statements: `readLexeme_move` and `scanFrom_move`.

Does not own: what the tokens are then read as (`Proofs.Query.Shifting`,
`Proofs.Query.LetterCase`).
-/

namespace Outliner.Query

open Outliner.Text

variable {α β : Type}

/-! ## Letters -/

/-- A change of characters only makes ASCII letters to others of the same lower case. -/
def IsRelettering (letter : Char → Char) : Prop :=
  ∀ char, letter char = char ∨
    char.isAlpha = true ∧ (letter char).isAlpha = true ∧ (letter char).toLower = char.toLower

theorem isRelettering_id : IsRelettering id :=
  fun _ => .inl rfl

theorem toNat_lt_of_isAlpha {char : Char} (isAlpha : char.isAlpha = true) : char.toNat < 128 := by
  have bounded {last : UInt32} (small : last.toNat < 128) (atMost : char.val ≤ last) :
      char.toNat < 128 :=
    Nat.lt_of_le_of_lt (UInt32.le_iff_toNat_le.mp atMost) small
  rcases Bool.or_eq_true_iff.mp isAlpha with isUpper | isLower
  · exact bounded (by decide) (of_decide_eq_true isUpper).2
  · exact bounded (by decide) (of_decide_eq_true (Bool.and_eq_true_iff.mp isLower).2)

/-- ASCII letters are among the first characters, which can be checked one by one. -/
theorem exists_code_of_isAlpha {char : Char} (isAlpha : char.isAlpha = true) :
    ∃ code < 128, char = Char.ofNat code :=
  ⟨char.toNat, toNat_lt_of_isAlpha isAlpha, (Char.ofNat_toNat char).symm⟩

theorem isRelettering_toUpper : IsRelettering Char.toUpper := by
  have ofLower : ∀ code < 128, (Char.ofNat code).isLower = true →
      (Char.ofNat code).isAlpha = true ∧ (Char.ofNat code).toUpper.isAlpha = true ∧
        (Char.ofNat code).toUpper.toLower = (Char.ofNat code).toLower := by decide +kernel
  intro char
  by_cases isLower : char.isLower = true
  · right
    have isAlpha : char.isAlpha = true := Bool.or_eq_true_iff.mpr (.inr isLower)
    obtain ⟨code, isAscii, rfl⟩ := exists_code_of_isAlpha isAlpha
    exact ofLower code isAscii isLower
  · left
    unfold Char.toUpper
    refine dif_neg fun ⟨atLeast, atMost⟩ => isLower ?_
    exact Bool.and_eq_true_iff.mpr ⟨decide_eq_true atLeast, decide_eq_true atMost⟩

theorem isRelettering_toLower : IsRelettering Char.toLower := by
  have ofUpper : ∀ code < 128, (Char.ofNat code).isUpper = true →
      (Char.ofNat code).isAlpha = true ∧ (Char.ofNat code).toLower.isAlpha = true ∧
        (Char.ofNat code).toLower.toLower = (Char.ofNat code).toLower := by decide +kernel
  intro char
  by_cases isUpper : char.isUpper = true
  · right
    have isAlpha : char.isAlpha = true := Bool.or_eq_true_iff.mpr (.inl isUpper)
    obtain ⟨code, isAscii, rfl⟩ := exists_code_of_isAlpha isAlpha
    exact ofUpper code isAscii isUpper
  · left
    unfold Char.toLower
    exact dif_neg (mt decide_eq_true isUpper)

/-- What the scan sees of letters. -/
theorem seen_of_isAlpha {char : Char} (isAlpha : char.isAlpha = true) :
    char.utf8Size = 1 ∧ isBlank char = false ∧ endsWord char = false ∧
      isQuotationMark char = false ∧ isValueMark char = false ∧ opensPhrase char = false := by
  have seen : ∀ code < 128, (Char.ofNat code).isAlpha = true → (Char.ofNat code).utf8Size = 1 ∧
      isBlank (Char.ofNat code) = false ∧ endsWord (Char.ofNat code) = false ∧
      isQuotationMark (Char.ofNat code) = false ∧ isValueMark (Char.ofNat code) = false ∧
      opensPhrase (Char.ofNat code) = false := by decide +kernel
  obtain ⟨code, isAscii, rfl⟩ := exists_code_of_isAlpha isAlpha
  exact seen code isAscii isAlpha

theorem notAlpha_of_mark {mark : Char} (isMark : isQuotationMark mark = true) :
    mark.isAlpha = false := by
  rcases isQuotationMark_iff.mp isMark with rfl | rfl <;> rfl

theorem notAlpha_of_sign {char : Char} {kind : TokenKind} (isSign : (char, kind) ∈ signTokens) :
    char.isAlpha = false := by
  rcases mem_signTokens.mp isSign with
    ⟨rfl, -⟩ | ⟨rfl, -⟩ | ⟨rfl, -⟩ | ⟨rfl, -⟩ | ⟨rfl, -⟩ <;> rfl

namespace IsRelettering

variable {letter : Char → Char} (relettering : IsRelettering letter) {char sign : Char}

include relettering

/-- What does not tell letters apart does not see a change of letters. -/
theorem look {look : Char → α} {value : α}
    (blind : ∀ char, char.isAlpha = true → look char = value) (char : Char) :
    look (letter char) = look char := by
  rcases relettering char with same | ⟨isAlpha, stillAlpha, -⟩
  · rw [same]
  · rw [blind _ isAlpha, blind _ stillAlpha]

theorem eq_iff (notAlpha : sign.isAlpha = false) : letter char = sign ↔ char = sign := by
  rcases relettering char with same | ⟨isAlpha, stillAlpha, -⟩
  · rw [same]
  · constructor <;> (rintro rfl; simp_all)

theorem beq_eq (notAlpha : sign.isAlpha = false) (char : Char) :
    (letter char == sign) = (char == sign) := by
  rw [Bool.eq_iff_iff, beq_iff_eq, beq_iff_eq, relettering.eq_iff notAlpha]

theorem eq_of_sign (notAlpha : sign.isAlpha = false) : letter sign = sign :=
  (relettering.eq_iff notAlpha).mpr rfl

theorem toLower (char : Char) : (letter char).toLower = char.toLower := by
  rcases relettering char with same | ⟨-, -, sameLower⟩
  · rw [same]
  · exact sameLower

theorem utf8Size (char : Char) : (letter char).utf8Size = char.utf8Size :=
  relettering.look (fun _ isAlpha => (seen_of_isAlpha isAlpha).1) char

theorem isBlank (char : Char) : isBlank (letter char) = isBlank char :=
  relettering.look (fun _ isAlpha => (seen_of_isAlpha isAlpha).2.1) char

theorem endsWord (char : Char) : endsWord (letter char) = endsWord char :=
  relettering.look (fun _ isAlpha => (seen_of_isAlpha isAlpha).2.2.1) char

theorem isQuotationMark (char : Char) : isQuotationMark (letter char) = isQuotationMark char :=
  relettering.look (fun _ isAlpha => (seen_of_isAlpha isAlpha).2.2.2.1) char

theorem isValueMark (char : Char) : isValueMark (letter char) = isValueMark char :=
  relettering.look (fun _ isAlpha => (seen_of_isAlpha isAlpha).2.2.2.2.1) char

theorem opensPhrase (char : Char) : opensPhrase (letter char) = opensPhrase char :=
  relettering.look (fun _ isAlpha => (seen_of_isAlpha isAlpha).2.2.2.2.2) char

end IsRelettering

/-! ## Places and letters of what is read -/

/-- The filter with its value so many bytes further on. -/
def WrittenFilter.shift (distance : Nat) (written : WrittenFilter) : WrittenFilter :=
  { written with valueOffset := written.valueOffset + distance }

def TokenKind.shift (distance : Nat) : TokenKind → TokenKind
  | .filter written => .filter (written.shift distance)
  | kind => kind

def Fault.shift (distance : Nat) : Fault → Fault
  | .missingTerm found => .missingTerm (found.map (TokenKind.shift distance))
  | .unexpected found => .unexpected (found.shift distance)
  | fault => fault

def QueryError.shift (distance : Nat) (error : QueryError) : QueryError :=
  ⟨error.position + distance, error.fault.shift distance⟩

/-- The result of reading a text so many bytes further on, where `move` is what becomes of
what is read. -/
def shifted (distance : Nat) (move : α → β) : Except QueryError α → Except QueryError β
  | .ok value => .ok (move value)
  | .error error => .error (error.shift distance)

def reletter (letter : Char → Char) (text : String) : String :=
  String.ofList (text.toList.map letter)

def FilterSubject.reletter (letter : Char → Char) : FilterSubject → FilterSubject
  | .attr key => .attr (Query.reletter letter key)
  | subject => subject

/-- The filter with other letters, and with its value so many bytes further on. -/
def WrittenFilter.move (distance : Nat) (letter : Char → Char) (written : WrittenFilter) :
    WrittenFilter :=
  ⟨written.subject.reletter letter, written.sign, reletter letter written.value,
    written.valueOffset + distance⟩

/-- The kind of a token with other letters, so many bytes further on. -/
def TokenKind.move (distance : Nat) (letter : Char → Char) : TokenKind → TokenKind
  | .text value => .text (reletter letter value)
  | .quoted value => .quoted (reletter letter value)
  | .filter written => .filter (written.move distance letter)
  | kind => kind

def Token.move (distance : Nat) (letter : Char → Char) (token : Token) : Token :=
  ⟨token.kind.move distance letter, token.position + distance, token.stop + distance⟩

/-- The place so many bytes further on, in front of other letters. -/
def Cursor.move (distance : Nat) (letter : Char → Char) (cursor : Cursor) : Cursor :=
  ⟨cursor.offset + distance, cursor.rest.map letter⟩

def moveRead (distance : Nat) (letter : Char → Char) (read : TokenKind × Cursor) :
    TokenKind × Cursor :=
  (read.1.move distance letter, read.2.move distance letter)

variable {letter : Char → Char} (relettering : IsRelettering letter) {mark char : Char}
  {text rest : List Char} {offset distance : Nat} {cursor : Cursor}

theorem textUntil_move (distance : Nat) (cursor later : Cursor) :
    (cursor.move distance letter).textUntil (later.move distance letter) =
      (cursor.textUntil later).map letter := by
  unfold Cursor.textUntil Cursor.move
  dsimp only
  rw [List.length_map, List.length_map, List.map_take]

theorem toList_reletter (letter : Char → Char) (value : String) :
    (reletter letter value).toList = value.toList.map letter :=
  String.toList_ofList

theorem reletter_ofList (letter : Char → Char) (text : List Char) :
    reletter letter (String.ofList text) = String.ofList (text.map letter) := by
  rw [reletter, String.toList_ofList]

/-- The words that begin a filter name no key. -/
theorem reletter_of_filterWord {word : String} {subject : FilterSubject}
    (isWord : filterWord? text = some (word, subject)) (letter : Char → Char) :
    subject.reletter letter = subject := by
  have noKey := noKey_of_filterWord isWord
  cases subject with
  | attr key => exact absurd rfl (noKey key)
  | _ => rfl

include relettering

theorem byteLength_move (text : List Char) : byteLength (text.map letter) = byteLength text := by
  induction text with
  | nil => rfl
  | cons char rest inductionHypothesis =>
      rw [List.map_cons, byteLength, byteLength, relettering.utf8Size, inductionHypothesis]

theorem skip_move (distance : Nat) (cursor : Cursor) (count : Nat) :
    (cursor.move distance letter).skip count = (cursor.skip count).move distance letter := by
  unfold Cursor.skip Cursor.move
  dsimp only
  rw [← List.map_take, ← List.map_drop, byteLength_move relettering, Nat.add_right_comm]

/-! ## Phrases and words -/

theorem unescape_move (isMark : isQuotationMark mark = true) (char : Char) :
    unescape mark (letter char) = (unescape mark char).map letter := by
  have isBackslash : letter '\\' = '\\' := relettering.eq_of_sign rfl
  have isHidden : letter char = mark ∨ letter char = '\\' ↔ char = mark ∨ char = '\\' :=
    or_congr (relettering.eq_iff (notAlpha_of_mark isMark)) (relettering.eq_iff rfl)
  unfold unescape
  by_cases hidden : char = mark ∨ char = '\\'
  · rw [if_pos hidden, if_pos (isHidden.mpr hidden)]
    rfl
  · rw [if_neg hidden, if_neg (mt isHidden.mp hidden), List.map_cons, List.map_singleton,
      isBackslash]

/-- A phrase is read further on and in other letters as it is read here. -/
theorem readPhrase_move (isMark : isQuotationMark mark = true) (distance offset : Nat)
    (text : List Char) :
    readPhrase mark (offset + distance) (text.map letter) = (readPhrase mark offset text).map
      fun (content, stop) => (content.map letter, stop.move distance letter) := by
  have notAlpha := notAlpha_of_mark isMark
  have isBackslash : letter '\\' = '\\' := relettering.eq_of_sign rfl
  have stillNoEscape {char : Char} (noEscape : char ≠ '\\') : letter char ≠ '\\' := by
    rwa [ne_eq, relettering.eq_iff rfl]
  fun_induction readPhrase mark offset text with
  | case1 => rfl
  | case2 =>
      rw [List.map_singleton, isBackslash]
      rfl
  | case3 offset char rest inductionHypothesis =>
      rw [List.map_cons, List.map_cons, isBackslash, readPhrase, relettering.utf8Size,
        Nat.add_right_comm offset, Nat.add_right_comm _ distance, inductionHypothesis,
        Option.map_map, Option.map_map, unescape_move relettering isMark]
      cases readPhrase mark (offset + 1 + char.utf8Size) rest with
      | none => rfl
      | some read => simp
  | case4 offset rest noEnd noEscape =>
      rw [List.map_cons, readPhrase_cons (stillNoEscape (ne_backslash noEnd noEscape)),
        if_pos (relettering.eq_of_sign notAlpha), relettering.utf8Size, Nat.add_right_comm]
      rfl
  | case5 offset char rest noEnd noEscape notMark inductionHypothesis =>
      rw [List.map_cons, readPhrase_cons (stillNoEscape (ne_backslash noEnd noEscape)),
        if_neg (by rwa [relettering.eq_iff notAlpha]), relettering.utf8Size, Nat.add_right_comm,
        inductionHypothesis, Option.map_map, Option.map_map]
      rfl

/-- So is a word. -/
theorem readWord_move (distance : Nat) (afterMark : Bool) (offset : Nat) (text : List Char) :
    readWord afterMark (offset + distance) (text.map letter) =
      shifted distance (fun (word, stop) => (word.map letter, stop.move distance letter))
        (readWord afterMark offset text) := by
  have stillBreaks (char : Char) := relettering.endsWord char
  have stillOpens (afterMark : Bool) (char : Char) :
      (afterMark && isQuotationMark (letter char)) = (afterMark && isQuotationMark char) := by
    rw [relettering.isQuotationMark]
  have sameMark {char : Char} {afterMark : Bool}
      (opens : (afterMark && isQuotationMark char) = true) : letter char = char :=
    relettering.eq_of_sign (notAlpha_of_mark (Bool.and_eq_true_iff.mp opens).2)
  fun_induction readWord afterMark offset text with
  | case1 =>
      unfold readWord
      rfl
  | case2 afterMark offset char rest isBreak =>
      rw [List.map_cons, readWord_of_break (by rwa [stillBreaks])]
      rfl
  | case3 afterMark offset char rest noBreak opens noPhrase =>
      have again := readPhrase_move relettering (Bool.and_eq_true_iff.mp opens).2 distance
        (offset + char.utf8Size) rest
      rw [noPhrase, Nat.add_right_comm] at again
      rw [List.map_cons, sameMark opens, readWord_of_open_phrase noBreak opens again]
      rfl
  | case4 afterMark offset char rest noBreak opens content phraseStop phrase _
      inductionHypothesis =>
      have again := readPhrase_move relettering (Bool.and_eq_true_iff.mp opens).2 distance
        (offset + char.utf8Size) rest
      rw [phrase, Nat.add_right_comm] at again
      rw [List.map_cons, sameMark opens, readWord_of_phrase noBreak opens again, Cursor.move,
        inductionHypothesis]
      cases readWord false phraseStop.offset phraseStop.rest with
      | error error => rfl
      | ok read => simp [shifted, Except.map]
  | case5 afterMark offset char rest noBreak noOpen inductionHypothesis =>
      rw [List.map_cons, readWord_of_char (by rwa [stillBreaks]) (by rwa [stillOpens]),
        relettering.isValueMark, relettering.utf8Size, Nat.add_right_comm, inductionHypothesis]
      cases readWord (isValueMark char) (offset + char.utf8Size) rest <;> rfl

/-! ## Filters -/

/-- Signs are where they were. -/
theorem map_eq_iff {signs : List Char} (noLetters : ∀ sign ∈ signs, sign.isAlpha = false) :
    text.map letter = signs ↔ text = signs := by
  induction signs generalizing text with
  | nil => rw [List.map_eq_nil_iff]
  | cons sign signs inductionHypothesis =>
      obtain ⟨notAlpha, noLetters⟩ := List.forall_mem_cons.mp noLetters
      cases text with
      | nil => simp
      | cons char rest =>
          rw [List.map_cons, List.cons.injEq, List.cons.injEq, relettering.eq_iff notAlpha,
            inductionHypothesis noLetters]

theorem split_move (text : List Char) : Comparison.split (text.map letter) =
    ((Comparison.split text).1, (Comparison.split text).2.map letter) := by
  have same {sign : Char} (notAlpha : sign.isAlpha = false) : letter sign = sign :=
    relettering.eq_of_sign notAlpha
  have fresh {text front : List Char} (none : ∀ rest, text = front ++ rest → False)
      (noLetters : front.any Char.isAlpha = false) (rest : List Char)
      (equal : text.map letter = front ++ rest) : False := by
    obtain ⟨first, second, rfl, isFront, -⟩ := List.map_eq_append_iff.mp equal
    have noLetters (sign : Char) (member : sign ∈ front) : sign.isAlpha = false :=
      Bool.eq_false_iff.mpr (List.any_eq_false.mp noLetters sign member)
    exact none second (by rw [(map_eq_iff relettering noLetters).mp isFront])
  fun_cases Comparison.split text with
  | case1 rest =>
      rw [List.map_cons, List.map_cons, same rfl, same rfl]
      rfl
  | case2 rest =>
      rw [List.map_cons, List.map_cons, same rfl, same rfl]
      rfl
  | case3 rest =>
      rw [List.map_cons, List.map_cons, same rfl, same rfl]
      rfl
  | case4 rest noEquals =>
      rw [List.map_cons, same rfl]
      exact Comparison.split.eq_4 _ (@fresh _ ['='] noEquals rfl)
  | case5 rest noEquals =>
      rw [List.map_cons, same rfl]
      exact Comparison.split.eq_5 _ (@fresh _ ['='] noEquals rfl)
  | case6 rest =>
      rw [List.map_cons, same rfl]
      exact Comparison.split.eq_6 _
  | case7 _ noGe noLe noNe noGt noLt noEq =>
      exact Comparison.split.eq_7 _ (@fresh _ ['>', '='] noGe rfl)
        (@fresh _ ['<', '='] noLe rfl) (@fresh _ ['!', '='] noNe rfl)
        (@fresh _ ['>'] noGt rfl) (@fresh _ ['<'] noLt rfl)
        (@fresh _ ['='] noEq rfl)

theorem readComparison_move (distance : Nat) (subject : FilterSubject) (cursor : Cursor) :
    readComparison (subject.reletter letter) (cursor.move distance letter) =
      shifted distance (moveRead distance letter) (readComparison subject cursor) := by
  have sameRest : (cursor.move distance letter).rest = cursor.rest.map letter := rfl
  unfold readComparison
  dsimp only
  rw [sameRest, split_move relettering, List.length_map, List.length_map, skip_move relettering]
  generalize cursor.skip (cursor.rest.length - (Comparison.split cursor.rest).2.length) = value
  rw [Cursor.move, readWord_move relettering]
  cases readWord true value.offset value.rest with
  | error error => rfl
  | ok read => simp [shifted, Except.map, moveRead, TokenKind.move, WrittenFilter.move, reletter]

theorem readTextWord_move (distance : Nat) (cursor : Cursor) :
    readTextWord (cursor.move distance letter) =
      shifted distance (moveRead distance letter) (readTextWord cursor) := by
  unfold readTextWord Cursor.move
  rw [readWord_move relettering]
  cases readWord false cursor.offset cursor.rest with
  | error error => rfl
  | ok read => simp [shifted, Except.map, moveRead, TokenKind.move, reletter]

theorem endsKey_move (char : Char) :
    (endsWord (letter char) || letter char == '<' || letter char == '>' || letter char == '=') =
      (endsWord char || char == '<' || char == '>' || char == '=') := by
  rw [relettering.endsWord, relettering.beq_eq (show '<'.isAlpha = false from rfl),
    relettering.beq_eq (show '>'.isAlpha = false from rfl),
    relettering.beq_eq (show '='.isAlpha = false from rfl)]

theorem attributeKey_move (text : List Char) :
    attributeKey (text.map letter) = (attributeKey text).map letter := by
  have fresh {char : Char} {rest : List Char}
      (noPair : ∀ more, char = '!' → rest = '=' :: more → False) (more : List Char)
      (isPair : letter char :: rest.map letter = '!' :: '=' :: more) : False := by
    obtain ⟨isMark, isRest⟩ := List.cons.inj isPair
    obtain ⟨next, behind, rfl, isEquals, -⟩ := List.map_eq_cons_iff.mp isRest
    exact noPair behind ((relettering.eq_iff rfl).mp isMark)
      (by rw [(relettering.eq_iff rfl).mp isEquals])
  fun_induction attributeKey text with
  | case1 => rfl
  | case2 rest =>
      rw [List.map_cons, List.map_cons, relettering.eq_of_sign rfl, relettering.eq_of_sign rfl]
      rfl
  | case3 char rest noPair ends =>
      rw [List.map_cons, attributeKey_cons (fresh noPair),
        if_pos ((endsKey_move relettering char).trans ends)]
      rfl
  | case4 char rest noPair notEnd inductionHypothesis =>
      rw [List.map_cons, attributeKey_cons (fresh noPair),
        if_neg (by rwa [endsKey_move relettering]), inductionHypothesis]
      rfl

theorem readPlainWord_move (distance : Nat) (cursor : Cursor) :
    readPlainWord (cursor.move distance letter) =
      shifted distance (moveRead distance letter) (readPlainWord cursor) := by
  have sameRest : (cursor.move distance letter).rest = cursor.rest.map letter := rfl
  by_cases isAt : cursor.rest.head? = some '@'
  · obtain ⟨rest, isText⟩ := List.head?_eq_some_iff.mp isAt
    have isTextAgain : (cursor.move distance letter).rest = '@' :: rest.map letter := by
      rw [sameRest, isText, List.map_cons, relettering.eq_of_sign rfl]
    rw [readPlainWord_of_at isText, readPlainWord_of_at isTextAgain,
      attributeKey_move relettering, List.isEmpty_map, List.length_map, skip_move relettering]
    split
    · exact readTextWord_move relettering distance cursor
    · have isKey : FilterSubject.attr (String.ofList ((attributeKey rest).map letter)) =
          (FilterSubject.attr (String.ofList (attributeKey rest))).reletter letter := by
        rw [FilterSubject.reletter, reletter_ofList]
      rw [isKey]
      exact readComparison_move relettering distance _ _
  · rw [readPlainWord_of_text isAt, readPlainWord_of_text]
    · exact readTextWord_move relettering distance cursor
    · rw [sameRest, List.head?_map]
      intro starts
      obtain ⟨char, isHead, isSign⟩ := Option.map_eq_some_iff.mp starts
      rw [relettering.eq_iff rfl] at isSign
      rw [isSign] at isHead
      exact isAt isHead

/-! ## Arguments of sub-filters -/

theorem skipGroup_move (distance start inner : Nat) (opens : Bool) (offset : Nat)
    (text : List Char) :
    skipGroup (start + distance) inner opens (offset + distance) (text.map letter) =
      shifted distance (Cursor.move distance letter) (skipGroup start inner opens offset text) := by
  have isOpening : letter '(' = '(' := relettering.eq_of_sign rfl
  have isClosing : letter ')' = ')' := relettering.eq_of_sign rfl
  have stillNot {sign char : Char} (notAlpha : sign.isAlpha = false)
      (notSign : ¬ (char == sign) = true) : ¬ (letter char == sign) = true := by
    rwa [relettering.beq_eq notAlpha]
  have stillOpens (opens : Bool) (char : Char) :
      (opens && isQuotationMark (letter char)) = (opens && isQuotationMark char) := by
    rw [relettering.isQuotationMark]
  have sameMark {char : Char} {opens : Bool}
      (isPhrase : (opens && isQuotationMark char) = true) : letter char = char :=
    relettering.eq_of_sign (notAlpha_of_mark (Bool.and_eq_true_iff.mp isPhrase).2)
  fun_induction skipGroup start inner opens offset text with
  | case1 =>
      unfold skipGroup
      rfl
  | case2 inner opens offset char rest isOpen inductionHypothesis =>
      obtain rfl := beq_iff_eq.mp isOpen
      rw [List.map_cons, isOpening, skipGroup_of_open, Nat.add_right_comm, inductionHypothesis]
  | case3 opens offset char rest _ isClose =>
      obtain rfl := beq_iff_eq.mp isClose
      rw [List.map_cons, isClosing, skipGroup_of_close, Nat.add_right_comm]
      rfl
  | case4 opens offset char rest _ isClose inner inductionHypothesis =>
      obtain rfl := beq_iff_eq.mp isClose
      rw [List.map_cons, isClosing, skipGroup_of_close, Nat.add_right_comm]
      exact inductionHypothesis
  | case5 inner opens offset char rest notOpen notClose isPhrase noPhrase =>
      have again := readPhrase_move relettering (Bool.and_eq_true_iff.mp isPhrase).2 distance
        (offset + char.utf8Size) rest
      rw [noPhrase, Nat.add_right_comm] at again
      rw [List.map_cons, sameMark isPhrase,
        skipGroup_of_open_phrase notOpen notClose isPhrase again]
      rfl
  | case6 inner opens offset char rest notOpen notClose isPhrase content phraseStop phrase _
      inductionHypothesis =>
      have again := readPhrase_move relettering (Bool.and_eq_true_iff.mp isPhrase).2 distance
        (offset + char.utf8Size) rest
      rw [phrase, Nat.add_right_comm] at again
      rw [List.map_cons, sameMark isPhrase, skipGroup_of_phrase notOpen notClose isPhrase again,
        Cursor.move, inductionHypothesis]
  | case7 inner opens offset char rest notOpen notClose noPhrase inductionHypothesis =>
      rw [List.map_cons, skipGroup_of_char (stillNot rfl notOpen) (stillNot rfl notClose)
        (by rwa [stillOpens]), relettering.opensPhrase, relettering.utf8Size, Nat.add_right_comm,
        inductionHypothesis]

theorem skipArgument_move {word : Cursor → Except QueryError (TokenKind × Cursor)}
    (wordMove : ∀ cursor : Cursor, word (cursor.move distance letter) =
      shifted distance (moveRead distance letter) (word cursor))
    (cursor : Cursor) :
    skipArgument word (cursor.move distance letter) =
      shifted distance (Cursor.move distance letter) (skipArgument word cursor) := by
  have sameMinuses : (cursor.rest.map letter).takeWhile (· == '-') =
      (cursor.rest.takeWhile (· == '-')).map letter := by
    rw [List.takeWhile_map]
    have sameTest : ((· == '-') ∘ letter) = (· == '-') :=
      funext fun char => relettering.beq_eq rfl char
    rw [sameTest]
  have sameRest : (cursor.move distance letter).rest = cursor.rest.map letter := rfl
  unfold skipArgument
  dsimp only
  rw [sameRest, sameMinuses, List.length_map, skip_move relettering]
  generalize cursor.skip (cursor.rest.takeWhile (· == '-')).length = operand
  have operandMove := wordMove operand
  obtain ⟨offset, text⟩ := operand
  cases text with
  | nil => rfl
  | cons char rest =>
      dsimp only [Cursor.move] at operandMove ⊢
      rw [List.map_cons] at operandMove ⊢
      dsimp only
      rw [relettering.beq_eq (show '('.isAlpha = false from rfl), relettering.isQuotationMark,
        relettering.endsWord, relettering.utf8Size]
      split
      · rw [Nat.add_right_comm, skipGroup_move relettering]
      split
      · rename_i isMark
        rw [relettering.eq_of_sign (notAlpha_of_mark isMark), Nat.add_right_comm,
          readPhrase_move relettering isMark]
        cases readPhrase char (offset + char.utf8Size) rest <;> rfl
      split
      · rfl
      · rw [operandMove]
        cases word ⟨offset, char :: rest⟩ <;> rfl

theorem filterWord?_move (text : List Char) : filterWord? (text.map letter) = filterWord? text := by
  have sameLower : Char.toLower ∘ letter = Char.toLower := funext relettering.toLower
  unfold filterWord?
  simp only [← List.map_take, List.map_map, sameLower]

theorem readWordToken_move (distance levels : Nat) (cursor : Cursor) :
    readWordToken levels (cursor.move distance letter) =
      shifted distance (moveRead distance letter) (readWordToken levels cursor) := by
  induction levels using Nat.strongRecOn generalizing cursor with
  | ind levels inductionHypothesis =>
      have sameWord : filterWord? (cursor.move distance letter).rest = filterWord? cursor.rest :=
        filterWord?_move relettering cursor.rest
      cases isWord : filterWord? cursor.rest with
      | none =>
          rw [readWordToken_of_none isWord, readWordToken_of_none (sameWord.trans isWord)]
          exact readPlainWord_move relettering distance cursor
      | some entry =>
          obtain ⟨word, subject⟩ := entry
          rw [readWordToken_of_word isWord, readWordToken_of_word (sameWord.trans isWord),
            skip_move relettering]
          split
          · cases levels with
            | zero => rfl
            | succ levels =>
                have argument := skipArgument_move relettering
                  (inductionHypothesis levels (Nat.lt_succ_self levels)) (cursor.skip word.length)
                dsimp only
                rw [argument]
                cases skipArgument (readWordToken levels) (cursor.skip word.length) with
                | error error => rfl
                | ok stop =>
                    dsimp only [shifted, Except.map, moveRead, TokenKind.move, WrittenFilter.move]
                    rw [textUntil_move, reletter_ofList, reletter_of_filterWord isWord]
                    rfl
          · have comparison := readComparison_move relettering distance subject
              (cursor.skip word.length)
            rwa [reletter_of_filterWord isWord] at comparison

/-! ## Tokens -/

/-- Tokens are read further on and in other letters as they are read here. -/
theorem readLexeme_move (distance levels offset : Nat) (char : Char) (rest : List Char) :
    readLexeme levels (offset + distance) (letter char) (rest.map letter) =
      shifted distance (moveRead distance letter) (readLexeme levels offset char rest) := by
  by_cases isSign : ∃ sign, (char, sign) ∈ signTokens
  · obtain ⟨sign, isSign⟩ := isSign
    have same : letter char = char := relettering.eq_of_sign (notAlpha_of_sign isSign)
    rw [same, readLexeme_of_sign isSign, readLexeme_of_sign isSign, Nat.add_right_comm]
    rcases mem_signTokens.mp isSign with
      ⟨-, rfl⟩ | ⟨-, rfl⟩ | ⟨-, rfl⟩ | ⟨-, rfl⟩ | ⟨-, rfl⟩ <;> rfl
  · by_cases isMark : isQuotationMark char = true
    · have again := readPhrase_move relettering isMark distance (offset + char.utf8Size) rest
      rw [relettering.eq_of_sign (notAlpha_of_mark isMark)]
      rw [Nat.add_right_comm] at again
      cases phrase : readPhrase char (offset + char.utf8Size) rest with
      | none =>
          rw [phrase] at again
          rw [readLexeme_of_open_phrase isMark phrase, readLexeme_of_open_phrase isMark again]
          rfl
      | some result =>
          rw [phrase] at again
          rw [readLexeme_of_phrase isMark phrase, readLexeme_of_phrase isMark again]
          simp [shifted, moveRead, TokenKind.move, reletter]
    · have notSign (sign : TokenKind) (isSignAgain : (letter char, sign) ∈ signTokens) : False := by
        have same : char = letter char :=
          (relettering.eq_iff (notAlpha_of_sign isSignAgain)).mp rfl
        rw [← same] at isSignAgain
        exact isSign ⟨sign, isSignAgain⟩
      rw [readLexeme_of_word (not_exists.mp isSign) isMark,
        readLexeme_of_word notSign (by rwa [relettering.isQuotationMark])]
      exact readWordToken_move relettering distance levels ⟨offset, char :: rest⟩

/-- Further on and in other letters, a text gives the same tokens further on and in the other
letters. -/
theorem scanFrom_move (distance levels offset : Nat) (text : List Char) :
    Token.scanFrom levels (offset + distance) (text.map letter) =
      shifted distance (List.map (Token.move distance letter))
        (Token.scanFrom levels offset text) := by
  fun_induction Token.scanFrom levels offset text with
  | case1 =>
      unfold Token.scanFrom
      rfl
  | case2 offset char rest blank inductionHypothesis =>
      rw [List.map_cons, scanFrom_of_blank (by rwa [relettering.isBlank]), relettering.utf8Size,
        Nat.add_right_comm, inductionHypothesis]
  | case3 offset char rest notBlank error failed =>
      have again := readLexeme_move relettering distance levels offset char rest
      rw [failed] at again
      rw [List.map_cons, scanFrom_of_error (by rwa [relettering.isBlank]) again]
      rfl
  | case4 offset char rest notBlank kind stop read _ inductionHypothesis =>
      have again := readLexeme_move relettering distance levels offset char rest
      rw [read] at again
      rw [List.map_cons, scanFrom_of_token (by rwa [relettering.isBlank]) again]
      dsimp only [moveRead, Cursor.move]
      rw [inductionHypothesis]
      cases Token.scanFrom levels stop.offset stop.rest <;> rfl

end Outliner.Query
