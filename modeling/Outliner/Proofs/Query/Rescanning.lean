import Outliner.Query.Token.Scan

/-!
Contract: what the tokens of a text depend on.

Owns: that the tokens of a text, apart from where they are, depend neither on the offset at
which the text starts nor on a parenthesis that closes behind it, and that the levels of
nesting only decide whether there is a complaint about them.

Main statement: `scanFrom_again`.

Does not own: what tokens are read as (`Proofs.Query.Grammar`).
-/

namespace Outliner.Query

open Outliner.Text

/-- A complaint that a query nests too deep. -/
def TooDeep {α : Type} (result : Except QueryError α) : Prop :=
  ∃ position, result = .error ⟨position, .nestedTooDeep⟩

/-- A kind of token without the place of a filter's value. -/
def TokenKind.placeless : TokenKind → TokenKind
  | .filter written => .filter { written with valueOffset := 0 }
  | kind => kind

/-- What a grammar sees of a token. -/
def Token.symbol (token : Token) : TokenKind :=
  token.kind.placeless

/-- Nothing more, or a parenthesis that closes. -/
def Closes (tail : List Char) : Prop :=
  tail = [] ∨ ∃ rest, tail = ')' :: rest

/-- Nothing more, or a character that ends a word. -/
def StopsWord (tail : List Char) : Prop :=
  ∀ char ∈ tail.head?, endsWord char = true

variable {tail text : List Char} {mark char : Char} {offset levels : Nat} {stop cursor : Cursor}
  {kind : TokenKind}

theorem stopsWord_nil : StopsWord [] :=
  nofun

theorem Closes.stopsWord (closes : Closes tail) : StopsWord tail := by
  rcases closes with rfl | ⟨rest, rfl⟩
  · exact stopsWord_nil
  · rintro char ⟨⟩
    decide

theorem TooDeep.map {α β : Type} {result : Except QueryError α} (deep : TooDeep result)
    (change : α → β) : TooDeep (result.map change) := by
  obtain ⟨position, rfl⟩ := deep
  exact ⟨position, rfl⟩

/-! ## Phrases and words -/

/-- One character of a phrase, if it is no backslash. -/
theorem readPhrase_cons (noEscape : char ≠ '\\') (mark : Char) (offset : Nat) (rest : List Char) :
    readPhrase mark offset (char :: rest) =
      if char = mark then some ([], ⟨offset + char.utf8Size, rest⟩)
      else (readPhrase mark (offset + char.utf8Size) rest).map fun (content, stop) =>
        (char :: content, stop) := by
  rw [readPhrase.eq_def]
  split <;> simp_all

/-- What neither ends with a backslash nor escapes a character begins with no backslash. -/
theorem ne_backslash {rest : List Char} (noEnd : char = '\\' → rest = [] → False)
    (noEscape : ∀ next more, char = '\\' → rest = next :: more → False) : char ≠ '\\' := by
  rintro rfl
  cases rest with
  | nil => exact noEnd rfl rfl
  | cons next more => exact noEscape next more rfl rfl

/-- A phrase ends at its mark, whatever stands behind it. -/
theorem readPhrase_again {content : List Char}
    (read : readPhrase mark offset text = some (content, stop)) (again : Nat) (tail : List Char) :
    ∃ place, readPhrase mark again (text ++ tail) = some (content, ⟨place, stop.rest ++ tail⟩) := by
  fun_induction readPhrase mark offset text generalizing content again with
  | case1 => cases read
  | case2 => cases read
  | case3 offset char rest inductionHypothesis =>
      obtain ⟨⟨inner, innerStop⟩, readInner, equal⟩ := Option.map_eq_some_iff.mp read
      obtain ⟨rfl, rfl⟩ := Prod.mk.inj equal
      obtain ⟨place, readAgain⟩ := inductionHypothesis readInner (again + 1 + char.utf8Size)
      refine ⟨place, ?_⟩
      rw [List.cons_append, List.cons_append, readPhrase, readAgain]
      rfl
  | case4 offset rest noEnd noEscape =>
      obtain ⟨rfl, rfl⟩ := Prod.mk.inj (Option.some.inj read)
      rw [List.cons_append, readPhrase_cons (ne_backslash noEnd noEscape), if_pos rfl]
      exact ⟨_, rfl⟩
  | case5 offset char rest noEnd noEscape notMark inductionHypothesis =>
      obtain ⟨⟨inner, innerStop⟩, readInner, equal⟩ := Option.map_eq_some_iff.mp read
      obtain ⟨rfl, rfl⟩ := Prod.mk.inj equal
      obtain ⟨place, readAgain⟩ := inductionHypothesis readInner (again + char.utf8Size)
      rw [List.cons_append, readPhrase_cons (ne_backslash noEnd noEscape), if_neg notMark,
        readAgain]
      exact ⟨place, rfl⟩

theorem readWord_of_break {afterMark : Bool} {rest : List Char} (isBreak : endsWord char = true) :
    readWord afterMark offset (char :: rest) = .ok ([], ⟨offset, char :: rest⟩) := by
  unfold readWord
  dsimp only
  rw [if_pos isBreak]

theorem readWord_of_phrase {afterMark : Bool} {rest content : List Char}
    (noBreak : ¬ endsWord char = true) (opens : (afterMark && isQuotationMark char) = true)
    (phrase : readPhrase char (offset + char.utf8Size) rest = some (content, stop)) :
    readWord afterMark offset (char :: rest) =
      (readWord false stop.offset stop.rest).map fun (word, stop) => (content ++ word, stop) := by
  conv => lhs; unfold readWord
  dsimp only
  rw [if_neg noBreak, if_pos opens]
  split
  · rename_i noPhrase
    rw [phrase] at noPhrase
    cases noPhrase
  · rename_i isPhrase
    rw [phrase] at isPhrase
    obtain ⟨rfl, rfl⟩ := Prod.mk.inj (Option.some.inj isPhrase)
    rfl

theorem readWord_of_open_phrase {afterMark : Bool} {rest : List Char}
    (noBreak : ¬ endsWord char = true) (opens : (afterMark && isQuotationMark char) = true)
    (noPhrase : readPhrase char (offset + char.utf8Size) rest = none) :
    readWord afterMark offset (char :: rest) = .error ⟨offset, .unclosedQuote⟩ := by
  unfold readWord
  dsimp only
  rw [if_neg noBreak, if_pos opens]
  split
  · rfl
  · rename_i isPhrase
    rw [noPhrase] at isPhrase
    cases isPhrase

theorem readWord_of_char {afterMark : Bool} {rest : List Char} (noBreak : ¬ endsWord char = true)
    (noPhrase : ¬ (afterMark && isQuotationMark char) = true) :
    readWord afterMark offset (char :: rest) =
      (readWord (isValueMark char) (offset + char.utf8Size) rest).map fun (word, stop) =>
        (char :: word, stop) := by
  conv => lhs; unfold readWord
  dsimp only
  rw [if_neg noBreak, if_neg noPhrase]

/-- Where a word cannot start, an empty one is read. -/
theorem readWord_of_stop (stops : StopsWord tail) (afterMark : Bool) (offset : Nat) :
    readWord afterMark offset tail = .ok ([], ⟨offset, tail⟩) := by
  cases tail with
  | nil =>
      unfold readWord
      rfl
  | cons char rest => exact readWord_of_break (stops char rfl)

/-- A word in front of a closing parenthesis, or of the end, is read up to there again. -/
theorem readWord_again {afterMark : Bool} {word : List Char}
    (read : readWord afterMark offset text = .ok (word, stop)) (again : Nat)
    (closes : Closes tail) :
    ∃ place, readWord afterMark again (text ++ tail) = .ok (word, ⟨place, stop.rest ++ tail⟩) := by
  fun_induction readWord afterMark offset text generalizing word stop again with
  | case1 =>
      obtain ⟨rfl, rfl⟩ := Prod.mk.inj (Except.ok.inj read)
      exact ⟨again, readWord_of_stop closes.stopsWord _ again⟩
  | case2 _ _ char rest isBreak =>
      obtain ⟨rfl, rfl⟩ := Prod.mk.inj (Except.ok.inj read)
      exact ⟨again, readWord_of_break isBreak⟩
  | case3 => cases read
  | case4 afterMark offset char rest noBreak opens content innerStop phrase _
      inductionHypothesis =>
      obtain ⟨⟨inner, last⟩, readInner, equal⟩ := exists_of_map_eq_ok read
      obtain ⟨rfl, rfl⟩ := Prod.mk.inj equal
      obtain ⟨place, phraseAgain⟩ := readPhrase_again phrase (again + char.utf8Size) tail
      obtain ⟨place, readAgain⟩ := inductionHypothesis readInner place
      rw [List.cons_append, readWord_of_phrase noBreak opens phraseAgain, readAgain]
      exact ⟨place, rfl⟩
  | case5 afterMark offset char rest noBreak noOpen inductionHypothesis =>
      obtain ⟨⟨inner, last⟩, readInner, equal⟩ := exists_of_map_eq_ok read
      obtain ⟨rfl, rfl⟩ := Prod.mk.inj equal
      obtain ⟨place, readAgain⟩ := inductionHypothesis readInner (again + char.utf8Size)
      rw [List.cons_append, readWord_of_char noBreak noOpen, readAgain]
      exact ⟨place, rfl⟩

/-! ## Filters -/

/-- A front without a closing parenthesis does not reach into what follows the text. -/
theorem exists_of_append_closes (closes : Closes tail) {front rest : List Char}
    (noClose : ')' ∉ front) (equal : text ++ tail = front ++ rest) :
    ∃ more, text = front ++ more := by
  rcases List.append_eq_append_iff.mp equal with ⟨between, isFront, isTail⟩ | ⟨more, isText, -⟩
  · cases between with
    | nil => exact ⟨[], by rw [isFront, List.append_nil, List.append_nil]⟩
    | cons char between =>
        rcases closes with rfl | ⟨behind, rfl⟩
        · cases isTail
        · obtain ⟨rfl, -⟩ := List.cons.inj isTail
          rw [isFront] at noClose
          exact absurd (List.mem_append_right text List.mem_cons_self) noClose
  · exact ⟨more, isText⟩

/-- What closes a group belongs to no comparator. -/
theorem split_append (closes : Closes tail) (text : List Char) :
    Comparison.split (text ++ tail) =
      ((Comparison.split text).1, (Comparison.split text).2 ++ tail) := by
  have fresh : ∀ {text front : List Char}, (∀ rest, text = front ++ rest → False) →
      ')' ∉ front → ∀ rest, text ++ tail = front ++ rest → False := by
    intro text front none noClose rest equal
    obtain ⟨more, isText⟩ := exists_of_append_closes closes noClose equal
    exact none more isText
  fun_cases Comparison.split text with
  | case1 rest => rfl
  | case2 rest => rfl
  | case3 rest => rfl
  | case4 rest noEquals =>
      exact Comparison.split.eq_4 _ (@fresh _ ['='] noEquals (by decide))
  | case5 rest noEquals =>
      exact Comparison.split.eq_5 _ (@fresh _ ['='] noEquals (by decide))
  | case6 rest => exact Comparison.split.eq_6 _
  | case7 _ noGe noLe noNe noGt noLt noEq =>
      exact Comparison.split.eq_7 _ (@fresh _ ['>', '='] noGe (by decide))
        (@fresh _ ['<', '='] noLe (by decide)) (@fresh _ ['!', '='] noNe (by decide))
        (@fresh _ ['>'] noGt (by decide)) (@fresh _ ['<'] noLt (by decide))
        (@fresh _ ['='] noEq (by decide))

theorem attributeKey_cons {char : Char} {rest : List Char}
    (noPair : ∀ more, char :: rest = '!' :: '=' :: more → False) : attributeKey (char :: rest) =
      if endsWord char || char == '<' || char == '>' || char == '=' then []
      else char :: attributeKey rest := by
  rw [attributeKey.eq_def]
  split
  · rename_i empty
    cases empty
  · rename_i pair
    exact absurd pair (noPair _)
  · rename_i equal
    obtain ⟨rfl, rfl⟩ := List.cons.inj equal
    rfl

theorem attributeKey_of_stop (stops : StopsWord tail) : attributeKey tail = [] := by
  cases tail with
  | nil => rfl
  | cons char rest =>
      have isBreak : endsWord char = true := stops char rfl
      have noPair (more : List Char) (isPair : char :: rest = '!' :: '=' :: more) : False := by
        obtain ⟨rfl, -⟩ := List.cons.inj isPair
        exact absurd isBreak (by decide)
      rw [attributeKey_cons noPair, if_pos (by rw [isBreak]; rfl)]

/-- A key is over where its word is, so what is behind the word does not matter. -/
theorem attributeKey_append (stops : StopsWord tail) (text : List Char) :
    attributeKey (text ++ tail) = attributeKey text := by
  have fresh {char : Char} {rest : List Char}
      (noPair : ∀ more, char = '!' → rest = '=' :: more → False) (more : List Char)
      (isPair : char :: (rest ++ tail) = '!' :: '=' :: more) : False := by
    obtain ⟨rfl, isRest⟩ := List.cons.inj isPair
    cases rest with
    | nil => exact absurd (stops '=' (congrArg List.head? isRest)) (by decide)
    | cons next rest =>
        obtain ⟨rfl, -⟩ := List.cons.inj isRest
        exact noPair rest rfl rfl
  fun_induction attributeKey text with
  | case1 => exact attributeKey_of_stop stops
  | case2 => rfl
  | case3 char rest noPair ends =>
      rw [List.cons_append, attributeKey_cons (fresh noPair), if_pos ends]
  | case4 char rest noPair notEnd inductionHypothesis =>
      rw [List.cons_append, attributeKey_cons (fresh noPair), if_neg notEnd, inductionHypothesis]

theorem map_toLower_take_append (closes : Closes tail) {word : List Char} (noClose : ')' ∉ word) :
    ((text ++ tail).take word.length).map Char.toLower = word ↔
      (text.take word.length).map Char.toLower = word := by
  rcases closes with rfl | ⟨rest, rfl⟩
  · rw [List.append_nil]
  · by_cases short : text.length < word.length
    · constructor
      · intro equal
        apply absurd _ noClose
        rw [← equal]
        refine List.mem_map.mpr ⟨')', ?_, by decide⟩
        rw [List.take_append]
        apply List.mem_append_right
        obtain ⟨more, isMore⟩ := Nat.exists_eq_add_of_lt short
        rw [isMore, Nat.add_assoc, Nat.add_sub_cancel_left, List.take_succ_cons]
        exact List.mem_cons_self
      · intro equal
        have lengths := congrArg List.length equal
        rw [List.length_map, List.length_take] at lengths
        omega
    · rw [List.take_append_of_le_length (Nat.not_lt.mp short)]

/-- What closes a group belongs to no filter's name. -/
theorem filterWord?_append (closes : Closes tail) (text : List Char) :
    filterWord? (text ++ tail) = filterWord? text := by
  have noClose : ∀ entry ∈ FilterSubject.words, ')' ∉ entry.1.toList := by decide
  unfold filterWord?
  generalize FilterSubject.words = words at noClose ⊢
  induction words with
  | nil => rfl
  | cons entry rest inductionHypothesis =>
      obtain ⟨word, subject⟩ := entry
      obtain ⟨wordNoClose, restNoClose⟩ := List.forall_mem_cons.mp noClose
      have same : ((text ++ tail).take word.length).map Char.toLower == word.toList ↔
          (text.take word.length).map Char.toLower == word.toList := by
        rw [← String.length_toList, beq_iff_eq, beq_iff_eq]
        exact map_toLower_take_append closes wordNoClose
      rw [List.find?_cons, List.find?_cons, inductionHypothesis restNoClose]
      dsimp only
      rw [Bool.eq_iff_iff.mpr same]

theorem skip_append {count : Nat} (within : count ≤ cursor.rest.length) (again : Nat)
    (tail : List Char) : ∃ place, Cursor.skip ⟨again, cursor.rest ++ tail⟩ count =
      ⟨place, (cursor.skip count).rest ++ tail⟩ := by
  unfold Cursor.skip
  dsimp only
  rw [List.drop_append_of_le_length within]
  exact ⟨_, rfl⟩

theorem textUntil_append (cursor later : Cursor) (again place : Nat) (tail : List Char) :
    Cursor.textUntil ⟨again, cursor.rest ++ tail⟩ ⟨place, later.rest ++ tail⟩ =
      cursor.textUntil later := by
  unfold Cursor.textUntil
  dsimp only
  rw [List.length_append, List.length_append, Nat.add_sub_add_right,
    List.take_append_of_le_length (Nat.sub_le _ _)]

/-! ## Tokens -/

/-- The same token is read again, in front of a text that is still there afterwards. -/
def Rereads (tail : List Char) (kind : TokenKind) (stop : Cursor)
    (result : Except QueryError (TokenKind × Cursor)) : Prop :=
  ∃ again place, result = .ok (again, ⟨place, stop.rest ++ tail⟩) ∧
    again.placeless = kind.placeless

/-- The value of a filter is read again, with the same kind of token. -/
theorem readComparison_again {subject : FilterSubject}
    (read : readComparison subject cursor = .ok (kind, stop)) (again : Nat)
    (closes : Closes tail) :
    Rereads tail kind stop (readComparison subject ⟨again, cursor.rest ++ tail⟩) := by
  unfold readComparison at read ⊢
  dsimp only at read ⊢
  obtain ⟨⟨word, last⟩, readValue, equal⟩ := exists_of_map_eq_ok read
  obtain ⟨rfl, rfl⟩ := Prod.mk.inj equal
  rw [split_append closes, List.length_append, List.length_append, Nat.add_sub_add_right]
  obtain ⟨value, skipped⟩ := skip_append (Nat.sub_le cursor.rest.length
    (Comparison.split cursor.rest).2.length) again tail
  obtain ⟨place, readAgain⟩ := readWord_again readValue value closes
  rw [skipped, readAgain]
  exact ⟨_, place, rfl, rfl⟩

theorem readTextWord_again (read : readTextWord cursor = .ok (kind, stop)) (again : Nat)
    (closes : Closes tail) :
    Rereads tail kind stop (readTextWord ⟨again, cursor.rest ++ tail⟩) := by
  unfold readTextWord at read ⊢
  obtain ⟨⟨word, last⟩, readValue, equal⟩ := exists_of_map_eq_ok read
  obtain ⟨rfl, rfl⟩ := Prod.mk.inj equal
  obtain ⟨place, readAgain⟩ := readWord_again readValue again closes
  rw [readAgain]
  exact ⟨_, place, rfl, rfl⟩

theorem attributeKey_isFront (text : List Char) : attributeKey text <+: text := by
  fun_induction attributeKey text with
  | case1 => exact List.nil_prefix
  | case2 => exact List.nil_prefix
  | case3 => exact List.nil_prefix
  | case4 char rest _ _ inductionHypothesis =>
      exact List.prefix_cons_inj char |>.mpr inductionHypothesis

theorem length_attributeKey_le (text : List Char) : (attributeKey text).length ≤ text.length :=
  (attributeKey_isFront text).length_le

theorem readPlainWord_of_text (noAt : cursor.rest.head? ≠ some '@') :
    readPlainWord cursor = readTextWord cursor := by
  unfold readPlainWord
  split
  · rename_i isAt
    rw [isAt] at noAt
    exact absurd rfl noAt
  · rfl

/-- An at sign with a key behind it starts a filter on an attribute. -/
theorem readPlainWord_of_at {rest : List Char} (isAt : cursor.rest = '@' :: rest) :
    readPlainWord cursor = if (attributeKey rest).isEmpty then readTextWord cursor
      else readComparison (.attr (String.ofList (attributeKey rest)))
        (cursor.skip ((attributeKey rest).length + 1)) := by
  unfold readPlainWord
  rw [isAt]
  rfl

theorem readPlainWord_again (read : readPlainWord cursor = .ok (kind, stop)) (again : Nat)
    (closes : Closes tail) :
    Rereads tail kind stop (readPlainWord ⟨again, cursor.rest ++ tail⟩) := by
  by_cases isAt : cursor.rest.head? = some '@'
  · obtain ⟨rest, isText⟩ := List.head?_eq_some_iff.mp isAt
    have isTextAgain : cursor.rest ++ tail = '@' :: (rest ++ tail) := by
      rw [isText, List.cons_append]
    rw [readPlainWord_of_at isText] at read
    rw [@readPlainWord_of_at ⟨again, cursor.rest ++ tail⟩ _ isTextAgain,
      attributeKey_append closes.stopsWord]
    by_cases noKey : (attributeKey rest).isEmpty = true
    · rw [if_pos noKey] at read ⊢
      exact readTextWord_again read again closes
    · rw [if_neg noKey] at read ⊢
      have within : (attributeKey rest).length + 1 ≤ cursor.rest.length := by
        rw [isText]
        exact Nat.succ_le_succ (length_attributeKey_le rest)
      obtain ⟨place, skipped⟩ := skip_append within again tail
      rw [skipped]
      exact readComparison_again read place closes
  · rw [readPlainWord_of_text isAt] at read
    rw [readPlainWord_of_text]
    · exact readTextWord_again read again closes
    · intro starts
      obtain ⟨rest, isText⟩ := List.head?_eq_some_iff.mp starts
      obtain ⟨more, isText⟩ :=
        @exists_of_append_closes _ cursor.rest closes ['@'] rest (by decide) isText
      exact isAt (by rw [isText]; rfl)

/-! ## Arguments of sub-filters -/

theorem skipGroup_of_open (start inner : Nat) (opens : Bool) (offset : Nat) (rest : List Char) :
    skipGroup start inner opens offset ('(' :: rest) =
      skipGroup start (inner + 1) true (offset + 1) rest := by
  conv => lhs; unfold skipGroup
  rfl

theorem skipGroup_of_close (start inner : Nat) (opens : Bool) (offset : Nat) (rest : List Char) :
    skipGroup start inner opens offset (')' :: rest) =
      match inner with
      | 0 => .ok ⟨offset + 1, rest⟩
      | inner + 1 => skipGroup start inner true (offset + 1) rest := by
  conv => lhs; unfold skipGroup
  rfl

theorem skipGroup_of_phrase {start inner : Nat} {opens : Bool} {rest content : List Char}
    (notOpen : ¬ (char == '(') = true) (notClose : ¬ (char == ')') = true)
    (isPhrase : (opens && isQuotationMark char) = true)
    (phrase : readPhrase char (offset + char.utf8Size) rest = some (content, stop)) :
    skipGroup start inner opens offset (char :: rest) =
      skipGroup start inner false stop.offset stop.rest := by
  conv => lhs; unfold skipGroup
  dsimp only
  rw [if_neg notOpen, if_neg notClose, if_pos isPhrase]
  split
  · rename_i noPhrase
    rw [phrase] at noPhrase
    cases noPhrase
  · rename_i isPhrase
    rw [phrase] at isPhrase
    obtain ⟨rfl, rfl⟩ := Prod.mk.inj (Option.some.inj isPhrase)
    rfl

theorem skipGroup_of_open_phrase {start inner : Nat} {opens : Bool} {rest : List Char}
    (notOpen : ¬ (char == '(') = true) (notClose : ¬ (char == ')') = true)
    (isPhrase : (opens && isQuotationMark char) = true)
    (noPhrase : readPhrase char (offset + char.utf8Size) rest = none) :
    skipGroup start inner opens offset (char :: rest) = .error ⟨offset, .unclosedQuote⟩ := by
  unfold skipGroup
  dsimp only
  rw [if_neg notOpen, if_neg notClose, if_pos isPhrase]
  split
  · rfl
  · rename_i phrase
    rw [noPhrase] at phrase
    cases phrase

theorem skipGroup_of_char {start inner : Nat} {opens : Bool} {rest : List Char}
    (notOpen : ¬ (char == '(') = true) (notClose : ¬ (char == ')') = true)
    (noPhrase : ¬ (opens && isQuotationMark char) = true) :
    skipGroup start inner opens offset (char :: rest) =
      skipGroup start inner (opensPhrase char) (offset + char.utf8Size) rest := by
  conv => lhs; unfold skipGroup
  dsimp only
  rw [if_neg notOpen, if_neg notClose, if_neg noPhrase]

/-- A scan that finds the end of a group gets there again in front of another text, also
while it looks for the end of a group around it. -/
theorem skipGroup_to_close {start inner : Nat} {opens : Bool}
    (found : skipGroup start inner opens offset text = .ok stop) (around groups again : Nat)
    (tail : List Char) : ∃ last place,
      skipGroup around (inner + groups) opens again (text ++ tail) =
        skipGroup around groups last place (')' :: (stop.rest ++ tail)) := by
  fun_induction skipGroup start inner opens offset text generalizing again with
  | case1 => cases found
  | case2 inner opens offset char rest isOpen inductionHypothesis =>
      obtain rfl := beq_iff_eq.mp isOpen
      rw [List.cons_append, skipGroup_of_open, Nat.add_right_comm]
      exact inductionHypothesis found (again + 1)
  | case3 opens offset char rest _ isClose =>
      obtain rfl := beq_iff_eq.mp isClose
      obtain rfl := Except.ok.inj found
      rw [Nat.zero_add]
      exact ⟨opens, again, rfl⟩
  | case4 opens offset char rest _ isClose inner inductionHypothesis =>
      obtain rfl := beq_iff_eq.mp isClose
      rw [List.cons_append, Nat.succ_add, skipGroup_of_close]
      exact inductionHypothesis found (again + 1)
  | case5 => cases found
  | case6 inner opens offset char rest notOpen notClose isPhrase content phraseStop phrase _
      inductionHypothesis =>
      obtain ⟨place, phraseAgain⟩ := readPhrase_again phrase (again + char.utf8Size) tail
      rw [List.cons_append, skipGroup_of_phrase notOpen notClose isPhrase phraseAgain]
      exact inductionHypothesis found place
  | case7 inner opens offset char rest notOpen notClose noPhrase inductionHypothesis =>
      rw [List.cons_append, skipGroup_of_char notOpen notClose noPhrase]
      exact inductionHypothesis found (again + char.utf8Size)

/-- The parenthesis that closes a group is found again, whatever stands behind it. -/
theorem skipGroup_again {start inner : Nat} {opens : Bool}
    (found : skipGroup start inner opens offset text = .ok stop) (newStart again : Nat)
    (tail : List Char) : ∃ place,
      skipGroup newStart inner opens again (text ++ tail) = .ok ⟨place, stop.rest ++ tail⟩ := by
  obtain ⟨last, place, toClose⟩ := skipGroup_to_close found newStart 0 again tail
  exact ⟨place + 1, toClose.trans (skipGroup_of_close newStart 0 last place _)⟩

theorem takeWhile_append (closes : Closes tail) (text : List Char) :
    (text ++ tail).takeWhile (· == '-') = text.takeWhile (· == '-') := by
  have none : tail.takeWhile (· == '-') = [] := by
    rcases closes with rfl | ⟨rest, rfl⟩ <;> rfl
  rw [List.takeWhile_append, none, List.append_nil]
  split
  · rename_i whole
    exact (List.IsPrefix.eq_of_length (List.takeWhile_prefix _) whole).symm
  · rfl

/-- The argument of a filter ends where it ended, if its words do. -/
theorem skipArgument_again {word again : Cursor → Except QueryError (TokenKind × Cursor)}
    (wordAgain : ∀ cursor kind stop place, word cursor = .ok (kind, stop) →
      TooDeep (again ⟨place, cursor.rest ++ tail⟩) ∨
        Rereads tail kind stop (again ⟨place, cursor.rest ++ tail⟩))
    (closes : Closes tail) (found : skipArgument word cursor = .ok stop) (start : Nat) :
    TooDeep (skipArgument again ⟨start, cursor.rest ++ tail⟩) ∨
      ∃ place,
        skipArgument again ⟨start, cursor.rest ++ tail⟩ = .ok ⟨place, stop.rest ++ tail⟩ := by
  unfold skipArgument at found ⊢
  dsimp only at found ⊢
  obtain ⟨place, skipped⟩ := skip_append (List.takeWhile_prefix (· == '-')).length_le start tail
  rw [takeWhile_append closes, skipped]
  generalize cursor.skip (cursor.rest.takeWhile (· == '-')).length = operand at found ⊢
  obtain ⟨offset, text⟩ := operand
  cases text with
  | nil =>
      obtain rfl := Except.ok.inj found
      right
      refine ⟨place, ?_⟩
      rcases closes with rfl | ⟨rest, rfl⟩ <;> rfl
  | cons char rest =>
      dsimp only [List.cons_append] at found ⊢
      by_cases isOpen : (char == '(') = true
      · rw [if_pos isOpen] at found ⊢
        exact .inr (skipGroup_again found place (place + 1) tail)
      · rw [if_neg isOpen] at found ⊢
        by_cases isQuote : isQuotationMark char = true
        · rw [if_pos isQuote] at found ⊢
          cases phrase : readPhrase char (offset + char.utf8Size) rest with
          | none =>
              rw [phrase] at found
              cases found
          | some result =>
              obtain ⟨content, phraseStop⟩ := result
              rw [phrase] at found
              obtain rfl := Except.ok.inj found
              obtain ⟨after, phraseAgain⟩ := readPhrase_again phrase (place + char.utf8Size) tail
              rw [phraseAgain]
              exact .inr ⟨after, rfl⟩
        · rw [if_neg isQuote] at found ⊢
          by_cases isBreak : endsWord char = true
          · rw [if_pos isBreak] at found ⊢
            obtain rfl := Except.ok.inj found
            exact .inr ⟨place, rfl⟩
          · rw [if_neg isBreak] at found ⊢
            obtain ⟨⟨kind, last⟩, read, rfl⟩ := exists_of_map_eq_ok found
            rcases wordAgain _ kind last place read with deep | ⟨newKind, after, readAgain, -⟩
            · exact .inl (deep.map Prod.snd)
            · right
              refine ⟨after, ?_⟩
              rw [← List.cons_append, readAgain]
              rfl

theorem filterWord?_length_le {word : String} {subject : FilterSubject}
    (isWord : filterWord? text = some (word, subject)) : word.length ≤ text.length := by
  unfold filterWord? at isWord
  have isHead := List.find?_some isWord
  dsimp only at isHead
  have lengths := congrArg List.length (beq_iff_eq.mp isHead)
  rw [List.length_map, List.length_take, String.length_toList] at lengths
  omega

/-- No filter word names an attribute. -/
theorem noKey_of_filterWord {word : String} {subject : FilterSubject}
    (isWord : filterWord? text = some (word, subject)) (key : String) : subject ≠ .attr key := by
  have noKey : ∀ entry ∈ FilterSubject.words, ∀ key, entry.2 ≠ .attr key := by
    simp [FilterSubject.words]
  exact noKey _ (List.mem_of_find?_eq_some isWord) key

theorem readWordToken_of_none (noWord : filterWord? cursor.rest = none) (levels : Nat) :
    readWordToken levels cursor = readPlainWord cursor := by
  rw [readWordToken.eq_def, noWord]

/-- A filter's name is followed by an argument, one level below, or by a comparison. -/
theorem readWordToken_of_word {word : String} {subject : FilterSubject}
    (isWord : filterWord? cursor.rest = some (word, subject)) (levels : Nat) :
    readWordToken levels cursor =
      if subject == .parent || subject == .ancestor then
        match levels with
        | 0 => .error ⟨cursor.offset, .nestedTooDeep⟩
        | levels + 1 =>
          (skipArgument (readWordToken levels) (cursor.skip word.length)).map fun stop =>
            (.filter ⟨subject, none, String.ofList ((cursor.skip word.length).textUntil stop),
              (cursor.skip word.length).offset⟩, stop)
      else readComparison subject (cursor.skip word.length) := by
  cases levels with
  | zero => rw [readWordToken.eq_def, isWord]
  | succ levels => rw [readWordToken.eq_def, isWord]

/-- A word is read again with any levels, unless it holds sub-filters that are too deep. -/
theorem readWordToken_again (read : readWordToken levels cursor = .ok (kind, stop))
    (closes : Closes tail) (newLevels again : Nat) :
    TooDeep (readWordToken newLevels ⟨again, cursor.rest ++ tail⟩) ∨
      Rereads tail kind stop (readWordToken newLevels ⟨again, cursor.rest ++ tail⟩) := by
  induction newLevels using Nat.strongRecOn generalizing levels cursor kind stop again with
  | ind newLevels inductionHypothesis =>
      cases isWord : filterWord? cursor.rest with
      | none =>
          have noWord : filterWord? (cursor.rest ++ tail) = none := by
            rw [filterWord?_append closes, isWord]
          rw [readWordToken_of_none isWord] at read
          rw [@readWordToken_of_none ⟨again, _⟩ noWord]
          exact .inr (readPlainWord_again read again closes)
      | some found =>
          obtain ⟨word, subject⟩ := found
          have isWordAgain : filterWord? (cursor.rest ++ tail) = some (word, subject) := by
            rw [filterWord?_append closes, isWord]
          obtain ⟨value, skipped⟩ := skip_append (filterWord?_length_le isWord) again tail
          rw [readWordToken_of_word isWord] at read
          rw [@readWordToken_of_word ⟨again, _⟩ _ _ isWordAgain, skipped]
          by_cases isAbove : (subject == .parent || subject == .ancestor) = true
          · rw [if_pos isAbove] at read ⊢
            cases levels with
            | zero => cases read
            | succ levels =>
                obtain ⟨last, isArgument, equal⟩ := exists_of_map_eq_ok read
                obtain ⟨rfl, rfl⟩ := Prod.mk.inj equal
                cases newLevels with
                | zero => exact .inl ⟨again, rfl⟩
                | succ newLevels =>
                    have argumentAgain := skipArgument_again
                      (fun _ _ _ place read => inductionHypothesis newLevels
                        (Nat.lt_succ_self newLevels) read place) closes isArgument value
                    rcases argumentAgain with deep | ⟨place, argumentAgain⟩
                    · exact .inl (deep.map _)
                    · right
                      dsimp only
                      rw [argumentAgain]
                      refine ⟨_, place, rfl, ?_⟩
                      rw [textUntil_append]
                      rfl
          · rw [if_neg isAbove] at read ⊢
            exact .inr (readComparison_again read value closes)

def signTokens : List (Char × TokenKind) :=
  [('(', .leftParen), (')', .rightParen), ('|', .bar), ('+', .plus), ('-', .minus)]

/-- The table of signs, entry by entry. -/
theorem mem_signTokens : (char, kind) ∈ signTokens ↔
    char = '(' ∧ kind = .leftParen ∨ char = ')' ∧ kind = .rightParen ∨ char = '|' ∧ kind = .bar ∨
      char = '+' ∧ kind = .plus ∨ char = '-' ∧ kind = .minus := by
  simp [signTokens]

theorem readLexeme_of_sign (isSign : (char, kind) ∈ signTokens) (levels offset : Nat)
    (rest : List Char) :
    readLexeme levels offset char rest = .ok (kind, ⟨offset + char.utf8Size, rest⟩) := by
  rcases mem_signTokens.mp isSign with
    ⟨rfl, rfl⟩ | ⟨rfl, rfl⟩ | ⟨rfl, rfl⟩ | ⟨rfl, rfl⟩ | ⟨rfl, rfl⟩ <;> rfl

theorem isQuotationMark_iff : isQuotationMark mark = true ↔ mark = '"' ∨ mark = '\'' := by
  unfold isQuotationMark
  rw [Bool.or_eq_true, beq_iff_eq, beq_iff_eq]

theorem readLexeme_of_phrase {rest content : List Char} (isMark : isQuotationMark char = true)
    (phrase : readPhrase char (offset + char.utf8Size) rest = some (content, stop))
    (levels : Nat) :
    readLexeme levels offset char rest = .ok (.quoted (String.ofList content), stop) := by
  unfold readLexeme
  obtain rfl | rfl := isQuotationMark_iff.mp isMark
  all_goals
    dsimp only
    rw [phrase]
    rfl

theorem readLexeme_of_open_phrase {rest : List Char} (isMark : isQuotationMark char = true)
    (noPhrase : readPhrase char (offset + char.utf8Size) rest = none) (levels : Nat) :
    readLexeme levels offset char rest = .error ⟨offset, .unclosedQuote⟩ := by
  unfold readLexeme
  obtain rfl | rfl := isQuotationMark_iff.mp isMark
  all_goals
    dsimp only
    rw [noPhrase]
    rfl

/-- What is no sign and no quotation mark starts a word. -/
theorem readLexeme_of_word (notSign : ∀ sign, (char, sign) ∉ signTokens)
    (noMark : ¬ isQuotationMark char = true) (levels offset : Nat) (rest : List Char) :
    readLexeme levels offset char rest = readWordToken levels ⟨offset, char :: rest⟩ := by
  have ne_of_mem {sign : Char} {kind : TokenKind} (isSign : (sign, kind) ∈ signTokens) :
      ¬ (char == sign) = true := by
    intro equal
    obtain rfl := beq_iff_eq.mp equal
    exact notSign kind isSign
  unfold readLexeme
  dsimp only
  rw [if_neg (ne_of_mem (mem_signTokens.mpr (.inl ⟨rfl, rfl⟩))),
    if_neg (ne_of_mem (mem_signTokens.mpr (.inr (.inl ⟨rfl, rfl⟩)))),
    if_neg (ne_of_mem (mem_signTokens.mpr (.inr (.inr (.inl ⟨rfl, rfl⟩))))),
    if_neg (ne_of_mem (mem_signTokens.mpr (.inr (.inr (.inr (.inl ⟨rfl, rfl⟩)))))),
    if_neg (ne_of_mem (mem_signTokens.mpr (.inr (.inr (.inr (.inr ⟨rfl, rfl⟩)))))), if_neg noMark]

/-- A token is a sign, a phrase or a word. -/
theorem readLexeme_cases {rest : List Char}
    (read : readLexeme levels offset char rest = .ok (kind, stop)) :
    ((char, kind) ∈ signTokens ∧ stop = ⟨offset + char.utf8Size, rest⟩) ∨
    (isQuotationMark char = true ∧ ∃ content, kind = .quoted (String.ofList content) ∧
      readPhrase char (offset + char.utf8Size) rest = some (content, stop)) ∨
    ((∀ sign, (char, sign) ∉ signTokens) ∧ ¬ isQuotationMark char = true ∧
      readWordToken levels ⟨offset, char :: rest⟩ = .ok (kind, stop)) := by
  by_cases isSign : ∃ sign, (char, sign) ∈ signTokens
  · obtain ⟨sign, isSign⟩ := isSign
    rw [readLexeme_of_sign isSign] at read
    obtain ⟨rfl, rfl⟩ := Prod.mk.inj (Except.ok.inj read)
    exact .inl ⟨isSign, rfl⟩
  · have notSign := not_exists.mp isSign
    by_cases isMark : isQuotationMark char = true
    · right
      left
      cases phrase : readPhrase char (offset + char.utf8Size) rest with
      | none =>
          rw [readLexeme_of_open_phrase isMark phrase] at read
          cases read
      | some result =>
          obtain ⟨content, phraseStop⟩ := result
          rw [readLexeme_of_phrase isMark phrase] at read
          obtain ⟨rfl, rfl⟩ := Prod.mk.inj (Except.ok.inj read)
          exact ⟨isMark, content, rfl, rfl⟩
    · rw [readLexeme_of_word notSign isMark] at read
      exact .inr (.inr ⟨notSign, isMark, read⟩)

/-- A token is read again in front of what closes a group, or there are too few levels for its
arguments this time. -/
theorem readLexeme_again {rest : List Char}
    (read : readLexeme levels offset char rest = .ok (kind, stop)) (closes : Closes tail)
    (newLevels again : Nat) :
    TooDeep (readLexeme newLevels again char (rest ++ tail)) ∨
      Rereads tail kind stop (readLexeme newLevels again char (rest ++ tail)) := by
  rcases readLexeme_cases read with
    ⟨isSign, rfl⟩ | ⟨isMark, content, rfl, phrase⟩ | ⟨notSign, noMark, isWord⟩
  · rw [readLexeme_of_sign isSign]
    exact .inr ⟨kind, _, rfl, rfl⟩
  · obtain ⟨place, phraseAgain⟩ := readPhrase_again phrase (again + char.utf8Size) tail
    rw [readLexeme_of_phrase isMark phraseAgain]
    exact .inr ⟨_, place, rfl, rfl⟩
  · rw [readLexeme_of_word notSign noMark]
    exact readWordToken_again isWord closes newLevels again

theorem scanFrom_nil (levels offset : Nat) : Token.scanFrom levels offset [] = .ok [] := by
  unfold Token.scanFrom
  rfl

theorem scanFrom_of_blank {rest : List Char} (blank : isBlank char = true) (levels offset : Nat) :
    Token.scanFrom levels offset (char :: rest) =
      Token.scanFrom levels (offset + char.utf8Size) rest := by
  conv => lhs; unfold Token.scanFrom
  dsimp only
  rw [dif_pos blank]

theorem scanFrom_of_token {rest : List Char} (notBlank : ¬ isBlank char = true)
    (read : readLexeme levels offset char rest = .ok (kind, stop)) :
    Token.scanFrom levels offset (char :: rest) =
      (Token.scanFrom levels stop.offset stop.rest).map (⟨kind, offset, stop.offset⟩ :: ·) := by
  conv => lhs; unfold Token.scanFrom
  dsimp only
  rw [dif_neg notBlank]
  split
  · rename_i failed
    rw [read] at failed
    cases failed
  · rename_i isRead
    rw [read] at isRead
    obtain ⟨rfl, rfl⟩ := Prod.mk.inj (Except.ok.inj isRead)
    rfl

theorem scanFrom_of_error {rest : List Char} {error : QueryError} (notBlank : ¬ isBlank char = true)
    (failed : readLexeme levels offset char rest = .error error) :
    Token.scanFrom levels offset (char :: rest) = .error error := by
  unfold Token.scanFrom
  dsimp only
  rw [dif_neg notBlank]
  split
  · rename_i isError
    rw [failed] at isError
    exact congrArg Except.error (Except.error.inj isError).symm
  · rename_i isRead
    rw [failed] at isRead
    cases isRead

/-- A text gives no tokens exactly if all of it is white space. -/
theorem scanFrom_eq_nil_iff :
    Token.scanFrom levels offset text = .ok [] ↔ ∀ char ∈ text, isBlank char = true := by
  fun_induction Token.scanFrom levels offset text with
  | case1 => simp
  | case2 offset char rest blank inductionHypothesis =>
      rw [inductionHypothesis, List.forall_mem_cons]
      exact ⟨fun others => ⟨blank, others⟩, And.right⟩
  | case3 offset char rest notBlank error _ =>
      rw [List.forall_mem_cons]
      exact ⟨nofun, fun blank => absurd blank.1 notBlank⟩
  | case4 offset char rest notBlank kind stop _ _ inductionHypothesis =>
      rw [List.forall_mem_cons]
      refine ⟨fun scanned => ?_, fun blank => absurd blank.1 notBlank⟩
      obtain ⟨more, -, isMore⟩ := exists_of_map_eq_ok scanned
      cases isMore

/-- A text that gives tokens gives the same ones from another offset, with other levels and
in front of a closing parenthesis, unless there is a complaint about levels. -/
theorem scanFrom_again {tokens : List Token}
    (scanned : Token.scanFrom levels offset text = .ok tokens) (closes : Closes tail)
    (newLevels again : Nat) :
    TooDeep (Token.scanFrom newLevels again (text ++ tail)) ∨
      ∃ same place, same.map Token.symbol = tokens.map Token.symbol ∧
        Token.scanFrom newLevels again (text ++ tail) =
          (Token.scanFrom newLevels place tail).map (same ++ ·) := by
  fun_induction Token.scanFrom levels offset text generalizing again tokens with
  | case1 =>
      obtain rfl := Except.ok.inj scanned
      refine .inr ⟨[], again, rfl, ?_⟩
      rw [List.nil_append]
      cases Token.scanFrom newLevels again tail <;> rfl
  | case2 offset char rest blank inductionHypothesis =>
      rw [List.cons_append, scanFrom_of_blank blank]
      exact inductionHypothesis scanned (again + char.utf8Size)
  | case3 => cases scanned
  | case4 offset char rest notBlank kind stop read _ inductionHypothesis =>
      obtain ⟨more, scannedMore, rfl⟩ := exists_of_map_eq_ok scanned
      rw [List.cons_append]
      rcases readLexeme_again read closes newLevels again with
        ⟨position, failed⟩ | ⟨sameKind, place, readAgain, isSame⟩
      · exact .inl ⟨position, scanFrom_of_error notBlank failed⟩
      · rw [scanFrom_of_token notBlank readAgain]
        rcases inductionHypothesis scannedMore place with
          deep | ⟨same, behind, areSame, scannedAgain⟩
        · exact .inl (deep.map _)
        · refine .inr ⟨⟨sameKind, again, place⟩ :: same, behind, ?_, ?_⟩
          · rw [List.map_cons, List.map_cons, areSame]
            exact congrArg (· :: _) isSame
          · dsimp only
            rw [scannedAgain]
            cases Token.scanFrom newLevels behind tail <;> rfl

end Outliner.Query
