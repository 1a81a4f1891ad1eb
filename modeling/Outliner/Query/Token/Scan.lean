import Outliner.Query.Fault
import Outliner.Text.Blank

/-!
Contract: splitting a query text into tokens.

Owns: where words, quoted phrases and filters end, and what they hold. A quote
opens a phrase at the start of a token, and inside a word directly after one of
`=`, `<`, `>` and `:`. The argument of a sub-filter is found here but not read:
its text is kept for the parser.

Main statement: `readLexeme_shorter` says that each token takes at least one
character, which is why the scan ends.

Does not own: which sequences of tokens are queries (`Query.Expr.Parse`).
-/

namespace Outliner.Query

open Outliner.Text

/-- A place in a text: the byte offset and the characters still to come. -/
structure Cursor where
  offset : Nat
  rest : List Char
deriving DecidableEq, Repr

def byteLength : List Char → Nat
  | [] => 0
  | char :: rest => char.utf8Size + byteLength rest

namespace Cursor

def skip (cursor : Cursor) (count : Nat) : Cursor :=
  ⟨cursor.offset + byteLength (cursor.rest.take count), cursor.rest.drop count⟩

def textUntil (cursor later : Cursor) : List Char :=
  cursor.rest.take (cursor.rest.length - later.rest.length)

end Cursor

def endsWord (char : Char) : Bool :=
  isBlank char || char == '(' || char == ')' || char == '|'

def isQuotationMark (char : Char) : Bool :=
  char == '"' || char == '\''

/-- Characters after which a quote opens a phrase inside a word. -/
def isValueMark (char : Char) : Bool :=
  char == '=' || char == '<' || char == '>' || char == ':'

/-- Characters after which a quote opens a phrase inside a group. -/
def opensPhrase (char : Char) : Bool :=
  endsWord char || char == '+' || char == '-' || isValueMark char

/-! ## Phrases and words -/

/-- What a backslash and the character after it stand for: a backslash hides the
mark and another backslash, and before any other character it stands for itself. -/
def unescape (mark char : Char) : List Char :=
  if char = mark ∨ char = '\\' then [char] else ['\\', char]

/-- Reads the content of a phrase up to its closing mark. -/
def readPhrase (mark : Char) (offset : Nat) : List Char → Option (List Char × Cursor)
  | [] => none
  | ['\\'] => none
  | '\\' :: char :: rest =>
    (readPhrase mark (offset + 1 + char.utf8Size) rest).map fun (content, stop) =>
      (unescape mark char ++ content, stop)
  | char :: rest =>
    if char = mark then some ([], ⟨offset + char.utf8Size, rest⟩)
    else (readPhrase mark (offset + char.utf8Size) rest).map fun (content, stop) =>
      (char :: content, stop)

theorem readPhrase_shorter {mark : Char} {offset : Nat} {text content : List Char}
    {stop : Cursor} (read : readPhrase mark offset text = some (content, stop)) :
    stop.rest.length < text.length := by
  fun_induction readPhrase mark offset text generalizing content with
  | case1 => simp at read
  | case2 => simp at read
  | case3 offset char rest inductionHypothesis =>
      obtain ⟨⟨inner, innerStop⟩, readInner, equal⟩ := Option.map_eq_some_iff.mp read
      obtain ⟨-, rfl⟩ := Prod.mk.inj equal
      have shorter := inductionHypothesis readInner
      simp only [List.length_cons]
      omega
  | case4 =>
      obtain ⟨-, rfl⟩ := Prod.mk.inj (Option.some.inj read)
      simp
  | case5 offset char rest _ _ _ inductionHypothesis =>
      obtain ⟨⟨inner, innerStop⟩, readInner, equal⟩ := Option.map_eq_some_iff.mp read
      obtain ⟨-, rfl⟩ := Prod.mk.inj equal
      have shorter := inductionHypothesis readInner
      simp only [List.length_cons]
      omega

/-- Reads a word up to the next break. `afterMark` says whether a quote at this
place opens a phrase. -/
def readWord (afterMark : Bool) (offset : Nat) (text : List Char) :
    Except QueryError (List Char × Cursor) :=
  match text with
  | [] => .ok ([], ⟨offset, []⟩)
  | char :: rest =>
    if endsWord char then .ok ([], ⟨offset, char :: rest⟩)
    else if afterMark && isQuotationMark char then
      match phrase : readPhrase char (offset + char.utf8Size) rest with
      | none => .error ⟨offset, .unclosedQuote⟩
      | some (content, stop) =>
        have := readPhrase_shorter phrase
        (readWord false stop.offset stop.rest).map fun (word, stop) => (content ++ word, stop)
    else
      (readWord (isValueMark char) (offset + char.utf8Size) rest).map fun (word, stop) =>
        (char :: word, stop)
termination_by text.length

/-- A word takes a character unless it starts at its own end. -/
theorem readWord_advances {afterMark : Bool} {offset : Nat} {text word : List Char}
    {stop : Cursor} (read : readWord afterMark offset text = .ok (word, stop)) :
    stop.rest.length ≤ text.length ∧
      ((text.head?.any fun char => !endsWord char) = true → stop.rest.length < text.length) := by
  fun_induction readWord afterMark offset text generalizing word stop with
  | case1 =>
      obtain ⟨-, rfl⟩ := Prod.mk.inj (Except.ok.inj read)
      simp
  | case2 _ _ _ _ isBreak =>
      obtain ⟨-, rfl⟩ := Prod.mk.inj (Except.ok.inj read)
      simp [isBreak]
  | case3 => cases read
  | case4 afterMark offset char rest _ _ content innerStop phrase phraseShorter
      inductionHypothesis =>
      obtain ⟨⟨inner, last⟩, readInner, equal⟩ := exists_of_map_eq_ok read
      obtain ⟨-, rfl⟩ := Prod.mk.inj equal
      have := (inductionHypothesis readInner).1
      simp only [List.length_cons]
      omega
  | case5 afterMark offset char rest _ _ inductionHypothesis =>
      obtain ⟨⟨inner, last⟩, readInner, equal⟩ := exists_of_map_eq_ok read
      obtain ⟨-, rfl⟩ := Prod.mk.inj equal
      have := (inductionHypothesis readInner).1
      simp only [List.length_cons]
      omega

theorem readWord_length_le {afterMark : Bool} {offset : Nat} {text word : List Char}
    {stop : Cursor} (read : readWord afterMark offset text = .ok (word, stop)) :
    stop.rest.length ≤ text.length :=
  (readWord_advances read).1

/-! ## Filters -/

/-- The filter word at the front of a text, in either letter case. -/
def filterWord? (text : List Char) : Option (String × FilterSubject) :=
  FilterSubject.words.find? fun (word, _) => (text.take word.length).map Char.toLower == word.toList

/-- The attribute key at the front of a text: everything up to a word break or a
comparison sign. -/
def attributeKey : List Char → List Char
  | [] => []
  | '!' :: '=' :: _ => []
  | char :: rest =>
    if endsWord char || char == '<' || char == '>' || char == '=' then []
    else char :: attributeKey rest

def readComparison (subject : FilterSubject) (cursor : Cursor) :
    Except QueryError (TokenKind × Cursor) :=
  let (sign, rest) := Comparison.split cursor.rest
  let value := cursor.skip (cursor.rest.length - rest.length)
  (readWord true value.offset value.rest).map fun (word, stop) =>
    (.filter ⟨subject, sign, String.ofList word, value.offset⟩, stop)

def readTextWord (cursor : Cursor) : Except QueryError (TokenKind × Cursor) :=
  (readWord false cursor.offset cursor.rest).map fun (word, stop) =>
    (.text (String.ofList word), stop)

/-- Reads a word that starts with no filter word: an attribute's filter or a text. -/
def readPlainWord (cursor : Cursor) : Except QueryError (TokenKind × Cursor) :=
  match cursor.rest with
  | '@' :: rest =>
    if (attributeKey rest).isEmpty then readTextWord cursor
    else readComparison (.attr (String.ofList (attributeKey rest)))
      (cursor.skip ((attributeKey rest).length + 1))
  | _ => readTextWord cursor

/-- Where an open group ends: just after the parenthesis that closes it. `inner`
counts the groups open inside it, `opens` says whether a quote at this place
opens a phrase, and `start` is where the group was opened. -/
def skipGroup (start inner : Nat) (opens : Bool) (offset : Nat) (text : List Char) :
    Except QueryError Cursor :=
  match text with
  | [] => .error ⟨start, .unclosedGroup⟩
  | char :: rest =>
    if char == '(' then skipGroup start (inner + 1) true (offset + 1) rest
    else if char == ')' then
      match inner with
      | 0 => .ok ⟨offset + 1, rest⟩
      | inner + 1 => skipGroup start inner true (offset + 1) rest
    else if opens && isQuotationMark char then
      match phrase : readPhrase char (offset + char.utf8Size) rest with
      | none => .error ⟨offset, .unclosedQuote⟩
      | some (_, stop) =>
        have := readPhrase_shorter phrase
        skipGroup start inner false stop.offset stop.rest
    else skipGroup start inner (opensPhrase char) (offset + char.utf8Size) rest
termination_by text.length

theorem skipGroup_shorter {start inner offset : Nat} {opens : Bool} {text : List Char}
    {stop : Cursor} (found : skipGroup start inner opens offset text = .ok stop) :
    stop.rest.length < text.length := by
  fun_induction skipGroup start inner opens offset text with
  | case1 => cases found
  | case2 inner opens offset char rest _ inductionHypothesis =>
      have := inductionHypothesis found
      simp only [List.length_cons]
      omega
  | case3 =>
      obtain rfl := Except.ok.inj found
      simp
  | case4 opens offset char rest _ _ inner inductionHypothesis =>
      have := inductionHypothesis found
      simp only [List.length_cons]
      omega
  | case5 => cases found
  | case6 inner opens offset char rest _ _ _ content phraseStop phrase phraseShorter
      inductionHypothesis =>
      have := inductionHypothesis found
      simp only [List.length_cons]
      omega
  | case7 inner opens offset char rest _ _ _ inductionHypothesis =>
      have := inductionHypothesis found
      simp only [List.length_cons]
      omega

/-- Where the argument of a sub-filter ends. After any minus signs it is a group,
a phrase or a single word, which `word` reads. -/
def skipArgument (word : Cursor → Except QueryError (TokenKind × Cursor)) (cursor : Cursor) :
    Except QueryError Cursor :=
  let operand := cursor.skip (cursor.rest.takeWhile (· == '-')).length
  match operand.rest with
  | [] => .ok operand
  | char :: rest =>
    if char == '(' then skipGroup operand.offset 0 true (operand.offset + 1) rest
    else if isQuotationMark char then
      match readPhrase char (operand.offset + char.utf8Size) rest with
      | none => .error ⟨operand.offset, .unclosedQuote⟩
      | some (_, stop) => .ok stop
    else if endsWord char then .ok operand
    else (word operand).map Prod.snd

/-- Reads a word: a filter or a text. `levels` is how many more sub-filters may
nest here. -/
def readWordToken (levels : Nat) (cursor : Cursor) : Except QueryError (TokenKind × Cursor) :=
  match filterWord? cursor.rest with
  | some (word, subject) =>
    let value := cursor.skip word.length
    if subject == .parent || subject == .ancestor then
      match levels with
      | 0 => .error ⟨cursor.offset, .nestedTooDeep⟩
      | levels + 1 =>
        (skipArgument (readWordToken levels) value).map fun stop =>
          (.filter ⟨subject, none, String.ofList (value.textUntil stop), value.offset⟩, stop)
    else readComparison subject value
  | none => readPlainWord cursor

theorem length_rest_skip_le (cursor : Cursor) (count : Nat) :
    (cursor.skip count).rest.length ≤ cursor.rest.length := by
  simp only [Cursor.skip, List.length_drop]
  omega

theorem readComparison_length_le {subject : FilterSubject} {cursor stop : Cursor}
    {token : TokenKind}
    (read : readComparison subject cursor = .ok (token, stop)) :
    stop.rest.length ≤ cursor.rest.length := by
  obtain ⟨⟨word, last⟩, readValue, equal⟩ := exists_of_map_eq_ok read
  obtain ⟨-, rfl⟩ := Prod.mk.inj equal
  exact Nat.le_trans (readWord_length_le readValue) (length_rest_skip_le _ _)

theorem skipArgument_length_le {word : Cursor → Except QueryError (TokenKind × Cursor)}
    {cursor stop : Cursor}
    (wordShorter : ∀ {cursor stop : Cursor} {token : TokenKind} {char : Char} {rest : List Char},
      cursor.rest = char :: rest → endsWord char = false →
      word cursor = .ok (token, stop) → stop.rest.length < cursor.rest.length)
    (found : skipArgument word cursor = .ok stop) :
    stop.rest.length ≤ cursor.rest.length := by
  refine Nat.le_trans ?_ (length_rest_skip_le cursor (cursor.rest.takeWhile (· == '-')).length)
  revert found
  simp only [skipArgument]
  generalize cursor.skip (cursor.rest.takeWhile (· == '-')).length = operand
  intro found
  split at found
  · obtain rfl := Except.ok.inj found
    exact Nat.le_refl _
  · rename_i char rest operandRest
    rw [operandRest]
    split at found
    · have := skipGroup_shorter found
      simp only [List.length_cons]
      omega
    · split at found
      · split at found
        · cases found
        · rename_i content phraseStop phrase
          obtain rfl := Except.ok.inj found
          have := readPhrase_shorter phrase
          simp only [List.length_cons]
          omega
      · split at found
        · obtain rfl := Except.ok.inj found
          simp [operandRest]
        · rename_i noBreak
          obtain ⟨⟨token, last⟩, readOperand, rfl⟩ := exists_of_map_eq_ok found
          have := wordShorter operandRest (Bool.eq_false_iff.mpr noBreak) readOperand
          rw [operandRest] at this
          exact Nat.le_of_lt this

theorem filterWord?_length_pos {text : List Char} {word : String} {subject : FilterSubject}
    (found : filterWord? text = some (word, subject)) : 0 < word.length := by
  have member := List.mem_of_find?_eq_some found
  simp only [FilterSubject.words, List.mem_cons, Prod.mk.injEq, List.not_mem_nil,
    or_false] at member
  rcases member with h | h | h | h | h | h <;> rw [h.1] <;> decide

theorem length_rest_skip_lt {cursor : Cursor} {count : Nat} {char : Char} {rest : List Char}
    (nonempty : cursor.rest = char :: rest) (positive : 0 < count) :
    (cursor.skip count).rest.length < cursor.rest.length := by
  simp only [Cursor.skip, List.length_drop, nonempty, List.length_cons]
  omega

theorem readPlainWord_shorter {cursor stop : Cursor} {token : TokenKind} {char : Char}
    {rest : List Char} (nonempty : cursor.rest = char :: rest)
    (noBreak : endsWord char = false) (read : readPlainWord cursor = .ok (token, stop)) :
    stop.rest.length < cursor.rest.length := by
  have textWord (readText : readTextWord cursor = .ok (token, stop)) :
      stop.rest.length < cursor.rest.length := by
    obtain ⟨⟨word, last⟩, readValue, equal⟩ := exists_of_map_eq_ok readText
    obtain ⟨-, rfl⟩ := Prod.mk.inj equal
    exact (readWord_advances readValue).2 (by simp [nonempty, noBreak])
  unfold readPlainWord at read
  split at read
  · split at read
    · exact textWord read
    · exact Nat.lt_of_le_of_lt (readComparison_length_le read)
        (length_rest_skip_lt nonempty (Nat.succ_pos _))
  · exact textWord read

theorem readWordToken_shorter {levels : Nat} {cursor stop : Cursor} {token : TokenKind}
    {char : Char} {rest : List Char} (nonempty : cursor.rest = char :: rest)
    (noBreak : endsWord char = false)
    (read : readWordToken levels cursor = .ok (token, stop)) :
    stop.rest.length < cursor.rest.length := by
  induction levels generalizing cursor stop token char rest with
  | zero =>
      rw [readWordToken.eq_def] at read
      split at read
      · rename_i word subject found
        have positive := filterWord?_length_pos found
        simp only at read
        split at read
        · cases read
        · exact Nat.lt_of_le_of_lt (readComparison_length_le read)
            (length_rest_skip_lt nonempty positive)
      · exact readPlainWord_shorter nonempty noBreak read
  | succ levels inductionHypothesis =>
      rw [readWordToken.eq_def] at read
      split at read
      · rename_i word subject found
        have positive := filterWord?_length_pos found
        simp only at read
        split at read
        · obtain ⟨last, foundEnd, equal⟩ := exists_of_map_eq_ok read
          obtain ⟨-, rfl⟩ := Prod.mk.inj equal
          exact Nat.lt_of_le_of_lt (skipArgument_length_le inductionHypothesis foundEnd)
            (length_rest_skip_lt nonempty positive)
        · exact Nat.lt_of_le_of_lt (readComparison_length_le read)
            (length_rest_skip_lt nonempty positive)
      · exact readPlainWord_shorter nonempty noBreak read

/-! ## Tokens -/

/-- Reads the token at the front of a text that starts with `char`. -/
def readLexeme (levels offset : Nat) (char : Char) (rest : List Char) :
    Except QueryError (TokenKind × Cursor) :=
  let next : Cursor := ⟨offset + char.utf8Size, rest⟩
  if char == '(' then .ok (.leftParen, next)
  else if char == ')' then .ok (.rightParen, next)
  else if char == '|' then .ok (.bar, next)
  else if char == '+' then .ok (.plus, next)
  else if char == '-' then .ok (.minus, next)
  else if isQuotationMark char then
    match readPhrase char next.offset next.rest with
    | none => .error ⟨offset, .unclosedQuote⟩
    | some (content, stop) => .ok (.quoted (String.ofList content), stop)
  else readWordToken levels ⟨offset, char :: rest⟩

/-- Every token takes a character, so the scan ends. -/
theorem readLexeme_shorter {levels offset : Nat} {char : Char} {rest : List Char}
    {token : TokenKind} {stop : Cursor} (noBlank : isBlank char = false)
    (read : readLexeme levels offset char rest = .ok (token, stop)) :
    stop.rest.length < rest.length + 1 := by
  have single {kind : TokenKind}
      (readOne : Except.ok (kind, (⟨offset + char.utf8Size, rest⟩ : Cursor)) =
        (Except.ok (token, stop) : Except QueryError (TokenKind × Cursor))) :
      stop.rest.length < rest.length + 1 := by
    obtain ⟨-, rfl⟩ := Prod.mk.inj (Except.ok.inj readOne)
    exact Nat.lt_succ_self _
  unfold readLexeme at read
  simp only at read
  split at read
  · exact single read
  split at read
  · exact single read
  split at read
  · exact single read
  split at read
  · exact single read
  split at read
  · exact single read
  split at read
  · split at read
    · cases read
    · rename_i content phraseStop phrase
      obtain ⟨-, rfl⟩ := Prod.mk.inj (Except.ok.inj read)
      exact Nat.lt_succ_of_lt (readPhrase_shorter phrase)
  · rename_i noLeft noRight noBar _ _ _
    simp only [Bool.not_eq_true] at noLeft noRight noBar
    exact readWordToken_shorter rfl (by simp [endsWord, noBlank, noLeft, noRight, noBar]) read

/-- The tokens of a text that starts at a byte offset of the query. -/
def Token.scanFrom (levels offset : Nat) (text : List Char) : Except QueryError (List Token) :=
  match text with
  | [] => .ok []
  | char :: rest =>
    if blank : isBlank char then Token.scanFrom levels (offset + char.utf8Size) rest
    else
      match read : readLexeme levels offset char rest with
      | .error error => .error error
      | .ok (kind, stop) =>
        have := readLexeme_shorter (Bool.eq_false_iff.mpr blank) read
        (Token.scanFrom levels stop.offset stop.rest).map (⟨kind, offset, stop.offset⟩ :: ·)
termination_by text.length

def Token.scan (text : String) : Except QueryError (List Token) :=
  Token.scanFrom maxNesting 0 text.toList

end Outliner.Query
