import Outliner.Proofs.Query.DayForms
import Outliner.Proofs.Query.Wrapping

/-!
Contract: what is read of a query that is one filter with a sign and a value.

Owns: which keys of attributes a query can name in front of a sign, that a value without
quotation marks and without characters that end a word is taken as it stands, and the test that
each kind of filter then is.

Main statements: `isKeyBefore_iff`, `parse_filter`.

Does not own: what a document makes of the test (`Proofs.Search.DateValues`,
`Proofs.Search.Inequality`).
-/

namespace Outliner.Query

open Outliner.Calendar Outliner.Text

variable {sign : Comparison} {key value text : List Char} {subject : FilterSubject}

/-! ## Keys -/

/-- Whether a text in front of a sign is read as the key of an attribute: it is not empty,
nothing in it ends a word or belongs to a sign, and its last character makes no other sign
together with the one behind it. -/
def IsKeyBefore (sign : Comparison) (key : List Char) : Prop :=
  key ≠ [] ∧ (∀ char ∈ key, endsWord char = false ∧ char ∉ ['<', '>', '=']) ∧
    (sign = .equal → key.getLast? ≠ some '!')

instance (sign : Comparison) (key : List Char) : Decidable (IsKeyBefore sign key) :=
  have := List.decidableBAll (fun char => endsWord char = false ∧ char ∉ ['<', '>', '=']) key
  inferInstanceAs (Decidable (_ ∧ _ ∧ _))

theorem attributeKey_sign (sign : Comparison) (rest : List Char) :
    attributeKey (sign.spelling.toList ++ rest) = [] := by
  cases sign <;> rfl

theorem spelling_equals {rest more : List Char}
    (starts : sign.spelling.toList ++ rest = '=' :: more) : sign = .equal := by
  cases sign with
  | equal => rfl
  | _ => cases starts

/-- A key ends where its comparator starts. The only comparator that can be mistaken for a part
of the key is `=` behind an exclamation mark. -/
theorem attributeKey_append_sign (noBreak : ∀ char ∈ key, endsWord char = false ∧
    char ∉ ['<', '>', '=']) (apart : sign = .equal → key.getLast? ≠ some '!')
    (rest : List Char) : attributeKey (key ++ (sign.spelling.toList ++ rest)) = key := by
  induction key with
  | nil => exact attributeKey_sign sign rest
  | cons char more inductionHypothesis =>
      obtain ⟨noEnd, noSign⟩ := noBreak char List.mem_cons_self
      -- The sign behind the key starts with an equals sign only if it is that sign.
      have noPair : ∀ behind,
          char :: (more ++ (sign.spelling.toList ++ rest)) = '!' :: '=' :: behind → False := by
        intro behind isPair
        obtain ⟨rfl, isEquals⟩ := List.cons.inj isPair
        cases more with
        | nil => exact apart (spelling_equals isEquals) rfl
        | cons second more =>
            obtain ⟨rfl, -⟩ := List.cons.inj isEquals
            exact (noBreak '=' (List.mem_cons_of_mem _ List.mem_cons_self)).2 (by decide)
      have goesOn : ¬ (endsWord char || char == '<' || char == '>' || char == '=') = true := by
        simpa [noEnd, not_or, and_assoc] using noSign
      have apartBehind : sign = .equal → more.getLast? ≠ some '!' := by
        intro isEqual isLast
        have notEmpty : more ≠ [] := by
          rintro rfl
          cases isLast
        exact apart isEqual ((List.getLast?_cons_of_ne_nil notEmpty).trans isLast)
      rw [List.cons_append, attributeKey_cons noPair, if_neg goesOn,
        inductionHypothesis (fun other member => noBreak other (List.mem_cons_of_mem _ member))
          apartBehind]

theorem mem_attributeKey {char : Char} (member : char ∈ attributeKey text) :
    endsWord char = false ∧ char ∉ ['<', '>', '='] := by
  fun_induction attributeKey text with
  | case1 => cases member
  | case2 => cases member
  | case3 => cases member
  | case4 first rest _ goesOn inductionHypothesis =>
      rcases List.mem_cons.mp member with rfl | isLater
      · simpa [not_or, and_assoc] using goesOn
      · exact inductionHypothesis isLater

/-- A key does not take the first half of a sign. -/
theorem attributeKey_ne_concat (front rest : List Char) :
    attributeKey (front ++ '!' :: '=' :: rest) ≠ front ++ ['!'] := by
  induction front with
  | nil => nofun
  | cons char more inductionHypothesis =>
      rw [List.cons_append, List.cons_append]
      by_cases isPair : ∃ behind, char :: (more ++ '!' :: '=' :: rest) = '!' :: '=' :: behind
      · obtain ⟨behind, isPair⟩ := isPair
        rw [isPair]
        nofun
      · rw [attributeKey_cons fun behind same => isPair ⟨behind, same⟩]
        split
        · nofun
        · exact fun same => inductionHypothesis (List.cons.inj same).2

/-- The keys that a query can name in front of a sign. -/
theorem isKeyBefore_iff (sign : Comparison) (key rest : List Char) :
    IsKeyBefore sign key ↔
      key ≠ [] ∧ attributeKey (key ++ (sign.spelling.toList ++ rest)) = key := by
  constructor
  · rintro ⟨notEmpty, noBreak, apart⟩
    exact ⟨notEmpty, attributeKey_append_sign noBreak apart rest⟩
  · rintro ⟨notEmpty, isKey⟩
    refine ⟨notEmpty, fun char member => mem_attributeKey (isKey.symm ▸ member), ?_⟩
    rintro rfl isLast
    obtain ⟨front, rfl⟩ := List.getLast?_eq_some_iff.mp isLast
    rw [List.append_assoc] at isKey
    exact attributeKey_ne_concat front rest isKey

/-! ## Values -/

/-- A value that is written without quotation marks: no character of it ends a word or is a
quotation mark. -/
def IsPlain (value : List Char) : Prop :=
  ∀ char ∈ value, endsWord char = false ∧ isQuotationMark char = false

instance (value : List Char) : Decidable (IsPlain value) :=
  List.decidableBAll (fun char => endsWord char = false ∧ isQuotationMark char = false) value

/-- A plain value is one word up to the end. -/
theorem readWord_plain (plain : IsPlain value) (afterMark : Bool) (offset : Nat) :
    readWord afterMark offset value = .ok (value, ⟨offset + byteLength value, []⟩) := by
  induction value generalizing afterMark offset with
  | nil => exact readWord_of_stop stopsWord_nil afterMark offset
  | cons char rest inductionHypothesis =>
      obtain ⟨noBreak, noMark⟩ := plain char List.mem_cons_self
      rw [readWord_of_char (Bool.eq_false_iff.mp noBreak) (by simp [noMark]),
        inductionHypothesis fun other member => plain other (List.mem_cons_of_mem _ member),
        byteLength, ← Nat.add_assoc]
      rfl

/-- Whether a sign is read as itself in front of a value, and not as a longer sign. -/
def Comparison.EndsBefore (sign : Comparison) (value : List Char) : Prop :=
  split (sign.spelling.toList ++ value) = (some sign, value)

theorem Comparison.equal_endsBefore (value : List Char) : Comparison.equal.EndsBefore value :=
  rfl

theorem Comparison.notEqual_endsBefore (value : List Char) :
    Comparison.notEqual.EndsBefore value :=
  rfl

/-- Only `<` and `>` can be made longer by what stands behind them. -/
theorem Comparison.endsBefore_iff : sign.EndsBefore value ↔
    (sign = .less ∨ sign = .greater → value.head? ≠ some '=') := by
  constructor
  · rintro ends (rfl | rfl) isEquals
    all_goals
      obtain ⟨rest, rfl⟩ := List.head?_eq_some_iff.mp isEquals
      cases ends
  · intro apart
    cases sign
    case less => exact split_spelling .less value (apart (.inl rfl))
    case greater => exact split_spelling .greater value (apart (.inr rfl))
    all_goals rfl

theorem Comparison.EndsBefore.front {front tail : List Char}
    (ends : sign.EndsBefore (front ++ tail)) : sign.EndsBefore front := by
  rw [Comparison.endsBefore_iff] at ends ⊢
  intro isOne isEquals
  exact ends isOne (by rw [List.head?_append, isEquals]; rfl)

theorem split_spelling_ne_none (sign : Comparison) (rest : List Char) :
    (Comparison.split (sign.spelling.toList ++ rest)).1 ≠ none := by
  by_cases isEquals : rest.head? = some '='
  · obtain ⟨more, rfl⟩ := List.head?_eq_some_iff.mp isEquals
    cases sign <;> nofun
  · rw [Comparison.split_spelling sign rest isEquals]
    nofun

/-- A sign is split off a text as it is spelled, or the text starts with none. -/
theorem split_cases (text : List Char) :
    (∃ (sign : Comparison) (value : List Char), text = sign.spelling.toList ++ value ∧
      sign.EndsBefore value) ∨ Comparison.split text = (none, text) := by
  unfold Comparison.EndsBefore
  by_cases none : Comparison.split text = (none, text)
  · exact .inr none
  · left
    unfold Comparison.split at none
    split at none
    · exact ⟨.greaterOrEqual, _, rfl, rfl⟩
    · exact ⟨.lessOrEqual, _, rfl, rfl⟩
    · exact ⟨.notEqual, _, rfl, rfl⟩
    · rename_i rest noEquals
      refine ⟨.greater, rest, rfl, Comparison.split_spelling .greater rest fun isEquals => ?_⟩
      obtain ⟨more, rfl⟩ := List.head?_eq_some_iff.mp isEquals
      exact noEquals more rfl
    · rename_i rest noEquals
      refine ⟨.less, rest, rfl, Comparison.split_spelling .less rest fun isEquals => ?_⟩
      obtain ⟨more, rfl⟩ := List.head?_eq_some_iff.mp isEquals
      exact noEquals more rfl
    · exact ⟨.equal, _, rfl, rfl⟩
    · exact absurd rfl none

theorem split_front {front tail : List Char}
    (none : Comparison.split (front ++ tail) = (none, front ++ tail)) :
    Comparison.split front = (Option.none, front) := by
  rcases split_cases front with ⟨sign, value, rfl, -⟩ | isNone
  · rw [List.append_assoc] at none
    exact absurd (congrArg Prod.fst none) (split_spelling_ne_none sign (value ++ tail))
  · exact isNone

theorem skip_front (front rest : List Char) (offset : Nat) :
    Cursor.skip ⟨offset, front ++ rest⟩ front.length = ⟨offset + byteLength front, rest⟩ := by
  rw [Cursor.skip, List.take_left, List.drop_left]

/-- Behind a sign, or no sign, the value of a filter is a word. -/
theorem readComparison_of_split {front : List Char} {sign : Option Comparison}
    (isSplit : Comparison.split (front ++ value) = (sign, value)) (subject : FilterSubject)
    (offset : Nat) : readComparison subject ⟨offset, front ++ value⟩ =
      (readWord true (offset + byteLength front) value).map fun (word, stop) =>
        (.filter ⟨subject, sign, String.ofList word, offset + byteLength front⟩, stop) := by
  have length : (front ++ value).length - value.length = front.length := by
    rw [List.length_append, Nat.add_sub_cancel]
  unfold readComparison
  simp only [isSplit, length, skip_front]

theorem plain_of_digit {char : Char} (isDigit : char.isDigit = true) :
    endsWord char = false ∧ isQuotationMark char = false := by
  have differs (other : Char) (noDigit : other.isDigit = false) : (char == other) = false := by
    rw [beq_eq_false_iff_ne]
    rintro rfl
    rw [noDigit] at isDigit
    cases isDigit
  simp only [endsWord, isQuotationMark, isBlank_of_isDigit isDigit, differs '(' rfl,
    differs ')' rfl, differs '|' rfl, differs '"' rfl, differs '\'' rfl, Bool.or_false, and_self]

theorem isPlain_digits (count : Nat) : IsPlain (Numeral.digits count) :=
  fun _ member => plain_of_digit (Nat.isDigit_of_mem_toDigits (by decide) (by decide) member)

theorem endsBefore_digits (sign : Comparison) (count : Nat) :
    sign.EndsBefore (Numeral.digits count) := by
  refine Comparison.split_spelling sign _ fun isFirst => ?_
  have isDigit : '='.isDigit = true :=
    Nat.isDigit_of_mem_toDigits (by decide) (by decide) (List.mem_of_mem_head? isFirst)
  cases isDigit

theorem isPlain_day {day : DayRef} (hasForm : day.HasForm) : IsPlain day.write := by
  intro char member
  rcases hasForm.mem_write member with isDigit | isOther
  · exact plain_of_digit isDigit
  · simp only [List.mem_cons, List.not_mem_nil, or_false] at isOther
    rcases isOther with rfl | rfl | rfl <;> decide

theorem endsBefore_day {day : DayRef} (hasForm : day.HasForm) (sign : Comparison) :
    sign.EndsBefore day.write :=
  Comparison.split_spelling sign _ hasForm.head?_ne

/-! ## Filters -/

/-- Whether the label of a filter is read as that filter where a sign stands behind it. -/
def FilterSubject.Takes (sign : Comparison) : FilterSubject → Prop
  | .depth | .children | .created | .modified => True
  | .parent | .ancestor => False
  | .attr key => IsKeyBefore sign key.toList

/-- A word that names a filter on the node itself is read with the value behind it. -/
theorem readWordToken_of_leaf {word : String} {rest : List Char}
    (isWord : filterWord? (word.toList ++ rest) = some (word, subject))
    (isLeaf : (subject == .parent || subject == .ancestor) = false) (levels offset : Nat) :
    readWordToken levels ⟨offset, word.toList ++ rest⟩ =
      readComparison subject ⟨offset + byteLength word.toList, rest⟩ := by
  have skipped : Cursor.skip ⟨offset, word.toList ++ rest⟩ word.length =
      ⟨offset + byteLength word.toList, rest⟩ := by
    rw [← String.length_toList, skip_front]
  rw [@readWordToken_of_word ⟨offset, _⟩ word subject isWord, isLeaf, skipped]
  rfl

/-- Behind the key of an attribute its filter is read like any other one. -/
theorem readPlainWord_of_key {rest : List Char} (notEmpty : key ≠ [])
    (isKey : attributeKey (key ++ rest) = key) (offset : Nat) :
    readPlainWord ⟨offset, '@' :: (key ++ rest)⟩ =
      readComparison (.attr (String.ofList key))
        ⟨offset + byteLength ('@' :: key), rest⟩ := by
  have skipped : Cursor.skip ⟨offset, '@' :: (key ++ rest)⟩ (key.length + 1) =
      ⟨offset + byteLength ('@' :: key), rest⟩ := skip_front ('@' :: key) rest offset
  rw [readPlainWord_of_at rfl, isKey, skipped, if_neg (by simpa using notEmpty)]

theorem readPlainWord_of_no_key (noKey : ∀ rest, text = '@' :: rest → attributeKey rest = [])
    (offset : Nat) : readPlainWord ⟨offset, text⟩ = readTextWord ⟨offset, text⟩ := by
  by_cases isAt : ∃ rest, text = '@' :: rest
  · obtain ⟨rest, rfl⟩ := isAt
    rw [readPlainWord_of_at rfl, noKey rest rfl]
    rfl
  · refine readPlainWord_of_text fun isFirst => isAt ?_
    exact List.head?_eq_some_iff.mp isFirst

/-- A word that starts with no filter word is a text, or the filter of an attribute. -/
theorem readPlainWord_cases (offset : Nat) (text : List Char) :
    (∀ rest, text = '@' :: rest → attributeKey rest = []) ∨
      ∃ key rest, text = '@' :: (key ++ rest) ∧ key ≠ [] ∧ attributeKey (key ++ rest) = key ∧
        readPlainWord ⟨offset, text⟩ =
          readComparison (.attr (String.ofList key)) ⟨offset + byteLength ('@' :: key), rest⟩ := by
  by_cases noKey : ∀ rest, text = '@' :: rest → attributeKey rest = []
  · exact .inl noKey
  · simp only [not_forall] at noKey
    obtain ⟨rest, rfl, notEmpty⟩ := noKey
    obtain ⟨behind, isRest⟩ := attributeKey_isFront rest
    generalize isKey : attributeKey rest = key at notEmpty isRest
    subst isRest
    exact .inr ⟨key, behind, rfl, notEmpty, isKey, readPlainWord_of_key notEmpty isKey offset⟩

/-- No filter word starts like the filter of an attribute, so the key decides where its sign is
looked for. -/
theorem readLexeme_of_key (isKey : IsKeyBefore sign key) (levels offset : Nat) (rest : List Char) :
    readLexeme levels offset '@' (key ++ (sign.spelling.toList ++ rest)) =
      readComparison (.attr (String.ofList key))
        ⟨offset + byteLength ('@' :: key), sign.spelling.toList ++ rest⟩ := by
  obtain ⟨notEmpty, isRead⟩ := (isKeyBefore_iff sign key rest).mp isKey
  have isToken : readLexeme levels offset '@' (key ++ (sign.spelling.toList ++ rest)) =
      readWordToken levels ⟨offset, '@' :: (key ++ (sign.spelling.toList ++ rest))⟩ := rfl
  have noWord : filterWord? ('@' :: (key ++ (sign.spelling.toList ++ rest))) = none := rfl
  rw [isToken, readWordToken_of_none noWord, readPlainWord_of_key notEmpty isRead]

/-- A label in front of a sign is one token together with what its value is read as. -/
theorem readLexeme_label (takes : subject.Takes sign) (levels : Nat) (rest : List Char) :
    ∃ char more offset, subject.label.toList = char :: more ∧ isBlank char = false ∧
      readLexeme levels 0 char (more ++ (sign.spelling.toList ++ rest)) =
        readComparison subject ⟨offset, sign.spelling.toList ++ rest⟩ := by
  generalize areRest : sign.spelling.toList ++ rest = behind
  cases subject with
  | parent => cases takes
  | ancestor => cases takes
  | depth =>
      have isFilter := @readWordToken_of_leaf .depth "d:" behind rfl rfl levels 0
      exact ⟨'d', [':'], _, rfl, by decide, isFilter⟩
  | created =>
      have isFilter := @readWordToken_of_leaf .created "c:" behind rfl rfl levels 0
      exact ⟨'c', [':'], _, rfl, by decide, isFilter⟩
  | modified =>
      have isFilter := @readWordToken_of_leaf .modified "m:" behind rfl rfl levels 0
      exact ⟨'m', [':'], _, rfl, by decide, isFilter⟩
  | children =>
      have isFilter := @readWordToken_of_leaf .children "children:" behind rfl rfl levels 0
      exact ⟨'c', "hildren:".toList, _, rfl, by decide, isFilter⟩
  | attr key =>
      have isToken := readLexeme_of_key takes levels 0 rest
      rw [areRest, String.ofList_toList] at isToken
      exact ⟨'@', key.toList, _, String.toList_append, by decide, isToken⟩

/-- A text that is one filter parses to what the filter stands for. -/
theorem parse_of_filter_token {char : Char} {rest : List Char} {written : WrittenFilter}
    {place : Nat} (notBlank : isBlank char = false)
    (isToken : readLexeme maxNesting 0 char rest = .ok (.filter written, ⟨place, []⟩)) :
    Expr.parse (String.ofList (char :: rest)) = readFilter maxNesting 0 written := by
  have scanned := scanFrom_of_token (Bool.eq_false_iff.mp notBlank) isToken
  dsimp only at scanned
  rw [scanFrom_nil, ← @String.toList_ofList (char :: rest)] at scanned
  exact parse_of_one_filter scanned rfl

/-- A label, a sign and a text that is read as one word are a query of one filter. -/
theorem parse_filter_of_word {raw : List Char} (takes : subject.Takes sign)
    (ends : sign.EndsBefore raw)
    (isWord : ∀ offset, ∃ place, readWord true offset raw = .ok (value, ⟨place, []⟩)) :
    ∃ offset, Expr.parse (String.ofList (subject.label.toList ++ (sign.spelling.toList ++ raw))) =
      readFilter maxNesting 0 ⟨subject, some sign, String.ofList value, offset⟩ := by
  obtain ⟨char, more, offset, isLabel, notBlank, isToken⟩ := readLexeme_label takes maxNesting raw
  obtain ⟨place, isValue⟩ := isWord (offset + byteLength sign.spelling.toList)
  rw [readComparison_of_split ends, isValue] at isToken
  rw [isLabel]
  exact ⟨_, parse_of_filter_token notBlank isToken⟩

/-- A key alone asks for the attribute. -/
theorem parse_key (notEmpty : key ≠ []) (isKey : attributeKey key = key) :
    Expr.parse (String.ofList ('@' :: key)) = .ok (.leaf (.attr (String.ofList key) none)) := by
  have isToken : readLexeme maxNesting 0 '@' key = readPlainWord ⟨0, '@' :: (key ++ [])⟩ := by
    rw [List.append_nil]
    exact readWordToken_of_none rfl maxNesting
  have noSign : Comparison.split ([] ++ []) = (none, []) := rfl
  have isFilter (subject : FilterSubject) (offset : Nat) :
      readComparison subject ⟨offset, []⟩ =
        .ok (.filter ⟨subject, none, "", offset⟩, ⟨offset, []⟩) := by
    refine (readComparison_of_split noSign subject offset).trans ?_
    rw [readWord_of_stop stopsWord_nil]
    rfl
  rw [readPlainWord_of_key notEmpty (by rwa [List.append_nil]), isFilter] at isToken
  rw [parse_of_filter_token (by decide) isToken]
  rfl

/-- A filter with a sign and a value in it is a query of that filter alone. -/
theorem parse_filter {value : String} (takes : subject.Takes sign) (plain : IsPlain value.toList)
    (ends : sign.EndsBefore value.toList) :
    ∃ offset, Expr.parse (subject.label ++ sign.spelling ++ value) =
      readFilter maxNesting 0 ⟨subject, some sign, value, offset⟩ := by
  obtain ⟨offset, parsed⟩ := parse_filter_of_word takes ends fun offset =>
    ⟨_, readWord_plain plain true offset⟩
  rw [String.ofList_append, String.ofList_append, String.ofList_toList, String.ofList_toList,
    String.ofList_toList, ← String.append_assoc] at parsed
  exact ⟨offset, parsed⟩

theorem givenValue_eq_ok {written : WrittenFilter} {value : String}
    (given : givenValue written = .ok value) : written.value = value := by
  unfold givenValue at given
  split at given
  · cases given
  · exact Except.ok.inj given

theorem givenValue_of_ne {written : WrittenFilter} (notEmpty : written.value.toList ≠ []) :
    givenValue written = .ok written.value := by
  unfold givenValue
  rw [if_neg]
  intro isEmpty
  exact notEmpty (by rw [isEmpty]; rfl)

/-- A filter on a count is read if its value is one. -/
theorem readCountFilter_eq_ok_iff {leaf : Comparison → Nat → Leaf} {written : WrittenFilter}
    {result : Leaf} : readCountFilter leaf written = .ok result ↔
      ∃ count, Numeral.readCount written.value.toList = some count ∧
        result = leaf (written.sign.getD .equal) count := by
  constructor
  · intro read
    obtain ⟨value, given, read⟩ := exists_of_bind_eq_ok read
    obtain rfl := givenValue_eq_ok given
    split at read
    · rename_i count isCount
      exact ⟨count, isCount, (Except.ok.inj read).symm⟩
    · cases read
  · rintro ⟨count, isCount, rfl⟩
    have notEmpty : written.value.toList ≠ [] := by
      intro isEmpty
      rw [isEmpty] at isCount
      cases isCount
    unfold readCountFilter
    rw [givenValue_of_ne notEmpty, Except.bind, isCount]

/-- A filter on an instant is read if its value is a day. -/
theorem readTimeFilter_eq_ok_iff {field : TimeField} {written : WrittenFilter} {result : Leaf} :
    readTimeFilter field written = .ok result ↔
      ∃ day, DayRef.read written.value.toList = some day ∧
        result = .time field ⟨written.sign.getD .equal, day⟩ := by
  constructor
  · intro read
    obtain ⟨value, given, read⟩ := exists_of_bind_eq_ok read
    obtain rfl := givenValue_eq_ok given
    split at read
    · rename_i day isDay
      exact ⟨day, isDay, (Except.ok.inj read).symm⟩
    · cases read
  · rintro ⟨day, isDay, rfl⟩
    have notEmpty : written.value.toList ≠ [] := by
      intro isEmpty
      rw [isEmpty] at isDay
      cases isDay
    unfold readTimeFilter
    rw [givenValue_of_ne notEmpty, Except.bind, isDay]

/-- A filter on a count tests the count that its value is read as. -/
theorem exists_count_of_parse {leaf : Comparison → Nat → Leaf} {value : String} {expr : Expr}
    (isCount : ∀ written : WrittenFilter, written.subject = subject →
      written.shape = .leaf (readCountFilter leaf written))
    (takes : subject.Takes sign) (plain : IsPlain value.toList)
    (ends : sign.EndsBefore value.toList)
    (parsed : Expr.parse (subject.label ++ sign.spelling ++ value) = .ok expr) :
    ∃ count, Numeral.readCount value.toList = some count ∧ expr = .leaf (leaf sign count) := by
  obtain ⟨offset, isFilter⟩ := parse_filter takes plain ends
  rw [isFilter, readFilter, isCount _ rfl] at parsed
  obtain ⟨result, read, rfl⟩ := exists_of_map_eq_ok parsed
  obtain ⟨count, isCount, rfl⟩ := readCountFilter_eq_ok_iff.mp read
  exact ⟨count, isCount, rfl⟩

/-- A filter on an instant tests the day that its value is read as. -/
theorem exists_day_of_parse {field : TimeField} {value : String} {expr : Expr}
    (isTime : ∀ written : WrittenFilter, written.subject = subject →
      written.shape = .leaf (readTimeFilter field written))
    (takes : subject.Takes sign) (plain : IsPlain value.toList)
    (ends : sign.EndsBefore value.toList)
    (parsed : Expr.parse (subject.label ++ sign.spelling ++ value) = .ok expr) :
    ∃ day, DayRef.read value.toList = some day ∧ expr = .leaf (.time field ⟨sign, day⟩) := by
  obtain ⟨offset, isFilter⟩ := parse_filter takes plain ends
  rw [isFilter, readFilter, isTime _ rfl] at parsed
  obtain ⟨result, read, rfl⟩ := exists_of_map_eq_ok parsed
  obtain ⟨day, isDay, rfl⟩ := readTimeFilter_eq_ok_iff.mp read
  exact ⟨day, isDay, rfl⟩

/-- A filter on an attribute takes every value but the empty one. -/
theorem parse_attribute_iff {key value : String} {expr : Expr}
    (isKey : IsKeyBefore sign key.toList) (plain : IsPlain value.toList)
    (ends : sign.EndsBefore value.toList) :
    Expr.parse ("@" ++ key ++ sign.spelling ++ value) = .ok expr ↔
      value ≠ "" ∧ expr = .leaf (.attr key (some (ValueTest.ofText sign value))) := by
  obtain ⟨offset, isFilter⟩ :=
    @parse_filter sign (.attr key) value isKey plain ends
  have isFilter : Expr.parse ("@" ++ key ++ sign.spelling ++ value) =
      (readAttributeFilter key ⟨.attr key, some sign, value, offset⟩).map .leaf := isFilter
  rw [isFilter, readAttributeFilter, if_neg (by simp), givenValue]
  by_cases isEmpty : value = ""
  · rw [if_pos isEmpty]
    exact ⟨nofun, fun given => absurd isEmpty given.1⟩
  · rw [if_neg isEmpty]
    exact ⟨fun same => ⟨isEmpty, (Except.ok.inj same).symm⟩,
      fun given => congrArg Except.ok given.2.symm⟩

end Outliner.Query
