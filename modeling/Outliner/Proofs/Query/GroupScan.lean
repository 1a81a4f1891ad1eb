import Outliner.Proofs.Query.Grammar
import Outliner.Proofs.Query.Moving

/-!
Contract: the scan for the parenthesis that closes a group, against the tokens of the text.

Owns: that the parentheses among the tokens of a query are balanced, where the scan and the
tokens agree on quotation marks, and that the scan ends behind the query if they agree.

The scan goes by the character in front of a quotation mark, the tokens by what the word
around it is. They differ behind a phrase, behind a sign inside a word and behind a colon
inside the key of an attribute.

Main statements: `balanced_of_derives`, `skipGroup_of_scanFrom`, `skipGroup_of_parsed`.

Does not own: what is read of the text in the group (`Proofs.Query.Wrapping`).
-/

namespace Outliner.Query

open Outliner.Text

/-! ## Parentheses -/

/-- How many groups are open behind a token, where so many are open in front of it. -/
def TokenKind.openBehind (groups : Nat) : TokenKind → Option Nat
  | .leftParen => some (groups + 1)
  | .rightParen =>
    match groups with
    | 0 => none
    | groups + 1 => some groups
  | _ => some groups

def openBehind (groups : Nat) : List TokenKind → Option Nat
  | [] => some groups
  | kind :: rest => (kind.openBehind groups).bind (openBehind · rest)

/-- The groups that are opened are the ones that are closed. -/
def Balanced (kinds : List TokenKind) : Prop :=
  ∀ groups, openBehind groups kinds = some groups

variable {front back symbols : List TokenKind}

theorem openBehind_append (groups : Nat) (front back : List TokenKind) :
    openBehind groups (front ++ back) = (openBehind groups front).bind (openBehind · back) := by
  induction front generalizing groups with
  | nil => rfl
  | cons kind front inductionHypothesis =>
      rw [List.cons_append, openBehind, openBehind]
      cases kind.openBehind groups with
      | none => rfl
      | some groups => exact inductionHypothesis groups

/-- Balanced tokens behind balanced ones are balanced. -/
theorem Balanced.append (balanced : Balanced front) (behind : Balanced back) :
    Balanced (front ++ back) := by
  intro groups
  rw [openBehind_append, balanced groups]
  exact behind groups

/-- Parentheses around balanced tokens are balanced. -/
theorem Balanced.group (balanced : Balanced symbols) :
    Balanced (.leftParen :: symbols ++ [.rightParen]) := by
  intro groups
  rw [List.cons_append, openBehind]
  show openBehind (groups + 1) (symbols ++ [.rightParen]) = some groups
  rw [openBehind_append, balanced (groups + 1)]
  rfl

theorem Balanced.sign {kind : TokenKind} (balanced : Balanced symbols)
    (noGroup : ∀ groups, kind.openBehind groups = some groups) : Balanced (kind :: symbols) := by
  intro groups
  rw [openBehind, noGroup]
  exact balanced groups

theorem balanced_nil : Balanced [] :=
  fun _ => rfl

mutual

/-- The tokens of an operand are balanced. -/
theorem negation_balanced {symbols : List TokenKind} {expr : Expr} :
    Negation symbols expr → Balanced symbols
  | .minus inner => (negation_balanced inner).sign fun _ => rfl
  | .atom atom => atom_balanced atom

theorem atom_balanced {symbols : List TokenKind} {expr : Expr} :
    Atom Negation symbols expr → Balanced symbols
  | .text _ => balanced_nil.sign fun _ => rfl
  | .quoted _ => balanced_nil.sign fun _ => rfl
  | .filter _ => balanced_nil.sign fun _ => rfl
  | .group inner => (balanced_of_derives inner).group

/-- The parentheses in what derives in the grammar are balanced. -/
theorem balanced_of_derives {symbols : List TokenKind} {expr : Expr} :
    Derives symbols expr → Balanced symbols
  | .parts first more => (conjunction_balanced first).append (alternatives_balanced more)

theorem alternatives_balanced {symbols : List TokenKind} {parts : List Expr} :
    Alternatives Negation symbols parts → Balanced symbols
  | .none => balanced_nil
  | .bar first more =>
      ((conjunction_balanced first).sign fun _ => rfl).append (alternatives_balanced more)

theorem conjunction_balanced {symbols : List TokenKind} {expr : Expr} :
    Conjunction Negation symbols expr → Balanced symbols
  | .parts conjuncts => conjuncts_balanced conjuncts

theorem conjuncts_balanced {symbols : List TokenKind} {parts : List Expr} :
    Conjuncts Negation symbols parts → Balanced symbols
  | .none => balanced_nil
  | .adjacent first more => (negation_balanced first).append (conjuncts_balanced more)
  | .plus first more =>
      ((negation_balanced first).sign fun _ => rfl).append (conjuncts_balanced more)

end

/-! ## Marks -/

/-- The two signs that a word can hold and that are tokens in front of one. -/
def isSign (char : Char) : Bool :=
  char == '+' || char == '-'

/-- In a text behind two characters, no quotation mark stands directly behind another one,
behind a colon, or behind a sign that is inside a word. -/
def MarksApart (earlier before : Char) : List Char → Prop
  | [] => True
  | char :: rest =>
    (isQuotationMark char = true → isQuotationMark before = false ∧ before ≠ ':' ∧
      (isSign before = true → endsWord earlier = true)) ∧ MarksApart before char rest

instance MarksApart.decide (earlier before : Char) :
    (text : List Char) → Decidable (MarksApart earlier before text)
  | [] => inferInstanceAs (Decidable True)
  | char :: rest =>
    have := MarksApart.decide before char rest
    inferInstanceAs (Decidable (_ ∧ _))

/-- From one place, between a character and a text, the scan for the end of a group gets to
another one, whatever is behind the text. As many groups are open there as before. -/
def Passes (before : Char) (text : List Char) (last : Char) (behind : List Char) : Prop :=
  ∀ tail start groups offset, ∃ place,
    skipGroup start groups (opensPhrase before) offset (text ++ tail) =
      skipGroup start groups (opensPhrase last) place (behind ++ tail)

/-- A quotation mark that comes next opens a phrase for the scan exactly if it should. -/
def Agrees (opens : Bool) (before : Char) (text : List Char) : Prop :=
  ∀ mark ∈ text.head?, isQuotationMark mark = true → opensPhrase before = opens

/-- The scan gets from one place to another one where a token can start, and in what is left
the marks are apart. -/
def Reaches (before : Char) (text behind : List Char) : Prop :=
  ∃ earlier last, Passes before text last behind ∧ MarksApart earlier last behind ∧
    Agrees true last behind

variable {earlier before last char mark : Char} {text rest behind word front : List Char}
  {offset levels : Nat} {stop cursor : Cursor} {kind : TokenKind}

theorem Passes.refl (before : Char) (text : List Char) : Passes before text before text :=
  fun _ _ _ offset => ⟨offset, rfl⟩

/-- What the scan passes in two steps, it passes. -/
theorem Passes.trans (first : Passes before text char rest)
    (second : Passes char rest last behind) : Passes before text last behind := by
  intro tail start groups offset
  obtain ⟨place, isFirst⟩ := first tail start groups offset
  obtain ⟨further, isSecond⟩ := second tail start groups place
  exact ⟨further, isFirst.trans isSecond⟩

theorem Passes.reaches (passes : Passes before text last rest)
    (reaches : Reaches last rest behind) : Reaches before text behind := by
  obtain ⟨earlier, char, further, apart, agrees⟩ := reaches
  exact ⟨earlier, char, passes.trans further, apart, agrees⟩

theorem passes_char (notOpen : char ≠ '(') (notClose : char ≠ ')')
    (noPhrase : isQuotationMark char = true → opensPhrase before = false) (rest : List Char) :
    Passes before (char :: rest) char rest := by
  intro tail start groups offset
  refine ⟨offset + char.utf8Size, skipGroup_of_char ?_ ?_ ?_⟩
  · rwa [beq_iff_eq]
  · rwa [beq_iff_eq]
  · rw [Bool.and_eq_true]
    rintro ⟨opens, isMark⟩
    rw [noPhrase isMark] at opens
    cases opens

theorem ne_of_isQuotationMark (isMark : isQuotationMark mark = true) :
    mark ≠ '(' ∧ mark ≠ ')' ∧ opensPhrase mark = false ∧ isSign mark = false ∧
      endsWord mark = false := by
  obtain rfl | rfl := isQuotationMark_iff.mp isMark <;> decide

/-- The scan passes a phrase whose mark it takes for an opening one. -/
theorem passes_phrase {content : List Char} (opens : opensPhrase before = true)
    (isMark : isQuotationMark mark = true)
    (phrase : readPhrase mark offset rest = some (content, stop)) :
    Passes before (mark :: rest) mark stop.rest := by
  obtain ⟨notOpen, notClose, isLast, -⟩ := ne_of_isQuotationMark isMark
  intro tail start groups offset
  obtain ⟨place, phraseAgain⟩ := readPhrase_again phrase (offset + mark.utf8Size) tail
  refine ⟨place, ?_⟩
  rw [opens, isLast, List.cons_append]
  refine skipGroup_of_phrase ?_ ?_ ?_ phraseAgain
  · rwa [beq_iff_eq]
  · rwa [beq_iff_eq]
  · rw [isMark]
    rfl

/-- Characters that are neither parentheses nor quotation marks. -/
def Plain (front : List Char) : Prop :=
  ∀ char ∈ front, char ≠ '(' ∧ char ≠ ')' ∧ isQuotationMark char = false

instance (front : List Char) : Decidable (Plain front) :=
  List.decidableBAll _ front

theorem passes_plain (plain : Plain front) (before : Char) (rest : List Char) :
    Passes before (front ++ rest) (front.getLastD before) rest := by
  induction front generalizing before with
  | nil => exact .refl before rest
  | cons char front inductionHypothesis =>
      obtain ⟨⟨notOpen, notClose, noMark⟩, others⟩ := List.forall_mem_cons.mp plain
      rw [List.getLastD_cons]
      refine (passes_char notOpen notClose ?_ _).trans (inductionHypothesis others char)
      intro isMark
      rw [noMark] at isMark
      cases isMark

theorem MarksApart.drop (apart : MarksApart earlier before (front ++ rest)) :
    ∃ newEarlier, MarksApart newEarlier (front.getLastD before) rest := by
  induction front generalizing earlier before with
  | nil => exact ⟨earlier, apart⟩
  | cons char front inductionHypothesis =>
      rw [List.getLastD_cons]
      exact inductionHypothesis apart.2

theorem MarksApart.past (apart : MarksApart earlier before (front ++ last :: rest)) :
    ∃ newEarlier, MarksApart newEarlier last rest := by
  rw [List.append_cons] at apart
  have dropped := apart.drop
  rwa [List.getLastD_concat] at dropped

theorem readPhrase_text {content : List Char}
    (read : readPhrase mark offset text = some (content, stop)) :
    ∃ inner, text = inner ++ mark :: stop.rest := by
  fun_induction readPhrase mark offset text generalizing content with
  | case1 => cases read
  | case2 => cases read
  | case3 offset char rest inductionHypothesis =>
      obtain ⟨⟨inner, innerStop⟩, readInner, equal⟩ := Option.map_eq_some_iff.mp read
      obtain ⟨-, rfl⟩ := Prod.mk.inj equal
      obtain ⟨inner, rfl⟩ := inductionHypothesis readInner
      exact ⟨'\\' :: char :: inner, rfl⟩
  | case4 offset rest =>
      obtain ⟨-, rfl⟩ := Prod.mk.inj (Option.some.inj read)
      exact ⟨[], rfl⟩
  | case5 offset char rest _ _ _ inductionHypothesis =>
      obtain ⟨⟨inner, innerStop⟩, readInner, equal⟩ := Option.map_eq_some_iff.mp read
      obtain ⟨-, rfl⟩ := Prod.mk.inj equal
      obtain ⟨inner, rfl⟩ := inductionHypothesis readInner
      exact ⟨char :: inner, rfl⟩

theorem passes_quoted {content : List Char} (opens : opensPhrase before = true)
    (isMark : isQuotationMark mark = true) (apart : MarksApart earlier before (mark :: rest))
    (phrase : readPhrase mark offset rest = some (content, stop)) :
    Passes before (mark :: rest) mark stop.rest ∧
      ∃ newEarlier, MarksApart newEarlier mark stop.rest := by
  refine ⟨passes_phrase opens isMark phrase, ?_⟩
  obtain ⟨inner, rfl⟩ := readPhrase_text phrase
  exact apart.2.past

/-- A place inside a word: the character in front of it belongs to the word, and so does the
one in front of that, if it is a sign. -/
def Inside (earlier before : Char) : Prop :=
  endsWord before = false ∧ (isSign before = true → endsWord earlier = false)

/-- Inside a word the scan does not take a quotation mark to open a phrase, unless it is
behind one of the characters that introduce a value. -/
theorem agrees_inside (apart : MarksApart earlier before text) (inside : Inside earlier before) :
    Agrees (isValueMark before) before text := by
  intro mark isHead isMark
  obtain ⟨rest, rfl⟩ := List.head?_eq_some_iff.mp isHead
  have noSign : isSign before = false := by
    rw [← Bool.not_eq_true]
    intro isSign
    have ends := (apart.1 isMark).2.2 isSign
    rw [inside.2 isSign] at ends
    cases ends
  unfold isSign at noSign
  rw [Bool.or_eq_false_iff] at noSign
  unfold opensPhrase
  rw [inside.1, noSign.1, noSign.2]
  rfl

theorem Inside.next (inside : endsWord before = false) (noBreak : endsWord char = false) :
    Inside before char :=
  ⟨noBreak, fun _ => inside⟩

theorem agrees_of_no_mark {opens : Bool}
    (noMark : ∀ first ∈ text.head?, isQuotationMark first = false) : Agrees opens before text := by
  intro mark isHead isMark
  rw [noMark mark isHead] at isMark
  cases isMark

/-! ## Words -/

theorem noMark_of_endsWord (ends : endsWord char = true) : isQuotationMark char = false := by
  rw [← Bool.not_eq_true]
  intro isMark
  rw [(ne_of_isQuotationMark isMark).2.2.2.2] at ends
  cases ends

theorem ne_of_not_endsWord (noBreak : ¬ endsWord char = true) : char ≠ '(' ∧ char ≠ ')' := by
  constructor
  all_goals
    rintro rfl
    exact noBreak (by decide)

theorem readWord_stops {afterMark : Bool}
    (read : readWord afterMark offset text = .ok (word, stop)) :
    ∀ first ∈ stop.rest.head?, isQuotationMark first = false := by
  fun_induction readWord afterMark offset text generalizing word stop with
  | case1 =>
      obtain ⟨-, rfl⟩ := Prod.mk.inj (Except.ok.inj read)
      rintro first ⟨⟩
  | case2 _ _ char rest isBreak =>
      obtain ⟨-, rfl⟩ := Prod.mk.inj (Except.ok.inj read)
      rintro first ⟨⟩
      exact noMark_of_endsWord isBreak
  | case3 => cases read
  | case4 _ _ _ _ _ _ _ _ _ _ inductionHypothesis =>
      obtain ⟨⟨inner, last⟩, readInner, equal⟩ := exists_of_map_eq_ok read
      obtain ⟨-, rfl⟩ := Prod.mk.inj equal
      exact inductionHypothesis readInner
  | case5 _ _ _ _ _ _ inductionHypothesis =>
      obtain ⟨⟨inner, last⟩, readInner, equal⟩ := exists_of_map_eq_ok read
      obtain ⟨-, rfl⟩ := Prod.mk.inj equal
      exact inductionHypothesis readInner

/-- The scan passes a word and the quoted sections in it. -/
theorem readWord_passes {afterMark : Bool}
    (read : readWord afterMark offset text = .ok (word, stop))
    (apart : MarksApart earlier before text) (agrees : Agrees afterMark before text)
    (inside : ∀ first ∈ text.head?, isSign first = true → endsWord before = false) :
    ∃ newEarlier last, Passes before text last stop.rest ∧
      MarksApart newEarlier last stop.rest := by
  -- The two flags need not be the same on the way, only where a quotation mark comes next.
  fun_induction readWord afterMark offset text generalizing word stop earlier before with
  | case1 =>
      obtain ⟨-, rfl⟩ := Prod.mk.inj (Except.ok.inj read)
      exact ⟨earlier, before, .refl _ _, apart⟩
  | case2 =>
      obtain ⟨-, rfl⟩ := Prod.mk.inj (Except.ok.inj read)
      exact ⟨earlier, before, .refl _ _, apart⟩
  | case3 => cases read
  | case4 afterMark offset mark rest noBreak opens content phraseStop phrase _
      inductionHypothesis =>
      obtain ⟨⟨inner, last⟩, readInner, equal⟩ := exists_of_map_eq_ok read
      obtain ⟨-, rfl⟩ := Prod.mk.inj equal
      rw [Bool.and_eq_true] at opens
      obtain ⟨afterMark, isMark⟩ := opens
      have opens := (agrees mark rfl isMark).trans afterMark
      obtain ⟨passes, newEarlier, apart⟩ := passes_quoted opens isMark apart phrase
      obtain ⟨-, -, isLast, -, noEnd⟩ := ne_of_isQuotationMark isMark
      obtain ⟨newEarlier, last, further, apart⟩ :=
        inductionHypothesis readInner apart (fun _ _ _ => isLast) (fun _ _ _ => noEnd)
      exact ⟨newEarlier, last, passes.trans further, apart⟩
  | case5 afterMark offset char rest noBreak noOpen inductionHypothesis =>
      obtain ⟨⟨inner, last⟩, readInner, equal⟩ := exists_of_map_eq_ok read
      obtain ⟨-, rfl⟩ := Prod.mk.inj equal
      obtain ⟨notOpen, notClose⟩ := ne_of_not_endsWord noBreak
      have noPhrase : isQuotationMark char = true → opensPhrase before = false := by
        intro isMark
        rw [isMark, Bool.and_true, Bool.not_eq_true] at noOpen
        exact (agrees char rfl isMark).trans noOpen
      rw [Bool.not_eq_true] at noBreak
      obtain ⟨newEarlier, last, further, apart⟩ := inductionHypothesis readInner apart.2
        (agrees_inside apart.2 ⟨noBreak, inside char rfl⟩) (fun _ _ _ => noBreak)
      exact ⟨newEarlier, last, (passes_char notOpen notClose noPhrase rest).trans further, apart⟩

theorem readWord_reaches {afterMark : Bool}
    (read : readWord afterMark offset text = .ok (word, stop))
    (apart : MarksApart earlier before text) (agrees : Agrees afterMark before text)
    (inside : ∀ first ∈ text.head?, isSign first = true → endsWord before = false) :
    Reaches before text stop.rest := by
  obtain ⟨newEarlier, last, passes, apart⟩ := readWord_passes read apart agrees inside
  exact ⟨newEarlier, last, passes, apart, agrees_of_no_mark (readWord_stops read)⟩

theorem readTextWord_reaches (read : readTextWord cursor = .ok (kind, stop))
    (apart : MarksApart earlier before cursor.rest)
    (noMark : ∀ first ∈ cursor.rest.head?, isQuotationMark first = false)
    (inside : ∀ first ∈ cursor.rest.head?, isSign first = true → endsWord before = false) :
    Reaches before cursor.rest stop.rest := by
  obtain ⟨⟨word, last⟩, readValue, equal⟩ := exists_of_map_eq_ok read
  obtain ⟨-, rfl⟩ := Prod.mk.inj equal
  exact readWord_reaches readValue apart (agrees_of_no_mark noMark) inside

/-! ## Filters -/

/-- A text is its sign, if there is one, and what is behind it. -/
theorem split_text (text : List Char) :
    text = ((Comparison.split text).1.elim [] fun sign => sign.spelling.toList) ++
      (Comparison.split text).2 := by
  fun_cases Comparison.split text <;> rfl

theorem plain_spelling (sign : Comparison) : Plain sign.spelling.toList := by
  cases sign <;> decide

theorem isValueMark_spelling (sign : Comparison) (before : Char) :
    isValueMark (sign.spelling.toList.getLastD before) = true := by
  cases sign <;> rfl

theorem opensPhrase_of_isValueMark (isMark : isValueMark char = true) :
    opensPhrase char = true ∧ endsWord char = false := by
  unfold isValueMark at isMark
  simp only [Bool.or_eq_true, beq_iff_eq] at isMark
  obtain ((rfl | rfl) | rfl) | rfl := isMark <;> decide

theorem skip_to_value {value : List Char} (isText : cursor.rest = front ++ value) :
    (cursor.skip (cursor.rest.length - value.length)).rest = value := by
  unfold Cursor.skip
  rw [isText, List.length_append, Nat.add_sub_cancel]
  exact List.drop_left

/-- The scan gets past the sign and the value of a filter. -/
theorem readComparison_reaches {subject : FilterSubject}
    (read : readComparison subject cursor = .ok (kind, stop))
    (apart : MarksApart earlier before cursor.rest) (agrees : Agrees true before cursor.rest)
    (inside : endsWord before = false) : Reaches before cursor.rest stop.rest := by
  unfold readComparison at read
  dsimp only at read
  obtain ⟨⟨word, last⟩, readValue, equal⟩ := exists_of_map_eq_ok read
  obtain ⟨-, rfl⟩ := Prod.mk.inj equal
  have isText := split_text cursor.rest
  rw [skip_to_value isText] at readValue
  generalize (Comparison.split cursor.rest).2 = value at isText readValue
  rw [isText] at apart agrees ⊢
  generalize (Comparison.split cursor.rest).1 = sign at apart agrees ⊢
  cases sign with
  | none => exact readWord_reaches readValue apart agrees fun _ _ _ => inside
  | some sign =>
      obtain ⟨newEarlier, apart⟩ := apart.drop
      obtain ⟨opens, noBreak⟩ := opensPhrase_of_isValueMark (isValueMark_spelling sign before)
      have passes := passes_plain (plain_spelling sign) before value
      exact passes.reaches (readWord_reaches readValue apart (fun _ _ _ => opens)
        fun _ _ _ => noBreak)

/-- Behind the key of an attribute, a quotation mark never comes next. -/
theorem attributeKey_passes (apart : MarksApart earlier before text)
    (agrees : Agrees false before text) (inside : endsWord before = false) :
    ∃ newEarlier last, Passes before text last (text.drop (attributeKey text).length) ∧
      MarksApart newEarlier last (text.drop (attributeKey text).length) ∧
      endsWord last = false ∧
      ∀ first ∈ (text.drop (attributeKey text).length).head?, isQuotationMark first = false := by
  fun_induction attributeKey text generalizing earlier before with
  | case1 =>
      refine ⟨earlier, before, .refl _ _, apart, inside, ?_⟩
      rintro first ⟨⟩
  | case2 =>
      refine ⟨earlier, before, .refl _ _, apart, inside, ?_⟩
      rintro first ⟨⟩
      decide
  | case3 char rest _ ends =>
      refine ⟨earlier, before, .refl _ _, apart, inside, ?_⟩
      rintro first ⟨⟩
      simp only [Bool.or_eq_true, beq_iff_eq] at ends
      obtain ((ends | rfl) | rfl) | rfl := ends
      · exact noMark_of_endsWord ends
      all_goals decide
  | case4 char rest _ notEnd inductionHypothesis =>
      simp only [Bool.or_eq_true, beq_iff_eq, not_or] at notEnd
      obtain ⟨⟨⟨noBreak, notLess⟩, notGreater⟩, notEqual⟩ := notEnd
      obtain ⟨notOpen, notClose⟩ := ne_of_not_endsWord noBreak
      rw [Bool.not_eq_true] at noBreak
      -- A colon opens phrases for the scan, but in a key it does not for the tokens.
      have agreesNext : Agrees false char rest := by
        intro mark isHead isMark
        rw [agrees_inside apart.2 (.next inside noBreak) mark isHead isMark]
        obtain ⟨more, rfl⟩ := List.head?_eq_some_iff.mp isHead
        have notColon := (apart.2.1 isMark).2.1
        simp [isValueMark, notLess, notGreater, notEqual, notColon]
      obtain ⟨newEarlier, last, further, result⟩ := inductionHypothesis apart.2 agreesNext noBreak
      have passes := passes_char notOpen notClose (agrees char rfl) rest
      exact ⟨newEarlier, last, passes.trans further, result⟩

theorem readPlainWord_reaches (read : readPlainWord cursor = .ok (kind, stop))
    (apart : MarksApart earlier before cursor.rest)
    (noMark : ∀ first ∈ cursor.rest.head?, isQuotationMark first = false)
    (inside : ∀ first ∈ cursor.rest.head?, isSign first = true → endsWord before = false) :
    Reaches before cursor.rest stop.rest := by
  by_cases isAt : cursor.rest.head? = some '@'
  · obtain ⟨rest, isText⟩ := List.head?_eq_some_iff.mp isAt
    rw [readPlainWord_of_at isText] at read
    by_cases noKey : (attributeKey rest).isEmpty = true
    · rw [if_pos noKey] at read
      exact readTextWord_reaches read apart noMark inside
    · rw [if_neg noKey] at read
      have isRest : (cursor.skip ((attributeKey rest).length + 1)).rest =
          rest.drop (attributeKey rest).length := by
        rw [Cursor.skip, isText]
        rfl
      rw [isText] at apart ⊢
      have passesAt : Passes before ('@' :: rest) '@' rest :=
        passes_char (by decide) (by decide) (fun isMark => absurd isMark (by decide)) rest
      obtain ⟨newEarlier, last, passes, apart, inside, noMark⟩ :=
        attributeKey_passes apart.2 (fun _ _ _ => by decide) (by decide)
      rw [← isRest] at passes apart noMark
      have reaches := readComparison_reaches read apart (agrees_of_no_mark noMark) inside
      exact (passesAt.trans passes).reaches reaches
  · rw [readPlainWord_of_text isAt] at read
    exact readTextWord_reaches read apart noMark inside

theorem plain_of_map_toLower (plain : Plain (front.map Char.toLower)) : Plain front := by
  intro char member
  obtain ⟨notOpen, notClose, noMark⟩ := plain _ (List.mem_map_of_mem member)
  rw [ne_eq, isRelettering_toLower.eq_iff rfl] at notOpen notClose
  rw [isRelettering_toLower.isQuotationMark] at noMark
  exact ⟨notOpen, notClose, noMark⟩

/-- The words of filters hold neither parentheses nor quotation marks, and end in a colon. -/
theorem filterWord?_text {name : String} {subject : FilterSubject}
    (isWord : filterWord? text = some (name, subject)) :
    ∃ front, Plain front ∧ text = front ++ ':' :: text.drop name.length := by
  have shapes : ∀ entry ∈ FilterSubject.words, entry.1.toList = entry.1.toList.dropLast ++ [':'] ∧
      Plain entry.1.toList.dropLast := by decide
  obtain ⟨ends, plain⟩ := shapes _ (List.mem_of_find?_eq_some isWord)
  have isHead := List.find?_some isWord
  dsimp only at isHead ends plain
  rw [beq_iff_eq, ends] at isHead
  obtain ⟨front, last, isTake, isFront, isLast⟩ := List.map_eq_append_iff.mp isHead
  obtain ⟨colon, none, rfl, isColon, areNone⟩ := List.map_eq_cons_iff.mp isLast
  obtain rfl := List.map_eq_nil_iff.mp areNone
  obtain rfl := (isRelettering_toLower.eq_iff rfl).mp isColon
  rw [← isFront] at plain
  refine ⟨front, plain_of_map_toLower plain, ?_⟩
  rw [List.append_cons, ← isTake, List.take_append_drop]

/-! ## Arguments of sub-filters -/

theorem skipGroup_text {start inner : Nat} {opens : Bool}
    (found : skipGroup start inner opens offset text = .ok stop) :
    ∃ group, text = group ++ ')' :: stop.rest := by
  fun_induction skipGroup start inner opens offset text with
  | case1 => cases found
  | case2 inner opens offset char rest _ inductionHypothesis =>
      obtain ⟨group, rfl⟩ := inductionHypothesis found
      exact ⟨char :: group, rfl⟩
  | case3 opens offset char rest _ isClose =>
      obtain rfl := beq_iff_eq.mp isClose
      obtain rfl := Except.ok.inj found
      exact ⟨[], rfl⟩
  | case4 opens offset char rest _ _ inner inductionHypothesis =>
      obtain ⟨group, rfl⟩ := inductionHypothesis found
      exact ⟨char :: group, rfl⟩
  | case5 => cases found
  | case6 inner opens offset char rest _ _ _ content phraseStop phrase _ inductionHypothesis =>
      obtain ⟨phraseText, rfl⟩ := readPhrase_text phrase
      obtain ⟨group, isRest⟩ := inductionHypothesis found
      exact ⟨char :: phraseText ++ char :: group, by simp [isRest]⟩
  | case7 inner opens offset char rest _ _ _ inductionHypothesis =>
      obtain ⟨group, rfl⟩ := inductionHypothesis found
      exact ⟨char :: group, rfl⟩

/-- The scan gets past a group. -/
theorem reaches_group {start again : Nat}
    (found : skipGroup start 0 true again rest = .ok stop)
    (apart : MarksApart earlier before ('(' :: rest)) : Reaches before ('(' :: rest) stop.rest := by
  obtain ⟨group, isRest⟩ := skipGroup_text found
  rw [MarksApart, isRest] at apart
  obtain ⟨newEarlier, apart⟩ := apart.2.past
  refine ⟨newEarlier, ')', ?_, apart, fun _ _ _ => by decide⟩
  intro tail around groups offset
  obtain ⟨opens, place, toClose⟩ := skipGroup_to_close found around (groups + 1) (offset + 1) tail
  rw [Nat.zero_add] at toClose
  refine ⟨place + 1, ?_⟩
  rw [List.cons_append, skipGroup_of_open]
  exact toClose.trans (skipGroup_of_close around (groups + 1) opens place _)

/-- Behind the minus signs of an argument, a quotation mark never comes next. -/
theorem dashes_passes (apart : MarksApart earlier before text) (inside : Inside earlier before)
    (guarded : before = ':' ∨ isSign before = true) :
    ∃ newEarlier last,
      Passes before text last (text.drop (text.takeWhile (· == '-')).length) ∧
      MarksApart newEarlier last (text.drop (text.takeWhile (· == '-')).length) ∧
      endsWord last = false ∧
      ∀ first ∈ (text.drop (text.takeWhile (· == '-')).length).head?,
        isQuotationMark first = false := by
  induction text generalizing earlier before with
  | nil => exact ⟨earlier, before, .refl _ _, apart, inside.1, nofun⟩
  | cons char rest inductionHypothesis =>
      by_cases isDash : (char == '-') = true
      · obtain rfl := beq_iff_eq.mp isDash
        have passes : Passes before ('-' :: rest) '-' rest :=
          passes_char (by decide) (by decide) (fun isMark => absurd isMark (by decide)) rest
        obtain ⟨newEarlier, last, further, result⟩ := inductionHypothesis apart.2
          (.next inside.1 (by decide)) (.inr (by decide))
        rw [List.takeWhile_cons_of_pos rfl, List.length_cons, List.drop_succ_cons]
        exact ⟨newEarlier, last, passes.trans further, result⟩
      · have noDashes : (char :: rest).takeWhile (· == '-') = [] :=
          List.takeWhile_cons_of_neg isDash
        rw [noDashes]
        refine ⟨earlier, before, .refl _ _, apart, inside.1, ?_⟩
        rintro first ⟨⟩
        rw [← Bool.not_eq_true]
        intro isMark
        obtain ⟨-, notColon, notInWord⟩ := apart.1 isMark
        rcases guarded with isColon | isSign
        · exact notColon isColon
        · have ends := notInWord isSign
          rw [inside.2 isSign] at ends
          cases ends

/-- The scan gets past the argument of a sub-filter, if it gets past words. -/
theorem skipArgument_reaches {readOne : Cursor → Except QueryError (TokenKind × Cursor)}
    (reachesOne : ∀ cursor kind stop earlier before, readOne cursor = .ok (kind, stop) →
      MarksApart earlier before cursor.rest →
      (∀ first ∈ cursor.rest.head?, isQuotationMark first = false) →
      (∀ first ∈ cursor.rest.head?, isSign first = true → endsWord before = false) →
      Reaches before cursor.rest stop.rest)
    (found : skipArgument readOne cursor = .ok stop)
    (apart : MarksApart earlier ':' cursor.rest) : Reaches ':' cursor.rest stop.rest := by
  unfold skipArgument at found
  dsimp only at found
  obtain ⟨newEarlier, last, passes, apart, inside, noMark⟩ :=
    dashes_passes apart ⟨by decide, fun isSign => absurd isSign (by decide)⟩ (.inl rfl)
  have isRest : cursor.rest.drop (cursor.rest.takeWhile (· == '-')).length =
      (cursor.skip (cursor.rest.takeWhile (· == '-')).length).rest := rfl
  rw [isRest] at passes apart noMark
  apply passes.reaches
  generalize cursor.skip (cursor.rest.takeWhile (· == '-')).length = operand at *
  have stays : Reaches last operand.rest operand.rest :=
    ⟨newEarlier, last, .refl _ _, apart, agrees_of_no_mark noMark⟩
  obtain ⟨offset, text⟩ := operand
  cases text with
  | nil =>
      obtain rfl := Except.ok.inj found
      exact stays
  | cons char rest =>
      dsimp only at found
      have noMark : ¬ isQuotationMark char = true := by rw [noMark char rfl]; simp
      by_cases isOpen : (char == '(') = true
      · rw [if_pos isOpen] at found
        obtain rfl := beq_iff_eq.mp isOpen
        exact reaches_group found apart
      · rw [if_neg isOpen, if_neg noMark] at found
        by_cases isBreak : endsWord char = true
        · rw [if_pos isBreak] at found
          obtain rfl := Except.ok.inj found
          exact stays
        · rw [if_neg isBreak] at found
          obtain ⟨⟨kind, wordStop⟩, read, rfl⟩ := exists_of_map_eq_ok found
          exact reachesOne _ kind wordStop newEarlier last read apart ‹_› fun _ _ _ => inside

/-- The scan passes a word as one piece. -/
theorem readWordToken_reaches (read : readWordToken levels cursor = .ok (kind, stop))
    (apart : MarksApart earlier before cursor.rest)
    (noMark : ∀ first ∈ cursor.rest.head?, isQuotationMark first = false)
    (inside : ∀ first ∈ cursor.rest.head?, isSign first = true → endsWord before = false) :
    Reaches before cursor.rest stop.rest := by
  induction levels using Nat.strongRecOn generalizing cursor kind stop earlier before with
  | ind levels inductionHypothesis =>
      cases isWord : filterWord? cursor.rest with
      | none =>
          rw [readWordToken_of_none isWord] at read
          exact readPlainWord_reaches read apart noMark inside
      | some found =>
          obtain ⟨name, subject⟩ := found
          obtain ⟨front, plain, isText⟩ := filterWord?_text isWord
          have isValue : cursor.rest.drop name.length = (cursor.skip name.length).rest := rfl
          rw [readWordToken_of_word isWord] at read
          rw [isValue] at isText
          generalize cursor.skip name.length = value at isText read
          rw [isText, List.append_cons] at apart ⊢
          have plainName : Plain (front ++ [':']) := by
            intro char member
            rcases List.mem_append.mp member with isFront | isColon
            · exact plain char isFront
            · obtain rfl := List.mem_singleton.mp isColon
              decide
          have passes := passes_plain plainName before value.rest
          obtain ⟨newEarlier, apart⟩ := apart.drop
          rw [List.getLastD_concat] at passes apart
          apply passes.reaches
          split at read
          · cases levels with
            | zero => cases read
            | succ levels =>
                obtain ⟨last, isArgument, equal⟩ := exists_of_map_eq_ok read
                obtain ⟨-, rfl⟩ := Prod.mk.inj equal
                refine skipArgument_reaches ?_ isArgument apart
                intro cursor kind stop earlier before read apart noMark inside
                exact inductionHypothesis levels (Nat.lt_succ_self levels) read apart noMark inside
          · exact readComparison_reaches read apart (fun _ _ _ => by decide) (by decide)

/-! ## Tokens -/

theorem openBehind_placeless (kind : TokenKind) (groups : Nat) :
    kind.placeless.openBehind groups = kind.openBehind groups := by
  cases kind <;> rfl

theorem readComparison_openBehind {subject : FilterSubject}
    (read : readComparison subject cursor = .ok (kind, stop)) (groups : Nat) :
    kind.openBehind groups = some groups := by
  obtain ⟨_, -, equal⟩ := exists_of_map_eq_ok read
  obtain ⟨rfl, -⟩ := Prod.mk.inj equal
  rfl

theorem readPlainWord_openBehind (read : readPlainWord cursor = .ok (kind, stop)) (groups : Nat) :
    kind.openBehind groups = some groups := by
  have textWord (readText : readTextWord cursor = .ok (kind, stop)) :
      kind.openBehind groups = some groups := by
    obtain ⟨_, -, equal⟩ := exists_of_map_eq_ok readText
    obtain ⟨rfl, -⟩ := Prod.mk.inj equal
    rfl
  unfold readPlainWord at read
  split at read
  · split at read
    · exact textWord read
    · exact readComparison_openBehind read groups
  · exact textWord read

/-- A word opens no group. -/
theorem readWordToken_openBehind (read : readWordToken levels cursor = .ok (kind, stop))
    (groups : Nat) : kind.openBehind groups = some groups := by
  cases isWord : filterWord? cursor.rest with
  | none =>
      rw [readWordToken_of_none isWord] at read
      exact readPlainWord_openBehind read groups
  | some found =>
      rw [readWordToken_of_word isWord] at read
      split at read
      · cases levels with
        | zero => cases read
        | succ levels =>
            obtain ⟨_, -, equal⟩ := exists_of_map_eq_ok read
            obtain ⟨rfl, -⟩ := Prod.mk.inj equal
            rfl
      · exact readComparison_openBehind read groups

/-- The scan gets past a token to a place where one can start, and counts a parenthesis as
the tokens do. -/
def PassesToken (before : Char) (text : List Char) (kind : TokenKind) (behind : List Char) :
    Prop :=
  ∃ earlier last, MarksApart earlier last behind ∧ Agrees true last behind ∧
    ∀ groups groups', kind.openBehind groups = some groups' → ∀ tail start again, ∃ place,
      skipGroup start groups (opensPhrase before) again (text ++ tail) =
        skipGroup start groups' (opensPhrase last) place (behind ++ tail)

theorem Reaches.passesToken (reaches : Reaches before text behind)
    (noGroup : ∀ groups, kind.openBehind groups = some groups) :
    PassesToken before text kind behind := by
  obtain ⟨newEarlier, last, passes, apart, agrees⟩ := reaches
  refine ⟨newEarlier, last, apart, agrees, ?_⟩
  intro groups groups' opened tail start again
  obtain rfl := Option.some.inj ((noGroup groups).symm.trans opened)
  exact passes tail start groups again

theorem passesToken_left (apart : MarksApart before '(' rest) :
    PassesToken before ('(' :: rest) .leftParen rest := by
  refine ⟨before, '(', apart, fun _ _ _ => by decide, ?_⟩
  intro groups groups' opened tail start again
  obtain rfl := Option.some.inj opened
  rw [List.cons_append, skipGroup_of_open]
  exact ⟨_, rfl⟩

theorem passesToken_right (apart : MarksApart before ')' rest) :
    PassesToken before (')' :: rest) .rightParen rest := by
  refine ⟨before, ')', apart, fun _ _ _ => by decide, ?_⟩
  intro groups groups' opened tail start again
  cases groups with
  | zero => cases opened
  | succ groups =>
      obtain rfl := Option.some.inj opened
      rw [List.cons_append, skipGroup_of_close]
      exact ⟨_, rfl⟩

/-- Behind a blank, a sign or a bar, a token can start. -/
theorem reaches_of_opensPhrase (apart : MarksApart before char rest)
    (notParen : char ≠ '(' ∧ char ≠ ')') (opens : opensPhrase char = true)
    (noMark : isQuotationMark char = false) : Reaches before (char :: rest) rest := by
  refine ⟨before, char, passes_char notParen.1 notParen.2 ?_ rest, apart, fun _ _ _ => opens⟩
  intro isMark
  rw [noMark] at isMark
  cases isMark

/-- Behind a phrase, a token that is no phrase can start. -/
theorem reaches_quoted {content : List Char} (apart : MarksApart earlier before (mark :: rest))
    (opens : opensPhrase before = true) (isMark : isQuotationMark mark = true)
    (phrase : readPhrase mark offset rest = some (content, stop)) :
    Reaches before (mark :: rest) stop.rest := by
  obtain ⟨passes, newEarlier, apart⟩ := passes_quoted opens isMark apart phrase
  refine ⟨newEarlier, mark, passes, apart, agrees_of_no_mark ?_⟩
  intro next isHead
  obtain ⟨more, isRest⟩ := List.head?_eq_some_iff.mp isHead
  rw [isRest] at apart
  rw [← Bool.not_eq_true]
  intro isNext
  have notBehind := (apart.1 isNext).1
  rw [isMark] at notBehind
  cases notBehind

/-- The scan gets past every token to a place where the next one can start. -/
theorem readLexeme_passes (read : readLexeme levels offset char rest = .ok (kind, stop))
    (apart : MarksApart earlier before (char :: rest))
    (agrees : Agrees true before (char :: rest)) :
    PassesToken before (char :: rest) kind stop.rest := by
  rcases readLexeme_cases read with
    ⟨isSign, rfl⟩ | ⟨isMark, content, rfl, phrase⟩ | ⟨notSign, noMark, isWord⟩
  · rcases mem_signTokens.mp isSign with
      ⟨rfl, rfl⟩ | ⟨rfl, rfl⟩ | ⟨rfl, rfl⟩ | ⟨rfl, rfl⟩ | ⟨rfl, rfl⟩
    · exact passesToken_left apart.2
    · exact passesToken_right apart.2
    all_goals
      apply Reaches.passesToken _ fun _ => rfl
      exact reaches_of_opensPhrase apart.2 (by decide) (by decide) (by decide)
  · exact (reaches_quoted apart (agrees char rfl isMark) isMark phrase).passesToken fun _ => rfl
  · have noMark : ∀ first ∈ (char :: rest).head?, isQuotationMark first = false := by
      rintro first ⟨⟩
      exact Bool.eq_false_iff.mpr noMark
    have noSign : ∀ first ∈ (char :: rest).head?, isSign first = true →
        endsWord before = false := by
      rintro first ⟨⟩ isSign
      unfold Query.isSign at isSign
      rw [Bool.or_eq_true, beq_iff_eq, beq_iff_eq] at isSign
      rcases isSign with rfl | rfl
      · exact absurd (by decide) (notSign .plus)
      · exact absurd (by decide) (notSign .minus)
    exact (readWordToken_reaches isWord apart noMark noSign).passesToken
      (readWordToken_openBehind isWord)

/-- The scan for the end of a group gets past a text that gives tokens, and counts the
groups as the tokens do. -/
theorem skipGroup_of_scanFrom {tokens : List Token} {groups groups' : Nat}
    (scanned : Token.scanFrom levels offset text = .ok tokens)
    (apart : MarksApart earlier before text) (agrees : Agrees true before text)
    (opened : openBehind groups (tokens.map Token.symbol) = some groups')
    (tail : List Char) (start again : Nat) : ∃ opens place,
      skipGroup start groups (opensPhrase before) again (text ++ tail) =
        skipGroup start groups' opens place tail := by
  fun_induction Token.scanFrom levels offset text
    generalizing tokens groups earlier before again with
  | case1 =>
      obtain rfl := Except.ok.inj scanned
      obtain rfl := Option.some.inj opened
      exact ⟨_, again, rfl⟩
  | case2 offset char rest isBlank inductionHypothesis =>
      have ends : endsWord char = true := by
        unfold endsWord
        rw [isBlank]
        rfl
      have opens : opensPhrase char = true := by
        unfold opensPhrase
        rw [ends]
        rfl
      have notParen : char ≠ '(' ∧ char ≠ ')' := by
        constructor
        all_goals
          rintro rfl
          exact absurd isBlank (by decide)
      obtain ⟨newEarlier, last, passes, apart, agrees⟩ :=
        reaches_of_opensPhrase apart.2 notParen opens (noMark_of_endsWord ends)
      obtain ⟨place, isNext⟩ := passes tail start groups again
      rw [isNext]
      exact inductionHypothesis scanned apart agrees opened place
  | case3 => cases scanned
  | case4 offset char rest notBlank kind stop read _ inductionHypothesis =>
      obtain ⟨more, scannedMore, rfl⟩ := exists_of_map_eq_ok scanned
      obtain ⟨newEarlier, last, apart, agrees, passes⟩ := readLexeme_passes read apart agrees
      rw [List.map_cons, openBehind, Token.symbol, openBehind_placeless] at opened
      obtain ⟨between, openedBetween, opened⟩ := Option.bind_eq_some_iff.mp opened
      obtain ⟨place, isNext⟩ := passes groups between openedBetween tail start again
      rw [isNext]
      exact inductionHypothesis scannedMore apart agrees opened place

/-- The scan ends behind a query in which the marks are apart. -/
theorem skipGroup_of_parsed {expr : Expr}
    (parsed : Expr.parseFrom levels offset text = .ok expr) (apart : MarksApart '(' '(' text)
    (start again : Nat) :
    ∃ place, skipGroup start 0 true again (text ++ [')']) = .ok ⟨place, []⟩ := by
  obtain ⟨tokens, scanned, read⟩ := exists_of_bind_eq_ok parsed
  have balanced : Balanced (tokens.map Token.symbol) := by
    by_cases noTokens : tokens = []
    · rw [noTokens]
      exact balanced_nil
    · exact balanced_of_derives (readWhole_sound noTokens read)
  obtain ⟨opens, place, isTail⟩ := skipGroup_of_scanFrom scanned apart
    (fun _ _ _ => by decide) (balanced 0) [')'] start again
  refine ⟨place + 1, ?_⟩
  rw [skipGroup_of_close] at isTail
  exact isTail

end Outliner.Query
