import Mathlib.Data.List.TakeWhile
import Outliner.Proofs.Query.Composing
import Outliner.Proofs.Query.GroupScan
import Outliner.Query.Expr.Write

/-!
Contract: what is read of a query that is wrapped in the group of a sub-filter.

Owns: that the group stands for the query itself, exactly if the scan for the end of the
group ends behind the query, and that it does if the marks in the query are apart.

Main statements: `parseFrom_group`, `parse_around`.

Does not own: where the scan ends (`Proofs.Query.GroupScan`).
-/

namespace Outliner.Query

open Outliner.Text

variable {levels offset : Nat} {text : List Char} {expr : Expr} {token : Token}
  {symbols more : List TokenKind} {written : WrittenFilter}

/-! ## Groups -/

theorem trim_group (text : List Char) : (trim ('(' :: text)).isEmpty = false := by
  have start : trimStart ('(' :: text) = '(' :: text := List.dropWhile_cons_of_neg (by decide)
  rw [trim, start, trimEnd, List.isEmpty_reverse, List.isEmpty_eq_false_iff]
  intro none
  have blank := List.dropWhile_eq_nil_iff.mp none '(' (List.mem_reverse.mpr List.mem_cons_self)
  exact absurd blank (by decide)

/-- A query in parentheses is the query, unless it nests too deep. -/
theorem parseFrom_group (parsed : Expr.parseFrom levels offset text = .ok expr)
    (notBlank : ∃ char ∈ text, isBlank char = false) (newLevels again : Nat) :
    Expr.parseFrom newLevels again ('(' :: text ++ [')']) = .ok expr ∨
      TooDeep (Expr.parseFrom newLevels again ('(' :: text ++ [')'])) := by
  obtain ⟨symbols, negation, spells⟩ := exists_group parsed notBlank
  exact (spells.parseFrom trivial (derives_of_negation negation) newLevels again).1

/-! ## Filters by themselves -/

/-- What takes one of one token leaves none. -/
theorem Taken.rest_of_single {α : Type} {token : Token} (taken : Taken α [token]) :
    taken.rest = [] :=
  List.length_eq_zero_iff.mp (Nat.lt_one_iff.mp taken.shorter)

/-- Tokens that are one operand are read as that operand. -/
theorem readWhole_of_operand {tokens : List Token} {operand : OperandReader}
    (starts : startsOperand tokens = true)
    (takesAll : ∀ taken, operand tokens = .ok taken → taken.rest = []) (stop : Nat) :
    readWhole operand stop tokens = (operand tokens).map Taken.value := by
  cases tokens with
  | nil => cases starts
  | cons token rest =>
      have ends : EndsExpr [] := nofun
      unfold readWhole readExpr readConjunction
      rw [if_neg (by simp), readConjuncts_of_operand starts]
      cases isRead : operand (token :: rest) with
      | error error => rfl
      | ok taken =>
          have none := takesAll taken isRead
          obtain ⟨value, left, shorter⟩ := taken
          dsimp only at none
          subst none
          dsimp only [Except.map, Except.bind]
          rw [readConjuncts_of_end rfl]
          dsimp only [Except.map]
          rw [readAlternatives_of_end ends]
          rfl

theorem readWhole_filter (isFilter : token.kind = .filter written) (levels stop : Nat) :
    readWhole (readOperand levels stop) stop [token] =
      readFilter levels token.position written := by
  have starts : startsOperand [token] = true := by
    rw [startsOperand, isFilter]
    rfl
  rw [readWhole_of_operand starts fun taken _ => taken.rest_of_single,
    readOperand_filter isFilter]
  cases readFilter levels token.position written <;> rfl

/-- A query that is one filter is read as that filter. -/
theorem parse_of_one_filter {text : String} {token : Token}
    (scanned : Token.scan text = .ok [token]) (isFilter : token.kind = .filter written) :
    Expr.parse text = readFilter maxNesting token.position written := by
  have scanned : Token.scanFrom maxNesting 0 text.toList = .ok [token] := scanned
  unfold Expr.parse Expr.parseFrom
  dsimp only
  rw [scanned]
  exact readWhole_filter isFilter _ _

def Expr.isJoined : Expr → Bool
  | .all _ | .any _ => true
  | _ => false

/-- A filter that is followed by more is joined with it. -/
theorem eq_nil_of_derives (derives : Derives (.filter written :: more) expr)
    (single : expr.isJoined = false) : more = [] := by
  generalize areSymbols : TokenKind.filter written :: more = symbols at derives
  cases derives with
  | parts first others =>
    cases others with
    | bar => cases single
    | none =>
      cases first with
      | parts conjuncts =>
        cases conjuncts with
        | plus => cases areSymbols
        | adjacent first others =>
          cases others with
          | adjacent => cases single
          | plus => cases single
          | none =>
            rw [List.append_nil, List.append_nil] at areSymbols
            cases first with
            | minus => cases areSymbols
            | atom atom =>
              cases atom
              all_goals
                cases areSymbols
                try rfl

/-! ## Sub-filters -/

/-- The filters whose argument is a query. -/
inductive SubFilter where
  | parent
  | ancestor

namespace SubFilter

def name : SubFilter → String
  | parent => "p:"
  | ancestor => "a:"

def subject : SubFilter → FilterSubject
  | parent => .parent
  | ancestor => .ancestor

def relation : SubFilter → Expr → Expr
  | parent => .parent
  | ancestor => .ancestor

/-- The filter with a group around a text as its argument. -/
def around (filter : SubFilter) (text : String) : String :=
  filter.name ++ "(" ++ text ++ ")"

/-- The filter as it is written with an argument right behind its name. -/
def holding (filter : SubFilter) (value : List Char) : WrittenFilter :=
  ⟨filter.subject, none, String.ofList value, 2⟩

end SubFilter

/-- The scan for the end of the group around a text finds the parenthesis behind it. -/
def ClosesBehind (text : List Char) : Prop :=
  ∃ place, skipGroup 2 0 true 3 (text ++ [')']) = .ok ⟨place, []⟩

variable (filter : SubFilter)

theorem relation_not_joined (inner : Expr) : (filter.relation inner).isJoined = false := by
  cases filter <;> rfl

theorem toList_around (text : String) :
    (filter.around text).toList = filter.name.toList ++ '(' :: (text.toList ++ [')']) := by
  unfold SubFilter.around
  rw [String.toList_append, String.toList_append, String.toList_append, List.append_assoc,
    List.append_assoc]
  rfl

/-- A sub-filter with a group is one token, which ends where the scan does. -/
theorem readLexeme_around (levels : Nat) (text : List Char) : ∃ char,
    filter.name.toList = [char, ':'] ∧ isBlank char = false ∧
      readLexeme (levels + 1) 0 char (':' :: '(' :: text) =
        (skipGroup 2 0 true 3 text).map fun stop =>
          (.filter (filter.holding (Cursor.textUntil ⟨2, '(' :: text⟩ stop)), stop) := by
  cases filter with
  | parent =>
      refine ⟨'p', rfl, by decide, ?_⟩
      have isToken : readLexeme (levels + 1) 0 'p' (':' :: '(' :: text) =
          readWordToken (levels + 1) ⟨0, 'p' :: ':' :: '(' :: text⟩ := rfl
      rw [isToken, @readWordToken_of_word ⟨0, _⟩ "p:" .parent rfl]
      rfl
  | ancestor =>
      refine ⟨'a', rfl, by decide, ?_⟩
      have isToken : readLexeme (levels + 1) 0 'a' (':' :: '(' :: text) =
          readWordToken (levels + 1) ⟨0, 'a' :: ':' :: '(' :: text⟩ := rfl
      rw [isToken, @readWordToken_of_word ⟨0, _⟩ "a:" .ancestor rfl]
      rfl

/-- A filter around a text reads the text one level below, two bytes further on. -/
theorem readFilter_around (levels position : Nat) (value : List Char) :
    readFilter (levels + 1) position (filter.holding ('(' :: value)) =
      (Expr.parseFrom levels 2 ('(' :: value)).map filter.relation := by
  have isAbove : (filter.holding ('(' :: value)).shape = .above filter.relation := by
    cases filter <;> rfl
  have isValue : (filter.holding ('(' :: value)).value.toList = '(' :: value :=
    String.toList_ofList
  unfold readFilter
  rw [isAbove]
  dsimp only
  rw [isValue, trim_group]
  rfl

/-- Where the scan ends behind the text, the filter is about the text in parentheses. -/
theorem parseFrom_around_of_closes {text : String} (closes : ClosesBehind text.toList)
    (levels : Nat) : Expr.parseFrom (levels + 1) 0 (filter.around text).toList =
      (Expr.parseFrom levels 2 ('(' :: text.toList ++ [')'])).map filter.relation := by
  obtain ⟨place, found⟩ := closes
  obtain ⟨char, isName, notBlank, isToken⟩ := readLexeme_around filter levels (text.toList ++ [')'])
  have isValue : Cursor.textUntil ⟨2, '(' :: (text.toList ++ [')'])⟩ ⟨place, []⟩ =
      '(' :: (text.toList ++ [')']) := List.take_length
  rw [found, Except.map, isValue] at isToken
  conv => lhs; unfold Expr.parseFrom
  dsimp only
  rw [toList_around, isName, List.cons_append, List.singleton_append,
    scanFrom_of_token (Bool.eq_false_iff.mp notBlank) isToken, scanFrom_nil]
  exact (readWhole_filter rfl _ _).trans (readFilter_around filter levels 0 _)

/-- Where the scan does not end behind the text, nothing else is read that way. -/
theorem closes_of_parseFrom_around {text : String} {inner : Expr}
    (parsed : Expr.parseFrom (levels + 1) 0 (filter.around text).toList =
      .ok (filter.relation inner)) : ClosesBehind text.toList := by
  obtain ⟨char, isName, notBlank, isToken⟩ := readLexeme_around filter levels (text.toList ++ [')'])
  have notBlank := Bool.eq_false_iff.mp notBlank
  obtain ⟨tokens, scanned, read⟩ := exists_of_bind_eq_ok parsed
  rw [toList_around, isName, List.cons_append, List.singleton_append] at scanned
  cases found : skipGroup 2 0 true 3 (text.toList ++ [')']) with
  | error error =>
      rw [found, Except.map] at isToken
      rw [scanFrom_of_error notBlank isToken] at scanned
      cases scanned
  | ok stop =>
      rw [found, Except.map] at isToken
      rw [scanFrom_of_token notBlank isToken] at scanned
      obtain ⟨more, scannedMore, rfl⟩ := exists_of_map_eq_ok scanned
      have derives := readWhole_sound (List.cons_ne_nil _ _) read
      have noMore := eq_nil_of_derives derives (relation_not_joined filter inner)
      obtain rfl := List.map_eq_nil_iff.mp noMore
      have blank := scanFrom_eq_nil_iff.mp scannedMore
      -- What is left ends in the parenthesis that was put behind the text, or is nothing.
      obtain ⟨group, isText⟩ := skipGroup_text found
      have isRest : stop.rest = [] := by
        rcases List.eq_nil_or_concat stop.rest with isNil | ⟨init, last, isConcat⟩
        · exact isNil
        · rw [List.concat_eq_append] at isConcat
          rw [isConcat, ← List.cons_append, ← List.append_assoc] at isText
          obtain ⟨⟩ := (List.append_inj' isText rfl).2
          have isBlank := blank ')' (isConcat ▸ List.mem_append_right init List.mem_cons_self)
          cases isBlank
      obtain ⟨place, rest⟩ := stop
      obtain rfl := isRest
      exact ⟨place, found⟩

/-- A sub-filter around a query stands for that query, or nests too deep, exactly if the scan
for the end of its group ends behind the query. It does so if no quotation mark of the query
stands directly behind another one, behind a colon, or behind a sign inside a word. -/
theorem parse_around {text : String} {expr : Expr}
    (notBlank : ∃ char ∈ text.toList, isBlank char = false)
    (parsed : Expr.parse text = .ok expr) :
    (∀ filter : SubFilter, ClosesBehind text.toList →
      Expr.parse (filter.around text) = .ok (filter.relation expr) ∨
        TooDeep (Expr.parse (filter.around text))) ∧
    (∀ filter : SubFilter, Expr.parse (filter.around text) = .ok (filter.relation expr) →
      ClosesBehind text.toList) ∧
    (MarksApart '(' '(' text.toList → ClosesBehind text.toList) := by
  refine ⟨?_, ?_, ?_⟩
  · intro filter closes
    have isGroup : Expr.parse (filter.around text) = _ :=
      parseFrom_around_of_closes filter closes 255
    rw [isGroup]
    rcases parseFrom_group parsed notBlank 255 2 with isExpr | deep
    · rw [isExpr]
      exact .inl rfl
    · exact .inr (deep.map _)
  · intro filter isExpr
    exact @closes_of_parseFrom_around 255 filter text expr isExpr
  · intro apart
    exact skipGroup_of_parsed parsed apart 2 3

/-- A sign in front of a phrase, a filter and an apostrophe keep their meaning. -/
theorem parse_around_apostrophe :
    let text := "-\"b c\" d:>2 | don't"
    (∃ char ∈ text.toList, isBlank char = false) ∧ ∃ expr, Expr.parse text = .ok expr ∧
      Expr.parse "p:(-\"b c\" d:>2 | don't)" = .ok (.parent expr) ∧
      Expr.parse "a:(-\"b c\" d:>2 | don't)" = .ok (.ancestor expr) := by
  intro text
  have notBlank : ∃ char ∈ text.toList, isBlank char = false := ⟨'-', by decide, by decide⟩
  have apart : MarksApart '(' '(' text.toList := by decide
  obtain ⟨expr, parsed⟩ : ∃ expr, Expr.parse text = .ok expr := exists_of_isOk (by decide +kernel)
  have parsesAround : ∀ filter : SubFilter, (Expr.parse (filter.around text)).isOk = true := by
    intro filter
    cases filter <;> decide +kernel
  obtain ⟨preserves, -, closes⟩ := parse_around notBlank parsed
  have isAround : ∀ filter : SubFilter,
      Expr.parse (filter.around text) = .ok (filter.relation expr) := by
    intro filter
    rcases preserves filter (closes apart) with isExpr | ⟨position, deep⟩
    · exact isExpr
    · have isOk := parsesAround filter
      rw [deep] at isOk
      cases isOk
  exact ⟨notBlank, expr, parsed, isAround .parent, isAround .ancestor⟩

/-- Behind a phrase, the scan takes a quotation mark for a character like any other: it ends
at a parenthesis inside the second phrase. -/
theorem parse_around_adjacent_phrases :
    (∃ expr, Expr.parse "\"a\"\")\"" = .ok expr ∧ expr.toText = "(\"a\" AND \")\")") ∧
      Expr.parse "p:(\"a\"\")\")" = .error ⟨8, .unclosedQuote⟩ := by
  have isText : (Expr.parse "\"a\"\")\"").map Expr.toText = .ok "(\"a\" AND \")\")" := by
    decide +kernel
  exact ⟨exists_of_map_eq_ok isText, eq_error_of_map (by decide +kernel)⟩

end Outliner.Query
