import Outliner.Proofs.Query.Completeness
import Outliner.Proofs.Query.Moving

/-!
Contract: what becomes of a text that stands further on in a longer one.

Owns: that the readers of tokens and expressions then do the same, with all the places that
they name so many bytes further on. So the argument of a sub-filter can be read on its own,
and its errors be moved by where it starts.

Main statements: `scanFrom_shift` and `parseFrom_shift`.

Does not own: that these places are places of the text (`Proofs.Query.ErrorPlaces`).
-/

namespace Outliner.Query

open Outliner.Text

variable {α β : Type}

def Cursor.shift (distance : Nat) (cursor : Cursor) : Cursor :=
  { cursor with offset := cursor.offset + distance }

def Token.shift (distance : Nat) (token : Token) : Token :=
  ⟨token.kind.shift distance, token.position + distance, token.stop + distance⟩

def shiftRead (distance : Nat) (read : TokenKind × Cursor) : TokenKind × Cursor :=
  (read.1.shift distance, read.2.shift distance)

theorem kind_move_id (distance : Nat) (kind : TokenKind) :
    kind.move distance id = kind.shift distance := by
  have same (value : String) : reletter id value = value := by
    rw [reletter, List.map_id, String.ofList_toList]
  cases kind with
  | text value => exact congrArg TokenKind.text (same value)
  | quoted value => exact congrArg TokenKind.quoted (same value)
  | filter written =>
      obtain ⟨subject, sign, value, offset⟩ := written
      have sameSubject : subject.reletter id = subject := by
        cases subject with
        | attr key => exact congrArg FilterSubject.attr (same key)
        | _ => rfl
      rw [TokenKind.move, WrittenFilter.move, sameSubject, same]
      rfl
  | _ => rfl

theorem token_move_id (distance : Nat) : Token.move distance id = Token.shift distance := by
  funext token
  rw [Token.move, kind_move_id]
  rfl

/-- Moving without a change of letters is a shift. -/
theorem moveRead_id (distance : Nat) : moveRead distance id = shiftRead distance := by
  funext read
  rw [moveRead, kind_move_id, Cursor.move, List.map_id]
  rfl

/-- A token further on is the same token, shifted. -/
theorem readLexeme_shift (distance levels offset : Nat) (char : Char) (rest : List Char) :
    readLexeme levels (offset + distance) char rest =
      shifted distance (shiftRead distance) (readLexeme levels offset char rest) := by
  have moved := readLexeme_move isRelettering_id distance levels offset char rest
  rwa [List.map_id, moveRead_id] at moved

/-- Further on, a text gives the same tokens further on. -/
theorem scanFrom_shift (distance levels offset : Nat) (text : List Char) :
    Token.scanFrom levels (offset + distance) text =
      shifted distance (List.map (Token.shift distance)) (Token.scanFrom levels offset text) := by
  have moved := scanFrom_move isRelettering_id distance levels offset text
  rwa [List.map_id, token_move_id] at moved

/-! ## Lists of operands -/

variable {tokens : List Token} {operand again : OperandReader}

def Taken.shift (distance : Nat) (taken : Taken α tokens) :
    Taken α (tokens.map (Token.shift distance)) :=
  ⟨taken.value, taken.rest.map (Token.shift distance), by
    rw [List.length_map, List.length_map]
    exact taken.shorter⟩

def TakenAll.shift (distance : Nat) (taken : TakenAll α tokens) :
    TakenAll α (tokens.map (Token.shift distance)) :=
  ⟨taken.values, taken.rest.map (Token.shift distance), by
    rw [List.length_map, List.length_map]
    exact taken.counted⟩

/-- A reader of operands that reads tokens further on as another one reads them here. -/
def OperandReader.ShiftsTo (distance : Nat) (operand again : OperandReader) : Prop :=
  ∀ tokens, again (tokens.map (Token.shift distance)) =
    shifted distance (Taken.shift distance) (operand tokens)

theorem shift_eq_iff {kind sign : TokenKind} (noPlace : ∀ written, sign ≠ .filter written)
    (distance : Nat) : kind.shift distance = sign ↔ kind = sign := by
  cases kind with
  | filter written =>
      constructor
      · exact fun isSign => absurd isSign.symm (noPlace _)
      · exact fun isSign => absurd isSign.symm (noPlace _)
  | _ => rfl

theorem OperandReader.ShiftsTo.cons (shifts : operand.ShiftsTo distance again) (token : Token)
    (rest : List Token) : again (token.shift distance :: rest.map (Token.shift distance)) =
      shifted distance (Taken.shift distance) (operand (token :: rest)) :=
  shifts (token :: rest)

@[simp] theorem kind_shift_startsOperand (distance : Nat) (kind : TokenKind) :
    (kind.shift distance).startsOperand = kind.startsOperand := by
  cases kind <;> rfl

/-- Shifting is not seen by a look at the next token. -/
@[simp] theorem startsOperand_shift (distance : Nat) (tokens : List Token) :
    startsOperand (tokens.map (Token.shift distance)) = startsOperand tokens := by
  cases tokens with
  | nil => rfl
  | cons token rest => exact kind_shift_startsOperand distance token.kind

theorem kind_shift_eq_plus {token : Token} (distance : Nat) :
    (token.shift distance).kind = .plus ↔ token.kind = .plus :=
  shift_eq_iff (by simp) distance

theorem kind_shift_eq_bar {token : Token} (distance : Nat) :
    (token.shift distance).kind = .bar ↔ token.kind = .bar :=
  shift_eq_iff (by simp) distance

theorem kind_shift_eq_rightParen {token : Token} (distance : Nat) :
    (token.shift distance).kind = .rightParen ↔ token.kind = .rightParen :=
  shift_eq_iff (by simp) distance

theorem startsConjunct_shift (distance : Nat) (tokens : List Token) :
    startsConjunct (tokens.map (Token.shift distance)) = startsConjunct tokens := by
  cases tokens with
  | nil => rfl
  | cons token rest =>
      rw [List.map_cons, startsConjunct, startsConjunct, Bool.eq_iff_iff, Bool.or_eq_true,
        Bool.or_eq_true, beq_iff_eq, beq_iff_eq, kind_shift_eq_plus]
      exact or_congr_left (Bool.eq_iff_iff.mp (kind_shift_startsOperand distance token.kind))

/-- The complaint about a missing operand moves with the tokens and the end. -/
theorem missingTerm_shift (distance stop : Nat) (tokens : List Token) :
    missingTerm (stop + distance) (tokens.map (Token.shift distance)) =
      (missingTerm stop tokens).shift distance := by
  cases tokens <;> rfl

theorem readConjuncts_shift (shifts : operand.ShiftsTo distance again) (tokens : List Token) :
    readConjuncts again (tokens.map (Token.shift distance)) =
      shifted distance (TakenAll.shift distance) (readConjuncts operand tokens) := by
  fun_induction readConjuncts operand tokens with
  | case1 =>
      unfold readConjuncts
      rfl
  | case2 token rest isPlus starts inductionHypothesis =>
      refine (readConjuncts_of_plus ((kind_shift_eq_plus distance).mpr isPlus)
        ((startsOperand_shift distance rest).trans starts)).trans ?_
      rw [inductionHypothesis]
      cases readConjuncts operand rest <;> rfl
  | case3 token rest isPlus notStart =>
      rw [← startsOperand_shift distance] at notStart
      exact readConjuncts_of_dangling_plus ((kind_shift_eq_plus distance).mpr isPlus) notStart
  | case4 token rest notPlus isStart error failed =>
      have readAgain := shifts.cons token rest
      rw [failed] at readAgain
      refine (readConjuncts_of_operand
        ((kind_shift_startsOperand distance token.kind).trans isStart)).trans ?_
      rw [readAgain]
      rfl
  | case5 token rest notPlus isStart first readFirst _ inductionHypothesis =>
      have readAgain := shifts.cons token rest
      rw [readFirst] at readAgain
      refine (readConjuncts_of_operand
        ((kind_shift_startsOperand distance token.kind).trans isStart)).trans ?_
      rw [readAgain]
      dsimp only [shifted, Except.bind, Taken.shift]
      rw [inductionHypothesis]
      cases readConjuncts operand first.rest <;> rfl
  | case6 token rest notPlus notStart =>
      have ends : startsConjunct ((token :: rest).map (Token.shift distance)) = false := by
        rw [startsConjunct_shift, startsConjunct, Bool.eq_false_iff.mpr notStart,
          beq_eq_false_iff_ne.mpr notPlus]
        rfl
      exact readConjuncts_of_end ends

theorem readConjunction_shift (shifts : operand.ShiftsTo distance again) (stop : Nat)
    (tokens : List Token) :
    readConjunction again (stop + distance) (tokens.map (Token.shift distance)) =
      shifted distance (Taken.shift distance) (readConjunction operand stop tokens) := by
  have parts := readConjuncts_shift shifts tokens
  unfold readConjunction
  rw [parts]
  rcases readConjuncts operand tokens with error | ⟨values, rest, counted⟩
  · rfl
  · cases values with
    | nil => exact congrArg Except.error (missingTerm_shift distance stop rest)
    | cons first more => rfl

theorem readAlternatives_shift (shifts : operand.ShiftsTo distance again) (stop : Nat)
    (tokens : List Token) :
    readAlternatives again (stop + distance) (tokens.map (Token.shift distance)) =
      shifted distance (TakenAll.shift distance) (readAlternatives operand stop tokens) := by
  fun_induction readAlternatives operand stop tokens with
  | case1 =>
      unfold readAlternatives
      rfl
  | case2 token rest isBar starts error failed =>
      have readAgain := readConjunction_shift shifts stop rest
      rw [failed] at readAgain
      refine (readAlternatives_of_bar ((kind_shift_eq_bar distance).mpr isBar)
        ((startsConjunct_shift distance rest).trans starts) _).trans ?_
      rw [readAgain]
      rfl
  | case3 token rest isBar starts first readFirst _ inductionHypothesis =>
      have readAgain := readConjunction_shift shifts stop rest
      rw [readFirst] at readAgain
      refine (readAlternatives_of_bar ((kind_shift_eq_bar distance).mpr isBar)
        ((startsConjunct_shift distance rest).trans starts) _).trans ?_
      rw [readAgain]
      dsimp only [shifted, Except.bind, Taken.shift]
      rw [inductionHypothesis]
      cases readAlternatives operand stop first.rest <;> rfl
  | case4 token rest isBar notStart =>
      rw [← startsConjunct_shift distance] at notStart
      exact readAlternatives_of_dangling_bar ((kind_shift_eq_bar distance).mpr isBar) notStart _
  | case5 token rest notBar =>
      exact readAlternatives_of_no_bar (mt (kind_shift_eq_bar distance).mp notBar) _

theorem readExpr_shift (shifts : operand.ShiftsTo distance again) (stop : Nat)
    (tokens : List Token) :
    readExpr again (stop + distance) (tokens.map (Token.shift distance)) =
      shifted distance (Taken.shift distance) (readExpr operand stop tokens) := by
  have readFirst := readConjunction_shift shifts stop tokens
  unfold readExpr
  rw [readFirst]
  cases readConjunction operand stop tokens with
  | error error => rfl
  | ok first =>
      have more := readAlternatives_shift shifts stop first.rest
      dsimp only [shifted, Taken.shift]
      rw [more]
      cases readAlternatives operand stop first.rest <;> rfl

/-- Shifted tokens are read alike, with the error at the shifted place. -/
theorem readWhole_shift (shifts : operand.ShiftsTo distance again) (stop : Nat)
    (tokens : List Token) :
    readWhole again (stop + distance) (tokens.map (Token.shift distance)) =
      shifted distance id (readWhole operand stop tokens) := by
  have readAll := readExpr_shift shifts stop tokens
  unfold readWhole
  rw [readAll, List.isEmpty_map]
  split
  · rfl
  · rcases readExpr operand stop tokens with error | ⟨expr, rest, shorter⟩
    · rfl
    · cases rest <;> rfl

/-! ## Filters -/

section Shift

variable {written : WrittenFilter}

theorem givenValue_shift (distance : Nat) (written : WrittenFilter) :
    givenValue (written.shift distance) = shifted distance id (givenValue written) := by
  unfold givenValue WrittenFilter.shift
  dsimp only
  split <;> rfl

theorem readCountFilter_shift (distance : Nat) (leaf : Comparison → Nat → Leaf)
    (written : WrittenFilter) : readCountFilter leaf (written.shift distance) =
      shifted distance id (readCountFilter leaf written) := by
  unfold readCountFilter
  rw [givenValue_shift]
  cases givenValue written with
  | error error => rfl
  | ok value =>
      dsimp only [shifted, Except.bind, id]
      cases Numeral.readCount value.toList <;> rfl

theorem readTimeFilter_shift (distance : Nat) (field : TimeField) (written : WrittenFilter) :
    readTimeFilter field (written.shift distance) =
      shifted distance id (readTimeFilter field written) := by
  unfold readTimeFilter
  rw [givenValue_shift]
  cases givenValue written with
  | error error => rfl
  | ok value =>
      dsimp only [shifted, Except.bind, id]
      cases Calendar.DayRef.read value.toList <;> rfl

theorem readAttributeFilter_shift (distance : Nat) (key : String) (written : WrittenFilter) :
    readAttributeFilter key (written.shift distance) =
      shifted distance id (readAttributeFilter key written) := by
  have sameShape : (written.shift distance).sign = written.sign ∧
      (written.shift distance).value = written.value := ⟨rfl, rfl⟩
  unfold readAttributeFilter
  rw [givenValue_shift, sameShape.1, sameShape.2]
  split
  · rfl
  · cases givenValue written <;> rfl

def FilterShape.shift (distance : Nat) : FilterShape → FilterShape
  | .leaf result => .leaf (shifted distance id result)
  | .above relation => .above relation

/-- What a filter asks for does not depend on its place, and what it complains about moves with
it. -/
theorem shape_shift (distance : Nat) (written : WrittenFilter) :
    (written.shift distance).shape = written.shape.shift distance := by
  obtain ⟨subject, sign, value, offset⟩ := written
  cases subject with
  | depth | children => exact congrArg FilterShape.leaf (readCountFilter_shift distance _ _)
  | created | modified => exact congrArg FilterShape.leaf (readTimeFilter_shift distance _ _)
  | attr key => exact congrArg FilterShape.leaf (readAttributeFilter_shift distance key _)
  | parent | ancestor => rfl

end Shift

/-! ## Operands and queries -/

/-- With so many levels, operands are read further on as they are read here. -/
def ShiftsAt (levels : Nat) : Prop :=
  ∀ distance stop, OperandReader.ShiftsTo distance (readOperand levels stop)
    (readOperand levels (stop + distance))

/-- A text that starts further on parses alike. -/
theorem ShiftsAt.parseFrom {levels : Nat} (shifts : ShiftsAt levels) (distance offset : Nat)
    (text : List Char) :
    Expr.parseFrom levels (offset + distance) text =
      shifted distance id (Expr.parseFrom levels offset text) := by
  unfold Expr.parseFrom
  dsimp only
  rw [Nat.add_right_comm, scanFrom_shift]
  cases Token.scanFrom levels offset text with
  | error error => rfl
  | ok tokens => exact readWhole_shift (shifts distance _) _ tokens

theorem readFilter_shift {levels : Nat} (lower : ∀ least < levels, ShiftsAt least)
    (distance position : Nat) (written : WrittenFilter) :
    readFilter levels (position + distance) (written.shift distance) =
      shifted distance id (readFilter levels position written) := by
  unfold readFilter
  rw [shape_shift]
  cases written.shape with
  | leaf result => cases result <;> rfl
  | above relation =>
      have sameValue : (written.shift distance).value = written.value := rfl
      dsimp only [FilterShape.shift]
      rw [sameValue]
      split
      · rfl
      · cases levels with
        | zero => rfl
        | succ levels =>
            have parsed := (lower levels (Nat.lt_succ_self levels)).parseFrom distance
              written.valueOffset written.value.toList
            dsimp only [WrittenFilter.shift]
            rw [parsed]
            cases Expr.parseFrom levels written.valueOffset written.value.toList <;> rfl

theorem head?_kind_shift (distance : Nat) (rest : List Token) :
    (rest.map (Token.shift distance)).head?.map Token.kind = some .rightParen ↔
      rest.head?.map Token.kind = some .rightParen := by
  cases rest with
  | nil => rfl
  | cons close after =>
      rw [List.map_cons, List.head?_cons, List.head?_cons, Option.map_some, Option.map_some,
        Option.some_inj, Option.some_inj]
      exact kind_shift_eq_rightParen distance

theorem readGroup_shift {levels : Nat} (shifts : ShiftsAt levels) (distance stop : Nat)
    {token : Token} (isLeft : token.kind = .leftParen) (rest : List Token)
    (notEmpty : rest.head?.map Token.kind ≠ some .rightParen) :
    readOperand (levels + 1) (stop + distance)
        ((token :: rest).map (Token.shift distance)) =
      shifted distance (Taken.shift distance) (readOperand (levels + 1) stop (token :: rest)) := by
  have isLeftAgain : (token.shift distance).kind = .leftParen :=
    congrArg (TokenKind.shift distance) isLeft
  have readInner := readExpr_shift (shifts distance stop) stop rest
  refine (readOperand_group isLeftAgain (mt (head?_kind_shift distance rest).mp notEmpty)
    (levels + 1) _).trans ?_
  rw [readOperand_group isLeft notEmpty]
  dsimp only
  rw [readInner]
  rcases readExpr (readOperand levels stop) stop rest with
    error | ⟨expr, _ | ⟨close, after⟩, shorter⟩
  · rfl
  · rfl
  · dsimp only [shifted, Taken.shift, List.map_cons]
    by_cases isRight : close.kind = .rightParen
    · rw [if_pos isRight]
      exact if_pos ((kind_shift_eq_rightParen distance).mpr isRight)
    · rw [if_neg isRight]
      exact if_neg (mt (kind_shift_eq_rightParen distance).mp isRight)

/-- Operands shift at every number of levels, by induction on the levels: a filter's query is
parsed below them. -/
theorem readOperand_shift (levels : Nat) : ShiftsAt levels := by
  induction levels using Nat.strongRecOn with
  | ind levels inductionHypothesis =>
      intro distance stop tokens
      cases tokens with
      | nil =>
          unfold readOperand
          rfl
      | cons token rest =>
          have isAgain : ∀ {kind}, token.kind = kind →
              (token.shift distance).kind = kind.shift distance :=
            congrArg (TokenKind.shift distance)
          cases isKind : token.kind with
          | text value =>
              refine (readOperand_text (.inl (isAgain isKind)) levels _ _).trans ?_
              rw [readOperand_text (.inl isKind)]
              rfl
          | quoted value =>
              refine (readOperand_text (.inr (isAgain isKind)) levels _ _).trans ?_
              rw [readOperand_text (.inr isKind)]
              rfl
          | filter written =>
              have readAgain := readFilter_shift inductionHypothesis distance token.position written
              refine (readOperand_filter (isAgain isKind) levels _ _).trans ?_
              rw [readOperand_filter isKind]
              dsimp only [Token.shift]
              rw [readAgain]
              cases readFilter levels token.position written <;> rfl
          | minus =>
              by_cases starts : startsOperand rest = true
              · refine (readOperand_minus (isAgain isKind)
                  ((startsOperand_shift distance rest).trans starts) levels _).trans ?_
                rw [readOperand_minus isKind starts]
                cases levels with
                | zero => rfl
                | succ levels =>
                    have readInner :=
                      inductionHypothesis levels (Nat.lt_succ_self levels) distance stop rest
                    dsimp only
                    rw [readInner]
                    cases readOperand levels stop rest <;> rfl
              · rw [readOperand_dangling_minus isKind starts]
                rw [← startsOperand_shift distance] at starts
                exact readOperand_dangling_minus (isAgain isKind) starts levels _
          | leftParen =>
              by_cases isEmpty : rest.head?.map Token.kind = some .rightParen
              · rw [readOperand_empty_group isKind isEmpty]
                rw [← head?_kind_shift distance] at isEmpty
                exact readOperand_empty_group (isAgain isKind) isEmpty levels _
              · cases levels with
                | zero =>
                    rw [readOperand_group isKind isEmpty]
                    rw [← head?_kind_shift distance] at isEmpty
                    exact readOperand_group (isAgain isKind) isEmpty 0 _
                | succ levels =>
                    exact readGroup_shift (inductionHypothesis levels (Nat.lt_succ_self levels))
                      distance stop isKind rest isEmpty
          | rightParen | plus | bar =>
              rw [readOperand_no_operand (by rw [isKind]; rfl)]
              refine (readOperand_no_operand (by rw [isAgain isKind]; rfl) levels _).trans ?_
              exact congrArg Except.error (missingTerm_shift distance stop (token :: rest))

/-- Further on, a text is read as the same expression, or refused with the same error
further on. -/
theorem parseFrom_shift (levels distance offset : Nat) (text : List Char) :
    Expr.parseFrom levels (offset + distance) text =
      shifted distance id (Expr.parseFrom levels offset text) :=
  (readOperand_shift levels).parseFrom distance offset text

end Outliner.Query
