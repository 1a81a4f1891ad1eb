import Outliner.Proofs.Query.FilterTokens
import Outliner.Proofs.Query.Terms

/-!
Contract: what a sub-filter without parentheses asks about.

Owns: that an argument which starts neither with a parenthesis nor with a plus sign is read as a
single text or filter, behind any minus signs, and that behind a plus sign it need not be: there
the scan for the end of the argument goes on to the end of the word, with any phrase in it, and
the slice is read as operands side by side.

Main statement: `inner_isNegatedTerm`.

Does not own: where arguments in parentheses end (`Proofs.Query.GroupScan`).
-/

namespace Outliner.Query

open Outliner.Text

variable {levels offset place : Nat} {text rest source : List Char} {tokens : List Token}
  {expr node inner : Expr} {written : WrittenFilter} {filter : SubFilter}

/-- A text or a filter, behind any negations. -/
inductive Expr.IsNegatedTerm : Expr → Prop where
  | term {expr : Expr} : expr.isTerm = true → IsNegatedTerm expr
  | not {expr : Expr} : IsNegatedTerm expr → IsNegatedTerm (.not expr)

theorem Expr.IsNegatedTerm.length_parts_le (negated : expr.IsNegatedTerm) :
    expr.parts.length ≤ 1 := by
  cases negated with
  | term isTerm =>
      cases expr with
      | leaf | parent | ancestor => simp [Expr.parts]
      | not | all | any => cases isTerm
  | not => exact Nat.le_refl 1

/-- The first character behind the minus signs at the front of a text. -/
def operandStart (text : List Char) : Option Char :=
  (text.dropWhile (· == '-')).head?

/-- Minus signs are passed over. -/
theorem operandStart_minus (rest : List Char) :
    operandStart ('-' :: rest) = operandStart rest := by
  unfold operandStart
  rw [List.dropWhile_cons, if_pos (by decide)]

theorem operandStart_cons {char : Char} (notMinus : char ≠ '-') (rest : List Char) :
    operandStart (char :: rest) = some char := by
  unfold operandStart
  rw [List.dropWhile_cons, if_neg (by simpa using notMinus)]
  rfl

/-- A filter stands for a single term. -/
theorem isTerm_of_readFilter {position : Nat}
    (isRead : readFilter levels position written = .ok expr) : expr.isTerm = true := by
  rcases readFilter_cases isRead with ⟨leaf, -, rfl⟩ | ⟨-, inner, -, -, -, isAbove⟩
  · rfl
  · rcases isAbove with ⟨-, rfl⟩ | ⟨-, rfl⟩ <;> rfl

/-- Tokens of one operand read as a term behind negations. -/
theorem OneOperand.isNegatedTerm {start last stop : Nat} (one : OneOperand start tokens last)
    {taken : Taken Expr tokens} (isRead : readOperand levels stop tokens = .ok taken) :
    taken.value.IsNegatedTerm := by
  induction one generalizing levels with
  | @operand token standsAlone =>
      cases isKind : token.kind with
      | text value =>
          rw [readOperand_text (.inl isKind)] at isRead
          obtain rfl := Except.ok.inj isRead
          exact .term rfl
      | quoted value =>
          rw [readOperand_text (.inr isKind)] at isRead
          obtain rfl := Except.ok.inj isRead
          exact .term rfl
      | filter written =>
          rw [readOperand_filter isKind] at isRead
          obtain ⟨expr, isFilter, rfl⟩ := exists_of_map_eq_ok isRead
          exact .term (isTerm_of_readFilter isFilter)
      | _ =>
          rw [isKind] at standsAlone
          cases standsAlone
  | minus isMinus one inductionHypothesis =>
      rw [readOperand_minus isMinus one.startsOperand] at isRead
      cases levels with
      | zero => cases isRead
      | succ levels =>
          obtain ⟨operand, isOperand, rfl⟩ := exists_of_map_eq_ok isRead
          exact .not (inductionHypothesis isOperand)

/-- A text of one operand parses to a term behind negations. -/
theorem WrittenOperand.isNegatedTerm (operand : WrittenOperand levels text) {lower : Nat}
    (parsed : Expr.parseFrom lower offset text = .ok expr) : expr.IsNegatedTerm := by
  obtain ⟨tokens, scanned, isRead⟩ := exists_of_bind_eq_ok parsed
  obtain ⟨same, last, again, one⟩ :=
    operand.exists_tokens (Nat.le_max_left levels lower) offset
  have sameTokens := scanFrom_mono scanned (Nat.le_max_right levels lower)
  rw [again] at sameTokens
  obtain rfl := Except.ok.inj sameTokens
  rw [one.readWhole] at isRead
  obtain ⟨taken, isOperand, rfl⟩ := exists_of_map_eq_ok isRead
  exact one.isNegatedTerm isOperand

/-- Minus signs with nothing behind them, or with a plus sign, are no operand. -/
theorem readOperand_of_dangling
    (dangling : operandStart text = none ∨ operandStart text = some '+')
    (scanned : Token.scanFrom levels offset text = .ok tokens) (lower stop : Nat)
    (taken : Taken Expr tokens) : readOperand lower stop tokens ≠ .ok taken := by
  induction text generalizing offset tokens lower with
  | nil =>
      rw [scanFrom_nil] at scanned
      obtain rfl := Except.ok.inj scanned
      unfold readOperand
      intro isRead
      cases isRead
  | cons char rest inductionHypothesis =>
      by_cases isMinus : char = '-'
      · subst isMinus
        rw [operandStart_minus] at dangling
        rw [scanFrom_of_token (by decide) (readLexeme_minus levels offset rest)] at scanned
        obtain ⟨behind, scannedBehind, rfl⟩ := exists_of_map_eq_ok scanned
        by_cases starts : startsOperand behind = true
        · rw [readOperand_minus rfl starts]
          cases lower with
          | zero =>
              intro isRead
              cases isRead
          | succ lower =>
              intro isRead
              obtain ⟨inner, isInner, -⟩ := exists_of_map_eq_ok isRead
              exact inductionHypothesis dangling scannedBehind lower inner isInner
        · rw [readOperand_dangling_minus rfl starts]
          intro isRead
          cases isRead
      · rw [operandStart_cons isMinus] at dangling
        rcases dangling with isEnd | isPlus
        · cases isEnd
        · obtain rfl := Option.some.inj isPlus
          have isToken : readLexeme levels offset '+' rest =
              .ok (.plus, ⟨offset + '+'.utf8Size, rest⟩) :=
            readLexeme_of_sign (by simp [mem_signTokens]) levels offset rest
          rw [scanFrom_of_token (by decide) isToken] at scanned
          obtain ⟨behind, -, rfl⟩ := exists_of_map_eq_ok scanned
          rw [readOperand_no_operand rfl]
          intro isRead
          cases isRead

/-- A minus sign without an operand behind it is no query. -/
theorem parseFrom_of_dangling
    (dangling : operandStart rest = none ∨ operandStart rest = some '+') :
    Expr.parseFrom levels offset ('-' :: rest) ≠ .ok expr := by
  intro parsed
  obtain ⟨tokens, scanned, isRead⟩ := exists_of_bind_eq_ok parsed
  have noOperand := readOperand_of_dangling ((operandStart_minus rest).symm ▸ dangling) scanned
  rw [scanFrom_of_token (by decide) (readLexeme_minus levels offset rest)] at scanned
  obtain ⟨behind, -, rfl⟩ := exists_of_map_eq_ok scanned
  rw [readWhole_of_operand rfl fun taken isOperand => absurd isOperand (noOperand _ _ taken)]
    at isRead
  obtain ⟨taken, isOperand, -⟩ := exists_of_map_eq_ok isRead
  exact noOperand _ _ taken isOperand

/-- A token that is read at a character which is no sign stands alone. -/
theorem standsAlone_of_readLexeme {char : Char} {kind : TokenKind} {stop : Cursor}
    (notSign : ∀ sign, (char, sign) ∉ signTokens)
    (isRead : readLexeme levels offset char rest = .ok (kind, stop)) :
    kind.standsAlone = true := by
  rcases readLexeme_cases isRead with ⟨isSign, -⟩ | ⟨-, content, rfl, -⟩ | ⟨-, -, isWord⟩
  · exact absurd isSign (notSign kind)
  · rfl
  · rcases readWordToken_cases isWord with isText | ⟨written, rfl, -⟩
    · obtain ⟨word, -, equal⟩ := exists_of_map_eq_ok isText
      obtain ⟨rfl, -⟩ := Prod.mk.inj equal
      rfl
    · rfl

/-- An argument that is all found by the scan is a single operand, if it is no group and there is
something other than a plus sign behind its minus signs. -/
theorem WrittenOperand.of_skipArgument
    (found : skipArgument (readWordToken levels) ⟨offset, text⟩ = .ok ⟨place, []⟩)
    (noGroup : operandStart text ≠ some '(')
    (notDangling : ¬ (operandStart text = none ∨ operandStart text = some '+')) :
    WrittenOperand levels text := by
  induction text generalizing offset with
  | nil => exact absurd (.inl rfl) notDangling
  | cons char rest inductionHypothesis =>
      by_cases isMinus : char = '-'
      · subst isMinus
        rw [skipArgument_minus] at found
        rw [operandStart_minus] at noGroup notDangling
        exact .minus (inductionHypothesis found noGroup notDangling)
      · rw [operandStart_cons isMinus] at noGroup notDangling
        -- At a break the scan would have stopped with the rest of the text to come.
        have noBreak : ¬ endsWord char = true := by
          intro isBreak
          have noMark : ¬ isQuotationMark char = true := by
            intro isMark
            rcases isQuotationMark_iff.mp isMark with rfl | rfl <;> exact absurd isBreak (by decide)
          rw [skipArgument_of_no_minus _ (by simpa using isMinus), if_neg (by simpa using noGroup),
            if_neg noMark, if_pos isBreak] at found
          cases found
        have notBlank : ¬ isBlank char = true := by
          intro isBlank
          exact noBreak (by rw [endsWord, isBlank]; rfl)
        have notSign (sign : TokenKind) : (char, sign) ∉ signTokens := by
          rw [mem_signTokens]
          rintro (⟨rfl, -⟩ | ⟨rfl, -⟩ | ⟨rfl, -⟩ | ⟨rfl, -⟩ | ⟨rfl, -⟩)
          · exact noGroup rfl
          · exact noBreak (by decide)
          · exact noBreak (by decide)
          · exact notDangling (.inr rfl)
          · exact isMinus rfl
        rw [skipArgument_eq_readLexeme notBlank notSign] at found
        obtain ⟨⟨kind, stop⟩, isRead, rfl⟩ := exists_of_map_eq_ok found
        exact .operand (Bool.eq_false_iff.mpr notBlank) (standsAlone_of_readLexeme notSign isRead)
          isRead

/-- What a sub-filter asks about is what its argument is read as. -/
theorem exists_argument (reads : FilterReads written (filter.relation inner)) :
    (written.subject = .parent ∨ written.subject = .ancestor) ∧
      written.value.toList ≠ [] ∧
      ∃ levels offset, Expr.parseFrom levels offset written.value.toList = .ok inner := by
  obtain ⟨levels, position, offset, isRead⟩ := reads
  rcases readFilter_cases isRead with
    ⟨leaf, -, isLeaf⟩ | ⟨lower, argument, -, notBlank, parsed, isAbove⟩
  · cases filter <;> cases isLeaf
  · have isInner : argument = inner := by
      rcases isAbove with ⟨-, isRelation⟩ | ⟨-, isRelation⟩ <;>
        cases filter <;> cases isRelation <;> rfl
    refine ⟨isAbove.imp And.left And.left, fun isEmpty => notBlank ?_, lower, offset,
      isInner ▸ parsed⟩
    have isEmpty : written.value.toList = [] := isEmpty
    dsimp only
    rw [isEmpty]
    nofun

/-- The argument of a sub-filter is a single text or filter behind minus signs, unless it is a
group or starts with a plus sign. -/
theorem inner_isNegatedTerm {text : String} (parsed : Expr.parse text = .ok expr)
    (within : (filter.relation inner).Within expr) :
    (∃ written, (TokenKind.filter written).OccursIn text.toList ∧
      FilterReads written (filter.relation inner)) ∧
    ∀ written, (TokenKind.filter written).OccursIn text.toList →
      FilterReads written (filter.relation inner) →
      operandStart written.value.toList ≠ some '(' → written.value.toList.head? ≠ some '+' →
      inner.IsNegatedTerm := by
  constructor
  · obtain ⟨kind, occurs, standsFor⟩ :=
      exists_token_of_term parsed within (by cases filter <;> rfl)
    cases kind with
    | filter written => exact ⟨written, occurs, standsFor⟩
    | text value | quoted value => cases filter <;> cases standsFor
    | _ => cases standsFor
  · intro written occurs reads noGroup noPlus
    obtain ⟨isAbove, notEmpty, levels, offset, parsedInner⟩ := exists_argument reads
    obtain ⟨lower, start, place, found⟩ := (isWritten_of_occursIn occurs).argument isAbove
    generalize written.value.toList = text at *
    by_cases dangling : operandStart text = none ∨ operandStart text = some '+'
    · -- Such an argument is empty, starts with the plus sign, or is refused.
      cases text with
      | nil => exact absurd rfl notEmpty
      | cons char rest =>
          by_cases isMinus : char = '-'
          · subst isMinus
            rw [operandStart_minus] at dangling
            exact absurd parsedInner (parseFrom_of_dangling dangling)
          · rw [operandStart_cons isMinus] at dangling
            exact absurd (dangling.resolve_left nofun) noPlus
    · exact (WrittenOperand.of_skipArgument found noGroup dangling).isNegatedTerm parsedInner

/-- A phrase behind minus signs and another sub-filter. -/
theorem inner_isNegatedTerm_chain :
    let text := "a:--p:\"x y\""
    let written : WrittenFilter := ⟨.ancestor, none, "--p:\"x y\"", 2⟩
    ∃ inner, Expr.parse text = .ok (.ancestor inner) ∧
      (TokenKind.filter written).OccursIn text.toList ∧ FilterReads written (.ancestor inner) ∧
      inner.IsNegatedTerm := by
  intro text written
  have scanned : Token.scan text = .ok [⟨.filter written, 0, 11⟩] := by decide +kernel
  have isRead := parse_of_one_filter scanned rfl
  have isAncestor : (match Expr.parse text with
      | .ok (.ancestor _) => true
      | _ => false) = true := by decide +kernel
  split at isAncestor
  · rename_i inner parsed
    have occurs : (TokenKind.filter written).OccursIn text.toList :=
      .token scanned List.mem_cons_self
    have reads : FilterReads written (.ancestor inner) :=
      ⟨maxNesting, 0, 2, isRead.symm.trans parsed⟩
    obtain ⟨-, negated⟩ := @inner_isNegatedTerm _ inner .ancestor text parsed (.self _)
    exact ⟨inner, parsed, occurs, reads, negated written occurs reads (by decide) (by decide)⟩
  · cases isAncestor

/-- Behind a plus sign the scan takes the phrase and the word next to it for one word, and they
are read as two operands. -/
theorem inner_joined_behind_plus :
    let text := "p:+\"a\"b"
    let written : WrittenFilter := ⟨.parent, none, "+\"a\"b", 2⟩
    ∃ inner, Expr.parse text = .ok (.parent inner) ∧
      (TokenKind.filter written).OccursIn text.toList ∧ FilterReads written (.parent inner) ∧
      operandStart written.value.toList ≠ some '(' ∧ ¬ inner.IsNegatedTerm := by
  intro text written
  have scanned : Token.scan text = .ok [⟨.filter written, 0, 7⟩] := by decide +kernel
  have isRead := parse_of_one_filter scanned rfl
  have isJoined : (match Expr.parse text with
      | .ok (.parent inner) => inner.parts.length == 2
      | _ => false) = true := by decide +kernel
  split at isJoined
  · rename_i inner parsed
    have notTerm : ¬ inner.IsNegatedTerm := by
      intro negated
      have oneAtMost := negated.length_parts_le
      rw [beq_iff_eq.mp isJoined] at oneAtMost
      exact absurd oneAtMost (by decide)
    exact ⟨inner, parsed, .token scanned List.mem_cons_self,
      ⟨maxNesting, 0, 2, isRead.symm.trans parsed⟩, by decide, notTerm⟩
  · cases isJoined

end Outliner.Query
