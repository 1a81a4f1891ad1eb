import Outliner.Proofs.Query.Rescanning
import Outliner.Query.Expr.Parse

/-!
Contract: the grammar of queries, and that only what derives in it is read.

Owns: the grammar over the kinds of tokens, with the expression that each derivation
stands for, and what a filter's token stands for.

    Or   := And ('|' And)*
    And  := ('+'? Not)+
    Not  := '-' Not | Atom
    Atom := '(' Or ')' | Text | Quoted | Filter

The rules for lists take the language of their members as a parameter, as the readers of
lists take the reader of their members.

Main statements: `readExpr_sound`, `readOperand_sound`, `readWhole_sound`.

Does not own: that everything that derives is read (`Proofs.Query.Completeness`).
-/

namespace Outliner.Query

open Outliner.Text

/-- Sequences of kinds of tokens, each with the expression it stands for. -/
abbrev Language := List TokenKind → Expr → Prop

/-- What a filter asks for where so many levels are left. -/
def readFilter (levels position : Nat) (written : WrittenFilter) : Except QueryError Expr :=
  match written.shape with
  | .leaf result => result.map .leaf
  | .above relation =>
    if (trim written.value.toList).isEmpty then .error ⟨position, .missingInner written.subject⟩
    else match levels with
      | 0 => .error ⟨position, .nestedTooDeep⟩
      | levels + 1 =>
        (Expr.parseFrom levels written.valueOffset written.value.toList).map relation

/-- What a filter stands for, wherever it stands. -/
def FilterReads (written : WrittenFilter) (expr : Expr) : Prop :=
  ∃ levels position valueOffset,
    readFilter levels position { written with valueOffset } = .ok expr

/-- `('+'? Not)*` -/
inductive Conjuncts (operand : Language) : List TokenKind → List Expr → Prop where
  | none : Conjuncts operand [] []
  | adjacent {symbols more : List TokenKind} {first : Expr} {rest : List Expr} :
      operand symbols first → Conjuncts operand more rest →
      Conjuncts operand (symbols ++ more) (first :: rest)
  | plus {symbols more : List TokenKind} {first : Expr} {rest : List Expr} :
      operand symbols first → Conjuncts operand more rest →
      Conjuncts operand (.plus :: symbols ++ more) (first :: rest)

/-- `And := ('+'? Not)+`. One part stands for itself. -/
inductive Conjunction (operand : Language) : Language where
  | parts {symbols : List TokenKind} {first : Expr} {rest : List Expr} :
      Conjuncts operand symbols (first :: rest) →
      Conjunction operand symbols (joinParts .all first rest)

/-- `('|' And)*` -/
inductive Alternatives (operand : Language) : List TokenKind → List Expr → Prop where
  | none : Alternatives operand [] []
  | bar {symbols more : List TokenKind} {first : Expr} {rest : List Expr} :
      Conjunction operand symbols first → Alternatives operand more rest →
      Alternatives operand (.bar :: symbols ++ more) (first :: rest)

/-- `Or := And ('|' And)*`. One part stands for itself. -/
inductive Alternation (operand : Language) : Language where
  | parts {symbols more : List TokenKind} {first : Expr} {rest : List Expr} :
      Conjunction operand symbols first → Alternatives operand more rest →
      Alternation operand (symbols ++ more) (joinParts .any first rest)

/-- `Atom := '(' Or ')' | Text | Quoted | Filter` -/
inductive Atom (operand : Language) : Language where
  | text (value : String) : Atom operand [.text value] (.leaf (.text (lowercase value)))
  | quoted (value : String) : Atom operand [.quoted value] (.leaf (.text (lowercase value)))
  | filter {written : WrittenFilter} {expr : Expr} :
      FilterReads written expr → Atom operand [.filter written] expr
  | group {symbols : List TokenKind} {expr : Expr} :
      Alternation operand symbols expr →
      Atom operand (.leftParen :: symbols ++ [.rightParen]) expr

/-- `Not := '-' Not | Atom` -/
inductive Negation : Language where
  | minus {symbols : List TokenKind} {expr : Expr} :
      Negation symbols expr → Negation (.minus :: symbols) (.not expr)
  | atom {symbols : List TokenKind} {expr : Expr} : Atom Negation symbols expr →
      Negation symbols expr

/-- The queries: what derives from `Or`. -/
abbrev Derives : Language := Alternation Negation

/-! ## Lists of operands -/

/-- What a reader of operands takes is in a language. -/
def OperandReader.Sound (operand : OperandReader) (language : Language) : Prop :=
  ∀ tokens taken, operand tokens = .ok taken →
    ∃ used, tokens = used ++ taken.rest ∧ language (used.map Token.symbol) taken.value

variable {operand : OperandReader} {language : Language} {tokens rest : List Token} {token : Token}
  {symbols : List TokenKind} {parts : List Expr} {levels stop : Nat}

@[simp] theorem placeless_startsOperand (kind : TokenKind) :
    kind.placeless.startsOperand = kind.startsOperand := by
  cases kind <;> rfl

theorem symbol_of_kind {kind : TokenKind} (isKind : token.kind = kind) :
    token.symbol = kind.placeless := by
  rw [Token.symbol, isKind]

theorem kind_of_symbol {kind : TokenKind} (isSymbol : token.symbol = kind)
    (notFilter : ∀ written, kind ≠ .filter written) : token.kind = kind := by
  unfold Token.symbol at isSymbol
  cases isKind : token.kind with
  | filter written =>
      rw [isKind] at isSymbol
      exact absurd isSymbol.symm (notFilter _)
  | _ =>
      rw [isKind] at isSymbol
      exact isSymbol

/-- A list of conjuncts that starts with an operand may start with a plus sign as well. -/
theorem Conjuncts.with_plus (conjuncts : Conjuncts language symbols parts)
    (notPlus : symbols.head? ≠ some .plus) (nonempty : parts ≠ []) :
    Conjuncts language (.plus :: symbols) parts := by
  cases conjuncts with
  | none => exact absurd rfl nonempty
  | adjacent first more => exact .plus first more
  | plus => exact absurd rfl notPlus

theorem append_split {first second middle behind : List Token} (isFirst : tokens = first ++ middle)
    (isMiddle : middle = second ++ behind) : tokens = first ++ second ++ behind := by
  rw [isFirst, isMiddle, List.append_assoc]

/-- What is taken derives from the list of conjuncts, and is not empty where an operand starts.
-/
theorem readConjuncts_sound (sound : operand.Sound language) {taken : TakenAll Expr tokens}
    (read : readConjuncts operand tokens = .ok taken) :
    (∃ used, tokens = used ++ taken.rest ∧
      Conjuncts language (used.map Token.symbol) taken.values) ∧
    (startsOperand tokens = true → taken.values ≠ []) := by
  fun_induction readConjuncts operand tokens with
  | case1 =>
      obtain rfl := Except.ok.inj read
      refine ⟨⟨[], rfl, .none⟩, fun starts => ?_⟩
      cases starts
  | case2 token rest isPlus starts inductionHypothesis =>
      obtain ⟨more, readMore, rfl⟩ := exists_of_map_eq_ok read
      obtain ⟨⟨used, isRest, conjuncts⟩, nonempty⟩ := inductionHypothesis readMore
      refine ⟨⟨token :: used, congrArg (token :: ·) isRest, ?_⟩, ?_⟩
      · rw [List.map_cons, symbol_of_kind isPlus]
        apply conjuncts.with_plus _ (nonempty starts)
        intro isPlus
        obtain ⟨symbols, areSymbols⟩ := List.head?_eq_some_iff.mp isPlus
        obtain ⟨next, behind, rfl, isNext, -⟩ := List.map_eq_cons_iff.mp areSymbols
        rw [isRest, List.cons_append, startsOperand,
          kind_of_symbol isNext (by simp)] at starts
        cases starts
      · intro starts
        rw [startsOperand, isPlus] at starts
        cases starts
  | case3 => cases read
  | case4 => cases read
  | case5 token rest _ _ first readFirst _ inductionHypothesis =>
      obtain ⟨more, readMore, rfl⟩ := exists_of_map_eq_ok read
      obtain ⟨⟨used, isRest, conjuncts⟩, -⟩ := inductionHypothesis readMore
      obtain ⟨firstUsed, isTokens, inLanguage⟩ := sound _ first readFirst
      refine ⟨⟨firstUsed ++ used, ?_, ?_⟩, fun _ => List.cons_ne_nil _ _⟩
      · exact append_split isTokens isRest
      · rw [List.map_append]
        exact .adjacent inLanguage conjuncts
  | case6 token rest _ notStart =>
      obtain rfl := Except.ok.inj read
      exact ⟨⟨[], rfl, .none⟩, fun starts => absurd starts notStart⟩

/-- What is taken derives from `And`. -/
theorem readConjunction_sound (sound : operand.Sound language) {taken : Taken Expr tokens}
    (read : readConjunction operand stop tokens = .ok taken) :
    ∃ used, tokens = used ++ taken.rest ∧
      Conjunction language (used.map Token.symbol) taken.value := by
  unfold readConjunction at read
  split at read
  · cases read
  · cases read
  · rename_i first more rest counted readParts
    obtain rfl := Except.ok.inj read
    obtain ⟨⟨used, isTokens, conjuncts⟩, -⟩ := readConjuncts_sound sound readParts
    exact ⟨used, isTokens, .parts conjuncts⟩

/-- What is taken derives from the list of alternatives. -/
theorem readAlternatives_sound (sound : operand.Sound language) {taken : TakenAll Expr tokens}
    (read : readAlternatives operand stop tokens = .ok taken) :
    ∃ used, tokens = used ++ taken.rest ∧
      Alternatives language (used.map Token.symbol) taken.values := by
  fun_induction readAlternatives operand stop tokens with
  | case1 =>
      obtain rfl := Except.ok.inj read
      exact ⟨[], rfl, .none⟩
  | case2 => cases read
  | case3 token rest isBar _ first readFirst _ inductionHypothesis =>
      obtain ⟨more, readMore, rfl⟩ := exists_of_map_eq_ok read
      obtain ⟨used, isRest, alternatives⟩ := inductionHypothesis readMore
      obtain ⟨firstUsed, isTokens, conjunction⟩ := readConjunction_sound sound readFirst
      refine ⟨token :: firstUsed ++ used, ?_, ?_⟩
      · exact congrArg (token :: ·) (append_split isTokens isRest)
      · rw [List.map_append, List.map_cons, symbol_of_kind isBar]
        exact .bar conjunction alternatives
  | case4 => cases read
  | case5 token rest =>
      obtain rfl := Except.ok.inj read
      exact ⟨[], rfl, .none⟩

/-- What is taken derives from `Or`. -/
theorem readExpr_sound (sound : operand.Sound language) {taken : Taken Expr tokens}
    (read : readExpr operand stop tokens = .ok taken) :
    ∃ used, tokens = used ++ taken.rest ∧
      Alternation language (used.map Token.symbol) taken.value := by
  unfold readExpr at read
  split at read
  · cases read
  · rename_i first readFirst
    obtain ⟨more, readMore, rfl⟩ := exists_of_map_eq_ok read
    obtain ⟨firstUsed, isTokens, conjunction⟩ := readConjunction_sound sound readFirst
    obtain ⟨used, isRest, alternatives⟩ := readAlternatives_sound sound readMore
    refine ⟨firstUsed ++ used, ?_, ?_⟩
    · exact append_split isTokens isRest
    · rw [List.map_append]
      exact .parts conjunction alternatives

/-! ## Operands -/

theorem readOperand_filter {written : WrittenFilter} (isFilter : token.kind = .filter written)
    (levels stop : Nat) (rest : List Token) :
    readOperand levels stop (token :: rest) =
      (readFilter levels token.position written).map fun expr =>
        ⟨expr, rest, Nat.lt_succ_self _⟩ := by
  unfold readOperand
  rw [isFilter]
  dsimp only
  unfold readFilter
  cases written.shape with
  | leaf result => cases result <;> rfl
  | above relation =>
      dsimp only
      by_cases isBlank : (trim written.value.toList).isEmpty = true
      · rw [if_pos isBlank, if_pos isBlank]
        rfl
      · rw [if_neg isBlank, if_neg isBlank]
        cases levels with
        | zero => rfl
        | succ levels =>
            dsimp only
            unfold Expr.parseFrom
            cases Token.scanFrom levels written.valueOffset written.value.toList with
            | error => rfl
            | ok inner =>
                dsimp only [Except.bind]
                cases readWhole _ _ inner <;> rfl

theorem readOperand_text {value : String}
    (isText : token.kind = .text value ∨ token.kind = .quoted value) (levels stop : Nat)
    (rest : List Token) : readOperand levels stop (token :: rest) =
      .ok ⟨.leaf (.text (lowercase value)), rest, Nat.lt_succ_self _⟩ := by
  unfold readOperand
  rcases isText with isText | isQuoted
  · rw [isText]
  · rw [isQuoted]

/-- A minus sign takes a level and negates the operand behind it. -/
theorem readOperand_minus (isMinus : token.kind = .minus) (starts : startsOperand rest = true)
    (levels stop : Nat) : readOperand levels stop (token :: rest) =
      match levels with
      | 0 => .error ⟨token.position, .nestedTooDeep⟩
      | levels + 1 =>
        (readOperand levels stop rest).map fun operand =>
          ⟨.not operand.value, operand.rest, Nat.lt_succ_of_lt operand.shorter⟩ := by
  cases levels with
  | zero =>
      conv => lhs; unfold readOperand
      rw [isMinus]
      dsimp only
      rw [if_pos starts]
  | succ levels =>
      conv => lhs; unfold readOperand
      rw [isMinus]
      dsimp only
      rw [if_pos starts]

/-- A parenthesis takes a level and has to be closed behind the expression. -/
theorem readOperand_group (isLeft : token.kind = .leftParen)
    (notEmpty : rest.head?.map Token.kind ≠ some .rightParen) (levels stop : Nat) :
    readOperand levels stop (token :: rest) =
      match levels with
      | 0 => .error ⟨token.position, .nestedTooDeep⟩
      | levels + 1 =>
        match readExpr (readOperand levels stop) stop rest with
        | .error error => .error error
        | .ok ⟨expr, close :: after, shorter⟩ =>
          if close.kind = .rightParen then
            .ok ⟨expr, after, Nat.lt_succ_of_lt (Nat.lt_of_succ_lt shorter)⟩
          else .error ⟨token.position, .unclosedGroup⟩
        | .ok ⟨_, [], _⟩ => .error ⟨token.position, .unclosedGroup⟩ := by
  cases levels with
  | zero =>
      conv => lhs; unfold readOperand
      rw [isLeft]
      dsimp only
      rw [if_neg notEmpty]
  | succ levels =>
      conv => lhs; unfold readOperand
      rw [isLeft]
      dsimp only
      rcases readExpr (readOperand levels stop) stop rest with
        error | ⟨expr, _ | ⟨close, after⟩, shorter⟩
      all_goals rw [if_neg notEmpty]

theorem readOperand_dangling_minus (isMinus : token.kind = .minus)
    (notStart : ¬ startsOperand rest = true) (levels stop : Nat) :
    readOperand levels stop (token :: rest) = .error ⟨token.position, .danglingMinus⟩ := by
  unfold readOperand
  rw [isMinus]
  dsimp only
  rw [if_neg notStart]

theorem readOperand_empty_group (isLeft : token.kind = .leftParen)
    (isEmpty : rest.head?.map Token.kind = some .rightParen) (levels stop : Nat) :
    readOperand levels stop (token :: rest) = .error ⟨token.position, .emptyGroup⟩ := by
  unfold readOperand
  rw [isLeft]
  dsimp only
  rw [if_pos isEmpty]

theorem readOperand_no_operand (noOperand : token.kind.startsOperand = false)
    (levels stop : Nat) :
    readOperand levels stop (token :: rest) = .error (missingTerm stop (token :: rest)) := by
  unfold readOperand
  cases isKind : token.kind with
  | rightParen | plus | bar => rfl
  | _ =>
      rw [isKind] at noOperand
      cases noOperand

/-- A reader of operands takes what derives from `Not`. -/
theorem readOperand_sound (levels stop : Nat) :
    OperandReader.Sound (readOperand levels stop) Negation := by
  induction levels using Nat.strongRecOn generalizing stop with
  | ind levels inductionHypothesis =>
      intro tokens taken read
      cases tokens with
      | nil =>
          unfold readOperand at read
          cases read
      | cons token rest =>
          cases isKind : token.kind with
          | text value =>
              rw [readOperand_text (.inl isKind)] at read
              obtain rfl := Except.ok.inj read
              refine ⟨[token], rfl, .atom ?_⟩
              rw [List.map_singleton, symbol_of_kind isKind]
              exact .text value
          | quoted value =>
              rw [readOperand_text (.inr isKind)] at read
              obtain rfl := Except.ok.inj read
              refine ⟨[token], rfl, .atom ?_⟩
              rw [List.map_singleton, symbol_of_kind isKind]
              exact .quoted value
          | filter written =>
              rw [readOperand_filter isKind] at read
              obtain ⟨expr, reads, rfl⟩ := exists_of_map_eq_ok read
              refine ⟨[token], rfl, .atom ?_⟩
              rw [List.map_singleton, symbol_of_kind isKind]
              exact .filter ⟨levels, token.position, written.valueOffset, reads⟩
          | minus =>
              by_cases starts : startsOperand rest = true
              · rw [readOperand_minus isKind starts] at read
                cases levels with
                | zero => cases read
                | succ levels =>
                    obtain ⟨inner, readInner, rfl⟩ := exists_of_map_eq_ok read
                    obtain ⟨used, isRest, negation⟩ :=
                      inductionHypothesis levels (Nat.lt_succ_self levels) stop rest inner readInner
                    refine ⟨token :: used, congrArg (token :: ·) isRest, ?_⟩
                    rw [List.map_cons, symbol_of_kind isKind]
                    exact .minus negation
              · rw [readOperand_dangling_minus isKind starts] at read
                cases read
          | leftParen =>
              by_cases isEmpty : rest.head?.map Token.kind = some .rightParen
              · rw [readOperand_empty_group isKind isEmpty] at read
                cases read
              · rw [readOperand_group isKind isEmpty] at read
                cases levels with
                | zero => cases read
                | succ levels =>
                    dsimp only at read
                    split at read
                    · cases read
                    · rename_i expr close after shorter readGroup
                      split at read
                      · rename_i isRight
                        obtain rfl := Except.ok.inj read
                        have sound := inductionHypothesis levels (Nat.lt_succ_self levels) stop
                        obtain ⟨used, isRest, derives⟩ := readExpr_sound sound readGroup
                        refine ⟨token :: used ++ [close], ?_, .atom ?_⟩
                        · exact congrArg (token :: ·) (append_split isRest rfl)
                        · rw [List.map_append, List.map_cons, symbol_of_kind isKind,
                            List.map_singleton, symbol_of_kind isRight]
                          exact .group derives
                      · cases read
                    · cases read
          | rightParen | plus | bar =>
              rw [readOperand_no_operand (by rw [isKind]; rfl)] at read
              cases read

/-- What is read of a whole text derives from its tokens. -/
theorem readWhole_sound {expr : Expr} (nonempty : tokens ≠ [])
    (read : readWhole (readOperand levels stop) stop tokens = .ok expr) :
    Derives (tokens.map Token.symbol) expr := by
  unfold readWhole at read
  rw [if_neg fun empty => nonempty (List.isEmpty_iff.mp empty)] at read
  split at read
  · cases read
  · rename_i whole _ readAll
    obtain rfl := Except.ok.inj read
    obtain ⟨used, isTokens, derives⟩ := readExpr_sound (readOperand_sound levels stop) readAll
    rw [isTokens, List.append_nil]
    exact derives
  · cases read

end Outliner.Query
