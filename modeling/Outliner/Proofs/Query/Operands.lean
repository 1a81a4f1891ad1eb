import Outliner.Proofs.Query.Completeness
import Outliner.Proofs.Query.Outcomes

/-!
Contract: what holds of every outcome of reading operands.

Owns: that an invariant of the tokens still to be read, which may go by the nesting, a
condition on errors, and properties of what is read with so many levels go from single
tokens to all operands, and with the readers of lists to whole texts.

Main statements: `OperandLaws.readOperand`, `OperandLaws.readWhole`.

Does not own: what a filter is read as.
-/

namespace Outliner.Query

open Outliner.Text

/-- What each kind of token does, in a text that ends at `stop` and with at most so many levels,
to an invariant of the tokens that are left, and to properties of what is read with so many
levels. -/
structure OperandLaws (levels stop : Nat) (left : Nesting → List Token → Prop)
    (acceptable : QueryError → Prop) (operand conjunction query : Nat → Expr → Prop) : Prop where
  next : ∀ nesting token rest, left nesting (token :: rest) → Fits token nesting.left →
    left (nesting.after token.kind) rest
  blame : ∀ nesting token rest fault, fault ≠ .nestedTooDeep → left nesting (token :: rest) →
    acceptable ⟨token.position, fault⟩
  blameEnd : ∀ fault, fault ≠ .nestedTooDeep → acceptable ⟨stop, fault⟩
  deep : ∀ nesting token rest, nesting.left = 0 → token.kind = .minus ∨ token.kind = .leftParen →
    left nesting (token :: rest) → acceptable ⟨token.position, .nestedTooDeep⟩
  text : ∀ nesting token rest value, token.kind = .text value ∨ token.kind = .quoted value →
    left nesting (token :: rest) → operand nesting.left (.leaf (.text (lowercase value)))
  filter : ∀ nesting token rest written, nesting.left ≤ levels → token.kind = .filter written →
    left nesting (token :: rest) →
      Outcome (operand nesting.left) acceptable (readFilter nesting.left token.position written)
  not : ∀ lower expr, operand lower expr → operand (lower + 1) (.not expr)
  group : ∀ lower expr, query lower expr → operand (lower + 1) expr
  joining : ∀ lower, Joining (operand lower) (conjunction lower) (query lower)

namespace OperandLaws

variable {levels stop lower : Nat} {left : Nesting → List Token → Prop}
  {acceptable : QueryError → Prop} {operand conjunction query : Nat → Expr → Prop}
  {token : Token} {tokens rest : List Token} {nesting : Nesting}

variable (laws : OperandLaws levels stop left acceptable operand conjunction query)
include laws

/-- Behind a token that needs no levels and cannot fail. -/
theorem next_of_plain {kind : TokenKind} (isKind : token.kind = kind)
    (notFilter : ∀ written, kind ≠ .filter written)
    (noNesting : ¬ (kind = .minus ∨ kind = .leftParen))
    (isLeft : left nesting (token :: rest)) : left (nesting.after kind) rest := by
  subst isKind
  refine laws.next nesting token rest isLeft ⟨fun nests => absurd nests noNesting, ?_⟩
  exact fun written isFilter => absurd isFilter (notFilter written)

/-- Behind a minus sign or a parenthesis where there is a level for it. -/
theorem next_of_nesting {kind : TokenKind} (isKind : token.kind = kind)
    (nests : kind = .minus ∨ kind = .leftParen) (isPositive : 0 < nesting.left)
    (isLeft : left nesting (token :: rest)) : left (nesting.after kind) rest := by
  subst isKind
  refine laws.next nesting token rest isLeft ⟨fun _ => isPositive, fun written isFilter => ?_⟩
  rw [isFilter] at nests
  simp at nests

/-- In front of the operands of one group the laws are those of the readers of lists. -/
theorem invariant (lower : Nat) (outer : List Nat) :
    TokenInvariant (left ⟨lower, lower, outer⟩) acceptable stop where
  sign token rest isSign isLeft := by
    rcases isSign with isPlus | isBar
    · exact laws.next_of_plain isPlus (by simp) (by simp) isLeft
    · exact laws.next_of_plain isBar (by simp) (by simp) isLeft
  blame token rest fault notNesting isLeft := laws.blame _ token rest fault notNesting isLeft
  blameEnd := laws.blameEnd

/-- A filter that is read, in front of what is left behind it. -/
theorem readOperand_filter {base : Nat} {outer : List Nat} {written : WrittenFilter}
    (atMost : lower ≤ levels) (isFilter : token.kind = .filter written)
    (isLeft : left ⟨lower, base, outer⟩ (token :: rest)) :
    Outcome (fun taken => operand lower taken.value ∧ left ⟨base, base, outer⟩ taken.rest)
      acceptable (Query.readOperand lower stop (token :: rest)) := by
  have outcome := laws.filter _ token rest written atMost isFilter isLeft
  rw [Query.readOperand_filter isFilter]
  dsimp only at outcome
  cases isRead : readFilter lower token.position written with
  | error error =>
      rw [isRead] at outcome
      exact outcome
  | ok expr =>
      rw [isRead] at outcome
      have fits : Fits token lower := by
        refine ⟨by simp [isFilter], fun other isOther => ?_⟩
        obtain rfl := TokenKind.filter.inj (isFilter.symm.trans isOther)
        exact ⟨expr, isRead⟩
      have isNext := laws.next _ token rest isLeft fits
      rw [isFilter] at isNext
      exact ⟨outcome, isNext⟩

/-- A minus sign in front of an operand that has one level less. -/
theorem readOperand_not {base : Nat} {outer : List Nat} (isMinus : token.kind = .minus)
    (inner : ∀ below, lower = below + 1 → left ⟨below, base, outer⟩ rest →
      Outcome (fun taken => operand below taken.value ∧ left ⟨base, base, outer⟩ taken.rest)
        acceptable (Query.readOperand below stop rest))
    (isLeft : left ⟨lower, base, outer⟩ (token :: rest)) :
    Outcome (fun taken => operand lower taken.value ∧ left ⟨base, base, outer⟩ taken.rest)
      acceptable (Query.readOperand lower stop (token :: rest)) := by
  by_cases starts : startsOperand rest = true
  · rw [readOperand_minus isMinus starts]
    cases lower with
    | zero => exact laws.deep _ token rest rfl (.inl isMinus) isLeft
    | succ below =>
        have isInner := laws.next_of_nesting isMinus (.inl rfl) (Nat.succ_pos below) isLeft
        apply Outcome.map
        apply (inner below rfl isInner).mono
        rintro taken ⟨isGood, isRest⟩
        exact ⟨laws.not below taken.value isGood, isRest⟩
  · rw [readOperand_dangling_minus isMinus starts]
    exact laws.blame _ token rest _ (by simp) isLeft

/-- A group whose operands have one level less. -/
theorem readOperand_inside {base : Nat} {outer : List Nat} (isOpen : token.kind = .leftParen)
    (inner : ∀ below, lower = below + 1 → OperandReader.Outcomes (Query.readOperand below stop)
      (left ⟨below, below, base :: outer⟩) acceptable (operand below))
    (isLeft : left ⟨lower, base, outer⟩ (token :: rest)) :
    Outcome (fun taken => operand lower taken.value ∧ left ⟨base, base, outer⟩ taken.rest)
      acceptable (Query.readOperand lower stop (token :: rest)) := by
  have complain (fault : Fault) (notNesting : fault ≠ .nestedTooDeep) :
      acceptable ⟨token.position, fault⟩ :=
    laws.blame _ token rest fault notNesting isLeft
  by_cases isEmpty : rest.head?.map Token.kind = some .rightParen
  · rw [readOperand_empty_group isOpen isEmpty]
    exact complain _ (by simp)
  · rw [readOperand_group isOpen isEmpty]
    cases lower with
    | zero => exact laws.deep _ token rest rfl (.inr isOpen) isLeft
    | succ below =>
        have isInner := laws.next_of_nesting isOpen (.inr rfl) (Nat.succ_pos below) isLeft
        have outcome := readExpr_outcome (inner below rfl) (laws.invariant below (base :: outer))
          (laws.joining below) isInner
        dsimp only
        split
        · rename_i failed
          rw [failed] at outcome
          exact outcome
        · rename_i expr close after shorter isRead
          rw [isRead] at outcome
          obtain ⟨isGood, isClose⟩ := outcome
          split
          · rename_i isRight
            exact ⟨laws.group below expr isGood,
              laws.next_of_plain isRight (by simp) (by simp) isClose⟩
          · exact complain _ (by simp)
        · exact complain _ (by simp)

/-- Whatever is in front, the reader of operands takes something good and leaves the invariant,
or complains acceptably. -/
theorem readOperand (atMost : lower ≤ levels) (base : Nat) (outer : List Nat)
    (isLeft : left ⟨lower, base, outer⟩ tokens) :
    Outcome (fun taken => operand lower taken.value ∧ left ⟨base, base, outer⟩ taken.rest)
      acceptable (Query.readOperand lower stop tokens) := by
  induction lower using Nat.strongRecOn generalizing base outer tokens with
  | ind lower inductionHypothesis =>
      cases tokens with
      | nil =>
          unfold Query.readOperand
          exact laws.blameEnd _ (by simp)
      | cons token rest =>
          cases isKind : token.kind with
          | text value =>
              rw [readOperand_text (.inl isKind)]
              exact ⟨laws.text _ token rest value (.inl isKind) isLeft,
                laws.next_of_plain isKind (by simp) (by simp) isLeft⟩
          | quoted value =>
              rw [readOperand_text (.inr isKind)]
              exact ⟨laws.text _ token rest value (.inr isKind) isLeft,
                laws.next_of_plain isKind (by simp) (by simp) isLeft⟩
          | filter written => exact laws.readOperand_filter atMost isKind isLeft
          | minus =>
              refine laws.readOperand_not isKind ?_ isLeft
              rintro below rfl
              exact inductionHypothesis below (Nat.lt_succ_self below)
                (Nat.le_of_succ_le atMost) base outer
          | leftParen =>
              refine laws.readOperand_inside isKind ?_ isLeft
              rintro below rfl
              exact fun _ => inductionHypothesis below (Nat.lt_succ_self below)
                (Nat.le_of_succ_le atMost) below (base :: outer)
          | rightParen | plus | bar =>
              rw [readOperand_no_operand (by rw [isKind]; rfl)]
              exact laws.blame _ token rest _ (by simp) isLeft

/-- A whole list of tokens is a query as it should be, or it is refused acceptably. -/
theorem readWhole (nonempty : tokens ≠ []) (isLeft : left (.top levels) tokens) :
    Outcome (fun expr => query levels expr ∧ left (.top levels) []) acceptable
      (Query.readWhole (Query.readOperand levels stop) stop tokens) :=
  readWhole_outcome (fun _ => laws.readOperand (Nat.le_refl levels) levels [])
    (laws.invariant levels []) (laws.joining levels) nonempty isLeft

end OperandLaws

end Outliner.Query
