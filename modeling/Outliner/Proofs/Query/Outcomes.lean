import Outliner.Query.Expr.Parse

/-!
Contract: what holds of every outcome of reading a list of operands.

Owns: that an invariant of the tokens still to be read, a condition on errors, and properties
of operands, of conjunctions and of queries go from a reader of operands to all the readers
of lists.

Main statements: `readExpr_outcome`, `readWhole_outcome`.

Does not own: what the operands themselves are read as.
-/

namespace Outliner.Query

/-- What is read is good, or the error is acceptable. -/
def Outcome {α : Type} (good : α → Prop) (acceptable : QueryError → Prop) :
    Except QueryError α → Prop
  | .ok value => good value
  | .error error => acceptable error

/-- An invariant of the tokens that are left, in a text that ends at `stop`. While it holds,
every complaint about the next token or the end is acceptable, but those about nesting: the
readers of lists make none. -/
structure TokenInvariant (left : List Token → Prop) (acceptable : QueryError → Prop)
    (stop : Nat) : Prop where
  sign : ∀ token rest, token.kind = .plus ∨ token.kind = .bar → left (token :: rest) → left rest
  blame : ∀ token rest fault, fault ≠ .nestedTooDeep → left (token :: rest) →
    acceptable ⟨token.position, fault⟩
  blameEnd : ∀ fault, fault ≠ .nestedTooDeep → acceptable ⟨stop, fault⟩

/-- How properties of operands, of conjunctions and of queries follow from each other. -/
structure Joining (operand conjunction query : Expr → Prop) : Prop where
  single : ∀ expr, operand expr → conjunction expr
  all : ∀ first second rest, (∀ part ∈ first :: second :: rest, operand part) →
    conjunction (.all (first :: second :: rest))
  alone : ∀ expr, conjunction expr → query expr
  any : ∀ first second rest, (∀ part ∈ first :: second :: rest, conjunction part) →
    query (.any (first :: second :: rest))

/-- In front of tokens with the invariant, a reader of operands takes a good one and leaves
tokens with the invariant, or complains acceptably. -/
def OperandReader.Outcomes (reader : OperandReader) (left : List Token → Prop)
    (acceptable : QueryError → Prop) (operand : Expr → Prop) : Prop :=
  ∀ tokens, left tokens →
    Outcome (fun taken => operand taken.value ∧ left taken.rest) acceptable (reader tokens)

section Outcome

variable {α β : Type} {good better : α → Prop} {acceptable : QueryError → Prop}
  {result : Except QueryError α}

theorem Outcome.map {change : α → β} {good : β → Prop}
    (outcome : Outcome (fun value => good (change value)) acceptable result) :
    Outcome good acceptable (result.map change) := by
  cases result with
  | ok value => exact outcome
  | error error => exact outcome

theorem Outcome.mono (outcome : Outcome better acceptable result)
    (isGood : ∀ value, better value → good value) : Outcome good acceptable result := by
  cases result with
  | ok value => exact isGood value outcome
  | error error => exact outcome

end Outcome

variable {reader : OperandReader} {left : List Token → Prop} {acceptable : QueryError → Prop}
  {operand conjunction query : Expr → Prop} {tokens : List Token} {stop : Nat}

/-- With the invariant, the complaint that an operand is missing is acceptable. -/
theorem TokenInvariant.blame_missing (invariant : TokenInvariant left acceptable stop)
    (isLeft : left tokens) : acceptable (missingTerm stop tokens) := by
  cases tokens with
  | nil => exact invariant.blameEnd _ (by simp)
  | cons token rest => exact invariant.blame token rest _ (by simp) isLeft

theorem joinParts_of_joined {join : List Expr → Expr} {first : Expr} {more : List Expr}
    {part joined : Expr → Prop} (alone : ∀ expr, part expr → joined expr)
    (several : ∀ first second rest, (∀ expr ∈ first :: second :: rest, part expr) →
      joined (join (first :: second :: rest)))
    (each : ∀ expr ∈ first :: more, part expr) : joined (joinParts join first more) := by
  cases more with
  | nil => exact alone first (each first List.mem_cons_self)
  | cons second rest => exact several first second rest each

/-- A list of operands is good if the reader of operands is. -/
theorem readConjuncts_outcome (outcomes : reader.Outcomes left acceptable operand)
    (invariant : TokenInvariant left acceptable stop) (isLeft : left tokens) :
    Outcome (fun taken => (∀ part ∈ taken.values, operand part) ∧ left taken.rest) acceptable
      (readConjuncts reader tokens) := by
  fun_induction readConjuncts reader tokens with
  | case1 => exact ⟨nofun, isLeft⟩
  | case2 token rest isPlus _ inductionHypothesis =>
      apply Outcome.map
      exact inductionHypothesis (invariant.sign token rest (.inl isPlus) isLeft)
  | case3 token rest => exact invariant.blame token rest _ (by simp) isLeft
  | case4 token rest _ _ error failed =>
      have outcome := outcomes (token :: rest) isLeft
      rw [failed] at outcome
      exact outcome
  | case5 token rest _ _ first readFirst _ inductionHypothesis =>
      have outcome := outcomes (token :: rest) isLeft
      rw [readFirst] at outcome
      apply Outcome.map
      apply (inductionHypothesis outcome.2).mono
      rintro more ⟨each, isMore⟩
      exact ⟨List.forall_mem_cons.mpr ⟨outcome.1, each⟩, isMore⟩
  | case6 => exact ⟨nofun, isLeft⟩

/-- What is good of operands and kept by joining them is good of conjunctions. -/
theorem readConjunction_outcome (outcomes : reader.Outcomes left acceptable operand)
    (invariant : TokenInvariant left acceptable stop)
    (joining : Joining operand conjunction query) (isLeft : left tokens) :
    Outcome (fun taken => conjunction taken.value ∧ left taken.rest) acceptable
      (readConjunction reader stop tokens) := by
  have outcome := readConjuncts_outcome outcomes invariant isLeft
  unfold readConjunction
  split
  · rename_i failed
    rw [failed] at outcome
    exact outcome
  · rename_i rest _ read
    rw [read] at outcome
    exact invariant.blame_missing outcome.2
  · rename_i read
    rw [read] at outcome
    exact ⟨joinParts_of_joined joining.single joining.all outcome.1, outcome.2⟩

/-- The parts between bars are conjunctions, each of them good. -/
theorem readAlternatives_outcome (outcomes : reader.Outcomes left acceptable operand)
    (invariant : TokenInvariant left acceptable stop)
    (joining : Joining operand conjunction query) (isLeft : left tokens) :
    Outcome (fun taken => (∀ part ∈ taken.values, conjunction part) ∧ left taken.rest) acceptable
      (readAlternatives reader stop tokens) := by
  fun_induction readAlternatives reader stop tokens with
  | case1 => exact ⟨nofun, isLeft⟩
  | case2 token rest isBar _ error failed =>
      have outcome := readConjunction_outcome outcomes invariant joining
        (invariant.sign token rest (.inr isBar) isLeft)
      rw [failed] at outcome
      exact outcome
  | case3 token rest isBar _ first readFirst _ inductionHypothesis =>
      have outcome := readConjunction_outcome outcomes invariant joining
        (invariant.sign token rest (.inr isBar) isLeft)
      rw [readFirst] at outcome
      apply Outcome.map
      apply (inductionHypothesis outcome.2).mono
      rintro more ⟨each, isMore⟩
      exact ⟨List.forall_mem_cons.mpr ⟨outcome.1, each⟩, isMore⟩
  | case4 token rest => exact invariant.blame token rest _ (by simp) isLeft
  | case5 => exact ⟨nofun, isLeft⟩

/-- What holds of operands holds, as far as joining them goes, of what is read of a list. -/
theorem readExpr_outcome (outcomes : reader.Outcomes left acceptable operand)
    (invariant : TokenInvariant left acceptable stop)
    (joining : Joining operand conjunction query) (isLeft : left tokens) :
    Outcome (fun taken => query taken.value ∧ left taken.rest) acceptable
      (readExpr reader stop tokens) := by
  have outcome := readConjunction_outcome outcomes invariant joining isLeft
  unfold readExpr
  split
  · rename_i failed
    rw [failed] at outcome
    exact outcome
  · rename_i first read
    rw [read] at outcome
    apply Outcome.map
    apply (readAlternatives_outcome outcomes invariant joining outcome.2).mono
    rintro more ⟨each, isMore⟩
    have every := List.forall_mem_cons.mpr ⟨outcome.1, each⟩
    exact ⟨joinParts_of_joined joining.alone joining.any every, isMore⟩

/-- A whole list that is no query is refused acceptably; of a query nothing is left. -/
theorem readWhole_outcome (outcomes : reader.Outcomes left acceptable operand)
    (invariant : TokenInvariant left acceptable stop)
    (joining : Joining operand conjunction query) (nonempty : tokens ≠ []) (isLeft : left tokens) :
    Outcome (fun expr => query expr ∧ left []) acceptable (readWhole reader stop tokens) := by
  have outcome := readExpr_outcome outcomes invariant joining isLeft
  unfold readWhole
  rw [if_neg fun empty => nonempty (List.isEmpty_iff.mp empty)]
  split
  · rename_i failed
    rw [failed] at outcome
    exact outcome
  · rename_i read
    rw [read] at outcome
    exact outcome
  · rename_i token rest _ read
    rw [read] at outcome
    exact invariant.blame token rest _ (by simp) outcome.2

end Outliner.Query
