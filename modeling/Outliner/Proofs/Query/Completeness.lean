import Mathlib.Control.Monad.Basic
import Outliner.Proofs.Query.Grammar
import Outliner.Query.Expr.Write

/-!
Contract: what derives in the grammar of queries is read as what it stands for.

Owns: at which level of nesting each token stands, and that a reader which is in front of
something that derives takes just that, unless it complains about nesting. It does so only
where a token stands deeper than the levels allow or a filter does not pass.

A derivation does not say where it stands. So what the readers do is said for any levels,
by induction on them: an argument of a sub-filter is read with fewer levels.

Main statements: `readExpr_complete`, `readOperand_complete`, and what is read of a list of
tokens.

Does not own: that only what derives is read (`Proofs.Query.Grammar`).
-/

namespace Outliner.Query

open Outliner.Text

/-! ## Levels -/

/-- How many levels of nesting are left at a place in a query: here, in front of the operands
of the innermost open group, and in front of those of the groups around it. -/
structure Nesting where
  left : Nat
  base : Nat
  outer : List Nat

def Nesting.top (levels : Nat) : Nesting :=
  ⟨levels, levels, []⟩

/-- The levels that are left behind a token. A minus sign takes one from the operand behind
it, a parenthesis from all up to the one that closes it. -/
def Nesting.after (nesting : Nesting) : TokenKind → Nesting
  | .minus => { nesting with left := nesting.left - 1 }
  | .leftParen => ⟨nesting.left - 1, nesting.left - 1, nesting.base :: nesting.outer⟩
  | .rightParen =>
    match nesting.outer with
    | [] => { nesting with left := nesting.base }
    | base :: outer => ⟨base, base, outer⟩
  | _ => { nesting with left := nesting.base }

/-- The tokens, each with the levels that are left where it stands. -/
def standing (nesting : Nesting) : List Token → List (Token × Nat)
  | [] => []
  | token :: rest => (token, nesting.left) :: standing (nesting.after token.kind) rest

/-- Groups, minus signs and sub-filters nest no deeper than the levels allow. -/
def NestsWithin (levels : Nat) (tokens : List Token) : Prop :=
  ∀ placed ∈ standing (.top levels) tokens,
    placed.1.kind = .minus ∨ placed.1.kind = .leftParen → 0 < placed.2

/-- Every filter can be read where it stands. -/
def FiltersPass (levels : Nat) (tokens : List Token) : Prop :=
  ∀ placed ∈ standing (.top levels) tokens, ∀ written, placed.1.kind = .filter written →
    ∃ expr, readFilter placed.2 placed.1.position written = .ok expr

instance (levels : Nat) (tokens : List Token) : Decidable (NestsWithin levels tokens) := by
  unfold NestsWithin
  infer_instance

instance (levels : Nat) (tokens : List Token) : Decidable (FiltersPass levels tokens) := by
  apply decidable_of_iff (∀ placed ∈ standing (.top levels) tokens,
    (match placed.1.kind with
      | .filter written => (readFilter placed.2 placed.1.position written).isOk
      | _ => true) = true)
  apply forall₂_congr
  intro placed _
  cases placed.1.kind with
  | filter written =>
      simp only [TokenKind.filter.injEq, forall_eq']
      cases readFilter placed.2 placed.1.position written <;> simp [Except.isOk, Except.toBool]
  | _ => simp

/-- A group or a minus sign has a level left, and a filter passes. -/
def Fits (token : Token) (left : Nat) : Prop :=
  (token.kind = .minus ∨ token.kind = .leftParen → 0 < left) ∧
    ∀ written, token.kind = .filter written →
      ∃ expr, readFilter left token.position written = .ok expr

def AllFit (nesting : Nesting) (tokens : List Token) : Prop :=
  ∀ placed ∈ standing nesting tokens, Fits placed.1 placed.2

variable {base left levels stop : Nat} {outer : List Nat} {token : Token} {rest used : List Token}
  {expr : Expr} {parts : List Expr} {symbols : List TokenKind} {operand : OperandReader}
  {language : Language} {fit : List Token → Prop} {nesting : Nesting}

theorem allFit_of_passes (nests : NestsWithin levels rest) (pass : FiltersPass levels rest) :
    AllFit (.top levels) rest :=
  fun placed member => ⟨nests placed member, pass placed member⟩

theorem allFit_cons : AllFit nesting (token :: rest) ↔
    Fits token nesting.left ∧ AllFit (nesting.after token.kind) rest := by
  unfold AllFit
  rw [standing, List.forall_mem_cons]

/-! ## Lists of operands -/

/-- A reading succeeds or complains about nesting. It does the latter only where something
does not fit; where all fits, so does what comes after. -/
def Reads {α : Type} (before after : Prop) (result : Except QueryError α) (good : α → Prop) :
    Prop :=
  (∃ taken, result = .ok taken ∧ good taken ∧ (before → after)) ∨ TooDeep result ∧ ¬ before

/-- In front of something in a language, a reader of operands takes it and what it stands
for. -/
def OperandReader.Complete (operand : OperandReader) (language : Language)
    (fit : List Token → Prop) : Prop :=
  ∀ used rest expr, language (used.map Token.symbol) expr →
    Reads (fit (used ++ rest)) (fit rest) (operand (used ++ rest))
      fun taken => taken.value = expr ∧ taken.rest = rest

/-- What is in a language starts as an operand does. -/
def Language.Starts (language : Language) : Prop :=
  ∀ symbols expr, language symbols expr → ∃ first more,
    symbols = first :: more ∧ first.startsOperand = true

theorem exists_first (starts : language.Starts) (derives : language (used.map Token.symbol) expr) :
    ∃ first more, used = first :: more ∧ first.kind.startsOperand = true := by
  obtain ⟨symbol, symbols, areSymbols, isStart⟩ := starts _ _ derives
  obtain ⟨first, more, rfl, rfl, -⟩ := List.map_eq_cons_iff.mp areSymbols
  refine ⟨first, more, rfl, ?_⟩
  rw [Token.symbol, placeless_startsOperand] at isStart
  exact isStart

theorem readConjuncts_of_operand (isStart : token.kind.startsOperand = true) :
    readConjuncts operand (token :: rest) =
      (operand (token :: rest)).bind fun first =>
        (readConjuncts operand first.rest).map fun more =>
          ⟨first.value :: more.values, more.rest, by
            have counted := more.counted
            have shorter := first.shorter
            simp only [List.length_cons] at shorter ⊢
            omega⟩ := by
  have notPlus : token.kind ≠ .plus := by
    intro isPlus
    rw [isPlus] at isStart
    cases isStart
  conv => lhs; unfold readConjuncts
  dsimp only
  cases operand (token :: rest) with
  | error =>
      rw [if_neg notPlus, if_pos isStart]
      rfl
  | ok first =>
      rw [if_neg notPlus, if_pos isStart]
      rfl

theorem readConjuncts_of_plus (isPlus : token.kind = .plus) (starts : startsOperand rest = true) :
    readConjuncts operand (token :: rest) = (readConjuncts operand rest).map fun more =>
      ⟨more.values, more.rest, Nat.le_succ_of_le more.counted⟩ := by
  conv => lhs; unfold readConjuncts
  dsimp only
  rw [if_pos isPlus, if_pos starts]

theorem readConjuncts_of_dangling_plus (isPlus : token.kind = .plus)
    (notStart : ¬ startsOperand rest = true) :
    readConjuncts operand (token :: rest) = .error ⟨token.position, .danglingPlus⟩ := by
  unfold readConjuncts
  dsimp only
  rw [if_pos isPlus, if_neg notStart]

theorem readConjuncts_of_end (ends : startsConjunct rest = false) :
    readConjuncts operand rest = .ok ⟨[], rest, Nat.le_refl _⟩ := by
  unfold readConjuncts
  cases rest with
  | nil => rfl
  | cons token rest =>
      rw [startsConjunct, Bool.or_eq_false_iff, beq_eq_false_iff_ne] at ends
      dsimp only
      rw [if_neg ends.2, if_neg (Bool.eq_false_iff.mp ends.1)]

/-- One more operand in front of those that are read. -/
theorem reads_adjacent (complete : operand.Complete language fit) (starts : language.Starts)
    {first : Expr} {after : Prop} {behind : List Token}
    (derives : language (used.map Token.symbol) first)
    (reads : Reads (fit rest) after (readConjuncts operand rest) fun taken =>
      taken.values = parts ∧ taken.rest = behind) :
    Reads (fit (used ++ rest)) after (readConjuncts operand (used ++ rest)) fun taken =>
      taken.values = first :: parts ∧ taken.rest = behind := by
  have readFirst := complete used rest first derives
  obtain ⟨token, more, rfl, isStart⟩ := exists_first starts derives
  rw [List.cons_append] at readFirst ⊢
  rw [readConjuncts_of_operand isStart]
  rcases readFirst with
    ⟨⟨value, left, _⟩, isFirst, ⟨isValue, isRest⟩, keeps⟩ | ⟨⟨position, deep⟩, unfit⟩
  · rw [isFirst]
    dsimp only [Except.bind] at isValue isRest ⊢
    subst isValue isRest
    rcases reads with ⟨taken, isTaken, ⟨rfl, rfl⟩, keepsMore⟩ | ⟨deep, unfit⟩
    · rw [isTaken]
      exact .inl ⟨_, rfl, ⟨rfl, rfl⟩, fun fits => keepsMore (keeps fits)⟩
    · exact .inr ⟨deep.map _, fun fits => unfit (keeps fits)⟩
  · rw [deep]
    exact .inr ⟨⟨position, rfl⟩, unfit⟩

/-- A plus sign in front of conjuncts that are read. -/
theorem reads_plus (passes : fit (token :: rest) → fit rest) (isPlus : token.kind = .plus)
    (starts : startsOperand rest = true) {after : Prop} {behind : List Token}
    (reads : Reads (fit rest) after (readConjuncts operand rest) fun taken =>
      taken.values = parts ∧ taken.rest = behind) :
    Reads (fit (token :: rest)) after (readConjuncts operand (token :: rest)) fun taken =>
      taken.values = parts ∧ taken.rest = behind := by
  rw [readConjuncts_of_plus isPlus starts]
  rcases reads with ⟨taken, isTaken, isGood, keeps⟩ | ⟨deep, unfit⟩
  · rw [isTaken]
    exact .inl ⟨_, rfl, isGood, fun fits => keeps (passes fits)⟩
  · exact .inr ⟨deep.map _, fun fits => unfit (passes fits)⟩

/-- Signs between operands fit wherever they stand. -/
def PassesSigns (fit : List Token → Prop) : Prop :=
  ∀ token rest, token.kind = .plus ∨ token.kind = .bar → fit (token :: rest) → fit rest

/-- Conjuncts are read up to where no further one starts. -/
theorem readConjuncts_complete (complete : operand.Complete language fit)
    (starts : language.Starts) (passes : PassesSigns fit)
    (conjuncts : Conjuncts language symbols parts) (areSymbols : used.map Token.symbol = symbols)
    (ends : startsConjunct rest = false) :
    Reads (fit (used ++ rest)) (fit rest) (readConjuncts operand (used ++ rest)) fun taken =>
      taken.values = parts ∧ taken.rest = rest := by
  induction conjuncts generalizing used with
  | none =>
      obtain rfl := List.map_eq_nil_iff.mp areSymbols
      exact .inl ⟨_, readConjuncts_of_end ends, ⟨rfl, rfl⟩, id⟩
  | adjacent first more inductionHypothesis =>
      obtain ⟨front, back, rfl, rfl, rfl⟩ := List.map_eq_append_iff.mp areSymbols
      rw [List.append_assoc]
      exact reads_adjacent complete starts first (inductionHypothesis rfl)
  | plus first more inductionHypothesis =>
      obtain ⟨front, back, rfl, isFront, rfl⟩ := List.map_eq_append_iff.mp areSymbols
      obtain ⟨token, front, rfl, isPlus, rfl⟩ := List.map_eq_cons_iff.mp isFront
      rw [List.append_assoc, List.cons_append]
      apply reads_plus
      · exact passes token _ (.inl (kind_of_symbol isPlus (by simp)))
      · exact kind_of_symbol isPlus (by simp)
      · obtain ⟨token, more, rfl, isStart⟩ := exists_first starts first
        exact isStart
      · exact reads_adjacent complete starts first (inductionHypothesis rfl)

/-- A conjunction is read up to where no further part starts. -/
theorem readConjunction_complete (complete : operand.Complete language fit)
    (starts : language.Starts) (passes : PassesSigns fit)
    (conjunction : Conjunction language (used.map Token.symbol) expr)
    (ends : startsConjunct rest = false) (stop : Nat) :
    Reads (fit (used ++ rest)) (fit rest) (readConjunction operand stop (used ++ rest)) fun taken =>
      taken.value = expr ∧ taken.rest = rest := by
  generalize areSymbols : used.map Token.symbol = symbols at conjunction
  cases conjunction with
  | parts conjuncts =>
      unfold readConjunction
      rcases readConjuncts_complete complete starts passes conjuncts areSymbols ends with
        ⟨⟨values, left, _⟩, isTaken, ⟨areValues, isRest⟩, keeps⟩ | ⟨⟨position, deep⟩, unfit⟩
      · rw [isTaken]
        dsimp only at areValues isRest ⊢
        subst areValues
        exact .inl ⟨_, rfl, ⟨rfl, isRest⟩, keeps⟩
      · rw [deep]
        exact .inr ⟨⟨position, rfl⟩, unfit⟩

/-- What can follow an expression: nothing, or a parenthesis that closes. -/
def EndsExpr (rest : List Token) : Prop :=
  ∀ token ∈ rest.head?, token.kind = .rightParen

theorem EndsExpr.startsConjunct (ends : EndsExpr rest) : startsConjunct rest = false := by
  cases rest with
  | nil => rfl
  | cons token rest =>
      rw [Query.startsConjunct, ends token rfl]
      rfl

theorem readAlternatives_of_no_bar (notBar : token.kind ≠ .bar) (stop : Nat) :
    readAlternatives operand stop (token :: rest) = .ok ⟨[], token :: rest, Nat.le_refl _⟩ := by
  unfold readAlternatives
  dsimp only
  rw [if_neg notBar]

theorem readAlternatives_of_end (ends : EndsExpr rest) (stop : Nat) :
    readAlternatives operand stop rest = .ok ⟨[], rest, Nat.le_refl _⟩ := by
  cases rest with
  | nil =>
      unfold readAlternatives
      rfl
  | cons token rest =>
      have isRight := ends token rfl
      exact readAlternatives_of_no_bar (by rw [isRight]; simp) stop

theorem readAlternatives_of_dangling_bar (isBar : token.kind = .bar)
    (notStart : ¬ startsConjunct rest = true) (stop : Nat) :
    readAlternatives operand stop (token :: rest) = .error ⟨token.position, .danglingBar⟩ := by
  unfold readAlternatives
  dsimp only
  rw [if_pos isBar, if_neg notStart]

theorem readAlternatives_of_bar (isBar : token.kind = .bar) (starts : startsConjunct rest = true)
    (stop : Nat) : readAlternatives operand stop (token :: rest) =
      (readConjunction operand stop rest).bind fun first =>
        (readAlternatives operand stop first.rest).map fun more =>
          ⟨first.value :: more.values, more.rest, by
            have counted := more.counted
            have shorter := first.shorter
            simp only [List.length_cons]
            omega⟩ := by
  conv => lhs; unfold readAlternatives
  dsimp only
  cases readConjunction operand stop rest with
  | error =>
      rw [if_pos isBar, if_pos starts]
      rfl
  | ok first =>
      rw [if_pos isBar, if_pos starts]
      rfl

theorem Conjunction.startsConjunct (starts : language.Starts)
    (conjunction : Conjunction language (used.map Token.symbol) expr) (rest : List Token) :
    startsConjunct (used ++ rest) = true := by
  generalize areSymbols : used.map Token.symbol = symbols at conjunction
  cases conjunction with
  | parts conjuncts =>
      cases conjuncts with
      | adjacent first more =>
          obtain ⟨front, back, rfl, rfl, -⟩ := List.map_eq_append_iff.mp areSymbols
          obtain ⟨token, more, rfl, isStart⟩ := exists_first starts first
          rw [List.cons_append, List.cons_append, Query.startsConjunct, isStart, Bool.true_or]
      | plus first more =>
          obtain ⟨token, more, rfl, isPlus, -⟩ := List.map_eq_cons_iff.mp areSymbols
          rw [List.cons_append, Query.startsConjunct, kind_of_symbol isPlus (by simp)]
          rfl

/-- Alternatives start with a bar, which starts no conjunct. -/
theorem Alternatives.endsConjunct
    (alternatives : Alternatives language (used.map Token.symbol) parts) (ends : EndsExpr rest) :
    startsConjunct (used ++ rest) = false := by
  generalize areSymbols : used.map Token.symbol = symbols at alternatives
  cases alternatives with
  | none =>
      obtain rfl := List.map_eq_nil_iff.mp areSymbols
      exact ends.startsConjunct
  | bar first more =>
      obtain ⟨token, more, rfl, isBar, -⟩ := List.map_eq_cons_iff.mp areSymbols
      rw [List.cons_append, Query.startsConjunct, kind_of_symbol isBar (by simp)]
      rfl

/-- Alternatives are read up to the end or a parenthesis that closes. -/
theorem readAlternatives_complete (complete : operand.Complete language fit)
    (starts : language.Starts) (passes : PassesSigns fit)
    (alternatives : Alternatives language symbols parts)
    (areSymbols : used.map Token.symbol = symbols) (ends : EndsExpr rest) (stop : Nat) :
    Reads (fit (used ++ rest)) (fit rest) (readAlternatives operand stop (used ++ rest))
      fun taken => taken.values = parts ∧ taken.rest = rest := by
  induction alternatives generalizing used with
  | none =>
      obtain rfl := List.map_eq_nil_iff.mp areSymbols
      exact .inl ⟨_, readAlternatives_of_end ends stop, ⟨rfl, rfl⟩, id⟩
  | bar first more inductionHypothesis =>
      obtain ⟨front, back, rfl, isFront, rfl⟩ := List.map_eq_append_iff.mp areSymbols
      obtain ⟨token, front, rfl, isBar, rfl⟩ := List.map_eq_cons_iff.mp isFront
      have isBar := kind_of_symbol isBar (by simp)
      have passesBar := passes token (front ++ (back ++ rest)) (.inr isBar)
      have readFirst := readConjunction_complete complete starts passes first
        (more.endsConjunct ends) stop
      rw [List.append_assoc, List.cons_append,
        readAlternatives_of_bar isBar (first.startsConjunct starts _)]
      rcases readFirst with
        ⟨⟨value, left, _⟩, isFirst, ⟨isValue, isRest⟩, keeps⟩ | ⟨⟨position, deep⟩, unfit⟩
      · rw [isFirst]
        dsimp only [Except.bind] at isValue isRest ⊢
        subst isValue isRest
        rcases inductionHypothesis rfl with
          ⟨taken, isTaken, ⟨rfl, areRest⟩, keepsMore⟩ | ⟨deep, unfit⟩
        · rw [isTaken]
          exact .inl ⟨_, rfl, ⟨rfl, areRest⟩, fun fits => keepsMore (keeps (passesBar fits))⟩
        · exact .inr ⟨deep.map _, fun fits => unfit (keeps (passesBar fits))⟩
      · rw [deep]
        exact .inr ⟨⟨position, rfl⟩, fun fits => unfit (passesBar fits)⟩

/-- An expression is read up to the end or a parenthesis that closes. -/
theorem readExpr_complete (complete : operand.Complete language fit) (starts : language.Starts)
    (passes : PassesSigns fit) (alternation : Alternation language (used.map Token.symbol) expr)
    (ends : EndsExpr rest) (stop : Nat) :
    Reads (fit (used ++ rest)) (fit rest) (readExpr operand stop (used ++ rest)) fun taken =>
      taken.value = expr ∧ taken.rest = rest := by
  generalize areSymbols : used.map Token.symbol = symbols at alternation
  cases alternation with
  | parts first more =>
      obtain ⟨front, back, rfl, rfl, rfl⟩ := List.map_eq_append_iff.mp areSymbols
      rw [List.append_assoc]
      unfold readExpr
      have readFirst := readConjunction_complete complete starts passes first
        (more.endsConjunct ends) stop
      rcases readFirst with
        ⟨⟨value, left, _⟩, isFirst, ⟨isValue, isRest⟩, keeps⟩ | ⟨⟨position, deep⟩, unfit⟩
      · rw [isFirst]
        dsimp only at isValue isRest ⊢
        subst isValue isRest
        rcases readAlternatives_complete complete starts passes more rfl ends stop with
          ⟨taken, isTaken, ⟨rfl, areRest⟩, keepsMore⟩ | ⟨deep, unfit⟩
        · rw [isTaken]
          exact .inl ⟨_, rfl, ⟨rfl, areRest⟩, fun fits => keepsMore (keeps fits)⟩
        · exact .inr ⟨deep.map _, fun fits => unfit (keeps fits)⟩
      · rw [deep]
        exact .inr ⟨⟨position, rfl⟩, unfit⟩

/-! ## Operands -/

theorem negation_starts : Language.Starts Negation := by
  intro symbols expr negation
  cases negation with
  | minus => exact ⟨_, _, rfl, rfl⟩
  | atom atom => cases atom <;> exact ⟨_, _, rfl, rfl⟩

theorem passesSigns (levels : Nat) (outer : List Nat) :
    PassesSigns (AllFit ⟨levels, levels, outer⟩) := by
  rintro token rest (isSign | isSign) fits
  all_goals
    rw [allFit_cons, isSign] at fits
    exact fits.2

theorem Alternation.startsConjunct (starts : language.Starts)
    (alternation : Alternation language (used.map Token.symbol) expr) (rest : List Token) :
    startsConjunct (used ++ rest) = true := by
  generalize areSymbols : used.map Token.symbol = symbols at alternation
  cases alternation with
  | parts first more =>
      obtain ⟨front, back, rfl, rfl, rfl⟩ := List.map_eq_append_iff.mp areSymbols
      rw [List.append_assoc]
      exact first.startsConjunct starts (back ++ rest)

theorem head?_ne_of_startsConjunct (starts : startsConjunct rest = true) :
    rest.head?.map Token.kind ≠ some .rightParen := by
  intro isRight
  cases rest with
  | nil => cases isRight
  | cons token behind =>
      rw [startsConjunct, Option.some.inj isRight] at starts
      cases starts

/-- With so many levels left, the reader of operands takes what derives from `Not`. -/
def CompleteAt (levels : Nat) : Prop :=
  ∀ stop base outer used rest expr, Negation (used.map Token.symbol) expr →
    Reads (AllFit ⟨levels, base, outer⟩ (used ++ rest)) (AllFit ⟨base, base, outer⟩ rest)
      (readOperand levels stop (used ++ rest)) fun taken =>
        taken.value = expr ∧ taken.rest = rest

theorem CompleteAt.operands (complete : CompleteAt levels) (stop : Nat) (outer : List Nat) :
    OperandReader.Complete (readOperand levels stop) Negation (AllFit ⟨levels, levels, outer⟩) :=
  fun used rest expr => complete stop levels outer used rest expr

/-- Where operands are read that derive from the grammar, so are queries. -/
theorem CompleteAt.readWhole (complete : CompleteAt levels) {tokens : List Token}
    (derives : Derives (tokens.map Token.symbol) expr) (stop : Nat) :
    Reads (AllFit (.top levels) tokens) True (readWhole (readOperand levels stop) stop tokens)
      (· = expr) := by
  have ends : EndsExpr [] := nofun
  have readAll := readExpr_complete (complete.operands stop []) negation_starts
    (passesSigns levels []) derives ends stop
  have nonempty : ¬ tokens.isEmpty = true := by
    intro empty
    obtain rfl := List.isEmpty_iff.mp empty
    cases derives.startsConjunct negation_starts []
  rw [List.append_nil] at readAll
  unfold Query.readWhole
  rw [if_neg nonempty]
  rcases readAll with ⟨⟨value, left, _⟩, isTaken, ⟨isValue, isRest⟩, -⟩ | ⟨⟨position, deep⟩, unfit⟩
  · rw [isTaken]
    dsimp only at isValue isRest ⊢
    subst isValue isRest
    exact .inl ⟨value, rfl, rfl, fun _ => trivial⟩
  · rw [deep]
    exact .inr ⟨⟨position, rfl⟩, unfit⟩

/-- A text that is a query is the same one with other levels and from another place, unless
it nests too deep for them. -/
theorem CompleteAt.parseFrom (complete : CompleteAt levels) {text : List Char}
    {before offset : Nat} (parsed : Expr.parseFrom before offset text = .ok expr) (again : Nat) :
    Expr.parseFrom levels again text = .ok expr ∨ TooDeep (Expr.parseFrom levels again text) := by
  unfold Expr.parseFrom at parsed ⊢
  obtain ⟨tokens, scanned, read⟩ := exists_of_bind_eq_ok parsed
  have scannedAgain := scanFrom_again scanned (.inl rfl) levels again
  rw [List.append_nil] at scannedAgain
  rcases scannedAgain with ⟨position, deep⟩ | ⟨same, place, areSame, scannedAgain⟩
  · rw [deep]
    exact .inr ⟨position, rfl⟩
  · have isSame : Token.scanFrom levels again text = .ok same := by
      rw [scannedAgain, scanFrom_eq_nil_iff.mpr fun _ member => absurd member List.not_mem_nil]
      exact congrArg Except.ok (List.append_nil same)
    rw [isSame]
    dsimp only [Except.bind]
    by_cases noTokens : tokens = []
    · subst noTokens
      obtain rfl := List.map_eq_nil_iff.mp areSame
      exact .inl read
    · have derives := readWhole_sound noTokens read
      rw [← areSame] at derives
      rcases complete.readWhole derives (again + byteLength text) with
        ⟨taken, isTaken, rfl, -⟩ | ⟨deep, -⟩
      · exact .inl isTaken
      · exact .inr deep

/-! ## Filters -/

section Moved

variable {written : WrittenFilter} {offset : Nat} {leaf : Leaf}

theorem givenValue_moved {value : String}
    (given : givenValue { written with valueOffset := offset } = .ok value) :
    givenValue written = .ok value := by
  unfold givenValue at given ⊢
  dsimp only at given
  split at given
  · cases given
  · rename_i nonempty
    rw [if_neg nonempty]
    exact given

theorem readCountFilter_moved {toLeaf : Comparison → Nat → Leaf}
    (read : readCountFilter toLeaf { written with valueOffset := offset } = .ok leaf) :
    readCountFilter toLeaf written = .ok leaf := by
  unfold readCountFilter at read ⊢
  obtain ⟨value, given, read⟩ := exists_of_bind_eq_ok read
  rw [givenValue_moved given]
  dsimp only [Except.bind] at read ⊢
  split at read
  · exact read
  · cases read

theorem readTimeFilter_moved {field : TimeField}
    (read : readTimeFilter field { written with valueOffset := offset } = .ok leaf) :
    readTimeFilter field written = .ok leaf := by
  unfold readTimeFilter at read ⊢
  obtain ⟨value, given, read⟩ := exists_of_bind_eq_ok read
  rw [givenValue_moved given]
  dsimp only [Except.bind] at read ⊢
  split at read
  · exact read
  · cases read

theorem readAttributeFilter_moved {key : String}
    (read : readAttributeFilter key { written with valueOffset := offset } = .ok leaf) :
    readAttributeFilter key written = .ok leaf := by
  unfold readAttributeFilter at read ⊢
  dsimp only at read
  split at read
  · rename_i bare
    rw [if_pos bare]
    exact read
  · rename_i notBare
    obtain ⟨value, given, rfl⟩ := exists_of_map_eq_ok read
    rw [if_neg notBare, givenValue_moved given]
    rfl

/-- What a filter asks for does not depend on where its value is. -/
theorem shape_moved (written : WrittenFilter) (offset : Nat) :
    (∃ relation, ({ written with valueOffset := offset } : WrittenFilter).shape = .above relation ∧
      written.shape = .above relation) ∨
    ∃ moved result, ({ written with valueOffset := offset } : WrittenFilter).shape = .leaf moved ∧
      written.shape = .leaf result ∧ ∀ leaf, moved = .ok leaf → result = .ok leaf := by
  obtain ⟨subject, sign, value, place⟩ := written
  cases subject with
  | depth | children => exact .inr ⟨_, _, rfl, rfl, fun _ => readCountFilter_moved⟩
  | created | modified => exact .inr ⟨_, _, rfl, rfl, fun _ => readTimeFilter_moved⟩
  | attr key => exact .inr ⟨_, _, rfl, rfl, fun _ => readAttributeFilter_moved⟩
  | parent | ancestor => exact .inl ⟨_, rfl, rfl⟩

end Moved

/-- What a filter stands for is read with any levels and from any place, unless its argument
nests too deep. -/
theorem readFilter_complete {written : WrittenFilter}
    (reads : FilterReads { written with valueOffset := 0 } expr)
    (complete : ∀ lower < levels, CompleteAt lower) (position : Nat) :
    readFilter levels position written = .ok expr ∨
      TooDeep (readFilter levels position written) := by
  obtain ⟨before, oldPosition, offset, reads⟩ := reads
  dsimp only at reads
  unfold readFilter at reads ⊢
  rcases shape_moved written offset with
    ⟨relation, isMoved, isShape⟩ | ⟨moved, result, isMoved, isShape, same⟩
  · rw [isMoved] at reads
    rw [isShape]
    dsimp only at reads ⊢
    split at reads
    · cases reads
    · rename_i notBlank
      rw [if_neg notBlank]
      cases before with
      | zero => cases reads
      | succ before =>
          obtain ⟨inner, parsed, rfl⟩ := exists_of_map_eq_ok reads
          cases levels with
          | zero => exact .inr ⟨position, rfl⟩
          | succ levels =>
              dsimp only
              rcases (complete levels (Nat.lt_succ_self levels)).parseFrom parsed
                written.valueOffset with isInner | deep
              · rw [isInner]
                exact .inl rfl
              · exact .inr (deep.map _)
  · rw [isMoved] at reads
    rw [isShape]
    dsimp only at reads ⊢
    obtain ⟨leaf, isLeaf, rfl⟩ := exists_of_map_eq_ok reads
    rw [same leaf isLeaf]
    exact .inl rfl

/-- What the grammar sees of a filter is the filter without the place of its value. -/
theorem filter_of_symbol {written : WrittenFilter} (isSymbol : token.symbol = .filter written) :
    ∃ own, token.kind = .filter own ∧ { own with valueOffset := 0 } = written := by
  unfold Token.symbol at isSymbol
  cases isKind : token.kind with
  | filter own =>
      rw [isKind] at isSymbol
      exact ⟨own, rfl, TokenKind.filter.inj isSymbol⟩
  | _ =>
      rw [isKind] at isSymbol
      cases isSymbol

/-- In front of something that derives from `Not`, the reader of operands takes it. -/
theorem readOperand_complete (levels : Nat) : CompleteAt levels := by
  induction levels using Nat.strongRecOn with
  | ind levels inductionHypothesis =>
      intro stop base outer used rest expr negation
      generalize areSymbols : used.map Token.symbol = symbols at negation
      cases negation with
      | minus inner =>
          obtain ⟨token, used, rfl, isMinus, rfl⟩ := List.map_eq_cons_iff.mp areSymbols
          have isMinus := kind_of_symbol isMinus (by simp)
          obtain ⟨first, more, rfl, isStart⟩ := exists_first negation_starts inner
          have starts : startsOperand (first :: more ++ rest) = true := isStart
          rw [List.cons_append, allFit_cons, isMinus, readOperand_minus isMinus starts]
          cases levels with
          | zero =>
              refine .inr ⟨⟨token.position, rfl⟩, fun fits => ?_⟩
              exact absurd (fits.1.1 (.inl isMinus)) (Nat.lt_irrefl 0)
          | succ levels =>
              rcases inductionHypothesis levels (Nat.lt_succ_self levels) stop base outer _ rest _
                inner with ⟨taken, isTaken, ⟨rfl, areRest⟩, keeps⟩ | ⟨deep, unfit⟩
              · dsimp only
                rw [isTaken]
                exact .inl ⟨_, rfl, ⟨rfl, areRest⟩, fun fits => keeps fits.2⟩
              · exact .inr ⟨deep.map _, fun fits => unfit fits.2⟩
      | atom atom =>
          cases atom with
          | text value =>
              obtain ⟨token, used, rfl, isText, areRest⟩ := List.map_eq_cons_iff.mp areSymbols
              obtain rfl := List.map_eq_nil_iff.mp areRest
              have isText := kind_of_symbol isText (by simp)
              rw [List.singleton_append, allFit_cons, isText, readOperand_text (.inl isText)]
              exact .inl ⟨_, rfl, ⟨rfl, rfl⟩, And.right⟩
          | quoted value =>
              obtain ⟨token, used, rfl, isText, areRest⟩ := List.map_eq_cons_iff.mp areSymbols
              obtain rfl := List.map_eq_nil_iff.mp areRest
              have isText := kind_of_symbol isText (by simp)
              rw [List.singleton_append, allFit_cons, isText, readOperand_text (.inr isText)]
              exact .inl ⟨_, rfl, ⟨rfl, rfl⟩, And.right⟩
          | filter reads =>
              obtain ⟨token, used, rfl, isSymbol, areRest⟩ := List.map_eq_cons_iff.mp areSymbols
              obtain rfl := List.map_eq_nil_iff.mp areRest
              obtain ⟨own, isFilter, rfl⟩ := filter_of_symbol isSymbol
              rw [List.singleton_append, allFit_cons, isFilter, readOperand_filter isFilter]
              rcases readFilter_complete reads inductionHypothesis token.position with
                isExpr | deep
              · rw [isExpr]
                exact .inl ⟨_, rfl, ⟨rfl, rfl⟩, And.right⟩
              · refine .inr ⟨deep.map _, fun fits => ?_⟩
                obtain ⟨other, passes⟩ := fits.1.2 own isFilter
                obtain ⟨position, deep⟩ := deep
                rw [deep] at passes
                cases passes
          | group inner =>
              obtain ⟨front, closing, rfl, isFront, isClosing⟩ :=
                List.map_eq_append_iff.mp areSymbols
              obtain ⟨token, used, rfl, isLeft, rfl⟩ := List.map_eq_cons_iff.mp isFront
              obtain ⟨close, none, rfl, isRight, areNone⟩ := List.map_eq_cons_iff.mp isClosing
              obtain rfl := List.map_eq_nil_iff.mp areNone
              have isLeft := kind_of_symbol isLeft (by simp)
              have isRight := kind_of_symbol isRight (by simp)
              have notEmpty := head?_ne_of_startsConjunct
                (inner.startsConjunct negation_starts (close :: rest))
              have ends : EndsExpr (close :: rest) := by
                rintro _ ⟨⟩
                exact isRight
              rw [List.append_assoc, List.cons_append, List.singleton_append, allFit_cons, isLeft,
                readOperand_group isLeft notEmpty]
              cases levels with
              | zero =>
                  refine .inr ⟨⟨token.position, rfl⟩, fun fits => ?_⟩
                  exact absurd (fits.1.1 (.inr isLeft)) (Nat.lt_irrefl 0)
              | succ levels =>
                  have complete := inductionHypothesis levels (Nat.lt_succ_self levels)
                  have readGroup := readExpr_complete (complete.operands stop (base :: outer))
                    negation_starts (passesSigns levels (base :: outer)) inner ends stop
                  dsimp only
                  rcases readGroup with
                    ⟨⟨value, left, _⟩, isTaken, ⟨isValue, isRest⟩, keeps⟩ |
                      ⟨⟨position, deep⟩, unfit⟩
                  · rw [isTaken]
                    dsimp only at isValue isRest ⊢
                    subst isValue isRest
                    dsimp only
                    rw [if_pos isRight]
                    refine .inl ⟨_, rfl, ⟨rfl, rfl⟩, fun fits => ?_⟩
                    have fitsBehind := keeps fits.2
                    rw [allFit_cons, isRight] at fitsBehind
                    exact fitsBehind.2
                  · rw [deep]
                    exact .inr ⟨⟨position, rfl⟩, fun fits => unfit fits.2⟩

/-! ## Whole lists of tokens -/

/-- For a list of tokens whose filters all pass and whose groups, minus signs and
sub-filters nest within the levels, the parser gives exactly what derives in the grammar,
and an error if nothing does. -/
theorem readWhole_eq_ok_iff_derives {tokens : List Token} (nonempty : tokens ≠ [])
    (nests : NestsWithin levels tokens) (pass : FiltersPass levels tokens) (stop : Nat) :
    (∀ expr, readWhole (readOperand levels stop) stop tokens = .ok expr ↔
      Derives (tokens.map Token.symbol) expr) ∧
    ((∀ expr, ¬ Derives (tokens.map Token.symbol) expr) →
      ∃ error, readWhole (readOperand levels stop) stop tokens = .error error) := by
  constructor
  · intro expr
    constructor
    · exact readWhole_sound nonempty
    · intro derives
      rcases (readOperand_complete levels).readWhole derives stop with
        ⟨taken, isTaken, rfl, -⟩ | ⟨-, unfit⟩
      · exact isTaken
      · exact absurd (allFit_of_passes nests pass) unfit
  · intro underivable
    cases read : readWhole (readOperand levels stop) stop tokens with
    | error error => exact ⟨error, rfl⟩
    | ok expr => exact absurd (readWhole_sound nonempty read) (underivable expr)

/-- Signs in front of operands, a quoted text, a group and two filters: what derives from
these tokens is what is read of them. -/
theorem derives_alternatives :
    let tokens := ((Token.scan "+-A | (\"b\" d:2) p:(-c)").toOption).getD []
    let result := readWhole (readOperand maxNesting 23) 23 tokens
    tokens ≠ [] ∧ NestsWithin maxNesting tokens ∧ FiltersPass maxNesting tokens ∧
      ∃ expr, result = .ok expr ∧ Derives (tokens.map Token.symbol) expr ∧
        expr.toText = "(NOT \"a\" OR ((\"b\" AND d:=2) AND PARENT(NOT \"c\")))" := by
  intro tokens result
  have nonempty : tokens ≠ [] := by decide +kernel
  have nests : NestsWithin maxNesting tokens := by decide +kernel
  have pass : FiltersPass maxNesting tokens := by decide +kernel
  have isText : result.map Expr.toText =
      .ok "(NOT \"a\" OR ((\"b\" AND d:=2) AND PARENT(NOT \"c\")))" := by decide +kernel
  obtain ⟨expr, read, isExpr⟩ := exists_of_map_eq_ok isText
  have exact := readWhole_eq_ok_iff_derives nonempty nests pass 23
  exact ⟨nonempty, nests, pass, expr, read, (exact.1 expr).mp read, isExpr⟩

end Outliner.Query
