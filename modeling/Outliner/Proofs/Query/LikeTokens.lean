import Mathlib.Data.List.Forall2
import Outliner.Proofs.Query.Openings

/-!
Contract: tokens that stand for the same.

Owns: when two tokens can be exchanged, and that a list of tokens in which each one is exchanged
for a like one is read as the same expression.

The readers are not run side by side. What they read derives in the grammar and fits, both stay
so when tokens are exchanged, and what derives and fits is read.

Main statement: `readWhole_like`.

Does not own: which texts give like tokens (`Proofs.Query.LetterCase`).
-/

namespace Outliner.Query

open Outliner.Text

/-- Two readings succeed with the same value, or both fail. -/
def SucceedAlike {α : Type} (first second : Except QueryError α) : Prop :=
  ∀ value, first = .ok value ↔ second = .ok value

/-- Two filters have their values at the same place and are read as the same, also where these
values are at another place. -/
structure WrittenFilter.IsLike (written other : WrittenFilter) : Prop where
  samePlace : written.valueOffset = other.valueOffset
  readsSame : ∀ levels position offset,
    SucceedAlike (readFilter levels position { written with valueOffset := offset })
      (readFilter levels position { other with valueOffset := offset })

/-- Two tokens are the same sign, or texts that are the same in lower case, or like filters. -/
inductive TokenKind.IsLike : TokenKind → TokenKind → Prop where
  | same (kind : TokenKind) : kind.IsLike kind
  | text {value other : String} :
      lowercase value = lowercase other → (TokenKind.text value).IsLike (.text other)
  | quoted {value other : String} :
      lowercase value = lowercase other → (TokenKind.quoted value).IsLike (.quoted other)
  | filter {written other : WrittenFilter} :
      written.IsLike other → (TokenKind.filter written).IsLike (.filter other)

def Token.IsLike (token other : Token) : Prop :=
  token.position = other.position ∧ token.kind.IsLike other.kind

variable {written otherWritten : WrittenFilter} {kind otherKind : TokenKind} {token other : Token}
  {tokens others : List Token} {symbols otherSymbols : List TokenKind} {expr : Expr}
  {nesting : Nesting} {levels stop left : Nat}

theorem succeedAlike_error {α : Type} (first second : QueryError) :
    SucceedAlike (.error first : Except QueryError α) (.error second) :=
  fun _ => ⟨nofun, nofun⟩

theorem SucceedAlike.symm {α : Type} {first second : Except QueryError α}
    (alike : SucceedAlike first second) : SucceedAlike second first :=
  fun value => (alike value).symm

theorem SucceedAlike.map {α β : Type} {first second : Except QueryError α}
    (alike : SucceedAlike first second) (change : α → β) :
    SucceedAlike (first.map change) (second.map change) := by
  have forward {first second : Except QueryError α} (alike : SucceedAlike first second) (value : β)
      (succeeds : first.map change = .ok value) : second.map change = .ok value := by
    obtain ⟨inner, isInner, rfl⟩ := exists_of_map_eq_ok succeeds
    rw [(alike inner).mp isInner]
    rfl
  exact fun value => ⟨forward alike value, forward alike.symm value⟩

theorem WrittenFilter.IsLike.symm (isLike : written.IsLike otherWritten) :
    otherWritten.IsLike written :=
  ⟨isLike.samePlace.symm, fun levels position offset =>
    (isLike.readsSame levels position offset).symm⟩

theorem TokenKind.IsLike.symm (isLike : kind.IsLike otherKind) : otherKind.IsLike kind := by
  cases isLike with
  | same => exact .same _
  | text sameLower => exact .text sameLower.symm
  | quoted sameLower => exact .quoted sameLower.symm
  | filter isLike => exact .filter isLike.symm

theorem Token.IsLike.symm (isLike : token.IsLike other) : other.IsLike token :=
  ⟨isLike.1.symm, isLike.2.symm⟩

/-! ## What derives -/

theorem Token.IsLike.symbol (isLike : token.IsLike other) :
    token.symbol.IsLike other.symbol := by
  unfold Token.symbol
  obtain ⟨-, isLike⟩ := isLike
  generalize token.kind = kind at isLike
  generalize other.kind = otherKind at isLike
  cases isLike with
  | same => exact .same _
  | text sameLower => exact .text sameLower
  | quoted sameLower => exact .quoted sameLower
  | filter isLike => exact .filter ⟨rfl, isLike.readsSame⟩

/-- Like filters stand for the same. -/
theorem filterReads_like (reads : FilterReads written expr)
    (isLike : written.IsLike otherWritten) : FilterReads otherWritten expr := by
  obtain ⟨levels, position, valueOffset, isRead⟩ := reads
  exact ⟨levels, position, valueOffset, (isLike.readsSame _ _ _ _).mp isRead⟩

/-- What is like two parts has two parts like them. -/
theorem exists_like_parts {front back : List TokenKind}
    (like : List.Forall₂ TokenKind.IsLike (front ++ back) otherSymbols) :
    ∃ otherFront otherBack, otherSymbols = otherFront ++ otherBack ∧
      List.Forall₂ TokenKind.IsLike front otherFront ∧
      List.Forall₂ TokenKind.IsLike back otherBack := by
  induction front generalizing otherSymbols with
  | nil => exact ⟨[], otherSymbols, rfl, .nil, like⟩
  | cons symbol front inductionHypothesis =>
      cases like with
      | @cons _ other _ others isLike like =>
          obtain ⟨otherFront, otherBack, rfl, frontLike, backLike⟩ := inductionHypothesis like
          exact ⟨other :: otherFront, otherBack, rfl, .cons isLike frontLike, backLike⟩

/-- Tokens are in a language with this value, and so are all tokens like them. -/
def Shared {α : Type} (language : List TokenKind → α → Prop) (symbols : List TokenKind)
    (value : α) : Prop :=
  ∀ others, List.Forall₂ TokenKind.IsLike symbols others → language others value

section Rules

variable {operand : Language} {front back : List TokenKind} {first : Expr} {rest : List Expr}

theorem Shared.minus (inner : Shared Negation symbols expr) :
    Shared Negation (.minus :: symbols) (.not expr) := by
  rintro _ (_ | ⟨isMinus, like⟩)
  cases isMinus
  exact .minus (inner _ like)

theorem Shared.atom (inner : Shared (Atom Negation) symbols expr) :
    Shared Negation symbols expr :=
  fun _ like => .atom (inner _ like)

theorem shared_text (value : String) :
    Shared (Atom operand) [.text value] (.leaf (.text (lowercase value))) := by
  rintro _ (_ | ⟨isLike, noMore⟩)
  cases noMore
  cases isLike with
  | same => exact .text value
  | text sameLower =>
      rw [sameLower]
      exact .text _

theorem shared_quoted (value : String) :
    Shared (Atom operand) [.quoted value] (.leaf (.text (lowercase value))) := by
  rintro _ (_ | ⟨isLike, noMore⟩)
  cases noMore
  cases isLike with
  | same => exact .quoted value
  | quoted sameLower =>
      rw [sameLower]
      exact .quoted _

theorem shared_filter (reads : FilterReads written expr) :
    Shared (Atom operand) [.filter written] expr := by
  rintro _ (_ | ⟨isLike, noMore⟩)
  cases noMore
  cases isLike with
  | same => exact .filter reads
  | filter isLike => exact .filter (filterReads_like reads isLike)

theorem Shared.group (inner : Shared (Alternation operand) symbols expr) :
    Shared (Atom operand) (.leftParen :: symbols ++ [.rightParen]) expr := by
  intro others like
  obtain ⟨front, back, rfl, frontLike, backLike⟩ := exists_like_parts like
  rcases frontLike with _ | ⟨isLeft, innerLike⟩
  rcases backLike with _ | ⟨isRight, noMore⟩
  cases isLeft
  cases isRight
  cases noMore
  exact .group (inner _ innerLike)

theorem Shared.alternation (isFirst : Shared (Conjunction operand) front first)
    (isRest : Shared (Alternatives operand) back rest) :
    Shared (Alternation operand) (front ++ back) (joinParts .any first rest) := by
  intro others like
  obtain ⟨front, back, rfl, frontLike, backLike⟩ := exists_like_parts like
  exact .parts (isFirst _ frontLike) (isRest _ backLike)

theorem Shared.bar (isFirst : Shared (Conjunction operand) front first)
    (isRest : Shared (Alternatives operand) back rest) :
    Shared (Alternatives operand) (.bar :: front ++ back) (first :: rest) := by
  intro others like
  obtain ⟨front, back, rfl, frontLike, backLike⟩ := exists_like_parts like
  rcases frontLike with _ | ⟨isBar, firstLike⟩
  cases isBar
  exact .bar (isFirst _ firstLike) (isRest _ backLike)

theorem Shared.conjunction (parts : Shared (Conjuncts operand) symbols (first :: rest)) :
    Shared (Conjunction operand) symbols (joinParts .all first rest) :=
  fun _ like => .parts (parts _ like)

theorem Shared.adjacent (isFirst : Shared operand front first)
    (isRest : Shared (Conjuncts operand) back rest) :
    Shared (Conjuncts operand) (front ++ back) (first :: rest) := by
  intro others like
  obtain ⟨front, back, rfl, frontLike, backLike⟩ := exists_like_parts like
  exact .adjacent (isFirst _ frontLike) (isRest _ backLike)

theorem Shared.plus (isFirst : Shared operand front first)
    (isRest : Shared (Conjuncts operand) back rest) :
    Shared (Conjuncts operand) (.plus :: front ++ back) (first :: rest) := by
  intro others like
  obtain ⟨front, back, rfl, frontLike, backLike⟩ := exists_like_parts like
  rcases frontLike with _ | ⟨isPlus, firstLike⟩
  cases isPlus
  exact .plus (isFirst _ firstLike) (isRest _ backLike)

end Rules

mutual

/-- What derives from `Not` is shared by like tokens. -/
theorem negation_shared {symbols : List TokenKind} {expr : Expr} :
    Negation symbols expr → Shared Negation symbols expr
  | .minus inner => (negation_shared inner).minus
  | .atom atom => (atom_shared atom).atom

theorem atom_shared {symbols : List TokenKind} {expr : Expr} :
    Atom Negation symbols expr → Shared (Atom Negation) symbols expr
  | .text value => shared_text value
  | .quoted value => shared_quoted value
  | .filter reads => shared_filter reads
  | .group inner => (derives_shared inner).group

/-- What derives in the grammar still does when tokens in it are exchanged for like ones. -/
theorem derives_shared {symbols : List TokenKind} {expr : Expr} :
    Derives symbols expr → Shared Derives symbols expr
  | .parts first more => (conjunction_shared first).alternation (alternatives_shared more)

theorem alternatives_shared {symbols : List TokenKind} {parts : List Expr} :
    Alternatives Negation symbols parts → Shared (Alternatives Negation) symbols parts
  | .none => fun _ like => by
      cases like
      exact .none
  | .bar first more => (conjunction_shared first).bar (alternatives_shared more)

theorem conjunction_shared {symbols : List TokenKind} {expr : Expr} :
    Conjunction Negation symbols expr → Shared (Conjunction Negation) symbols expr
  | .parts conjuncts => (conjuncts_shared conjuncts).conjunction

theorem conjuncts_shared {symbols : List TokenKind} {parts : List Expr} :
    Conjuncts Negation symbols parts → Shared (Conjuncts Negation) symbols parts
  | .none => fun _ like => by
      cases like
      exact .none
  | .adjacent first more => (negation_shared first).adjacent (conjuncts_shared more)
  | .plus first more => (negation_shared first).plus (conjuncts_shared more)

end

/-! ## What fits -/

theorem Token.IsLike.fits (isLike : token.IsLike other) (fits : Fits token left) :
    Fits other left := by
  obtain ⟨samePlace, isLike⟩ := isLike
  obtain ⟨nests, passes⟩ := fits
  unfold Fits
  rw [samePlace] at passes
  generalize token.kind = kind at isLike nests passes
  generalize other.kind = otherKind at isLike
  cases isLike with
  | same => exact ⟨nests, passes⟩
  | text | quoted => exact ⟨by simp, nofun⟩
  | @filter written otherWritten isLike =>
      refine ⟨by simp, ?_⟩
      rintro _ ⟨⟩
      obtain ⟨expr, isRead⟩ := passes written rfl
      have isReadThere := (isLike.readsSame left other.position written.valueOffset expr).mp isRead
      rw [isLike.samePlace] at isReadThere
      exact ⟨expr, isReadThere⟩

theorem TokenKind.IsLike.after (isLike : kind.IsLike otherKind) (nesting : Nesting) :
    nesting.after kind = nesting.after otherKind := by
  cases isLike <;> rfl

theorem allFit_like (like : List.Forall₂ Token.IsLike tokens others)
    (fit : AllFit nesting tokens) : AllFit nesting others := by
  induction like generalizing nesting with
  | nil => exact fit
  | cons isLike _ inductionHypothesis =>
      rw [allFit_cons] at fit ⊢
      rw [← isLike.2.after]
      exact ⟨isLike.fits fit.1, inductionHypothesis fit.2⟩

/-! ## What is read -/

/-- Like tokens are read as the same expression. -/
theorem readWhole_like (like : List.Forall₂ Token.IsLike tokens others)
    (isRead : readWhole (readOperand levels stop) stop tokens = .ok expr) :
    readWhole (readOperand levels stop) stop others = .ok expr := by
  by_cases noTokens : tokens = []
  · subst noTokens
    cases like
    exact isRead
  · have symbolsLike :
        List.Forall₂ TokenKind.IsLike (tokens.map Token.symbol) (others.map Token.symbol) := by
      rw [List.forall₂_map_left_iff, List.forall₂_map_right_iff]
      exact like.imp fun _ _ => Token.IsLike.symbol
    have derives := derives_shared (readWhole_sound noTokens isRead) _ symbolsLike
    have fit := allFit_like like (allFit_of_readWhole noTokens isRead)
    rcases (readOperand_complete levels).readWhole derives stop with
      ⟨taken, isTaken, rfl, -⟩ | ⟨-, unfit⟩
    · exact isTaken
    · exact absurd fit unfit

/-- Like tokens are read alike. -/
theorem readWhole_succeedAlike (like : List.Forall₂ Token.IsLike tokens others) :
    SucceedAlike (readWhole (readOperand levels stop) stop tokens)
      (readWhole (readOperand levels stop) stop others) := by
  have likeBack : List.Forall₂ Token.IsLike others tokens :=
    (like.imp fun _ _ => Token.IsLike.symm).flip
  exact fun expr => ⟨readWhole_like like, readWhole_like likeBack⟩

end Outliner.Query
