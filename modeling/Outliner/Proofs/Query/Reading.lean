import Mathlib.Data.List.TakeWhile
import Outliner.Proofs.Query.Operands

/-!
Contract: what the expressions that are read have in common.

Owns: the tokens that a text is made of, those of the arguments of its sub-filters included;
that properties of operands, of conjunctions and of queries which these tokens and the rules
of the grammar keep hold of whatever is read; and that a query is blank exactly if its
text is.

Main statements: `Builds.readsAll`, `isBlank_of_parse`.

Does not own: which texts are queries.
-/

namespace Outliner.Query

open Outliner.Text

/-- A token of this kind is one of a text, or of the argument of a sub-filter in it. -/
inductive TokenKind.OccursIn : TokenKind → List Char → Prop where
  | token {levels offset : Nat} {text : List Char} {tokens : List Token} {token : Token} :
      Token.scanFrom levels offset text = .ok tokens → token ∈ tokens → token.kind.OccursIn text
  | argument {written : WrittenFilter} {kind : TokenKind} {text : List Char} :
      (TokenKind.filter written).OccursIn text →
      written.subject = .parent ∨ written.subject = .ancestor →
      kind.OccursIn written.value.toList → kind.OccursIn text

/-- Properties of operands, of conjunctions and of queries that are read with so many levels,
as the tokens of a text and the rules of the grammar keep them. -/
structure Builds (source : List Char) (operand conjunction query : Nat → Expr → Prop) : Prop where
  text : ∀ levels value,
    (TokenKind.text value).OccursIn source ∨ (TokenKind.quoted value).OccursIn source →
      operand levels (.leaf (.text (lowercase value)))
  filter : ∀ levels written leaf, (TokenKind.filter written).OccursIn source →
    written.shape = .leaf (.ok leaf) → operand levels (.leaf leaf)
  parent : ∀ levels inner, query levels inner → operand (levels + 1) (.parent inner)
  ancestor : ∀ levels inner, query levels inner → operand (levels + 1) (.ancestor inner)
  not : ∀ levels expr, operand levels expr → operand (levels + 1) (.not expr)
  group : ∀ levels expr, query levels expr → operand (levels + 1) expr
  joining : ∀ levels, Joining (operand levels) (conjunction levels) (query levels)

variable {source text : List Char} {operand conjunction query : Nat → Expr → Prop} {levels : Nat}
  {written : WrittenFilter} {relation : Expr → Expr}

/-- Only the two filters on what is above a node take a query as their value. -/
theorem shape_above (isAbove : written.shape = .above relation) :
    written.subject = .parent ∧ relation = .parent ∨
      written.subject = .ancestor ∧ relation = .ancestor := by
  unfold WrittenFilter.shape at isAbove
  split at isAbove
  all_goals
    cases isAbove
    try simp [*]

theorem trim_isEmpty_of_blank (blank : ∀ char ∈ text, isBlank char = true) :
    (trim text).isEmpty = true := by
  have noStart : trimStart text = [] := List.dropWhile_eq_nil_iff.mpr blank
  rw [trim, noStart]
  rfl

/-- What is read of a text other than white space, by texts of which it is made. -/
def ReadsAll (levels : Nat) (source : List Char) (query : Nat → Expr → Prop) : Prop :=
  ∀ offset text expr, (∀ kind : TokenKind, kind.OccursIn text → kind.OccursIn source) →
    (¬ ∀ char ∈ text, isBlank char = true) → Expr.parseFrom levels offset text = .ok expr →
      query levels expr

/-- What a filter stands for is good if the query within it is, which is read with fewer
levels. -/
theorem Builds.readFilter (builds : Builds source operand conjunction query) {position : Nat}
    (occurs : (TokenKind.filter written).OccursIn source)
    (inner : ∀ lower < levels, ReadsAll lower source query) :
    Outcome (operand levels) (fun _ => True) (readFilter levels position written) := by
  unfold Query.readFilter
  split
  · rename_i result isLeaf
    cases result with
    | error error => trivial
    | ok leaf => exact builds.filter levels written leaf occurs isLeaf
  · rename_i relation isAbove
    split
    · trivial
    · rename_i notBlank
      cases levels with
      | zero => trivial
      | succ levels =>
          dsimp only
          cases parsed : Expr.parseFrom levels written.valueOffset written.value.toList with
          | error error => trivial
          | ok expr =>
              have isSubject := shape_above isAbove
              have isQuery := inner levels (Nat.lt_succ_self levels) _ _ expr
                (fun kind => .argument occurs (isSubject.imp And.left And.left))
                (fun blank => notBlank (trim_isEmpty_of_blank blank)) parsed
              rcases isSubject with ⟨-, rfl⟩ | ⟨-, rfl⟩
              · exact builds.parent levels expr isQuery
              · exact builds.ancestor levels expr isQuery

/-- Rules about what a text is built of are laws of its operands. The tokens left only need to
occur in the source. -/
theorem Builds.laws (builds : Builds source operand conjunction query) (stop : Nat)
    (inner : ∀ lower < levels, ReadsAll lower source query) :
    OperandLaws levels stop (fun _ tokens => ∀ token ∈ tokens, token.kind.OccursIn source)
      (fun _ => True) operand conjunction query where
  next _ _ _ occur _ := (List.forall_mem_cons.mp occur).2
  blame _ _ _ _ _ _ := trivial
  blameEnd _ _ := trivial
  deep _ _ _ _ _ _ := trivial
  text nesting token rest value isText occur := by
    have occurs := (List.forall_mem_cons.mp occur).1
    apply builds.text
    rcases isText with isText | isQuoted
    · exact .inl (isText ▸ occurs)
    · exact .inr (isQuoted ▸ occurs)
  filter nesting token rest written atMost isFilter occur := by
    have occurs := (List.forall_mem_cons.mp occur).1
    rw [isFilter] at occurs
    exact builds.readFilter occurs fun lower isLower =>
      inner lower (Nat.lt_of_lt_of_le isLower atMost)
  not := builds.not
  group := builds.group
  joining := builds.joining

/-- What holds with so many levels if it holds with fewer, as sub-filters have for their
arguments, holds of whatever is read. -/
theorem readsAll_of_laws
    (laws : ∀ levels stop, (∀ lower < levels, ReadsAll lower source query) →
      OperandLaws levels stop (fun _ tokens => ∀ token ∈ tokens, token.kind.OccursIn source)
        (fun _ => True) operand conjunction query) (levels : Nat) :
    ReadsAll levels source query := by
  induction levels using Nat.strongRecOn with
  | ind levels inductionHypothesis =>
      intro offset text expr isSource notBlank parsed
      unfold Expr.parseFrom at parsed
      obtain ⟨tokens, scanned, read⟩ := exists_of_bind_eq_ok parsed
      have nonempty : tokens ≠ [] := by
        rintro rfl
        exact notBlank (scanFrom_eq_nil_iff.mp scanned)
      have outcome := (laws levels (offset + byteLength text) inductionHypothesis).readWhole
        nonempty fun token member => isSource _ (.token scanned member)
      rw [read] at outcome
      exact outcome.1

/-- What the tokens of a text and the rules of the grammar keep holds of what is read of it. -/
theorem Builds.readsAll (builds : Builds source operand conjunction query) (levels : Nat) :
    ReadsAll levels source query :=
  readsAll_of_laws (fun _ stop => builds.laws stop) levels

/-! ## Blank queries -/

/-- No operand is the expression of a blank query, and joining makes none. -/
theorem builds_not_blank (source : List Char) :
    Builds source (fun _ expr => expr.isBlank = false) (fun _ expr => expr.isBlank = false)
      fun _ expr => expr.isBlank = false where
  text _ _ _ := rfl
  filter _ _ _ _ _ := rfl
  parent _ _ _ := rfl
  ancestor _ _ _ := rfl
  not _ _ _ := rfl
  group _ _ notBlank := notBlank
  joining _ := ⟨fun _ => id, fun _ _ _ _ => rfl, fun _ => id, fun _ _ _ _ => rfl⟩

theorem parseFrom_of_blank (blank : ∀ char ∈ text, isBlank char = true) (levels offset : Nat) :
    Expr.parseFrom levels offset text = .ok (.all []) := by
  unfold Expr.parseFrom
  rw [scanFrom_eq_nil_iff.mpr blank]
  rfl

/-- A blank text is the empty conjunction. -/
theorem parse_of_blank {text : String} (blank : ∀ char ∈ text.toList, isBlank char = true) :
    Expr.parse text = .ok (.all []) :=
  parseFrom_of_blank blank _ _

/-- The expression of a query is blank exactly if its text is white space. -/
theorem isBlank_of_parse {text : String} {expr : Expr} (parsed : Expr.parse text = .ok expr) :
    expr.isBlank = true ↔ ∀ char ∈ text.toList, isBlank char = true := by
  constructor
  · intro isBlank
    apply Decidable.byContradiction
    intro notBlank
    have isQuery := (builds_not_blank text.toList).readsAll maxNesting _ _ expr (fun _ => id)
      notBlank parsed
    exact absurd isBlank (Bool.eq_false_iff.mp isQuery)
  · intro blank
    obtain rfl := Except.ok.inj (parsed.symm.trans (parse_of_blank blank))
    rfl

end Outliner.Query
