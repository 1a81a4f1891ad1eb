import Outliner.Proofs.Query.NormalForm

/-!
Contract: where the terms of an expression come from.

Owns: what a token stands for by itself, and that each text and each filter in the expression of a
query, those in arguments of sub-filters included, is what some token of the query stands for.

Main statement: `exists_token_of_term`.

Does not own: how terms are joined (`Proofs.Query.Grammar`).
-/

namespace Outliner.Query

open Outliner.Text

def Expr.isTerm : Expr → Bool
  | .leaf _ | .parent _ | .ancestor _ => true
  | .not _ | .all _ | .any _ => false

/-- What a token stands for by itself. -/
def TokenKind.StandsFor : TokenKind → Expr → Prop
  | .text value, term | .quoted value, term => term = .leaf (.text (lowercase value))
  | .filter written, term => FilterReads written term
  | _, _ => False

/-- Every text and every filter in an expression is what a token of a text stands for. -/
def Expr.IsSourced (source : List Char) (expr : Expr) : Prop :=
  ∀ term : Expr, term.Within expr → term.isTerm = true →
    ∃ kind : TokenKind, kind.OccursIn source ∧ kind.StandsFor term

variable {source : List Char} {expr inner : Expr} {written : WrittenFilter} {levels : Nat}

/-- An expression that is no term has its texts from its parts. -/
theorem isSourced_of_parts (noTerm : expr.isTerm = false)
    (sourced : ∀ part ∈ expr.parts, part.IsSourced source) : expr.IsSourced source := by
  intro term within isTerm
  cases within with
  | self =>
      rw [noTerm] at isTerm
      cases isTerm
  | deeper isPart within => exact sourced _ isPart term within isTerm

/-- A term is sourced if a token stands for it and what is inside it is sourced. -/
theorem isSourced_of_term {kind : TokenKind} (occurs : kind.OccursIn source)
    (standsFor : kind.StandsFor expr) (sourced : ∀ part ∈ expr.parts, part.IsSourced source) :
    expr.IsSourced source := by
  intro term within isTerm
  cases within with
  | self => exact ⟨kind, occurs, standsFor⟩
  | deeper isPart within => exact sourced _ isPart term within isTerm

/-- A filter is read as a test of the node, or as a query about nodes above with what its argument
is read as. -/
theorem readFilter_cases {position : Nat}
    (isRead : readFilter levels position written = .ok expr) :
    (∃ leaf, written.shape = .leaf (.ok leaf) ∧ expr = .leaf leaf) ∨
      ∃ lower inner, levels = lower + 1 ∧ (¬ ∀ char ∈ written.value.toList, isBlank char = true) ∧
        Expr.parseFrom lower written.valueOffset written.value.toList = .ok inner ∧
        (written.subject = .parent ∧ expr = .parent inner ∨
          written.subject = .ancestor ∧ expr = .ancestor inner) := by
  unfold readFilter at isRead
  split at isRead
  · rename_i result isLeaf
    obtain ⟨leaf, rfl, rfl⟩ := exists_of_map_eq_ok isRead
    exact .inl ⟨leaf, isLeaf, rfl⟩
  · rename_i relation isAbove
    split at isRead
    · cases isRead
    · rename_i notBlank
      cases levels with
      | zero => cases isRead
      | succ levels =>
          obtain ⟨inner, parsed, rfl⟩ := exists_of_map_eq_ok isRead
          refine .inr ⟨levels, inner, rfl, fun blank => notBlank (trim_isEmpty_of_blank blank),
            parsed, ?_⟩
          rcases shape_above isAbove with ⟨isParent, rfl⟩ | ⟨isAncestor, rfl⟩
          · exact .inl ⟨isParent, rfl⟩
          · exact .inr ⟨isAncestor, rfl⟩

/-- A filter takes its texts from the query it was written in. -/
theorem readFilter_sourced {position : Nat} (occurs : (TokenKind.filter written).OccursIn source)
    (inner : ∀ lower < levels, ReadsAll lower source fun _ => Expr.IsSourced source) :
    Outcome (Expr.IsSourced source) (fun _ => True) (readFilter levels position written) := by
  cases isRead : readFilter levels position written with
  | error error => trivial
  | ok expr =>
      have standsFor : (TokenKind.filter written).StandsFor expr :=
        ⟨levels, position, written.valueOffset, isRead⟩
      refine isSourced_of_term occurs standsFor ?_
      rcases readFilter_cases isRead with
        ⟨leaf, -, rfl⟩ | ⟨lower, argument, rfl, notBlank, parsed, isAbove⟩
      · exact nofun
      · have sourced := inner lower (Nat.lt_succ_self lower) _ _ argument
          (fun kind => .argument occurs (isAbove.imp And.left And.left)) notBlank parsed
        rcases isAbove with ⟨-, rfl⟩ | ⟨-, rfl⟩ <;> exact List.forall_mem_singleton.mpr sourced

/-- Reading operands and joining them keeps expressions sourced. -/
theorem sourced_laws (source : List Char) (levels stop : Nat)
    (inner : ∀ lower < levels, ReadsAll lower source fun _ => Expr.IsSourced source) :
    OperandLaws levels stop (fun _ tokens => ∀ token ∈ tokens, token.kind.OccursIn source)
      (fun _ => True) (fun _ => Expr.IsSourced source) (fun _ => Expr.IsSourced source)
      fun _ => Expr.IsSourced source where
  next _ _ _ occur _ := (List.forall_mem_cons.mp occur).2
  blame _ _ _ _ _ _ := trivial
  blameEnd _ _ := trivial
  deep _ _ _ _ _ _ := trivial
  text _ token _ value isText occur := by
    have occurs := (List.forall_mem_cons.mp occur).1
    have standsFor : token.kind.StandsFor (.leaf (.text (lowercase value))) := by
      rcases isText with isText | isQuoted
      · rw [isText]
        rfl
      · rw [isQuoted]
        rfl
    exact isSourced_of_term occurs standsFor nofun
  filter _ token _ written atMost isFilter occur := by
    have occurs := (List.forall_mem_cons.mp occur).1
    rw [isFilter] at occurs
    exact readFilter_sourced occurs fun lower isLower =>
      inner lower (Nat.lt_of_lt_of_le isLower atMost)
  not _ _ sourced := isSourced_of_parts rfl (List.forall_mem_singleton.mpr sourced)
  group _ _ sourced := sourced
  joining _ := {
    single := fun _ => id
    all := fun _ _ _ sourced => isSourced_of_parts rfl sourced
    alone := fun _ => id
    any := fun _ _ _ sourced => isSourced_of_parts rfl sourced }

/-- Each text and each filter in the expression of a query is what a token of the query, or of
the argument of a sub-filter in it, stands for. -/
theorem exists_token_of_term {text : String} {term : Expr} (parsed : Expr.parse text = .ok expr)
    (within : term.Within expr) (isTerm : term.isTerm = true) :
    ∃ kind : TokenKind, kind.OccursIn text.toList ∧ kind.StandsFor term := by
  by_cases blank : ∀ char ∈ text.toList, isBlank char = true
  · obtain rfl := Except.ok.inj (parsed.symm.trans (parse_of_blank blank))
    cases within with
    | self => cases isTerm
    | deeper isPart => cases isPart
  · exact readsAll_of_laws (sourced_laws text.toList) maxNesting 0 text.toList expr (fun _ => id)
      blank parsed term within isTerm

end Outliner.Query
