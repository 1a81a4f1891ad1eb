import Outliner.Proofs.Query.NormalForm
import Outliner.Proofs.Query.Wrapping

/-!
Contract: how deep the expressions that queries are read as are nested.

Owns: the ways down through an expression, with how many negations, sub-filters and joined
parts there are on each, and the bounds that the levels of nesting set to these.

Main statements: `Expr.Bounded.of_parts`, `bounded_of_parseFrom`.

Does not own: how deep the text of a query is nested (`Proofs.Query.Openings`).
-/

namespace Outliner.Query

open Outliner.Text

/-! ## Ways down -/

/-- The expressions on a way down from an expression through its parts. -/
inductive Expr.Path : Expr → List Expr → Prop where
  | stop (expr : Expr) : Path expr [expr]
  | down {part expr : Expr} {nodes : List Expr} :
      part ∈ expr.parts → part.Path nodes → Path expr (expr :: nodes)

/-- Negations and questions about nodes above. -/
def Expr.isNested : Expr → Bool
  | .not _ | .parent _ | .ancestor _ => true
  | _ => false

/-- On every way down there are at most so many nested and so many joined expressions. -/
def Expr.Bounded (nested joined : Nat) (expr : Expr) : Prop :=
  ∀ nodes, expr.Path nodes →
    nodes.countP Expr.isNested ≤ nested ∧ nodes.countP Expr.isJoined ≤ joined

variable {expr : Expr} {nested joined levels : Nat}

theorem Expr.Bounded.mono {lessNested lessJoined : Nat}
    (bounded : expr.Bounded lessNested lessJoined)
    (isNested : lessNested ≤ nested) (isJoined : lessJoined ≤ joined) :
    expr.Bounded nested joined := by
  intro nodes path
  have bound := bounded nodes path
  exact ⟨bound.1.trans isNested, bound.2.trans isJoined⟩

/-- An expression counts for itself on every way down from it. -/
theorem Expr.Bounded.of_parts (bounded : ∀ part ∈ expr.parts, part.Bounded nested joined) :
    expr.Bounded (nested + expr.isNested.toNat) (joined + expr.isJoined.toNat) := by
  intro nodes path
  cases path with
  | stop =>
      rw [List.countP_singleton, List.countP_singleton]
      cases expr.isNested <;> cases expr.isJoined <;> simp
  | down isPart path =>
      have bound := bounded _ isPart _ path
      rw [List.countP_cons, List.countP_cons]
      cases expr.isNested <;> cases expr.isJoined <;> simpa using bound

/-- An expression with nothing below it. -/
theorem Expr.bounded_of_no_parts (noParts : expr.parts = []) :
    expr.Bounded expr.isNested.toNat expr.isJoined.toNat := by
  have bounded : expr.Bounded (0 + expr.isNested.toNat) (0 + expr.isJoined.toNat) :=
    .of_parts (by simp [noParts])
  rwa [Nat.zero_add, Nat.zero_add] at bounded

theorem Expr.bounded_leaf (leaf : Leaf) (nested joined : Nat) :
    (Expr.leaf leaf).Bounded nested joined :=
  (Expr.bounded_of_no_parts rfl).mono (Nat.zero_le _) (Nat.zero_le _)

theorem Expr.Bounded.one_part {inner : Expr} (bounded : inner.Bounded nested joined)
    (isOne : expr = .not inner ∨ expr = .parent inner ∨ expr = .ancestor inner) :
    expr.Bounded (nested + 1) joined := by
  rcases isOne with rfl | rfl | rfl <;>
    exact .of_parts (by simpa [Expr.parts] using bounded)

/-- Each level makes for one nested expression, and for one conjunction and one list of
alternatives. -/
theorem builds_bounded (source : List Char) :
    Builds source (fun levels => Expr.Bounded levels (2 * levels))
      (fun levels => Expr.Bounded levels (2 * levels + 1))
      fun levels => Expr.Bounded levels (2 * levels + 2) where
  text _ _ _ := Expr.bounded_leaf _ _ _
  filter _ _ _ _ _ := Expr.bounded_leaf _ _ _
  parent _ _ bounded := bounded.one_part (.inr (.inl rfl))
  ancestor _ _ bounded := bounded.one_part (.inr (.inr rfl))
  not _ _ bounded := (bounded.one_part (.inl rfl)).mono (Nat.le_refl _) (Nat.le_add_right _ 2)
  group _ _ bounded := bounded.mono (Nat.le_succ _) (Nat.le_refl _)
  joining _ := {
    single := fun _ bounded => bounded.mono (Nat.le_refl _) (Nat.le_succ _)
    all := fun _ _ _ bounded => Expr.Bounded.of_parts bounded
    alone := fun _ bounded => bounded.mono (Nat.le_refl _) (Nat.le_succ _)
    any := fun _ _ _ bounded => Expr.Bounded.of_parts bounded }

/-- What is read with so many levels nests no deeper, and is joined at most twice for each level
and twice more. -/
theorem bounded_of_parseFrom {offset : Nat} {text : List Char}
    (parsed : Expr.parseFrom levels offset text = .ok expr) :
    expr.Bounded levels (2 * levels + 2) := by
  by_cases blank : ∀ char ∈ text, isBlank char = true
  · obtain rfl := Except.ok.inj (parsed.symm.trans (parseFrom_of_blank blank levels offset))
    have bounded : (Expr.all []).Bounded 0 1 := Expr.bounded_of_no_parts rfl
    exact bounded.mono (Nat.zero_le _) (by omega)
  · exact (builds_bounded text).readsAll levels offset text expr (fun _ => id) blank parsed

end Outliner.Query
