import Outliner.Proofs.Document.Bare
import Outliner.Search.Refresh

/-!
Contract: what a query reads of a document.

Owns: the relation between two scenes in which queries see the same, that the evaluation of
queries and the lists of matching nodes do not tell such scenes apart, and that documents
with the same bare nodes give such scenes. So queries read neither references nor links.

Main statements: `exprHolds_alike`, `matchingSlots_alike`, `queryMatches_of_bare_eq`.

Does not own: which nodes match an expression.
-/

namespace Outliner

open Outliner.Calendar Outliner.Query

namespace Document

theorem depthWithin_bare (document : Document) (steps slot : Nat) :
    document.bare.depthWithin steps slot = document.depthWithin steps slot := by
  induction steps generalizing slot with
  | zero => rfl
  | succ steps inductionHypothesis =>
      rw [depthWithin, depthWithin, node?_bare, Option.bind_map]
      simp only [inductionHypothesis]
      rfl

theorem depth?_bare (document : Document) (slot : Nat) :
    document.bare.depth? slot = document.depth? slot := by
  unfold depth?
  rw [reach_bare, depthWithin_bare]

end Document

namespace Search

open Document

/-- The scenes are of one day and zone, and what a query looks at is the same in both:
nodes but for references and links, what is above them, and their depths. -/
structure Scene.Alike (left right : Scene) : Prop where
  zone : left.zone = right.zone
  today : left.today = right.today
  nodes : ∀ slot, (left.document.node? slot).map Node.bare =
    (right.document.node? slot).map Node.bare
  ancestors : ∀ slot, left.document.ancestors slot = right.document.ancestors slot
  depths : ∀ slot, left.document.depth? slot = right.document.depth? slot

variable {left right : Scene} {slot : Nat} {node other : Node}

theorem valueHolds_alike (alike : left.Alike right) (actual : String) (test : ValueTest) :
    valueHolds left actual test = valueHolds right actual test := by
  cases test with
  | text sign expected => rfl
  | day test => simp only [valueHolds, alike.zone, alike.today]

/-- A test on a node reads nothing that links change. -/
theorem leafHolds_alike (alike : left.Alike right) (same : node.bare = other.bare) (leaf : Leaf) :
    leafHolds left slot node leaf = leafHolds right slot other leaf := by
  have metadata : node.metadata = other.metadata := congrArg (fun node => node.metadata) same
  cases leaf with
  | text needle =>
      have text : node.text = other.text := congrArg (fun node => node.text) same
      simp only [leafHolds, text]
  | depth sign count =>
      simp only [leafHolds, alike.depths]
  | children sign count =>
      have children : node.children = other.children := congrArg (fun node => node.children) same
      simp only [leafHolds, children]
  | attr key test =>
      cases test <;>
        simp only [leafHolds, Node.attribute?, metadata, valueHolds_alike alike]
  | time field test =>
      cases field <;> simp only [leafHolds, metadata, alike.zone, alike.today]

/-- Whether some slot holds a node that satisfies an expression only depends on bare
nodes if the expression does. -/
theorem any_node?_alike (alike : left.Alike right) {expr : Expr}
    (each : ∀ slot (node other : Node), node.bare = other.bare →
      exprHolds left expr slot node = exprHolds right expr slot other) (slot : Nat) :
    (left.document.node? slot).any (exprHolds left expr slot ·) =
      (right.document.node? slot).any (exprHolds right expr slot ·) := by
  have views := alike.nodes slot
  cases found : left.document.node? slot with
  | none =>
      rw [found, Option.map_none] at views
      rw [Option.map_eq_none_iff.mp views.symm]
      rfl
  | some node =>
      rw [found] at views
      obtain ⟨other, otherFound, same⟩ := Option.map_eq_some_iff.mp views.symm
      rw [otherFound, Option.any_some, Option.any_some, each slot node other same.symm]

mutual

/-- No part of an expression reads references or links. -/
theorem exprHolds_alike (alike : left.Alike right) (slot : Nat) {node other : Node}
    (same : node.bare = other.bare) :
    (expr : Expr) → exprHolds left expr slot node = exprHolds right expr slot other
  | .leaf leaf => by
      rw [exprHolds, exprHolds, leafHolds_alike alike same]
  | .parent inner => by
      have parent : node.parent = other.parent := congrArg (fun node => node.parent) same
      rw [exprHolds, exprHolds, parent]
      simp only [any_node?_alike alike fun slot _ _ same => exprHolds_alike alike slot same inner]
  | .ancestor inner => by
      rw [exprHolds, exprHolds, alike.ancestors]
      simp only [any_node?_alike alike fun slot _ _ same => exprHolds_alike alike slot same inner]
  | .not operand => by
      rw [exprHolds, exprHolds, exprHolds_alike alike slot same operand]
  | .all parts => by
      rw [exprHolds, exprHolds, allHold_alike alike slot same parts]
  | .any parts => by
      rw [exprHolds, exprHolds, anyHolds_alike alike slot same parts]

theorem allHold_alike (alike : left.Alike right) (slot : Nat) {node other : Node}
    (same : node.bare = other.bare) :
    (parts : List Expr) → allHold left parts slot node = allHold right parts slot other
  | [] => by rw [allHold, allHold]
  | part :: rest => by
      rw [allHold, allHold, exprHolds_alike alike slot same part,
        allHold_alike alike slot same rest]

theorem anyHolds_alike (alike : left.Alike right) (slot : Nat) {node other : Node}
    (same : node.bare = other.bare) :
    (parts : List Expr) → anyHolds left parts slot node = anyHolds right parts slot other
  | [] => by rw [anyHolds, anyHolds]
  | part :: rest => by
      rw [anyHolds, anyHolds, exprHolds_alike alike slot same part,
        anyHolds_alike alike slot same rest]

end

/-- Scenes that are alike have the same matching nodes. -/
theorem matchingSlots_alike (alike : left.Alike right)
    (preorder : left.document.preorder = right.document.preorder) (expr : Expr) :
    matchingSlots left expr = matchingSlots right expr := by
  unfold matchingSlots
  rw [preorder]
  congr 1
  funext slot
  exact any_node?_alike alike (fun slot _ _ same => exprHolds_alike alike slot same expr) slot

/-- The ids that are found are those of the matching slots, in order. -/
theorem map_id_matchingNodes (scene : Scene) (expr : Expr) :
    (matchingNodes scene expr).map (·.id) =
      scene.document.idsOf (matchingSlots scene expr) :=
  List.map_filterMap

variable {before after : Document}

theorem sceneAlike_of_bare_eq (same : after.bare = before.bare) (zone : Zone) (now : Instant) :
    (Scene.ofNow after zone now).Alike (Scene.ofNow before zone now) where
  zone := rfl
  today := rfl
  nodes slot := by
    show (after.node? slot).map Node.bare = (before.node? slot).map Node.bare
    rw [← node?_bare, same, node?_bare]
  ancestors slot := ancestors_of_bare_eq same slot
  depths slot := by
    show after.depth? slot = before.depth? slot
    rw [← depth?_bare, same, depth?_bare]

/-- Documents that only differ in references and links have the same matching nodes. -/
theorem matchingSlots_of_bare_eq (same : after.bare = before.bare) (zone : Zone) (now : Instant)
    (expr : Expr) : matchingSlots (Scene.ofNow after zone now) expr =
      matchingSlots (Scene.ofNow before zone now) expr :=
  matchingSlots_alike (sceneAlike_of_bare_eq same zone now) (preorder_of_bare_eq same) expr

theorem queryMatches_of_bare_eq (same : after.bare = before.bare) (zone : Zone) (now : Instant)
    (query : String) : queryMatches (Scene.ofNow after zone now) query =
      queryMatches (Scene.ofNow before zone now) query := by
  have ids : ∀ expr, (matchingNodes (Scene.ofNow after zone now) expr).map (·.id) =
      (matchingNodes (Scene.ofNow before zone now) expr).map (·.id) := by
    intro expr
    rw [map_id_matchingNodes, map_id_matchingNodes, matchingSlots_of_bare_eq same]
    exact idsOf_of_bare_eq same _
  unfold queryMatches
  simp only [ids]

end Search

end Outliner
