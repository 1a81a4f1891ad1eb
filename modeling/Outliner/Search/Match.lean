import Outliner.Document.Tree
import Outliner.Numeral.Binary64
import Outliner.Query.Expr.Parse
import Outliner.Text.Occurrence

/-!
Contract: which nodes of a document match an expression.

Owns: the test of a single node, and the scan that lists the matching nodes in
pre-order.

Texts match wherever they occur in the node's text, without regard to case.
Values of attributes are ordered as numbers when both are numbers, and as texts
otherwise; equality is always that of texts. Virtual children are never looked
at.

Does not own: what a relative day means before today is known, and the clock.
-/

namespace Outliner.Search

open Outliner.Calendar Outliner.Query Outliner.Text

/-- What an expression is evaluated in: a document, the local zone and the local
day on which it is evaluated. -/
structure Scene where
  document : Document
  zone : Zone
  today : Date

def Scene.ofNow (document : Document) (zone : Zone) (now : Instant) : Scene :=
  ⟨document, zone, zone.dateAt now⟩

/-- The order of two values as numbers, if both are numbers that have an order. -/
def numericOrder? (left right : String) : Option Ordering :=
  (Numeral.Binary64.read (trim left.toList)).bind fun left =>
    (Numeral.Binary64.read (trim right.toList)).bind fun right =>
      Numeral.Binary64.compare? left right

def valueCompares (sign : Comparison) (actual expected : String) : Bool :=
  if sign.asksOrder then
    match numericOrder? actual expected with
    | some order => sign.accepts order
    | none => sign.test actual expected
  else sign.test actual expected

/-- Whether the value of an attribute passes a test. A value that does not read
as an instant differs from every day. -/
def valueHolds (scene : Scene) (actual : String) : ValueTest → Bool
  | .text sign expected => valueCompares sign actual expected
  | .day test =>
    match readAttributeInstant scene.zone actual.toList with
    | some instant => test.holds scene.zone scene.today instant
    | none => test.sign == .notEqual

def leafHolds (scene : Scene) (slot : Nat) (node : Node) : Leaf → Bool
  | .text needle => Text.contains (lowercase node.text) needle
  | .depth sign count => (scene.document.depth? slot).any (sign.test · count)
  | .children sign count => sign.test node.children.length count
  | .attr key none => (node.attribute? key).isSome
  | .attr key (some test) => (node.attribute? key).any (valueHolds scene · test)
  | .time .created test => test.holds scene.zone scene.today node.metadata.created
  | .time .modified test => test.holds scene.zone scene.today node.metadata.modified

mutual

def exprHolds (scene : Scene) : Expr → Nat → Node → Bool
  | .leaf leaf, slot, node => leafHolds scene slot node leaf
  | .parent inner, _, node =>
    node.parent.any fun slot =>
      (scene.document.node? slot).any (exprHolds scene inner slot ·)
  | .ancestor inner, slot, _ =>
    (scene.document.ancestors slot).any fun slot =>
      (scene.document.node? slot).any (exprHolds scene inner slot ·)
  | .not operand, slot, node => !exprHolds scene operand slot node
  | .all parts, slot, node => allHold scene parts slot node
  | .any parts, slot, node => anyHolds scene parts slot node

def allHold (scene : Scene) : List Expr → Nat → Node → Bool
  | [], _, _ => true
  | part :: rest, slot, node => exprHolds scene part slot node && allHold scene rest slot node

def anyHolds (scene : Scene) : List Expr → Nat → Node → Bool
  | [], _, _ => false
  | part :: rest, slot, node => exprHolds scene part slot node || anyHolds scene rest slot node

end

/-- Whether a slot holds a node that satisfies an expression. -/
def matchesSlot (scene : Scene) (expr : Expr) (slot : Nat) : Bool :=
  (scene.document.node? slot).any (exprHolds scene expr slot ·)

/-- At a live slot a leaf is tested on the node there. -/
theorem matchesSlot_leaf {scene : Scene} {slot : Nat} {node : Node}
    (found : scene.document.node? slot = some node) (leaf : Leaf) :
    matchesSlot scene (.leaf leaf) slot = leafHolds scene slot node leaf := by
  rw [matchesSlot, found, Option.any_some, exprHolds]

/-- The slots of the matching nodes, in pre-order. -/
def matchingSlots (scene : Scene) (expr : Expr) : List Nat :=
  scene.document.preorder.filter (matchesSlot scene expr)

def matchingNodes (scene : Scene) (expr : Expr) : List Node :=
  (matchingSlots scene expr).filterMap scene.document.node?

end Outliner.Search
