import Outliner.Document.Basic

/-!
Contract: the forest that the nodes of a document form.

Owns: the tree below a slot; the slots of a tree before their descendants
(`preorder`), and in the order in which a removal frees them; the way up from a
slot, and its depth.

The way down and the way up are followed for at most as many steps as the store
has slots, which is as long as a path without repetition can be.

Does not own: changes of the forest (`Document.Edit`).
-/

namespace Outliner

/-- A slot with the trees below it. -/
inductive Tree where
  | branch (slot : Nat) (children : List Tree)

namespace Tree

mutual

/-- The slots of a tree, each before the slots below it. -/
def preorder : Tree → List Nat
  | .branch slot children => slot :: preorderOfAll children

def preorderOfAll : List Tree → List Nat
  | [] => []
  | tree :: rest => tree.preorder ++ preorderOfAll rest

end

mutual

/-- The slots of a tree as a removal frees them: each before the slots below it,
the last child first. -/
def removalOrder : Tree → List Nat
  | .branch slot children => slot :: removalOrderOfAll children

/-- The slots of trees as a removal frees them, the last tree first. -/
def removalOrderOfAll : List Tree → List Nat
  | [] => []
  | tree :: rest => removalOrderOfAll rest ++ tree.removalOrder

end

end Tree

namespace Document

/-- A bound on the length of every path without repetition. -/
def reach (document : Document) : Nat :=
  document.nodes.entries.size

/-- The tree below a slot, down to a given number of levels. -/
def treeWithin (document : Document) : Nat → Nat → Option Tree
  | 0, _ => none
  | levels + 1, slot =>
    (document.node? slot).map fun node =>
      .branch slot (node.children.filterMap (document.treeWithin levels))

/-- The tree below a slot; none if the slot is vacant. -/
def tree? (document : Document) (slot : Nat) : Option Tree :=
  document.treeWithin document.reach slot

def forest (document : Document) : List Tree :=
  document.roots.filterMap document.tree?

/-- All slots of the forest, each before the slots below it. -/
def preorder (document : Document) : List Nat :=
  Tree.preorderOfAll document.forest

/-- A slot and the slots below it; nothing if the slot is vacant. -/
def subtree (document : Document) (slot : Nat) : List Nat :=
  ((document.tree? slot).map Tree.preorder).getD []

def parent? (document : Document) (slot : Nat) : Option Nat :=
  (document.node? slot).bind Node.parent

/-- The slots above a slot, from its parent upwards, at most a given number. -/
def ancestorsWithin (document : Document) : Nat → Nat → List Nat
  | 0, _ => []
  | steps + 1, slot =>
    match document.parent? slot with
    | some parent => parent :: document.ancestorsWithin steps parent
    | none => []

/-- The slots above a slot, from its parent upwards. -/
def ancestors (document : Document) (slot : Nat) : List Nat :=
  document.ancestorsWithin document.reach slot

/-- How far a root is above a slot, if it is at most a given number of steps and
every slot on the way holds a node. -/
def depthWithin (document : Document) : Nat → Nat → Option Nat
  | 0, _ => none
  | steps + 1, slot =>
    (document.node? slot).bind fun node =>
      match node.parent with
      | some parent => (document.depthWithin steps parent).map (· + 1)
      | none => some 0

/-- How far the root is above a slot; none if the slot is vacant. -/
def depth? (document : Document) (slot : Nat) : Option Nat :=
  document.depthWithin document.reach slot

end Document

end Outliner
