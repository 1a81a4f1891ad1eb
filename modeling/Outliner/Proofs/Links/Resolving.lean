import Mathlib.Logic.Relation
import Outliner.Document.Links
import Outliner.Proofs.Document.Forest

/-!
Contract: a resolution sets the links of one node after another.

Owns: the resolution of one node, reached by any way down, and that the resolutions of a tree
and of the whole document are such steps in a row.

Nothing here asks for distinct identifiers. Where two nodes share one, the walk can lose an
identifier that still is on the way, and the visits of `Proofs.Links.Visit` say nothing.

Main statements: `resolving_relink` and `Owned.exists_resolving_linkBelow`.

Does not own: what such steps leave alone (`Proofs.Document.Bare`), and where the links of a
node come from (`Proofs.Links.Referred`).
-/

namespace Outliner

namespace Document

/-- The references of the node in a slot are resolved, with some identifiers on the way down
to it. -/
inductive ResolveStep (slot : Nat) (before : Document) : Document → Prop where
  | resolved {node : Node} (found : before.node? slot = some node) (path : List NodeId) :
      ResolveStep slot before (before.update slot (Node.setLinks (before.linksOf path node)))

/-- The references of any number of nodes are resolved, one node after another. -/
abbrev Resolving : Document → Document → Prop :=
  Relation.ReflTransGen fun before after => ∃ slot, ResolveStep slot before after

variable {slot : Nat} {node : Node}

mutual

/-- Resolving a tree resolves nodes one after another. -/
theorem resolving_linkTree (walk : Walk) :
    (tree : Tree) → Resolving walk.document (walk.linkTree tree).document
  | .branch slot trees => by
      rw [Walk.linkTree]
      split
      · exact .refl
      · rename_i node found
        exact .head ⟨slot, .resolved found _⟩
          (resolving_linkTrees (walk.linkNode slot node) trees)

theorem resolving_linkTrees (walk : Walk) :
    (trees : List Tree) → Resolving walk.document (walk.linkTrees trees).document
  | [] => by rw [Walk.linkTrees]
  | tree :: rest => by
      rw [Walk.linkTrees]
      exact (resolving_linkTree walk tree).trans (resolving_linkTrees (walk.linkTree tree) rest)

end

/-- The walk through a tree begins with its root. -/
theorem exists_resolving_linkTree (walk : Walk) {tree : Tree}
    (found : walk.document.node? tree.slot = some node) :
    ∃ entered, ResolveStep tree.slot walk.document entered ∧
      Resolving entered (walk.linkTree tree).document := by
  cases tree with
  | branch slot trees =>
      have isRoot : walk.document.node? slot = some node := found
      rw [Walk.linkTree, isRoot]
      exact ⟨_, .resolved isRoot _, resolving_linkTrees (walk.linkNode slot node) trees⟩

theorem resolving_linkBelow (document : Document) (slot : Nat) (path : List NodeId)
    (counts : LinkCounts) :
    Resolving document (document.linkBelow slot path counts).document := by
  unfold linkBelow
  split
  · rename_i tree _
    exact resolving_linkTree ⟨document, path, counts⟩ tree
  · exact .refl

/-- Resolving the trees of some roots resolves nodes one after another. -/
theorem resolving_linkRoots (document : Document) (counts : LinkCounts) (roots : List Nat) :
    Resolving document (document.linkRoots counts roots).2 := by
  induction roots generalizing document counts with
  | nil => exact .refl
  | cons root rest inductionHypothesis =>
      rw [linkRoots]
      exact (resolving_linkBelow document root [] counts).trans (inductionHypothesis _ _)

/-- Building all links anew resolves nodes that have no links. -/
theorem resolving_relink (document : Document) :
    Resolving document.ensureIndex.clearLinks document.relink.2 :=
  resolving_linkRoots _ _ _

/-- The resolution of what is below a node begins with the node. -/
theorem Owned.exists_resolving_linkBelow {document : Document} (owned : document.Owned)
    (live : document.Live slot) (path : List NodeId) (counts : LinkCounts) :
    ∃ entered, ResolveStep slot document entered ∧
      Resolving entered (document.linkBelow slot path counts).document := by
  obtain ⟨node, found⟩ := live
  obtain ⟨tree, isTree, rfl, -⟩ := owned.exists_tree? ⟨node, found⟩
  rw [linkBelow, isTree]
  exact exists_resolving_linkTree ⟨document, path, counts⟩ found

end Document

end Outliner
