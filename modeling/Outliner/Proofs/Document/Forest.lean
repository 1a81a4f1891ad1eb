import Mathlib.Data.List.Nodup
import Outliner.Document.Tree
import Outliner.Proofs.Store.FreeChain

/-!
Contract: documents whose nodes form a forest.

Owns: the invariant `Owned`, under which every node is owned once, by the list of
roots or by one parent; the depth of a slot as a relation; and that the bound on the
ways up and down is never met: `ancestors` goes up to a root, `tree?` goes down to
every leaf.

Does not own: the order of the slots (`Proofs.Document.Preorder`), and which
operations keep the invariant (`Proofs.Document.Ownership`).
-/

namespace Outliner

open Outliner.Store

namespace Document

variable {document : Document} {slot parent child depth : Nat} {node : Node}

def Live (document : Document) (slot : Nat) : Prop :=
  ∃ node, document.node? slot = some node

/-- The way up from a slot that holds a node ends at a root after so many steps. -/
inductive AtDepth (document : Document) : Nat → Nat → Prop where
  | root {slot : Nat} (live : document.Live slot) (isRoot : document.parent? slot = none) :
      AtDepth document slot 0
  | under {slot parent depth : Nat} (hasParent : document.parent? slot = some parent)
      (atDepth : AtDepth document parent depth) : AtDepth document slot (depth + 1)

/-- Every node is owned exactly once: roots are the nodes without a parent, the children
of a node are the nodes whose parent it is, neither are repeated, and the way up from
every node ends at a root. -/
structure Owned (document : Document) : Prop where
  sound : document.nodes.Sound
  roots_nodup : document.roots.Nodup
  mem_roots : ∀ slot, slot ∈ document.roots ↔
    document.Live slot ∧ document.parent? slot = none
  children_nodup : ∀ slot node, document.node? slot = some node → node.children.Nodup
  mem_children : ∀ slot node, document.node? slot = some node →
    ∀ child, child ∈ node.children ↔ document.parent? child = some slot
  rooted : ∀ slot, document.Live slot → ∃ depth, document.AtDepth slot depth

/-! ## The way up -/

theorem parent?_of_node? (found : document.node? slot = some node) :
    document.parent? slot = node.parent := by
  rw [parent?, found]
  rfl

theorem parent?_of_vacant (vacant : document.node? slot = none) : document.parent? slot = none := by
  rw [parent?, vacant]
  rfl

/-- A slot that is not live holds no node. -/
theorem node?_of_not_live (vacant : ¬ document.Live slot) : document.node? slot = none := by
  rw [← Option.not_isSome_iff_eq_none, Option.isSome_iff_exists]
  exact vacant

theorem live_of_parent? (hasParent : document.parent? slot = some parent) :
    document.Live slot := by
  obtain ⟨node, found, -⟩ := Option.bind_eq_some_iff.mp hasParent
  exact ⟨node, found⟩

/-- Every slot with a node is below the bound on the length of paths. -/
theorem Live.lt_reach (live : document.Live slot) : slot < document.reach := by
  obtain ⟨node, found⟩ := live
  exact Arena.lt_size_of_get? found

theorem AtDepth.live (atDepth : document.AtDepth slot depth) : document.Live slot := by
  cases atDepth with
  | root live _ => exact live
  | under hasParent _ => exact live_of_parent? hasParent

theorem Owned.parent_live (owned : document.Owned)
    (hasParent : document.parent? slot = some parent) : document.Live parent := by
  obtain ⟨depth, atDepth⟩ := owned.rooted slot (live_of_parent? hasParent)
  cases atDepth with
  | root _ isRoot =>
      rw [hasParent] at isRoot
      cases isRoot
  | under above parentDepth =>
      rw [hasParent] at above
      cases above
      exact parentDepth.live

/-- A node is at one depth only. -/
theorem AtDepth.unique {left right : Nat} (leftDepth : document.AtDepth slot left)
    (rightDepth : document.AtDepth slot right) : left = right := by
  induction leftDepth generalizing right with
  | root _ isRoot =>
      cases rightDepth with
      | root => rfl
      | under hasParent _ =>
          rw [isRoot] at hasParent
          cases hasParent
  | under hasParent _ inductionHypothesis =>
      cases rightDepth with
      | root _ isRoot =>
          rw [isRoot] at hasParent
          cases hasParent
      | under otherParent otherDepth =>
          rw [hasParent] at otherParent
          cases otherParent
          rw [inductionHypothesis otherDepth]

/-- The slots on the way up from a slot are as many as its depth says, and all differ. -/
theorem AtDepth.exists_path (atDepth : document.AtDepth slot depth) :
    ∃ path : List Nat, path.length = depth + 1 ∧ path.Nodup ∧
      ∀ other ∈ path, ∃ otherDepth ≤ depth, document.AtDepth other otherDepth := by
  induction atDepth with
  | @root slot live isRoot =>
      refine ⟨[slot], rfl, List.nodup_singleton slot, ?_⟩
      intro other member
      rw [List.mem_singleton.mp member]
      exact ⟨0, Nat.le_refl _, .root live isRoot⟩
  | @under slot parent depth hasParent atDepth inductionHypothesis =>
      obtain ⟨path, length, nodup, depths⟩ := inductionHypothesis
      refine ⟨slot :: path, by rw [List.length_cons, length], ?_, ?_⟩
      · refine List.nodup_cons.mpr ⟨?_, nodup⟩
        intro member
        obtain ⟨otherDepth, bounded, same⟩ := depths slot member
        have equal := same.unique (.under hasParent atDepth)
        omega
      · intro other member
        rcases List.mem_cons.mp member with rfl | inPath
        · exact ⟨depth + 1, Nat.le_refl _, .under hasParent atDepth⟩
        · obtain ⟨otherDepth, bounded, same⟩ := depths other inPath
          exact ⟨otherDepth, Nat.le_succ_of_le bounded, same⟩

/-- No slot is as deep as the store has slots. -/
theorem AtDepth.lt_reach (atDepth : document.AtDepth slot depth) : depth < document.reach := by
  obtain ⟨path, length, nodup, depths⟩ := atDepth.exists_path
  have included : path ⊆ List.range document.reach := by
    intro other member
    obtain ⟨otherDepth, -, same⟩ := depths other member
    exact List.mem_range.mpr same.live.lt_reach
  have bounded := nodup.length_le_of_subset included
  rw [length, List.length_range] at bounded
  exact bounded

theorem ancestorsWithin_of_root (isRoot : document.parent? slot = none) (steps : Nat) :
    document.ancestorsWithin steps slot = [] := by
  cases steps with
  | zero => rfl
  | succ steps => simp only [ancestorsWithin, isRoot]

theorem ancestorsWithin_of_parent (hasParent : document.parent? slot = some parent) (steps : Nat) :
    document.ancestorsWithin (steps + 1) slot =
      parent :: document.ancestorsWithin steps parent := by
  simp only [ancestorsWithin, hasParent]

/-- Steps beyond a slot's depth do not change its ancestors. -/
theorem AtDepth.ancestorsWithin_eq (atDepth : document.AtDepth slot depth) {steps : Nat}
    (enough : depth ≤ steps) :
    document.ancestorsWithin steps slot = document.ancestorsWithin depth slot := by
  induction atDepth generalizing steps with
  | root _ isRoot =>
      rw [ancestorsWithin_of_root isRoot, ancestorsWithin_of_root isRoot]
  | under hasParent _ inductionHypothesis =>
      cases steps with
      | zero => cases enough
      | succ steps =>
          rw [ancestorsWithin_of_parent hasParent, ancestorsWithin_of_parent hasParent,
            inductionHypothesis (Nat.le_of_succ_le_succ enough)]

theorem ancestors_of_root (isRoot : document.parent? slot = none) :
    document.ancestors slot = [] :=
  ancestorsWithin_of_root isRoot document.reach

/-- The ancestors of a slot are its parent and the ancestors of its parent. -/
theorem AtDepth.ancestors_of_parent (atDepth : document.AtDepth parent depth)
    (hasParent : document.parent? slot = some parent) :
    document.ancestors slot = parent :: document.ancestors parent := by
  have bounded := (AtDepth.under hasParent atDepth).lt_reach
  obtain ⟨steps, reach⟩ := Nat.exists_eq_succ_of_ne_zero (Nat.ne_of_gt (Nat.zero_lt_of_lt bounded))
  have enough : depth ≤ steps := by omega
  unfold ancestors
  rw [reach, ancestorsWithin_of_parent hasParent, atDepth.ancestorsWithin_eq enough,
    atDepth.ancestorsWithin_eq (Nat.le_succ_of_le enough)]

/-- A node is not above itself. -/
theorem AtDepth.of_mem_ancestors (atDepth : document.AtDepth slot depth) {above : Nat}
    (member : above ∈ document.ancestors slot) :
    ∃ aboveDepth < depth, document.AtDepth above aboveDepth := by
  induction atDepth with
  | root _ isRoot =>
      rw [ancestors_of_root isRoot] at member
      cases member
  | @under slot parent depth hasParent parentDepth inductionHypothesis =>
      rw [parentDepth.ancestors_of_parent hasParent] at member
      rcases List.mem_cons.mp member with rfl | higher
      · exact ⟨depth, Nat.lt_succ_self depth, parentDepth⟩
      · obtain ⟨aboveDepth, less, aboveAt⟩ := inductionHypothesis higher
        exact ⟨aboveDepth, Nat.lt_succ_of_lt less, aboveAt⟩

/-- No node is above itself. -/
theorem AtDepth.not_mem_ancestors (atDepth : document.AtDepth slot depth) :
    slot ∉ document.ancestors slot := by
  intro member
  obtain ⟨otherDepth, less, other⟩ := atDepth.of_mem_ancestors member
  have equal := atDepth.unique other
  omega

/-- Documents with the same parents have the same ways up. -/
theorem ancestors_congr {before after : Document} (reach : after.reach = before.reach)
    (parents : ∀ slot, after.parent? slot = before.parent? slot) (slot : Nat) :
    after.ancestors slot = before.ancestors slot := by
  unfold ancestors
  rw [reach]
  induction before.reach generalizing slot with
  | zero => rfl
  | succ steps inductionHypothesis =>
      simp only [ancestorsWithin, parents, inductionHypothesis]

/-- A way up that is in two documents is the same in both. -/
theorem AtDepth.ancestors_eq {before after : Document} (beforeAt : before.AtDepth slot depth)
    (afterAt : after.AtDepth slot depth)
    (parents : ∀ other, before.Live other → after.Live other →
      after.parent? other = before.parent? other) :
    after.ancestors slot = before.ancestors slot := by
  induction beforeAt with
  | root live isRoot =>
      rw [ancestors_of_root isRoot]
      exact ancestors_of_root ((parents _ live afterAt.live).trans isRoot)
  | under hasParent beforeParentAt inductionHypothesis =>
      have sameParent := parents _ (live_of_parent? hasParent) afterAt.live
      cases afterAt with
      | under afterParent afterParentAt =>
          rw [sameParent, hasParent] at afterParent
          obtain rfl := Option.some.inj afterParent
          rw [beforeParentAt.ancestors_of_parent hasParent,
            afterParentAt.ancestors_of_parent (sameParent.trans hasParent),
            inductionHypothesis afterParentAt]

/-! ## The way down -/

end Document

def Tree.slot : Tree → Nat
  | .branch slot _ => slot

/-- Every slot of the tree holds a node, with the trees of its children below it. -/
inductive Tree.Fits (document : Document) : Tree → Prop where
  | branch {slot : Nat} {node : Node} {trees : List Tree}
      (found : document.node? slot = some node)
      (children : trees.map Tree.slot = node.children)
      (fits : ∀ tree ∈ trees, Tree.Fits document tree) :
      Tree.Fits document (.branch slot trees)

namespace Document

variable {document : Document} {slot parent child depth : Nat} {node : Node}

/-- Slots that each have a fitting tree have a list of fitting trees. -/
theorem filterMap_fits {treeOf : Nat → Option Tree} {slots : List Nat}
    (each : ∀ slot ∈ slots, ∃ tree, treeOf slot = some tree ∧ tree.slot = slot ∧
      tree.Fits document) :
    (slots.filterMap treeOf).map Tree.slot = slots ∧
      ∀ tree ∈ slots.filterMap treeOf, tree.Fits document := by
  induction slots with
  | nil => exact ⟨rfl, fun tree member => by cases member⟩
  | cons slot rest inductionHypothesis =>
      obtain ⟨first, isTree, sameSlot, fits⟩ := each slot List.mem_cons_self
      obtain ⟨sameSlots, restFit⟩ := inductionHypothesis
        (fun other member => each other (List.mem_cons_of_mem slot member))
      rw [List.filterMap_cons_some isTree]
      refine ⟨by rw [List.map_cons, sameSlot, sameSlots], ?_⟩
      intro tree member
      rcases List.mem_cons.mp member with rfl | inRest
      · exact fits
      · exact restFit tree inRest

/-- There is a tree below every node, once there are levels enough. -/
theorem Owned.exists_treeWithin (owned : document.Owned) (levels : Nat)
    (atDepth : document.AtDepth slot depth) (enough : document.reach ≤ levels + depth) :
    ∃ tree, document.treeWithin levels slot = some tree ∧ tree.slot = slot ∧
      tree.Fits document := by
  induction levels generalizing slot depth with
  | zero =>
      have bounded := atDepth.lt_reach
      omega
  | succ levels inductionHypothesis =>
      obtain ⟨node, found⟩ := atDepth.live
      have childTrees : ∀ child ∈ node.children, ∃ tree,
          document.treeWithin levels child = some tree ∧ tree.slot = child ∧
            tree.Fits document := by
        intro child member
        have above := (owned.mem_children slot node found child).mp member
        exact inductionHypothesis (.under above atDepth) (by omega)
      obtain ⟨sameSlots, fits⟩ := filterMap_fits childTrees
      exact ⟨_, by rw [treeWithin, found]; rfl, rfl, .branch found sameSlots fits⟩

theorem Owned.exists_tree? (owned : document.Owned) (live : document.Live slot) :
    ∃ tree, document.tree? slot = some tree ∧ tree.slot = slot ∧ tree.Fits document := by
  obtain ⟨depth, atDepth⟩ := owned.rooted slot live
  exact owned.exists_treeWithin document.reach atDepth (Nat.le_add_right _ _)

theorem subtree_of_tree? {tree : Tree} (isTree : document.tree? slot = some tree) :
    document.subtree slot = tree.preorder := by
  rw [subtree, isTree]
  rfl

/-- The subtree of a node lists a tree that fits the document. -/
theorem Owned.exists_subtree (owned : document.Owned) (live : document.Live slot) :
    ∃ tree : Tree, document.subtree slot = tree.preorder ∧ tree.slot = slot ∧
      tree.Fits document := by
  obtain ⟨tree, isTree, isRoot, fits⟩ := owned.exists_tree? live
  exact ⟨tree, subtree_of_tree? isTree, isRoot, fits⟩

/-- The trees of the forest are those of the roots, and fit the document. -/
theorem Owned.forest_fits (owned : document.Owned) :
    document.forest.map Tree.slot = document.roots ∧
      ∀ tree ∈ document.forest, tree.Fits document := by
  apply filterMap_fits
  intro root member
  exact owned.exists_tree? ((owned.mem_roots root).mp member).1

end Document

end Outliner
