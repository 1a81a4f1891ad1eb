import Mathlib.Data.List.Nodup
import Outliner.Proofs.Document.Forest

/-!
Contract: the order in which a forest is walked.

Owns: which slots a tree and the whole forest list, that none is listed twice, that a
slot comes after all slots above it, and the relation `Precedes`.

Main statements: `Owned.mem_preorder` and `Owned.preorder_nodup` say that the pre-order
lists exactly the slots that hold nodes, each once; `Owned.precedes_of_mem_ancestors`
that it lists a slot after its ancestors.

Does not own: the invariant of a forest (`Proofs.Document.Forest`).
-/

namespace Outliner

open Outliner.Store

/-! ## The slots of a tree -/

namespace Tree

theorem preorderOfAll_eq_flatMap (trees : List Tree) :
    preorderOfAll trees = trees.flatMap preorder := by
  induction trees with
  | nil => rw [preorderOfAll, List.flatMap_nil]
  | cons tree rest inductionHypothesis =>
      rw [preorderOfAll, inductionHypothesis, List.flatMap_cons]

theorem preorder_branch (slot : Nat) (trees : List Tree) :
    (branch slot trees).preorder = slot :: trees.flatMap preorder := by
  rw [preorder, preorderOfAll_eq_flatMap]

theorem slot_mem_preorder (tree : Tree) : tree.slot ∈ tree.preorder := by
  cases tree with
  | branch slot trees =>
      rw [preorder_branch]
      exact List.mem_cons_self

mutual

/-- A removal frees the slots of the pre-order in another order. -/
theorem removalOrder_perm : (tree : Tree) → tree.removalOrder.Perm tree.preorder
  | .branch root trees => by
      rw [removalOrder, preorder]
      exact (removalOrderOfAll_perm trees).cons root

theorem removalOrderOfAll_perm : (trees : List Tree) →
    (removalOrderOfAll trees).Perm (preorderOfAll trees)
  | [] => by rw [removalOrderOfAll, preorderOfAll]
  | tree :: rest => by
      rw [removalOrderOfAll, preorderOfAll]
      exact List.perm_append_comm.trans
        ((removalOrder_perm tree).append (removalOrderOfAll_perm rest))

end

end Tree

namespace Document

variable {document : Document} {slot parent child above depth : Nat} {node : Node} {tree : Tree}

/-- What is above a node above is above. -/
theorem AtDepth.ancestors_trans (atDepth : document.AtDepth slot depth)
    (lower : parent ∈ document.ancestors slot) (higher : above ∈ document.ancestors parent) :
    above ∈ document.ancestors slot := by
  induction atDepth with
  | root _ isRoot =>
      rw [ancestors_of_root isRoot] at lower
      cases lower
  | under hasParent parentDepth inductionHypothesis =>
      rw [parentDepth.ancestors_of_parent hasParent] at lower ⊢
      apply List.mem_cons_of_mem
      rcases List.mem_cons.mp lower with rfl | inHigher
      · exact higher
      · exact inductionHypothesis inHigher

/-- Of the slots from a slot upwards, only one has a given depth. -/
theorem AtDepth.unique_on_line (atDepth : document.AtDepth slot depth) {left right level : Nat}
    (leftOn : left = slot ∨ left ∈ document.ancestors slot)
    (rightOn : right = slot ∨ right ∈ document.ancestors slot)
    (leftLevel : document.AtDepth left level) (rightLevel : document.AtDepth right level) :
    left = right := by
  induction atDepth with
  | root _ isRoot =>
      rw [ancestors_of_root isRoot] at leftOn rightOn
      simp only [List.not_mem_nil, or_false] at leftOn rightOn
      exact leftOn.trans rightOn.symm
  | @under slot parent depth hasParent parentDepth inductionHypothesis =>
      have slotDepth : document.AtDepth slot (depth + 1) := .under hasParent parentDepth
      -- A slot above another of the same depth would be lower than itself.
      rcases leftOn with rfl | leftAbove
      · rcases rightOn with rfl | rightAbove
        · rfl
        · obtain ⟨otherDepth, less, other⟩ := slotDepth.of_mem_ancestors rightAbove
          have := other.unique rightLevel
          have := slotDepth.unique leftLevel
          omega
      · rcases rightOn with rfl | rightAbove
        · obtain ⟨otherDepth, less, other⟩ := slotDepth.of_mem_ancestors leftAbove
          have := other.unique leftLevel
          have := slotDepth.unique rightLevel
          omega
        · rw [parentDepth.ancestors_of_parent hasParent, List.mem_cons] at leftAbove rightAbove
          exact inductionHypothesis leftAbove rightAbove

end Document

namespace Tree.Fits

open Document

variable {document : Document} {slot parent child above : Nat} {node : Node} {tree : Tree}

theorem live (fits : tree.Fits document) (member : slot ∈ tree.preorder) :
    document.Live slot := by
  induction fits with
  | branch found _ _ inductionHypothesis =>
      rw [preorder_branch] at member
      rcases List.mem_cons.mp member with rfl | inTrees
      · exact ⟨_, found⟩
      · obtain ⟨tree, isChild, inTree⟩ := List.mem_flatMap.mp inTrees
        exact inductionHypothesis tree isChild inTree

/-- The trees below a node are the trees of its children. -/
theorem parent?_of_mem (owned : document.Owned) {trees : List Tree}
    (found : document.node? slot = some node) (children : trees.map Tree.slot = node.children)
    (isChild : tree ∈ trees) : document.parent? tree.slot = some slot := by
  apply (owned.mem_children slot node found tree.slot).mp
  rw [← children]
  exact List.mem_map_of_mem isChild

/-- A tree has the children of its slots. -/
theorem mem_of_parent (owned : document.Owned) (fits : tree.Fits document)
    (member : parent ∈ tree.preorder) (hasParent : document.parent? child = some parent) :
    child ∈ tree.preorder := by
  induction fits with
  | branch found children fits inductionHypothesis =>
      rw [preorder_branch] at member ⊢
      apply List.mem_cons_of_mem
      rcases List.mem_cons.mp member with rfl | inTrees
      · have isChild := (owned.mem_children _ _ found child).mpr hasParent
        rw [← children] at isChild
        obtain ⟨tree, inTrees, rfl⟩ := List.mem_map.mp isChild
        exact List.mem_flatMap.mpr ⟨tree, inTrees, slot_mem_preorder tree⟩
      · obtain ⟨tree, isTree, inTree⟩ := List.mem_flatMap.mp inTrees
        exact List.mem_flatMap.mpr ⟨tree, isTree, inductionHypothesis tree isTree inTree⟩

/-- All slots of a tree but its root are below its root. -/
theorem eq_or_below (owned : document.Owned) (fits : tree.Fits document)
    (member : slot ∈ tree.preorder) :
    slot = tree.slot ∨ tree.slot ∈ document.ancestors slot := by
  induction fits with
  | @branch root node trees found children fits inductionHypothesis =>
      rw [preorder_branch] at member
      rcases List.mem_cons.mp member with rfl | inTrees
      · exact .inl rfl
      · right
        obtain ⟨tree, isTree, inTree⟩ := List.mem_flatMap.mp inTrees
        have hasParent := parent?_of_mem owned found children isTree
        obtain ⟨rootDepth, rootAt⟩ := owned.rooted root ⟨node, found⟩
        obtain ⟨slotDepth, slotAt⟩ := owned.rooted slot ((fits tree isTree).live inTree)
        have rootAbove : root ∈ document.ancestors tree.slot := by
          rw [rootAt.ancestors_of_parent hasParent]
          exact List.mem_cons_self
        rcases inductionHypothesis tree isTree inTree with rfl | below
        · exact rootAbove
        · exact slotAt.ancestors_trans below rootAbove

/-- A tree lists its root and the slots below it. -/
theorem mem_preorder (owned : document.Owned) (fits : tree.Fits document)
    (live : document.Live slot) :
    slot ∈ tree.preorder ↔ slot = tree.slot ∨ tree.slot ∈ document.ancestors slot := by
  refine ⟨fits.eq_or_below owned, ?_⟩
  obtain ⟨depth, atDepth⟩ := owned.rooted slot live
  clear live
  intro isBelow
  induction atDepth with
  | root _ isRoot =>
      rw [ancestors_of_root isRoot] at isBelow
      simp only [List.not_mem_nil, or_false] at isBelow
      rw [isBelow]
      exact slot_mem_preorder tree
  | under hasParent parentDepth inductionHypothesis =>
      rcases isBelow with rfl | below
      · exact slot_mem_preorder tree
      · rw [parentDepth.ancestors_of_parent hasParent, List.mem_cons] at below
        exact fits.mem_of_parent owned (inductionHypothesis (below.imp_left Eq.symm)) hasParent

/-! ## No slot twice -/

/-- Trees whose roots are distinct slots of one depth have no slot in common. -/
theorem nodup_flatMap (owned : document.Owned) {trees : List Tree} {level : Nat}
    (fits : ∀ tree ∈ trees, tree.Fits document) (distinct : (trees.map Tree.slot).Nodup)
    (sameDepth : ∀ tree ∈ trees, document.AtDepth tree.slot level)
    (each : ∀ tree ∈ trees, tree.preorder.Nodup) : (trees.flatMap Tree.preorder).Nodup := by
  rw [List.nodup_flatMap]
  refine ⟨each, ?_⟩
  have different : trees.Pairwise fun left right => left.slot ≠ right.slot :=
    List.pairwise_map.mp distinct
  refine List.Pairwise.imp_of_mem ?_ different
  intro left right isLeft isRight unequal slot inLeft inRight
  obtain ⟨depth, atDepth⟩ := owned.rooted slot ((fits left isLeft).live inLeft)
  apply unequal
  exact atDepth.unique_on_line (((fits left isLeft).eq_or_below owned inLeft).imp_left Eq.symm)
    (((fits right isRight).eq_or_below owned inRight).imp_left Eq.symm)
    (sameDepth left isLeft) (sameDepth right isRight)

/-- A tree that fits lists no slot twice. -/
theorem preorder_nodup (owned : document.Owned) (fits : tree.Fits document) :
    tree.preorder.Nodup := by
  induction fits with
  | @branch root node trees found children fits inductionHypothesis =>
      obtain ⟨rootDepth, rootAt⟩ := owned.rooted root ⟨node, found⟩
      have hasParent : ∀ tree ∈ trees, document.parent? tree.slot = some root :=
        fun tree isTree => parent?_of_mem owned found children isTree
      rw [preorder_branch, List.nodup_cons]
      constructor
      · intro inTrees
        obtain ⟨tree, isTree, inTree⟩ := List.mem_flatMap.mp inTrees
        have treeAt : document.AtDepth tree.slot (rootDepth + 1) :=
          .under (hasParent tree isTree) rootAt
        rcases (fits tree isTree).eq_or_below owned inTree with same | below
        · have equal := rootAt.unique (same ▸ treeAt)
          omega
        · obtain ⟨treeDepth, less, otherAt⟩ := rootAt.of_mem_ancestors below
          have equal := treeAt.unique otherAt
          omega
      · apply nodup_flatMap owned fits
        · rw [children]
          exact owned.children_nodup root node found
        · exact fun tree isTree => .under (hasParent tree isTree) rootAt
        · exact inductionHypothesis

/-! ## Ancestors first -/

/-- A tree lists every slot after those of its ancestors that the tree contains. -/
theorem ancestors_before (owned : document.Owned) (fits : tree.Fits document)
    (member : slot ∈ tree.preorder) (isAbove : above ∈ document.ancestors slot) :
    above ∈ document.ancestors tree.slot ∨ [above, slot].Sublist tree.preorder := by
  induction fits with
  | @branch root node trees found children fits inductionHypothesis =>
      rw [preorder_branch] at member ⊢
      rcases List.mem_cons.mp member with rfl | inTrees
      · exact .inl isAbove
      · obtain ⟨tree, isTree, inTree⟩ := List.mem_flatMap.mp inTrees
        obtain ⟨rootDepth, rootAt⟩ := owned.rooted root ⟨node, found⟩
        rcases inductionHypothesis tree isTree inTree with aboveTree | before
        · rw [rootAt.ancestors_of_parent (parent?_of_mem owned found children isTree)] at aboveTree
          rcases List.mem_cons.mp aboveTree with rfl | aboveRoot
          · right
            exact (List.singleton_sublist.mpr inTrees).cons_cons above
          · exact .inl aboveRoot
        · right
          apply List.Sublist.cons
          exact before.trans (List.sublist_flatten_of_mem (List.mem_map_of_mem isTree))

end Tree.Fits

/-! ## The slots of the forest -/

namespace Document

variable {document : Document} {slot other above : Nat} {node : Node}

def Precedes (document : Document) (slot other : Nat) : Prop :=
  [slot, other].Sublist document.preorder

instance (document : Document) (slot other : Nat) : Decidable (document.Precedes slot other) := by
  unfold Precedes
  infer_instance

theorem preorder_eq_flatMap (document : Document) :
    document.preorder = document.forest.flatMap Tree.preorder :=
  Tree.preorderOfAll_eq_flatMap document.forest

/-- The roots of the forest are not below anything. -/
theorem Owned.root_atDepth (owned : document.Owned) {tree : Tree} (isTree : tree ∈ document.forest) :
    document.AtDepth tree.slot 0 := by
  have isRoot : tree.slot ∈ document.roots := by
    rw [← owned.forest_fits.1]
    exact List.mem_map_of_mem isTree
  obtain ⟨live, noParent⟩ := (owned.mem_roots tree.slot).mp isRoot
  exact .root live noParent

theorem AtDepth.no_ancestors (atDepth : document.AtDepth slot 0) :
    document.ancestors slot = [] := by
  cases atDepth with
  | root _ isRoot => exact ancestors_of_root isRoot

/-- The pre-order lists exactly the slots that hold nodes. -/
theorem Owned.mem_preorder (owned : document.Owned) :
    slot ∈ document.preorder ↔ document.Live slot := by
  obtain ⟨sameSlots, fits⟩ := owned.forest_fits
  rw [preorder_eq_flatMap, List.mem_flatMap]
  constructor
  · rintro ⟨tree, isTree, inTree⟩
    exact (fits tree isTree).live inTree
  · intro live
    obtain ⟨depth, atDepth⟩ := owned.rooted slot live
    clear live
    induction atDepth with
    | root live isRoot =>
        have listed := (owned.mem_roots _).mpr ⟨live, isRoot⟩
        rw [← sameSlots] at listed
        obtain ⟨tree, isTree, rfl⟩ := List.mem_map.mp listed
        exact ⟨tree, isTree, Tree.slot_mem_preorder tree⟩
    | under hasParent _ inductionHypothesis =>
        obtain ⟨tree, isTree, inTree⟩ := inductionHypothesis
        exact ⟨tree, isTree, (fits tree isTree).mem_of_parent owned inTree hasParent⟩

/-- The pre-order lists no slot twice. -/
theorem Owned.preorder_nodup (owned : document.Owned) : document.preorder.Nodup := by
  obtain ⟨sameSlots, fits⟩ := owned.forest_fits
  rw [preorder_eq_flatMap]
  apply Tree.Fits.nodup_flatMap owned fits
  · rw [sameSlots]
    exact owned.roots_nodup
  · exact fun tree isTree => owned.root_atDepth isTree
  · exact fun tree isTree => (fits tree isTree).preorder_nodup owned

/-- A slot comes after all slots above it. -/
theorem Owned.precedes_of_mem_ancestors (owned : document.Owned)
    (live : document.Live slot) (isAbove : above ∈ document.ancestors slot) :
    document.Precedes above slot := by
  have listed := owned.mem_preorder.mpr live
  rw [preorder_eq_flatMap, List.mem_flatMap] at listed
  obtain ⟨tree, isTree, inTree⟩ := listed
  unfold Precedes
  rw [preorder_eq_flatMap]
  rcases (owned.forest_fits.2 tree isTree).ancestors_before owned inTree isAbove with
    aboveRoot | before
  · rw [(owned.root_atDepth isTree).no_ancestors] at aboveRoot
    cases aboveRoot
  · exact before.trans (List.sublist_flatten_of_mem (List.mem_map_of_mem isTree))

/-- What precedes a slot is what the pre-order lists in front of it. -/
theorem precedes_iff_mem (nodup : document.preorder.Nodup) {before after : List Nat}
    (split : document.preorder = before ++ slot :: after) :
    document.Precedes other slot ↔ other ∈ before := by
  unfold Precedes
  rw [split] at nodup ⊢
  obtain ⟨-, slotNodup, apart⟩ := List.nodup_append.mp nodup
  have notBefore : slot ∉ before := fun member => apart slot member slot List.mem_cons_self rfl
  have notAfter : slot ∉ after := (List.nodup_cons.mp slotNodup).1
  constructor
  · intro sublist
    obtain ⟨front, back, equal, inBefore, inAfter⟩ := List.sublist_append_iff.mp sublist
    cases front with
    | nil =>
        rw [List.nil_append] at equal
        subst equal
        exact absurd (inAfter.tail.subset (List.mem_singleton_self slot)) notAfter
    | cons first rest =>
        obtain ⟨rfl, -⟩ := List.cons.inj equal
        exact inBefore.subset List.mem_cons_self
  · intro member
    exact (List.singleton_sublist.mpr member).append
      (List.singleton_sublist.mpr List.mem_cons_self)

/-- Of two slots one comes first at most. -/
theorem precedes_asymm (nodup : document.preorder.Nodup)
    (precedes : document.Precedes slot other) : ¬ document.Precedes other slot := by
  have otherListed : other ∈ document.preorder :=
    precedes.subset (List.mem_cons_of_mem slot List.mem_cons_self)
  obtain ⟨before, after, split⟩ := List.append_of_mem otherListed
  have slotBefore := (precedes_iff_mem nodup split).mp precedes
  obtain ⟨first, second, rfl⟩ := List.append_of_mem slotBefore
  rw [List.append_assoc, List.cons_append] at split
  rw [precedes_iff_mem nodup split]
  intro otherBefore
  rw [split] at nodup
  have apart := (List.nodup_append.mp nodup).2.2 other otherBefore other
  apply apart _ rfl
  exact List.mem_cons_of_mem slot (List.mem_append_right second List.mem_cons_self)

theorem Owned.live_of_mem_subtree (owned : document.Owned) {other : Nat}
    (live : document.Live slot) (member : other ∈ document.subtree slot) :
    document.Live other := by
  obtain ⟨tree, isSubtree, -, fits⟩ := owned.exists_subtree live
  rw [isSubtree] at member
  exact fits.live member

/-- A subtree is its root and slots below it, each once. -/
theorem Owned.subtree_eq_cons (owned : document.Owned) (live : document.Live slot) :
    ∃ below, document.subtree slot = slot :: below ∧ (slot :: below).Nodup ∧
      ∀ other ∈ below, slot ∈ document.ancestors other := by
  obtain ⟨tree, isSubtree, rfl, fits⟩ := owned.exists_subtree live
  cases tree with
  | branch root trees =>
      have nodup := fits.preorder_nodup owned
      rw [Tree.preorder_branch] at isSubtree nodup
      refine ⟨trees.flatMap Tree.preorder, isSubtree, nodup, ?_⟩
      intro other isBelow
      have listed : other ∈ (Tree.branch root trees).preorder := by
        rw [Tree.preorder_branch]
        exact List.mem_cons_of_mem root isBelow
      rcases fits.eq_or_below owned listed with isRoot | isAbove
      · subst isRoot
        exact absurd isBelow (List.nodup_cons.mp nodup).1
      · exact isAbove

/-- The pre-order and the store list the same slots. -/
theorem Owned.perm_preorder (owned : document.Owned) :
    (document.nodes.toList.map Prod.fst).Perm document.preorder := by
  have nodup : (document.nodes.toList.map Prod.fst).Nodup :=
    document.nodes.toList_ascending.imp fun less => Nat.ne_of_lt less
  rw [List.perm_ext_iff_of_nodup nodup owned.preorder_nodup]
  intro slot
  rw [owned.mem_preorder, List.mem_map]
  constructor
  · rintro ⟨⟨stored, node⟩, member, rfl⟩
    exact ⟨node, Arena.mem_toList.mp member⟩
  · rintro ⟨node, found⟩
    exact ⟨(slot, node), Arena.mem_toList.mpr found, rfl⟩

/-- The pre-order lists as many slots as there are nodes. -/
theorem Owned.length_preorder (owned : document.Owned) :
    document.preorder.length = document.size := by
  rw [← owned.perm_preorder.length_eq, List.length_map, Arena.length_toList owned.sound]
  rfl

end Document

end Outliner
