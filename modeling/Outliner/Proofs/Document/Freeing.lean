import Outliner.Proofs.Document.WayUp

/-!
Contract: a removal frees slot after slot with a stack.

Owns: the loop that takes a slot off a stack, frees it and puts the slots of its children on
top, and that it ends and frees a tree, where the store still holds all of it, in the order
that `Tree.removalOrder` lists.

Main statement: `Owned.frees_iff`.

Does not own: what is left of the forest (`Proofs.Document.Ownership`).
-/

namespace Outliner

open Outliner.Store

namespace Document

variable {document : Document} {nodes after : Arena Node} {slot : Nat} {node : Node}
  {stack freed : List Nat} {count : Nat}

/-- With some slots left on the stack, the loop ends: it has freed so many slots, and leaves a
store. A slot without a node is passed over; the children of a node go on top of the stack,
the last one uppermost. -/
inductive Frees : Arena Node → List Nat → Nat → Arena Node → Prop where
  | done {nodes : Arena Node} : Frees nodes [] 0 nodes
  | passed {nodes after : Arena Node} {slot count : Nat} {pending : List Nat}
      (vacant : nodes.erase? slot = none) (further : Frees nodes pending count after) :
      Frees nodes (slot :: pending) count after
  | freed {nodes rest after : Arena Node} {slot count : Nat} {node : Node} {pending : List Nat}
      (erased : nodes.erase? slot = some (node, rest))
      (further : Frees rest (node.children.reverse ++ pending) count after) :
      Frees nodes (slot :: pending) (count + 1) after

/-- The loop has one outcome. -/
theorem Frees.unique {pending : List Nat} {otherCount : Nat} {other : Arena Node}
    (loop : Frees nodes pending count after) (otherLoop : Frees nodes pending otherCount other) :
    count = otherCount ∧ after = other := by
  induction loop generalizing otherCount with
  | done =>
      cases otherLoop
      exact ⟨rfl, rfl⟩
  | passed vacant _ inductionHypothesis =>
      cases otherLoop with
      | passed _ further => exact inductionHypothesis further
      | freed erased =>
          rw [vacant] at erased
          cases erased
  | freed erased _ inductionHypothesis =>
      cases otherLoop with
      | passed vacant =>
          rw [erased] at vacant
          cases vacant
      | freed otherErased further =>
          rw [erased] at otherErased
          obtain ⟨rfl, rfl⟩ := Prod.mk.inj (Option.some.inj otherErased)
          obtain ⟨sameCount, same⟩ := inductionHypothesis further
          exact ⟨congrArg (· + 1) sameCount, same⟩

/-! ## Pieces of the stack -/

/-- A store has the nodes of a document in some slots, as far as their children tell. -/
def StillHolds (document : Document) (nodes : Arena Node) (slots : List Nat) : Prop :=
  ∀ slot ∈ slots, (nodes.get? slot).map Node.children =
    (document.node? slot).map Node.children

/-- Slots on top of the stack are freed with all below them before the rest of the stack, as
long as the store still holds these nodes. -/
def FreesFirst (document : Document) (stack freed : List Nat) : Prop :=
  ∀ ⦃nodes after : Arena Node⦄ ⦃pending : List Nat⦄ ⦃count : Nat⦄, nodes.Sound →
    document.StillHolds nodes freed → Frees (release nodes freed) pending count after →
    Frees nodes (stack ++ pending) (freed.length + count) after

theorem release_append (nodes : Arena Node) (first second : List Nat) :
    release nodes (first ++ second) = release (release nodes first) second :=
  List.foldl_append

/-- Slots that are not freed stay as they are. -/
theorem StillHolds.release {slots : List Nat} (holds : document.StillHolds nodes slots)
    (sound : nodes.Sound) (apart : ∀ slot ∈ slots, slot ∉ freed) :
    document.StillHolds (release nodes freed) slots := by
  intro slot isSlot
  rw [(release_spec sound freed).2 slot, if_neg (apart slot isSlot)]
  exact holds slot isSlot

/-- Two parts of a stack that share no slots are freed one after the other. -/
theorem FreesFirst.append {otherStack otherFreed : List Nat}
    (first : document.FreesFirst stack freed) (second : document.FreesFirst otherStack otherFreed)
    (apart : ∀ slot ∈ otherFreed, slot ∉ freed) :
    document.FreesFirst (stack ++ otherStack) (freed ++ otherFreed) := by
  intro nodes after pending count sound holds further
  rw [release_append] at further
  have firstHolds : document.StillHolds nodes freed :=
    fun slot isFreed => holds slot (List.mem_append_left otherFreed isFreed)
  have secondHolds : document.StillHolds nodes otherFreed :=
    fun slot isFreed => holds slot (List.mem_append_right freed isFreed)
  rw [List.append_assoc, List.length_append, Nat.add_assoc]
  exact first sound firstHolds
    (second (release_spec sound freed).1 (secondHolds.release sound apart) further)

/-- Trees whose slots are pushed in order are freed from the last one on. -/
theorem freesFirst_trees {trees : List Tree}
    (each : ∀ tree ∈ trees, document.FreesFirst [tree.slot] tree.removalOrder)
    (nodup : (Tree.removalOrderOfAll trees).Nodup) :
    document.FreesFirst (trees.map Tree.slot).reverse (Tree.removalOrderOfAll trees) := by
  induction trees with
  | nil =>
      intro nodes after pending count _ _ further
      rw [Tree.removalOrderOfAll, List.length_nil, Nat.zero_add]
      exact further
  | cons tree rest inductionHypothesis =>
      rw [Tree.removalOrderOfAll] at nodup ⊢
      obtain ⟨restNodup, -, apart⟩ := List.nodup_append.mp nodup
      rw [List.map_cons, List.reverse_cons]
      apply FreesFirst.append
      · exact inductionHypothesis
          (fun other isRest => each other (List.mem_cons_of_mem tree isRest)) restNodup
      · exact each tree List.mem_cons_self
      · exact fun slot inTree inRest => apart slot inRest slot inTree rfl

end Document

open Document

variable {document : Document} {slot : Nat} {node : Node}

theorem Tree.removalOrder_sublist {trees : List Tree} {tree : Tree} (isTree : tree ∈ trees) :
    tree.removalOrder.Sublist (removalOrderOfAll trees) := by
  induction trees with
  | nil => cases isTree
  | cons first rest inductionHypothesis =>
      rw [removalOrderOfAll]
      rcases List.mem_cons.mp isTree with rfl | isRest
      · exact List.sublist_append_right _ _
      · exact (inductionHypothesis isRest).trans (List.sublist_append_left _ _)

/-- A tree on top of the stack is freed in its removal order. -/
theorem Tree.Fits.freesFirst {tree : Tree} (fits : tree.Fits document)
    (nodup : tree.removalOrder.Nodup) :
    document.FreesFirst [tree.slot] tree.removalOrder := by
  induction fits with
  | @branch slot node trees found children _ inductionHypothesis =>
      rw [removalOrder] at nodup ⊢
      obtain ⟨notBelow, belowNodup⟩ := List.nodup_cons.mp nodup
      intro nodes after pending count sound holds further
      have atRoot := holds slot List.mem_cons_self
      rw [found] at atRoot
      obtain ⟨held, isHeld, sameChildren⟩ := Option.map_eq_some_iff.mp atRoot
      obtain ⟨rest, erased⟩ : ∃ rest, nodes.erase? slot = some (held, rest) := by
        rw [Arena.erase?, isHeld]
        exact ⟨_, rfl⟩
      have first : release nodes (slot :: removalOrderOfAll trees) =
          release rest (removalOrderOfAll trees) := by
        unfold release
        rw [List.foldl_cons, erased]
        rfl
      have below : document.FreesFirst held.children.reverse (removalOrderOfAll trees) := by
        rw [sameChildren, ← children]
        apply freesFirst_trees _ belowNodup
        intro tree isTree
        exact inductionHypothesis tree isTree ((removalOrder_sublist isTree).nodup belowNodup)
      have restHolds : document.StillHolds rest (removalOrderOfAll trees) := by
        intro other isBelow
        have different : other ≠ slot := fun same => notBelow (same ▸ isBelow)
        rw [Arena.get?_erase erased, if_neg different]
        exact holds other (List.mem_cons_of_mem slot isBelow)
      rw [first] at further
      rw [List.length_cons, Nat.add_right_comm]
      exact .freed erased (below (sound.erase? erased) restHolds further)

namespace Document.Owned

/-- The parent of a node is not in its subtree. -/
theorem parent_not_mem_subtree (owned : document.Owned) {parent : Nat}
    (hasParent : document.parent? slot = some parent) : parent ∉ document.subtree slot := by
  have parentLive := owned.parent_live hasParent
  obtain ⟨depth, atDepth⟩ := owned.rooted parent parentLive
  rw [owned.mem_subtree (live_of_parent? hasParent) parentLive]
  rintro (rfl | isAbove)
  · have equal := atDepth.unique (.under hasParent atDepth)
    omega
  · obtain ⟨slotDepth, less, slotAt⟩ := atDepth.of_mem_ancestors isAbove
    have equal := slotAt.unique (.under hasParent atDepth)
    omega

/-- A removal does what its loop does, once the node is taken out of the list that it is in:
the loop ends, and has freed as many slots as the subtree has. -/
theorem frees_iff (owned : document.Owned) (found : document.node? slot = some node)
    {removed count : Nat} {after : Document} {nodes : Arena Node}
    (isRemoved : document.removeTree slot = .ok (removed, after)) :
    Frees (document.detach slot node.parent).nodes [slot] count nodes ↔
      count = (document.subtree slot).length ∧ nodes = after.nodes := by
  obtain ⟨same, isNode, equal⟩ := requireNode_map_ok isRemoved
  rw [found] at isNode
  obtain rfl := Option.some.inj isNode
  obtain ⟨-, rfl⟩ := Prod.mk.inj equal
  obtain ⟨tree, isTree, rfl, fits⟩ := owned.exists_tree? ⟨node, found⟩
  have isSubtree := subtree_of_tree? isTree
  obtain ⟨sound, -, view⟩ := detach_spec owned.sound tree.slot node.parent
  have holds : document.StillHolds (document.detach tree.slot node.parent).nodes
      tree.removalOrder := by
    intro other isBelow
    have notParent : node.parent ≠ some other := by
      intro isParent
      have hasParent := (parent?_of_node? found).trans isParent
      apply owned.parent_not_mem_subtree hasParent
      rw [isSubtree]
      exact tree.removalOrder_perm.mem_iff.mp isBelow
    exact congrArg (Option.map Node.children) ((view other).trans (if_neg notParent))
  have nodup := tree.removalOrder_perm.nodup_iff.mpr (fits.preorder_nodup owned)
  have loop := fits.freesFirst nodup sound holds .done
  rw [isTree, isSubtree, ← tree.removalOrder_perm.length_eq]
  constructor
  · exact fun other => other.unique loop
  · rintro ⟨rfl, rfl⟩
    exact loop

end Document.Owned

end Outliner
