import Outliner.Proofs.Document.Bare

/-!
Contract: documents that show the same outline.

Owns: the relation `Alike`, under which two documents hold the same nodes in the same
slots, apart from references, links and what is shown closed; and that the walks of
such documents are the same.

The stores of two such documents can have different vacant slots, and so different
bounds on their walks. Therefore all of this rests on the invariant of a forest, under
which the bounds are never met.

Does not own: documents that differ in nothing but references and links, where the
stores agree as well (`Proofs.Document.Bare`).
-/

namespace Outliner

namespace Document

variable {left right : Document} {slot parent depth : Nat} {id : NodeId} {node : Node}

/-- The documents hold the same nodes in the same slots and places, but for references,
links, what is shown closed, the index and the vacant slots. -/
structure Alike (left right : Document) : Prop where
  roots : left.roots = right.roots
  nodes : ∀ slot, (left.node? slot).map Node.bare = (right.node? slot).map Node.bare

/-- Documents that are bare in the same way are alike. -/
theorem alike_of_bare_eq (same : left.bare = right.bare) : left.Alike right where
  roots := congrArg (fun document => document.roots) same
  nodes slot := by rw [← node?_bare, same, node?_bare]

/-! ## Depth -/

theorem depthWithin_of_vacant (vacant : left.node? slot = none) (steps : Nat) :
    left.depthWithin steps slot = none := by
  cases steps with
  | zero => rfl
  | succ steps => rw [depthWithin, vacant, Option.bind_none]

/-- The count of steps to the root is right with more steps than it needs. -/
theorem AtDepth.depthWithin_eq (atDepth : left.AtDepth slot depth) {steps : Nat}
    (enough : depth < steps) : left.depthWithin steps slot = some depth := by
  induction atDepth generalizing steps with
  | root live isRoot =>
      obtain ⟨node, found⟩ := live
      obtain ⟨rest, rfl⟩ := Nat.exists_eq_add_of_lt enough
      rw [parent?_of_node? found] at isRoot
      simp only [depthWithin, found, Option.bind_some, isRoot]
  | @under slot parent depth hasParent _ inductionHypothesis =>
      obtain ⟨node, found, isParent⟩ := Option.bind_eq_some_iff.mp hasParent
      obtain ⟨rest, rfl⟩ := Nat.exists_eq_add_of_lt enough
      have fewer : depth < depth + 1 + rest := by omega
      simp only [depthWithin, found, Option.bind_some, isParent, inductionHypothesis fewer,
        Option.map_some]

theorem AtDepth.depth?_eq (atDepth : left.AtDepth slot depth) :
    left.depth? slot = some depth :=
  atDepth.depthWithin_eq atDepth.lt_reach

namespace Alike

theorem trans {other : Document} (alike : left.Alike right) (further : right.Alike other) :
    left.Alike other :=
  ⟨alike.roots.trans further.roots, fun slot => (alike.nodes slot).trans (further.nodes slot)⟩

/-- What a view shows of bare nodes is the same in both documents. -/
theorem map_eq {α : Type} (alike : left.Alike right) (view : Node → α)
    (unseen : ∀ node, view node.bare = view node) (slot : Nat) :
    (left.node? slot).map view = (right.node? slot).map view := by
  have views := congrArg (Option.map view) (alike.nodes slot)
  simp only [Option.map_map, Function.comp_def, unseen] at views
  exact views

/-- Alike documents hold nodes that are bare in the same way in their slots. -/
theorem exists_node? (alike : left.Alike right) (found : left.node? slot = some node) :
    ∃ other, right.node? slot = some other ∧ other.bare = node.bare := by
  have view := alike.nodes slot
  rw [found] at view
  exact Option.map_eq_some_iff.mp view.symm

theorem live_iff (alike : left.Alike right) : left.Live slot ↔ right.Live slot := by
  unfold Live
  rw [← Option.isSome_iff_exists, ← Option.isSome_iff_exists, ← Option.isSome_map,
    alike.nodes slot, Option.isSome_map]

theorem parent?_eq (alike : left.Alike right) (slot : Nat) :
    left.parent? slot = right.parent? slot :=
  parent?_congr (alike.map_eq Node.placement (fun _ => rfl) slot)

theorem holds_eq (alike : left.Alike right) (slot : Nat) (id : NodeId) :
    left.holds slot id = right.holds slot id := by
  rw [holds_eq_any_map, alike.map_eq (fun node => node.id) (fun _ => rfl) slot,
    holds_eq_any_map]

theorem distinctIds (alike : left.Alike right) (distinct : left.DistinctIds) :
    right.DistinctIds := by
  intro slot other id isHeld otherHolds
  rw [← alike.holds_eq] at isHeld otherHolds
  exact distinct slot other id isHeld otherHolds

theorem idsOf_eq (alike : left.Alike right) (slots : List Nat) :
    left.idsOf slots = right.idsOf slots := by
  unfold idsOf
  congr 1
  funext slot
  exact alike.map_eq (fun node => node.id) (fun _ => rfl) slot

theorem atDepth (alike : left.Alike right) (atDepth : left.AtDepth slot depth) :
    right.AtDepth slot depth := by
  induction atDepth with
  | root live isRoot =>
      exact .root (alike.live_iff.mp live) ((alike.parent?_eq _).symm.trans isRoot)
  | under hasParent _ inductionHypothesis =>
      exact .under ((alike.parent?_eq _).symm.trans hasParent) inductionHypothesis

/-- The way up is the same in alike documents. -/
theorem ancestors_eq (alike : left.Alike right) (owned : left.Owned) (slot : Nat) :
    left.ancestors slot = right.ancestors slot := by
  by_cases live : left.Live slot
  · obtain ⟨depth, atDepth⟩ := owned.rooted slot live
    apply (alike.atDepth atDepth).ancestors_eq atDepth
    exact fun other _ _ => alike.parent?_eq other
  · have vacant := node?_of_not_live live
    have otherVacant := node?_of_not_live fun other => live (alike.live_iff.mpr other)
    rw [ancestors_of_root (parent?_of_vacant vacant),
      ancestors_of_root (parent?_of_vacant otherVacant)]

theorem depth?_eq (alike : left.Alike right) (owned : left.Owned) (slot : Nat) :
    left.depth? slot = right.depth? slot := by
  by_cases live : left.Live slot
  · obtain ⟨depth, atDepth⟩ := owned.rooted slot live
    rw [atDepth.depth?_eq, (alike.atDepth atDepth).depth?_eq]
  · unfold depth?
    rw [depthWithin_of_vacant (node?_of_not_live live),
      depthWithin_of_vacant (node?_of_not_live fun other => live (alike.live_iff.mpr other))]

end Alike

end Document

/-! ## The way down -/

namespace Tree

open Document

variable {left right : Document}

/-- There is one tree that fits below a slot: trees with the same roots that each equal
every tree with their root are the same. -/
theorem eq_of_same_slots {trees others : List Tree} (fits : ∀ tree ∈ others, tree.Fits right)
    (each : ∀ tree ∈ trees, ∀ other : Tree, other.Fits right → tree.slot = other.slot →
      tree = other)
    (slots : trees.map slot = others.map slot) : trees = others := by
  induction trees generalizing others with
  | nil => exact (List.map_eq_nil_iff.mp slots.symm).symm
  | cons tree rest inductionHypothesis =>
      cases others with
      | nil => cases slots
      | cons other more =>
          obtain ⟨sameSlot, sameSlots⟩ := List.cons.inj slots
          rw [each tree List.mem_cons_self other (fits other List.mem_cons_self) sameSlot]
          congr 1
          exact inductionHypothesis
            (fun tree isMore => fits tree (List.mem_cons_of_mem other isMore))
            (fun tree isRest => each tree (List.mem_cons_of_mem _ isRest)) sameSlots

/-- Trees at one slot of alike documents are equal. -/
theorem Fits.eq {tree other : Tree} (alike : left.Alike right) (fits : tree.Fits left)
    (otherFits : other.Fits right) (sameSlot : tree.slot = other.slot) : tree = other := by
  induction fits generalizing other with
  | @branch slot node trees found children _ inductionHypothesis =>
      cases otherFits with
      | @branch otherSlot otherNode otherTrees otherFound otherChildren otherFits =>
          obtain rfl : slot = otherSlot := sameSlot
          have placements := alike.map_eq Node.placement (fun _ => rfl) slot
          rw [found, otherFound] at placements
          have sameChildren : node.children = otherNode.children :=
            congrArg Prod.snd (Option.some.inj placements)
          congr 1
          apply eq_of_same_slots otherFits
          · exact fun tree isTree other => inductionHypothesis tree isTree
          · rw [children, sameChildren, otherChildren]

end Tree

namespace Document.Alike

variable {left right : Document}

/-- Alike documents have the same pre-order. -/
theorem preorder_eq (alike : left.Alike right) (leftOwned : left.Owned)
    (rightOwned : right.Owned) : left.preorder = right.preorder := by
  obtain ⟨leftSlots, leftFits⟩ := leftOwned.forest_fits
  obtain ⟨rightSlots, rightFits⟩ := rightOwned.forest_fits
  have forests : left.forest = right.forest := by
    apply Tree.eq_of_same_slots rightFits
    · exact fun tree isTree other otherFits => (leftFits tree isTree).eq alike otherFits
    · rw [leftSlots, rightSlots, alike.roots]
  rw [preorder, preorder, forests]

end Document.Alike

end Outliner
