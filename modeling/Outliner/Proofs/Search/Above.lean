import Outliner.Proofs.Document.WayUp
import Outliner.Proofs.Search.Scanning

/-!
Contract: what the filters on the place of a node in the forest find.

Owns: the nodes that the filters on parents, ancestors and the depth match, in terms of the
children and the subtrees of the nodes that the inner expression matches.

Main statement: `Reachable.views_agree`.

Does not own: that the ways up and down agree (`Proofs.Document.WayUp`).
-/

namespace Outliner

open Outliner.Calendar Outliner.Query Outliner.Search

theorem Query.Comparison.test_equal_iff {left right : Nat} :
    Comparison.equal.test left right = true ↔ left = right := by
  rw [test, accepts, beq_iff_eq, Nat.compare_eq_eq]

namespace Search

variable {scene : Scene} {expr : Expr} {slot : Nat}

/-- Only slots that hold nodes pass a test. -/
theorem live_of_matchesSlot (isMatch : matchesSlot scene expr slot = true) :
    scene.document.Live slot := by
  by_contra vacant
  rw [matchesSlot_of_not_live vacant] at isMatch
  cases isMatch

/-- The filter on the parent asks its query of the parent, and fails at a root. -/
theorem matchesSlot_parent (scene : Scene) (expr : Expr) (slot : Nat) :
    matchesSlot scene (.parent expr) slot =
      (scene.document.parent? slot).any (matchesSlot scene expr) := by
  unfold matchesSlot Document.parent?
  cases scene.document.node? slot with
  | none => rfl
  | some node => rw [Option.any_some, exprHolds, Option.bind_some]

/-- The filter on the ancestors asks its query of each until one matches. -/
theorem matchesSlot_ancestor (scene : Scene) (expr : Expr) (slot : Nat) :
    matchesSlot scene (.ancestor expr) slot =
      (scene.document.ancestors slot).any (matchesSlot scene expr) := by
  cases found : scene.document.node? slot with
  | none =>
      rw [Document.ancestors_of_root (Document.parent?_of_vacant found), matchesSlot, found]
      rfl
  | some node =>
      rw [matchesSlot, found, Option.any_some, exprHolds]
      rfl

/-- The filter on parents finds the children of what its expression finds. -/
theorem matchesSlot_parent_iff (owned : scene.document.Owned) :
    matchesSlot scene (.parent expr) slot = true ↔
      ∃ parent node, scene.document.node? parent = some node ∧
        matchesSlot scene expr parent = true ∧ slot ∈ node.children := by
  rw [matchesSlot_parent, Option.any_eq_true]
  constructor
  · rintro ⟨parent, hasParent, isMatch⟩
    obtain ⟨node, found⟩ := owned.parent_live hasParent
    exact ⟨parent, node, found, isMatch, (owned.mem_children parent node found slot).mpr hasParent⟩
  · rintro ⟨parent, node, found, isMatch, isChild⟩
    exact ⟨parent, (owned.mem_children parent node found slot).mp isChild, isMatch⟩

/-- The filter on ancestors finds what is below the nodes that its expression finds. -/
theorem matchesSlot_ancestor_iff (owned : scene.document.Owned) :
    matchesSlot scene (.ancestor expr) slot = true ↔
      ∃ top, matchesSlot scene expr top = true ∧
        slot ∈ scene.document.subtree top ∧ slot ≠ top := by
  rw [matchesSlot_ancestor, List.any_eq_true]
  constructor
  · rintro ⟨top, isAbove, isMatch⟩
    have live : scene.document.Live slot := by
      by_contra vacant
      rw [Document.ancestors_of_root
        (Document.parent?_of_vacant (Document.node?_of_not_live vacant))] at isAbove
      cases isAbove
    exact ⟨top, isMatch, (owned.mem_subtree_ne (live_of_matchesSlot isMatch) live).mpr isAbove⟩
  · rintro ⟨top, isMatch, isBelow, different⟩
    have topLive := live_of_matchesSlot isMatch
    have live := owned.live_of_mem_subtree topLive isBelow
    exact ⟨top, (owned.mem_subtree_ne topLive live).mp ⟨isBelow, different⟩, isMatch⟩

/-- The nodes at depth zero are the roots. -/
theorem matchesSlot_depth_zero_iff (owned : scene.document.Owned) :
    matchesSlot scene (.leaf (.depth .equal 0)) slot = true ↔ slot ∈ scene.document.roots := by
  rw [owned.mem_roots]
  constructor
  · intro isMatch
    have live := live_of_matchesSlot isMatch
    obtain ⟨node, found⟩ := live
    obtain ⟨depth, atDepth⟩ := owned.rooted slot ⟨node, found⟩
    rw [matchesSlot_leaf found, leafHolds, atDepth.depth?_eq, Option.any_some,
      Comparison.test_equal_iff] at isMatch
    subst isMatch
    cases atDepth with
    | root live isRoot => exact ⟨live, isRoot⟩
  · rintro ⟨live, isRoot⟩
    obtain ⟨node, found⟩ := live
    have atDepth : scene.document.AtDepth slot 0 := .root ⟨node, found⟩ isRoot
    rw [matchesSlot_leaf found, leafHolds, atDepth.depth?_eq, Option.any_some,
      Comparison.test_equal_iff]

end Search

/-- In every reachable document, the two ways up from a node end, with as many ancestors as
its depth says, and a subtree consists of the nodes from which the way up meets its root. So
the filter on ancestors finds exactly what is in the subtrees of the nodes that its expression
matches, these nodes themselves aside; the filter on parents, the children of these nodes; and
the nodes at depth zero are the roots. -/
theorem Reachable.views_agree {document : Document} (reached : Reachable document) :
    (∀ slot, document.Live slot →
      (∀ above, document.LeadsUp slot above ↔ above = document.ancestors slot) ∧
      (∀ result, document.CountsUp slot 0 result ↔ result = document.depth? slot) ∧
      document.depth? slot = some (document.ancestors slot).length) ∧
    (∀ top slot, document.Live top → document.Live slot →
      (slot ∈ document.subtree top ↔ top = slot ∨ top ∈ document.ancestors slot)) ∧
    ∀ zone now expr,
      let scene := Scene.ofNow document zone now
      (∀ slot, matchesSlot scene (.ancestor expr) slot = true ↔
        ∃ top, matchesSlot scene expr top = true ∧ slot ∈ document.subtree top ∧ slot ≠ top) ∧
      (∀ slot, matchesSlot scene (.parent expr) slot = true ↔
        ∃ parent node, document.node? parent = some node ∧
          matchesSlot scene expr parent = true ∧ slot ∈ node.children) ∧
      ∀ slot, matchesSlot scene (.leaf (.depth .equal 0)) slot = true ↔ slot ∈ document.roots := by
  have owned : document.Owned := reached.owned
  refine ⟨fun slot live => ?_, fun top slot topLive live => owned.mem_subtree topLive live,
    fun zone now expr => ?_⟩
  · exact ⟨fun _ => owned.leadsUp_iff, fun _ => owned.countsUp_iff, owned.depth?_eq_length live⟩
  · intro scene
    have sceneOwned : scene.document.Owned := owned
    exact ⟨fun _ => matchesSlot_ancestor_iff sceneOwned,
      fun _ => matchesSlot_parent_iff sceneOwned, fun _ => matchesSlot_depth_zero_iff sceneOwned⟩

/-- A slot that was freed and taken again two levels down is found below both nodes above it,
as a child of the lower one, and not among the roots. -/
theorem views_agree_reused :
    let record := fun number text => Record.plain (.ofNat number) text .last .last
    let document := Operation.run
      [.addRoot (record 1 "plan"), .addChild 0 (record 2 "old"), .addChild 0 (record 3 "step"),
        .removeTree 1, .addChild 2 (record 4 "note")]
    let scene := Scene.ofNow document .universal .last
    let plan := Expr.leaf (.text "plan")
    let step := Expr.leaf (.text "step")
    Reachable document ∧ document.LeadsUp 1 [2, 0] ∧ document.CountsUp 1 0 (some 2) ∧
      1 ∈ document.subtree 0 ∧ matchesSlot scene (.ancestor plan) 1 = true ∧
      matchesSlot scene (.parent step) 1 = true ∧
      ¬ matchesSlot scene (.leaf (.depth .equal 0)) 1 = true := by
  intro record document scene plan step
  have reached : Reachable document := .run fun _ _ => trivial
  obtain ⟨walks, below, filters⟩ := Reachable.views_agree reached
  obtain ⟨planAbove, -, rootsOnly⟩ := filters .universal .last plan
  obtain ⟨-, stepParent, -⟩ := filters .universal .last step
  have live : ∀ slot, (document.node? slot).isSome → document.Live slot :=
    fun _ isSome => Option.isSome_iff_exists.mp isSome
  have lowLive := live 1 (by decide +kernel)
  obtain ⟨leadsUp, countsUp, -⟩ := walks 1 lowLive
  refine ⟨reached, (leadsUp _).mpr (by decide +kernel), (countsUp _).mpr (by decide +kernel),
    (below 0 1 (live 0 (by decide +kernel)) lowLive).mpr (by decide +kernel),
    (planAbove 1).mpr ⟨0, by decide +kernel⟩, ?_, fun isRoot => ?_⟩
  · obtain ⟨parent, found⟩ := live 2 (by decide +kernel)
    have isChild : 1 ∈ ((document.node? 2).map Node.children).getD [] := by decide +kernel
    rw [found] at isChild
    exact (stepParent 1).mpr ⟨2, parent, found, by decide +kernel, isChild⟩
  · have notRoot : 1 ∉ document.roots := by decide +kernel
    exact notRoot ((rootsOnly 1).mp isRoot)

end Outliner
