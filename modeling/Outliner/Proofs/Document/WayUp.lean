import Outliner.Proofs.Document.Alike

/-!
Contract: the ways up and down a forest agree.

Owns: the two loops that follow parents, one that lists the slots above a slot and one that
counts the steps, neither with a bound of its own; and that both end, with `ancestors` and
`depth?`, while a subtree consists of the slots from which the way up meets its root.

Main statements: `Owned.leadsUp_iff`, `Owned.countsUp_iff`, `Owned.mem_subtree`.

Does not own: why the way up has an end (`Proofs.Document.Forest`), and the filters that
follow it (`Proofs.Search.Above`).
-/

namespace Outliner.Document

variable {document : Document} {slot top depth counted : Nat} {above : List Nat}
  {result : Option Nat}

/-- The way up from a slot ends and has led through the slots of a list, the nearest
first. -/
inductive LeadsUp (document : Document) : Nat → List Nat → Prop where
  | ended {slot : Nat} (isRoot : document.parent? slot = none) : LeadsUp document slot []
  | through {slot parent : Nat} {above : List Nat}
      (hasParent : document.parent? slot = some parent)
      (further : LeadsUp document parent above) : LeadsUp document slot (parent :: above)

/-- The count of the steps up from a slot ends, some having been counted on the way to it:
with their number at a node without a parent, with none at a slot without a node. -/
inductive CountsUp (document : Document) : Nat → Nat → Option Nat → Prop where
  | vacant {slot counted : Nat} (vacant : document.node? slot = none) :
      CountsUp document slot counted none
  | root {slot counted : Nat} {node : Node} (found : document.node? slot = some node)
      (isRoot : node.parent = none) : CountsUp document slot counted (some counted)
  | under {slot parent counted : Nat} {node : Node} {result : Option Nat}
      (found : document.node? slot = some node) (hasParent : node.parent = some parent)
      (further : CountsUp document parent (counted + 1) result) :
      CountsUp document slot counted result

/-- There is one way up from a slot. -/
theorem LeadsUp.unique {other : List Nat} (way : document.LeadsUp slot above)
    (otherWay : document.LeadsUp slot other) : above = other := by
  induction way generalizing other with
  | ended isRoot =>
      cases otherWay with
      | ended => rfl
      | through hasParent =>
          rw [isRoot] at hasParent
          cases hasParent
  | through hasParent _ inductionHypothesis =>
      cases otherWay with
      | ended isRoot =>
          rw [hasParent] at isRoot
          cases isRoot
      | through otherParent further =>
          rw [hasParent] at otherParent
          obtain rfl := Option.some.inj otherParent
          rw [inductionHypothesis further]

/-- The count of steps has one result. -/
theorem CountsUp.unique {other : Option Nat} (count : document.CountsUp slot counted result)
    (otherCount : document.CountsUp slot counted other) : result = other := by
  induction count generalizing other with
  | vacant vacant =>
      cases otherCount with
      | vacant => rfl
      | root found | under found =>
          rw [vacant] at found
          cases found
  | root found isRoot =>
      cases otherCount with
      | vacant vacant =>
          rw [found] at vacant
          cases vacant
      | root => rfl
      | under otherFound hasParent =>
          rw [found] at otherFound
          obtain rfl := Option.some.inj otherFound
          rw [isRoot] at hasParent
          cases hasParent
  | under found hasParent _ inductionHypothesis =>
      cases otherCount with
      | vacant vacant =>
          rw [found] at vacant
          cases vacant
      | root otherFound isRoot =>
          rw [found] at otherFound
          obtain rfl := Option.some.inj otherFound
          rw [hasParent] at isRoot
          cases isRoot
      | under otherFound otherParent further =>
          rw [found] at otherFound
          obtain rfl := Option.some.inj otherFound
          rw [hasParent] at otherParent
          obtain rfl := Option.some.inj otherParent
          exact inductionHypothesis further

/-! ## Slots at a depth -/

namespace AtDepth

theorem leadsUp (atDepth : document.AtDepth slot depth) :
    document.LeadsUp slot (document.ancestors slot) := by
  induction atDepth with
  | root _ isRoot =>
      rw [ancestors_of_root isRoot]
      exact .ended isRoot
  | under hasParent parentDepth inductionHypothesis =>
      rw [parentDepth.ancestors_of_parent hasParent]
      exact .through hasParent inductionHypothesis

theorem countsUp (atDepth : document.AtDepth slot depth) (counted : Nat) :
    document.CountsUp slot counted (some (counted + depth)) := by
  induction atDepth generalizing counted with
  | root live isRoot =>
      obtain ⟨node, found⟩ := live
      rw [parent?_of_node? found] at isRoot
      exact .root found isRoot
  | @under slot parent depth hasParent _ inductionHypothesis =>
      obtain ⟨node, found⟩ := live_of_parent? hasParent
      rw [parent?_of_node? found] at hasParent
      have further := inductionHypothesis (counted + 1)
      rw [Nat.add_right_comm] at further
      exact .under found hasParent further

/-- A node has as many nodes above it as its depth says. -/
theorem length_ancestors (atDepth : document.AtDepth slot depth) :
    (document.ancestors slot).length = depth := by
  induction atDepth with
  | root _ isRoot => rw [ancestors_of_root isRoot, List.length_nil]
  | under hasParent parentDepth inductionHypothesis =>
      rw [parentDepth.ancestors_of_parent hasParent, List.length_cons, inductionHypothesis]

end AtDepth

/-! ## Slots of a forest -/

namespace Owned

/-- The nodes above a slot are those of its way up. -/
theorem leadsUp (owned : document.Owned) (slot : Nat) :
    document.LeadsUp slot (document.ancestors slot) := by
  by_cases live : document.Live slot
  · obtain ⟨depth, atDepth⟩ := owned.rooted slot live
    exact atDepth.leadsUp
  · have isRoot := parent?_of_vacant (node?_of_not_live live)
    rw [ancestors_of_root isRoot]
    exact .ended isRoot

/-- The way up from any slot ends, and leads through its ancestors. -/
theorem leadsUp_iff (owned : document.Owned) :
    document.LeadsUp slot above ↔ above = document.ancestors slot := by
  constructor
  · exact fun way => way.unique (owned.leadsUp slot)
  · rintro rfl
    exact owned.leadsUp slot

/-- The depth of a slot is the count of its steps up. -/
theorem countsUp (owned : document.Owned) (slot : Nat) :
    document.CountsUp slot 0 (document.depth? slot) := by
  by_cases live : document.Live slot
  · obtain ⟨depth, atDepth⟩ := owned.rooted slot live
    have count := atDepth.countsUp 0
    rw [Nat.zero_add] at count
    rw [atDepth.depth?_eq]
    exact count
  · have vacant := node?_of_not_live live
    rw [depth?, depthWithin_of_vacant vacant]
    exact .vacant vacant

/-- The count of the steps up from any slot ends, and gives its depth. -/
theorem countsUp_iff (owned : document.Owned) :
    document.CountsUp slot 0 result ↔ result = document.depth? slot := by
  constructor
  · exact fun count => count.unique (owned.countsUp slot)
  · rintro rfl
    exact owned.countsUp slot

/-- A node is as deep as it has ancestors. -/
theorem depth?_eq_length (owned : document.Owned) (live : document.Live slot) :
    document.depth? slot = some (document.ancestors slot).length := by
  obtain ⟨depth, atDepth⟩ := owned.rooted slot live
  rw [atDepth.depth?_eq, atDepth.length_ancestors]

/-- The subtree of a node consists of the node and the slots that it is above. -/
theorem mem_subtree (owned : document.Owned) (topLive : document.Live top)
    (live : document.Live slot) :
    slot ∈ document.subtree top ↔ top = slot ∨ top ∈ document.ancestors slot := by
  obtain ⟨tree, isSubtree, rfl, fits⟩ := owned.exists_subtree topLive
  rw [isSubtree, fits.mem_preorder owned live, eq_comm]

/-- What is below a node, the node aside, is what it is above. -/
theorem mem_subtree_ne (owned : document.Owned) (topLive : document.Live top)
    (live : document.Live slot) :
    slot ∈ document.subtree top ∧ slot ≠ top ↔ top ∈ document.ancestors slot := by
  rw [owned.mem_subtree topLive live]
  constructor
  · rintro ⟨rfl | isAbove, different⟩
    · exact absurd rfl different
    · exact isAbove
  · intro isAbove
    refine ⟨.inr isAbove, ?_⟩
    rintro rfl
    obtain ⟨depth, atDepth⟩ := owned.rooted slot live
    exact atDepth.not_mem_ancestors isAbove

end Owned

end Outliner.Document
