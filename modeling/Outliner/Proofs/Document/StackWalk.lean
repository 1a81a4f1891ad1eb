import Outliner.Proofs.Document.Preorder

/-!
Contract: a walk with a stack of slots lists the forest in pre-order.

Owns: the iterator whose state is the slots still to visit, the pre-order that is read off
the lists of children alone, and that both are the one of `preorder`.

Main statements: `Owned.inPreorder_iff` and `Owned.walks_iff`.

Does not own: what is filtered out of the walk (`Search.Match`).
-/

namespace Outliner

namespace Document

variable {document : Document} {slot : Nat} {node : Node} {slots pending left right : List Nat}

/-- The next slot of a walk and the slots then left to visit. A slot without a node is passed
over; the children of a node come before what was left. -/
def nextOf (document : Document) : List Nat → Option (Nat × List Nat)
  | [] => none
  | slot :: rest =>
    match document.node? slot with
    | none => document.nextOf rest
    | some node => some (slot, node.children ++ rest)

/-- With some slots left to visit, the walk ends and has yielded the slots of a list. -/
inductive Walks (document : Document) : List Nat → List Nat → Prop where
  | done {pending : List Nat} (ended : document.nextOf pending = none) :
      Walks document pending []
  | next {pending left yielded : List Nat} {slot : Nat}
      (isNext : document.nextOf pending = some (slot, left))
      (behind : Walks document left yielded) : Walks document pending (slot :: yielded)

/-- The nodes in some slots and all below them in pre-order: a node, what is below it, then
its siblings. -/
inductive InPreorder (document : Document) : List Nat → List Nat → Prop where
  | none : InPreorder document [] []
  | node {slot : Nat} {node : Node} {siblings below behind : List Nat}
      (found : document.node? slot = some node)
      (children : InPreorder document node.children below)
      (rest : InPreorder document siblings behind) :
      InPreorder document (slot :: siblings) (slot :: below ++ behind)

theorem nextOf_of_node? (found : document.node? slot = some node) (rest : List Nat) :
    document.nextOf (slot :: rest) = some (slot, node.children ++ rest) := by
  rw [nextOf, found]

/-- A walk yields one list. -/
theorem Walks.unique (walk : document.Walks pending left) (other : document.Walks pending right) :
    left = right := by
  induction walk generalizing right with
  | done ended =>
      cases other with
      | done => rfl
      | next isNext =>
          rw [ended] at isNext
          cases isNext
  | next isNext _ inductionHypothesis =>
      cases other with
      | done ended =>
          rw [isNext] at ended
          cases ended
      | next otherNext behind =>
          rw [isNext] at otherNext
          obtain ⟨rfl, rfl⟩ := Prod.mk.inj (Option.some.inj otherNext)
          rw [inductionHypothesis behind]

/-- Slots have one pre-order. -/
theorem InPreorder.unique (order : document.InPreorder slots left)
    (other : document.InPreorder slots right) : left = right := by
  induction order generalizing right with
  | none =>
      cases other
      rfl
  | node found _ _ childrenHypothesis restHypothesis =>
      cases other with
      | node otherFound children rest =>
          rw [found] at otherFound
          obtain rfl := Option.some.inj otherFound
          rw [childrenHypothesis children, restHypothesis rest]

/-- Slots on top of the stack are walked, with all below them, before the rest of it. -/
theorem InPreorder.walks (order : document.InPreorder slots left)
    (behind : document.Walks pending right) :
    document.Walks (slots ++ pending) (left ++ right) := by
  induction order generalizing pending right with
  | none => exact behind
  | node found _ _ childrenHypothesis restHypothesis =>
      rw [List.cons_append, List.cons_append, List.cons_append, List.append_assoc]
      exact .next (nextOf_of_node? found _) (childrenHypothesis (restHypothesis behind))

/-! ## The trees of a forest -/

theorem inPreorder_trees {trees : List Tree}
    (each : ∀ tree ∈ trees, ∀ {siblings behind : List Nat},
      document.InPreorder siblings behind →
        document.InPreorder (tree.slot :: siblings) (tree.preorder ++ behind)) :
    document.InPreorder (trees.map Tree.slot) (trees.flatMap Tree.preorder) := by
  induction trees with
  | nil => exact .none
  | cons tree rest inductionHypothesis =>
      rw [List.map_cons, List.flatMap_cons]
      exact each tree List.mem_cons_self
        (inductionHypothesis fun other isRest => each other (List.mem_cons_of_mem tree isRest))

end Document

open Document

variable {document : Document}

/-- A tree that fits comes before its siblings in pre-order. -/
theorem Tree.Fits.inPreorder {tree : Tree} (fits : tree.Fits document)
    {siblings behind : List Nat} (rest : document.InPreorder siblings behind) :
    document.InPreorder (tree.slot :: siblings) (tree.preorder ++ behind) := by
  induction fits generalizing siblings behind with
  | branch found children _ inductionHypothesis =>
      rw [preorder_branch]
      refine .node found ?_ rest
      rw [← children]
      exact inPreorder_trees inductionHypothesis

namespace Document.Owned

/-- The pre-order of a document is that of its roots. -/
theorem inPreorder (owned : document.Owned) :
    document.InPreorder document.roots document.preorder := by
  obtain ⟨sameSlots, fits⟩ := owned.forest_fits
  rw [← sameSlots, preorder_eq_flatMap]
  exact inPreorder_trees fun tree isTree => (fits tree isTree).inPreorder

/-- The roots and all below them have one pre-order. -/
theorem inPreorder_iff (owned : document.Owned) {slots : List Nat} :
    document.InPreorder document.roots slots ↔ slots = document.preorder := by
  constructor
  · intro order
    exact order.unique owned.inPreorder
  · rintro rfl
    exact owned.inPreorder

/-- The walk that begins with the roots on the stack ends, and yields the pre-order. -/
theorem walks_iff (owned : document.Owned) {slots : List Nat} :
    document.Walks document.roots slots ↔ slots = document.preorder := by
  have walk : document.Walks document.roots document.preorder := by
    have all := owned.inPreorder.walks (Walks.done rfl : document.Walks [] [])
    rwa [List.append_nil, List.append_nil] at all
  constructor
  · intro other
    exact other.unique walk
  · rintro rfl
    exact walk

end Document.Owned

end Outliner
