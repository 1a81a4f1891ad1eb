import Mathlib.Data.Set.Card
import Outliner.Proofs.History

/-!
Contract: who owns the nodes of a document.

Owns: what the root list and the nodes own, and that in every reachable document each
node has exactly one owner, which it knows, and a way up to a root.

Main statements: `Owned.count_ownedBy`, `AtDepth.exists_root`, `Owned.ncard_live`.

Does not own: why the operations keep the invariant (`Proofs.Document.Ownership`).
-/

namespace Outliner

open Outliner.Calendar

namespace Document

variable {document : Document} {slot depth : Nat} {node : Node}

/-- What an owner owns: the roots, if it is none, and the children of a node otherwise. -/
def ownedBy (document : Document) : Option Nat → List Nat
  | none => document.roots
  | some parent => ((document.node? parent).map Node.children).getD []

theorem ownedBy_of_node? (found : document.node? slot = some node) :
    document.ownedBy (some slot) = node.children := by
  rw [ownedBy, found]
  rfl

/-- The owner of a node is what the node says it is. -/
theorem Owned.mem_ownedBy (owned : document.Owned) {owner : Option Nat} :
    slot ∈ document.ownedBy owner ↔ document.Live slot ∧ document.parent? slot = owner := by
  cases owner with
  | none => exact owned.mem_roots slot
  | some parent =>
      constructor
      · intro member
        cases found : document.node? parent with
        | none =>
            rw [ownedBy, found] at member
            exact absurd member List.not_mem_nil
        | some node =>
            rw [ownedBy_of_node? found] at member
            have hasParent := (owned.mem_children parent node found slot).mp member
            exact ⟨live_of_parent? hasParent, hasParent⟩
      · rintro ⟨-, hasParent⟩
        obtain ⟨node, found⟩ := owned.parent_live hasParent
        rw [ownedBy_of_node? found]
        exact (owned.mem_children parent node found slot).mpr hasParent

theorem Owned.ownedBy_nodup (owned : document.Owned) (owner : Option Nat) :
    (document.ownedBy owner).Nodup := by
  cases owner with
  | none => exact owned.roots_nodup
  | some parent =>
      cases found : document.node? parent with
      | none =>
          rw [ownedBy, found]
          exact List.nodup_nil
      | some node =>
          rw [ownedBy_of_node? found]
          exact owned.children_nodup parent node found

/-- A node is listed once by its parent, or among the roots if it has none, and by no other
owner. -/
theorem Owned.count_ownedBy (owned : document.Owned) (live : document.Live slot)
    (owner : Option Nat) : (document.ownedBy owner).count slot =
      if owner = document.parent? slot then 1 else 0 := by
  split
  · rename_i isOwner
    apply List.count_eq_one_of_mem (owned.ownedBy_nodup owner)
    exact owned.mem_ownedBy.mpr ⟨live, isOwner.symm⟩
  · rename_i isOther
    rw [List.count_eq_zero, owned.mem_ownedBy]
    exact fun member => isOther member.2.symm

/-- The way up ends at a root after as many steps as the depth says. -/
theorem AtDepth.exists_root (atDepth : document.AtDepth slot depth) (owned : document.Owned) :
    ∃ root ∈ document.roots,
      Relation.ReflTransGen (fun child parent => document.parent? child = some parent)
        slot root := by
  induction atDepth with
  | root live isRoot => exact ⟨_, (owned.mem_roots _).mpr ⟨live, isRoot⟩, .refl⟩
  | under hasParent _ inductionHypothesis =>
      obtain ⟨root, isRoot, wayUp⟩ := inductionHypothesis
      exact ⟨root, isRoot, .head hasParent wayUp⟩

/-- There are as many slots with a node as the size says. -/
theorem Owned.ncard_live (owned : document.Owned) :
    {slot | document.Live slot}.ncard = document.size := by
  have listed : {slot | document.Live slot} = (document.preorder.toFinset : Set Nat) := by
    ext slot
    rw [List.coe_toFinset]
    exact owned.mem_preorder.symm
  rw [listed, Set.ncard_coe_finset, List.toFinset_card_of_nodup owned.preorder_nodup,
    owned.length_preorder]

end Document

open Document

variable {document : Document}

/-- In every reachable document the roots are the nodes without a parent, the children of
a node are the nodes whose parent it is, nothing is listed twice, and the way up from
every node ends at a root. So every node has exactly one owner, and the size is the
number of nodes. -/
theorem Reachable.owned_exactly_once (reached : Reachable document) :
    (document.roots.Nodup ∧
      ∀ slot, slot ∈ document.roots ↔ document.Live slot ∧ document.parent? slot = none) ∧
    (∀ slot node, document.node? slot = some node →
      node.children.Nodup ∧
      ∀ child ∈ node.children, document.Live child ∧ document.parent? child = some slot) ∧
    (∀ slot parent, document.parent? slot = some parent →
      ∃ node, document.node? parent = some node ∧ slot ∈ node.children) ∧
    (∀ slot, document.Live slot → ∃ root ∈ document.roots,
      Relation.ReflTransGen (fun child parent => document.parent? child = some parent)
        slot root) ∧
    (∀ slot, document.Live slot → ∃ owner, ∀ other,
      (document.ownedBy other).count slot = if other = owner then 1 else 0) ∧
    document.size = {slot | document.Live slot}.ncard := by
  have owned := reached.owned
  refine ⟨⟨owned.roots_nodup, owned.mem_roots⟩, ?_, ?_, ?_, ?_, owned.ncard_live.symm⟩
  · intro slot node found
    refine ⟨owned.children_nodup slot node found, fun child isChild => ?_⟩
    have hasParent := (owned.mem_children slot node found child).mp isChild
    exact ⟨live_of_parent? hasParent, hasParent⟩
  · intro slot parent hasParent
    obtain ⟨node, found⟩ := owned.parent_live hasParent
    exact ⟨node, found, (owned.mem_children parent node found slot).mpr hasParent⟩
  · intro slot live
    obtain ⟨depth, atDepth⟩ := owned.rooted slot live
    exact atDepth.exists_root owned
  · intro slot live
    exact ⟨document.parent? slot, owned.count_ownedBy live⟩

/-- A slot is freed by a removal and taken again by a node elsewhere in the forest. -/
theorem owned_exactly_once_reused :
    let record := fun number => Record.plain (.ofNat number) "" .last .last
    let document := Operation.run
      [.addRoot (record 1), .addChild 0 (record 2), .addChild 0 (record 3), .removeTree 1,
        .addChild 2 (record 4)]
    Reachable document ∧ document.parent? 1 = some 2 ∧
      {slot | document.Live slot}.ncard = 3 ∧
      ∃ owner, ∀ other, (document.ownedBy other).count 1 = if other = owner then 1 else 0 := by
  intro record document
  have reached : Reachable document := .run fun _ _ => trivial
  obtain ⟨-, -, -, -, once, size⟩ := Reachable.owned_exactly_once reached
  have hasParent : document.parent? 1 = some 2 := by decide +kernel
  exact ⟨reached, hasParent, size.symm.trans (by decide +kernel),
    once 1 (Document.live_of_parent? hasParent)⟩

end Outliner
