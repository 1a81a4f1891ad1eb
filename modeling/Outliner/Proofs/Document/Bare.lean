import Outliner.Proofs.Document.Identity
import Outliner.Proofs.Document.Ownership
import Outliner.Proofs.Links.Resolving

/-!
Contract: what work on references and links leaves alone.

Owns: the bare document, which is without references, links, what is shown closed, and
the index; that the forest, its walks and the invariants can be read off it; and that
no work on references and links changes it.

Does not own: what that work does to references and links (`Proofs.Links.Populated`,
`Proofs.Links.Relink`).
-/

namespace Outliner

open Outliner.Store

namespace Store.Arena

variable {α : Type}

theorem entry_ext {left right : Arena α} (next : left.next = right.next)
    (len : left.len = right.len)
    (entries : ∀ slot : Nat, left.entries[slot]? = right.entries[slot]?) : left = right := by
  obtain ⟨leftEntries, leftLen, leftNext⟩ := left
  obtain ⟨rightEntries, rightLen, rightNext⟩ := right
  obtain rfl : leftEntries = rightEntries := Array.ext_getElem? entries
  obtain rfl : leftNext = rightNext := next
  obtain rfl : leftLen = rightLen := len
  rfl

theorem mapEntry_mapEntry (first second : α → α) (entry : Entry α) :
    mapEntry second (mapEntry first entry) = mapEntry (second ∘ first) entry := by
  cases entry <;> rfl

/-- A change that a view does not see does not change the view of the arena. -/
theorem mapValues_modify {view change : α → α} (unseen : ∀ value, view (change value) = view value)
    (arena : Arena α) (slot : Nat) :
    (arena.modify slot change).mapValues view = arena.mapValues view := by
  have composed : view ∘ change = view := funext unseen
  refine entry_ext rfl rfl fun other => ?_
  simp only [modify, mapValues, Array.getElem?_map, Array.getElem?_modify]
  split
  · rw [Option.map_map]
    congr 1
    funext entry
    rw [Function.comp_apply, mapEntry_mapEntry, composed]
  · rfl

/-- A view that does not see a change sees the same of a changed arena. -/
theorem mapValues_mapValues {view change : α → α}
    (unseen : ∀ value, view (change value) = view value) (arena : Arena α) :
    (arena.mapValues change).mapValues view = arena.mapValues view := by
  have composed : view ∘ change = view := funext unseen
  refine entry_ext rfl rfl fun slot => ?_
  simp only [mapValues, Array.getElem?_map, Option.map_map]
  congr 1
  funext entry
  rw [Function.comp_apply, mapEntry_mapEntry, composed]

end Store.Arena

/-- The node without its references and what follows from them. -/
def Node.bare (node : Node) : Node :=
  { node with references := [], links := [], collapsed := [] }

theorem Node.bare_setLinks (links : List Link) (node : Node) :
    (node.setLinks links).bare = node.bare :=
  rfl

theorem Node.bare_setReferences (references : List NodeId) (node : Node) :
    (node.setReferences references).bare = node.bare :=
  rfl

theorem Node.bare_flipCollapsed (target : NodeId) (node : Node) :
    (node.flipCollapsed target).bare = node.bare := by
  unfold Node.flipCollapsed
  split <;> rfl

namespace Document

/-- The document without references, links, what is shown closed, and the index. -/
def bare (document : Document) : Document :=
  { document with nodes := document.nodes.mapValues Node.bare, index := none }

variable {document before after : Document} {slot : Nat}

/-! ## Reading off the bare document -/

/-- The nodes of the bare document are the bare nodes. -/
theorem node?_bare (document : Document) (slot : Nat) :
    document.bare.node? slot = (document.node? slot).map Node.bare :=
  Arena.get?_mapValues document.nodes Node.bare slot

theorem reach_bare (document : Document) : document.bare.reach = document.reach :=
  Array.size_map

theorem live_bare_iff : document.bare.Live slot ↔ document.Live slot := by
  unfold Live
  rw [node?_bare]
  simp

theorem holds_bare (document : Document) (slot : Nat) (id : NodeId) :
    document.bare.holds slot id = document.holds slot id := by
  unfold holds
  rw [node?_bare, Option.any_map]
  rfl

theorem parent?_bare (document : Document) (slot : Nat) :
    document.bare.parent? slot = document.parent? slot := by
  unfold parent?
  rw [node?_bare, Option.bind_map]
  rfl

theorem treeWithin_bare (document : Document) (levels slot : Nat) :
    document.bare.treeWithin levels slot = document.treeWithin levels slot := by
  induction levels generalizing slot with
  | zero => rfl
  | succ levels inductionHypothesis =>
      rw [treeWithin, treeWithin, node?_bare, Option.map_map, funext inductionHypothesis]
      rfl

theorem tree?_bare (document : Document) (slot : Nat) :
    document.bare.tree? slot = document.tree? slot := by
  unfold tree?
  rw [reach_bare, treeWithin_bare]

theorem forest_bare (document : Document) : document.bare.forest = document.forest := by
  unfold forest
  rw [funext document.tree?_bare]
  rfl

theorem preorder_bare (document : Document) : document.bare.preorder = document.preorder := by
  unfold preorder
  rw [forest_bare]

theorem ancestorsWithin_bare (document : Document) (steps slot : Nat) :
    document.bare.ancestorsWithin steps slot = document.ancestorsWithin steps slot := by
  induction steps generalizing slot with
  | zero => rfl
  | succ steps inductionHypothesis =>
      simp only [ancestorsWithin, parent?_bare, inductionHypothesis]

theorem ancestors_bare (document : Document) (slot : Nat) :
    document.bare.ancestors slot = document.ancestors slot := by
  unfold ancestors
  rw [reach_bare, ancestorsWithin_bare]

theorem idsOf_bare (document : Document) (slots : List Nat) :
    document.bare.idsOf slots = document.idsOf slots := by
  unfold idsOf
  congr 1
  funext slot
  rw [node?_bare, Option.map_map]
  rfl

/-- Identifiers are distinct in a document exactly if they are so in the bare one. -/
theorem distinctIds_bare_iff : document.bare.DistinctIds ↔ document.DistinctIds := by
  unfold DistinctIds
  simp only [holds_bare]

theorem holds_of_bare_eq (same : after.bare = before.bare)
    (slot : Nat) (id : NodeId) : after.holds slot id = before.holds slot id := by
  rw [← holds_bare, same, holds_bare]

theorem ancestors_of_bare_eq (same : after.bare = before.bare)
    (slot : Nat) : after.ancestors slot = before.ancestors slot := by
  rw [← ancestors_bare, same, ancestors_bare]

theorem idsOf_of_bare_eq (same : after.bare = before.bare)
    (slots : List Nat) : after.idsOf slots = before.idsOf slots := by
  rw [← idsOf_bare, same, idsOf_bare]

theorem preorder_of_bare_eq (same : after.bare = before.bare) :
    after.preorder = before.preorder := by
  rw [← preorder_bare, same, preorder_bare]

theorem live_of_bare_eq (same : after.bare = before.bare) :
    after.Live slot ↔ before.Live slot := by
  rw [← live_bare_iff, same, live_bare_iff]

/-- Where documents are bare in the same way, so are their nodes. -/
theorem exists_node?_of_bare_eq {node : Node} (same : after.bare = before.bare)
    (found : before.node? slot = some node) :
    ∃ current, after.node? slot = some current ∧ current.bare = node.bare := by
  have view : (after.node? slot).map Node.bare = some node.bare := by
    rw [← node?_bare, same, node?_bare, found]
    rfl
  exact Option.map_eq_some_iff.mp view

/-- The invariant of a forest does not look at references and links. -/
theorem Owned.of_bare_eq (owned : before.Owned) (same : after.bare = before.bare) :
    after.Owned := by
  have nodes : after.nodes.mapValues Node.bare = before.nodes.mapValues Node.bare :=
    congrArg Document.nodes same
  have sound : after.nodes.Sound := by
    have mapped : (before.nodes.mapValues Node.bare).Sound :=
      Arena.sound_mapValues_iff.mpr owned.sound
    rw [← nodes] at mapped
    exact Arena.sound_mapValues_iff.mp mapped
  have roots : after.roots = before.roots :=
    congrArg (fun document => document.roots) same
  apply owned.of_same_placement sound roots
  intro slot
  have views : (after.node? slot).map Node.bare = (before.node? slot).map Node.bare := by
    rw [← node?_bare, same, node?_bare]
  have placements := congrArg (Option.map Node.placement) views
  simp only [Option.map_map] at placements
  exact placements

theorem DistinctIds.of_bare_eq (distinct : before.DistinctIds) (same : after.bare = before.bare) :
    after.DistinctIds := by
  rw [← distinctIds_bare_iff, same]
  exact distinctIds_bare_iff.mpr distinct

/-! ## Work on references and links -/

/-- A change of a node that is not seen in the bare node is not seen in the bare document. -/
theorem bare_update {change : Node → Node} (unseen : ∀ node, (change node).bare = node.bare)
    (document : Document) (slot : Nat) : (document.update slot change).bare = document.bare := by
  unfold bare update
  rw [Arena.mapValues_modify unseen]

theorem bare_dropIndex (document : Document) : document.dropIndex.bare = document.bare :=
  rfl

theorem bare_ensureIndex (document : Document) : document.ensureIndex.bare = document.bare := by
  unfold ensureIndex
  split <;> rfl

theorem bare_setReferences (document : Document) (slot : Nat) (references : List NodeId) :
    (document.update slot (Node.setReferences references)).ensureIndex.bare = document.bare := by
  rw [bare_ensureIndex]
  exact bare_update (Node.bare_setReferences references) document slot

theorem nodes_ensureIndex (document : Document) : document.ensureIndex.nodes = document.nodes := by
  unfold ensureIndex
  split <;> rfl

theorem bare_clearLinks (document : Document) : document.clearLinks.bare = document.bare := by
  unfold bare clearLinks
  rw [Arena.mapValues_mapValues (Node.bare_setLinks [])]

theorem ResolveStep.bare_eq (step : ResolveStep slot before after) : after.bare = before.bare := by
  cases step with
  | resolved found path => exact bare_update (Node.bare_setLinks _) before slot

/-- No resolution is seen in the bare document. -/
theorem Resolving.bare_eq (resolving : Resolving before after) : after.bare = before.bare := by
  induction resolving with
  | refl => rfl
  | tail _ last inductionHypothesis =>
      obtain ⟨slot, step⟩ := last
      exact step.bare_eq.trans inductionHypothesis

/-- Building all links anew is not seen in the bare document. -/
theorem bare_relink (document : Document) : document.relink.2.bare = document.bare := by
  rw [document.resolving_relink.bare_eq, bare_clearLinks, bare_ensureIndex]

/-- Populating a node is not seen in the bare document. -/
theorem bare_populate {ids : List NodeId} {count : Nat}
    (populated : before.populate slot ids = .ok (count, after)) : after.bare = before.bare := by
  obtain ⟨node, -, equal⟩ := requireNode_map_ok populated
  obtain ⟨-, rfl⟩ := Prod.mk.inj equal
  rw [(resolving_linkBelow _ slot _ _).bare_eq]
  exact before.bare_setReferences slot _

/-- A flip changes one node and nothing else. -/
theorem flipCollapsed_eq {target : NodeId} {closed : Bool}
    (flipped : before.flipCollapsed slot target = .ok (closed, after)) :
    after = before.update slot (Node.flipCollapsed target) := by
  unfold flipCollapsed requireNode at flipped
  split at flipped
  · simp only [Except.bind] at flipped
    split at flipped
    · exact (congrArg Prod.snd (Except.ok.inj flipped)).symm
    · cases flipped
  · cases flipped

theorem bare_flipCollapsed {target : NodeId} {closed : Bool}
    (flipped : before.flipCollapsed slot target = .ok (closed, after)) :
    after.bare = before.bare := by
  rw [flipCollapsed_eq flipped]
  exact bare_update (Node.bare_flipCollapsed target) before slot

end Document

end Outliner
