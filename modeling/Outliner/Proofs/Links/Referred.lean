import Outliner.Proofs.Links.Closed
import Outliner.Proofs.Links.Untangled

/-!
Contract: nodes link to nothing that they do not refer to.

Owns: the invariant `LinksReferred` and that every operation keeps it, and what populating
one node does to its links and to those of nodes that are not below it, where identifiers
are distinct.

Main statements: `Owned.populated`, `Owned.repopulated`, `ReachableWhile.linksReferred`.

Does not own: in which direction two nodes that refer to each other are linked
(`Proofs.Links.Untangled`).
-/

namespace Outliner

namespace Document

variable {document before after : Document} {slot other target count : Nat} {ids : List NodeId}
  {record : Record} {parent : Option Nat}

/-- The identifiers that a node links to are some of its references, in their order. -/
def ReferredAt (document : Document) (slot : Nat) : Prop :=
  ((document.linksAt slot).map Link.id).Sublist (document.referencesAt slot)

/-- No node has a link that is not one of its references. -/
def LinksReferred (document : Document) : Prop :=
  ∀ slot, document.ReferredAt slot

theorem ReferredAt.of_eq (referred : before.ReferredAt slot)
    (links : after.linksAt slot = before.linksAt slot)
    (references : after.referencesAt slot = before.referencesAt slot) :
    after.ReferredAt slot := by
  unfold ReferredAt
  rw [links, references]
  exact referred

theorem referredAt_of_no_links (noLinks : document.linksAt slot = []) :
    document.ReferredAt slot := by
  unfold ReferredAt
  rw [noLinks]
  exact List.nil_sublist _

/-- An edit that keeps references and links of the node keeps the invariant. -/
theorem LinksReferred.update (referred : document.LinksReferred) {change : Node → Node}
    (links : ∀ node, (change node).links = node.links)
    (references : ∀ node, (change node).references = node.references) (slot : Nat) :
    (document.update slot change).LinksReferred :=
  fun other => (referred other).of_eq (linksAt_update links document slot other)
    (referencesAt_update references document slot other)

/-- A node that links to another one refers to it. -/
theorem LinksReferred.refersTo (referred : document.LinksReferred)
    (isLink : document.LinksTo slot target) : document.RefersTo slot target := by
  obtain ⟨link, isLink, isHeld⟩ := isLink
  exact ⟨link.id, (referred slot).subset (List.mem_map_of_mem isLink), isHeld⟩

/-! ## Resolutions -/

/-- The links of a node are those that it had, or what its references were resolved to at
some time on the way. -/
theorem Resolving.linksAt_cases (resolving : Resolving before after) (slot : Nat) :
    after.linksAt slot = before.linksAt slot ∨
      ∃ during path node, Resolving before during ∧ during.node? slot = some node ∧
        after.linksAt slot = during.linksOf path node := by
  induction resolving with
  | refl => exact .inl rfl
  | @tail during after soFar last inductionHypothesis =>
      obtain ⟨visited, step⟩ := last
      cases step with
      | @resolved node found path =>
          rw [linksAt_update_setLinks found]
          split
          · rename_i isVisited
            subst isVisited
            exact .inr ⟨during, path, node, soFar, found, rfl⟩
          · exact inductionHypothesis

open Classical in
/-- Whatever way leads down to a node, it is linked to what it refers to. -/
theorem ids_linksOf_sublist (document : Document) (path : List NodeId) (node : Node) :
    ((document.linksOf path node).map Link.id).Sublist node.references := by
  rw [map_id_linksOf]
  exact List.filter_sublist

theorem ResolveStep.referredAt (step : ResolveStep slot before after) :
    after.ReferredAt slot := by
  cases step with
  | @resolved node found path =>
      unfold ReferredAt
      rw [linksAt_update_setLinks found, if_pos rfl, (ResolveStep.resolved found path).referencesAt,
        referencesAt_of_node? found]
      exact before.ids_linksOf_sublist path node

/-- A resolution links a node to nothing that it does not refer to. -/
theorem Resolving.referredAt (resolving : Resolving before after)
    (referred : before.ReferredAt slot) : after.ReferredAt slot := by
  rcases resolving.linksAt_cases slot with kept | ⟨during, path, node, soFar, found, links⟩
  · exact referred.of_eq kept (resolving.referencesAt slot)
  · unfold ReferredAt
    rw [links, resolving.referencesAt, ← soFar.referencesAt, referencesAt_of_node? found]
    exact during.ids_linksOf_sublist path node

theorem linksReferred_relink (document : Document) : document.relink.2.LinksReferred := by
  intro slot
  apply document.resolving_relink.referredAt
  exact referredAt_of_no_links (linksAt_clearLinks _ slot)

theorem linksAt_setReferences (references : List NodeId) (document : Document)
    (slot other : Nat) :
    (document.update slot (Node.setReferences references)).ensureIndex.linksAt other =
      document.linksAt other := by
  have keeps : ∀ node, (Node.setReferences references node).links = node.links := fun _ => rfl
  unfold linksAt node?
  rw [nodes_ensureIndex]
  exact linksAt_update keeps document slot other

/-- Populating a node leaves no link that is not a reference. -/
theorem Owned.linksReferred_populate (owned : before.Owned)
    (populated : before.populate slot ids = .ok (count, after)) (referred : before.LinksReferred) :
    after.LinksReferred := by
  obtain ⟨references, entered, step, resolving⟩ := owned.exists_resolving_populate populated
  intro other
  apply resolving.referredAt
  by_cases isSlot : other = slot
  · rw [isSlot]
    exact step.referredAt
  · apply Resolving.referredAt (.single ⟨slot, step⟩)
    apply (referred other).of_eq (linksAt_setReferences references before slot other)
    rw [referencesAt_ensureIndex, referencesAt, node?_update, if_neg isSlot, referencesAt]

/-! ## Populating a node -/

open Classical in
/-- What populating a node leaves: it is linked to the references that it could be linked to, and
nodes that are not in its subtree are what they were. -/
structure Populated (before : Document) (slot : Nat) (after : Document) : Prop where
  bare_eq : after.bare = before.bare
  ids : (after.linksAt slot).map Link.id = (after.referencesAt slot).filter fun reference =>
    ∃ target, before.holds target reference ∧ before.MayLink slot target
  held : ∀ link ∈ after.linksAt slot, after.holds link.slot link.id
  node?_outside : ∀ other, other ∉ before.subtree slot → after.node? other = before.node? other

/-- The node is visited first, with its new references. What is below it is visited after it, and
nothing else is. -/
theorem Owned.populated (owned : before.Owned) (distinct : before.DistinctIds)
    (isPopulated : before.populate slot ids = .ok (count, after)) :
    Populated before slot after := by
  obtain ⟨node, found, isAfter, -⟩ := owned.populate_eq_foldl distinct isPopulated
  obtain ⟨below, isSubtree, nodup, -⟩ := owned.subtree_eq_cons ⟨node, found⟩
  have linksKept := linksAt_setReferences (firstOccurrences (ids.filter (· ≠ node.id))) before slot
  have same := before.bare_setReferences slot (firstOccurrences (ids.filter (· ≠ node.id)))
  have othersKept : ∀ other, other ≠ slot → (before.update slot (Node.setReferences
      (firstOccurrences (ids.filter (· ≠ node.id))))).ensureIndex.node? other =
        before.node? other := by
    intro other different
    rw [node?, nodes_ensureIndex, ← node?, node?_update, if_neg different]
  rw [isSubtree, List.foldl_cons] at isAfter
  generalize (before.update slot (Node.setReferences (firstOccurrences
    (ids.filter (· ≠ node.id))))).ensureIndex = referring at isAfter linksKept same othersKept
  have first : Visited (⟨0, 0, 0, 0⟩, referring) slot (visit (⟨0, 0, 0, 0⟩, referring) slot) :=
    (owned.of_bare_eq same).visited (distinct.of_bare_eq same)
      ((live_of_bare_eq same).mpr ⟨node, found⟩)
  have atNode : after.linksAt slot = (visit (⟨0, 0, 0, 0⟩, referring) slot).2.linksAt slot := by
    rw [isAfter, linksAt, node?_foldl_visit (List.nodup_cons.mp nodup).1, ← linksAt]
  have mayLink : ∀ target, referring.MayLink slot target ↔ before.MayLink slot target := by
    intro target
    unfold MayLink
    rw [ancestors_of_bare_eq same, linksTo_congr linksKept (holds_of_bare_eq same)]
  have bareEq : after.bare = before.bare := by
    rw [isAfter, bare_foldl_visit, first.bare_eq, same]
  refine ⟨bareEq, ?_, fun link isLink => ?_, fun other outside => ?_⟩
  · have references : after.referencesAt slot = referring.referencesAt slot := by
      rw [isAfter, referencesAt_foldl_visit, first.referencesAt]
    rw [atNode, references, first.ids]
    refine List.filter_congr fun reference _ => decide_eq_decide.mpr (exists_congr fun target => ?_)
    rw [holds_of_bare_eq same, mayLink]
  · rw [atNode] at isLink
    have isHeld := first.held link isLink
    rw [holds_of_bare_eq same] at isHeld
    rw [holds_of_bare_eq bareEq]
    exact isHeld
  · rw [isSubtree, List.mem_cons, not_or] at outside
    rw [isAfter, node?_foldl_visit outside.2, node?_visit outside.1, othersKept other outside.1]

/-- What populating a node does to links. The node gets links to what it now refers to,
unless they lead upwards or have one back; only the nodes below it are resolved with it. -/
structure Repopulated (before : Document) (slot : Nat) (after : Document) : Prop where
  linksTo_self : ∀ target,
    after.LinksTo slot target ↔ after.RefersTo slot target ∧ before.MayLink slot target
  linksAt_other : ∀ other, other ≠ slot → slot ∉ before.ancestors other →
    after.linksAt other = before.linksAt other

theorem Owned.repopulated (owned : before.Owned) (distinct : before.DistinctIds)
    (isPopulated : before.populate slot ids = .ok (count, after)) :
    Repopulated before slot after := by
  have populated := owned.populated distinct isPopulated
  constructor
  · intro target
    rw [distinct.linksTo_iff populated.bare_eq populated.ids]
    simp only [RefersTo, holds_of_bare_eq populated.bare_eq]
  · intro other different notBelow
    have live : before.Live slot := by
      obtain ⟨node, found, -⟩ := owned.populate_eq_foldl distinct isPopulated
      exact ⟨node, found⟩
    obtain ⟨below, isSubtree, -, isAbove⟩ := owned.subtree_eq_cons live
    have outside : other ∉ before.subtree slot := by
      rw [isSubtree, List.mem_cons, not_or]
      exact ⟨different, fun isBelow => notBelow (isAbove other isBelow)⟩
    rw [linksAt, populated.node?_outside other outside, linksAt]

/-! ## Histories -/

theorem LinkStep.linksReferred (work : LinkStep before after) (owned : before.Owned)
    (referred : before.LinksReferred) : after.LinksReferred := by
  cases work with
  | indexed index => exact referred
  | populated populated => exact owned.linksReferred_populate populated referred
  | relinked => exact before.linksReferred_relink
  | @flipped slot target _ _ flipped =>
      rw [flipCollapsed_eq flipped]
      apply referred.update
      all_goals
        intro node
        unfold Node.flipCollapsed
        split <;> rfl

theorem LinkWork.linksReferred (work : LinkWork before after) (owned : before.Owned)
    (referred : before.LinksReferred) : after.LinksReferred := by
  induction work with
  | refl => exact referred
  | tail work last inductionHypothesis =>
      exact last.linksReferred (owned.of_bare_eq (LinkWork.bare_eq work)) inductionHypothesis

theorem Grown.linksReferred (grown : Grown before record parent slot after)
    (referred : before.LinksReferred) : after.LinksReferred := by
  have unseen : ∀ node, (Node.appendChild slot node).references = node.references := by
    intro node
    unfold Node.appendChild
    split <;> rfl
  intro other
  by_cases isNew : other = slot
  · rw [isNew]
    exact referredAt_of_no_links grown.linksAt_slot
  · apply (referred other).of_eq (grown.linksAt_of_ne isNew)
    unfold referencesAt
    rw [grown.map_node?_of_ne (fun node => node.references) unseen isNew]

theorem Pruned.linksReferred (pruned : Pruned before slot after)
    (referred : before.LinksReferred) : after.LinksReferred := by
  intro other
  cases found : after.node? other with
  | none =>
      apply referredAt_of_no_links
      rw [linksAt, found]
      rfl
  | some node =>
      obtain ⟨old, oldFound, equal⟩ := pruned.old_of_found found
      have same : node.links = old.links ∧ node.references = old.references := by
        rw [equal]
        split <;> exact ⟨rfl, rfl⟩
      apply (referred other).of_eq
      · rw [linksAt_of_node? found, linksAt_of_node? oldFound, same.1]
      · rw [referencesAt_of_node? found, referencesAt_of_node? oldFound, same.2]

/-- No change leaves a link that is not a reference. -/
theorem Change.linksReferred (change : Change before after) (owned : before.Owned)
    (referred : before.LinksReferred) : after.LinksReferred := by
  cases change with
  | grown grown => exact grown.linksReferred referred
  | pruned pruned => exact pruned.linksReferred referred
  | edited slot content => exact referred.update content.links content.references slot
  | linked work => exact work.linksReferred owned referred

end Document

open Document

/-- In every document that is reached, a node links only to identifiers that it refers to. -/
theorem ReachableWhile.linksReferred {document : Document} {good : Document → Prop}
    (reached : ReachableWhile good document) : document.LinksReferred := by
  apply reached.invariant
  · intro slot
    apply referredAt_of_no_links
    rw [linksAt, node?, Document.empty, Store.Arena.get?_empty]
    rfl
  · exact fun before after owned _ _ change referred => change.linksReferred owned referred

end Outliner
