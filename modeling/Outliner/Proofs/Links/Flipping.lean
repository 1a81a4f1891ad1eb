import Outliner.Proofs.History
import Outliner.Proofs.Links.Closed

/-!
Contract: what a node shows closed follows its references.

Owns: that no operation leaves a node with something shown closed that it does not refer to, and
when an entry can be flipped and what becomes of the document then.

Main statement: `Reachable.closed_follows_references`.

Does not own: what a resolution takes out (`Proofs.Links.Closed`).
-/

namespace Outliner

theorem ContentOnly.collapsed {change : Node → Node} (content : ContentOnly change)
    (node : Node) : (change node).collapsed = node.collapsed := by
  obtain ⟨text, metadata, changed⟩ := content node
  rw [changed]

namespace Document

variable {document before after : Document} {slot other : Nat} {id target : NodeId}

/-! ## Flipping an entry -/

/-- One entry of a node is flipped, and nothing else is changed. -/
structure Flipped (before : Document) (slot : Nat) (target : NodeId) (after : Document) : Prop where
  change : ∃ change : Node → Node, after = before.update slot change ∧
    ∀ node, ∃ collapsed, change node = { node with collapsed }
  mem_iff : ∀ id, id ∈ after.collapsedAt slot ↔ (id ∈ before.collapsedAt slot ↔ id ≠ target)

/-- Flipping an entry changes whether it is shown closed, and no other entry. -/
theorem mem_collapsed_flipCollapsed (target id : NodeId) (node : Node) :
    id ∈ (node.flipCollapsed target).collapsed ↔ (id ∈ node.collapsed ↔ id ≠ target) := by
  unfold Node.flipCollapsed Node.isCollapsed
  by_cases isTarget : id = target
  · subst isTarget
    split <;> simp_all
  · split <;> simp [isTarget]

/-- A flip only writes what is shown closed. -/
theorem exists_collapsed_flipCollapsed (target : NodeId) (node : Node) :
    ∃ collapsed, node.flipCollapsed target = { node with collapsed } := by
  unfold Node.flipCollapsed
  split <;> exact ⟨_, rfl⟩

theorem collapsedAt_update_flipCollapsed {node : Node} (found : document.node? slot = some node)
    (target : NodeId) : (document.update slot (Node.flipCollapsed target)).collapsedAt slot =
      (node.flipCollapsed target).collapsed := by
  rw [collapsedAt, node?_update, if_pos rfl, found]
  rfl

/-- An entry that the node refers to is flipped, and the answer is whether it is closed now. -/
theorem flipped_of_mem (isReference : target ∈ document.referencesAt slot) :
    ∃ after, document.flipCollapsed slot target =
      .ok (decide (target ∈ after.collapsedAt slot), after) ∧ Flipped document slot target after := by
  cases found : document.node? slot with
  | none =>
      rw [referencesAt, found] at isReference
      cases isReference
  | some node =>
      have references := referencesAt_of_node? found
      have collapsed := collapsedAt_of_node? found
      have mem_iff : ∀ id, id ∈ (document.update slot (Node.flipCollapsed target)).collapsedAt slot ↔
          (id ∈ document.collapsedAt slot ↔ id ≠ target) := by
        intro id
        rw [collapsedAt_update_flipCollapsed found, mem_collapsed_flipCollapsed, collapsed]
      refine ⟨document.update slot (Node.flipCollapsed target), ?_,
        ⟨_, rfl, exists_collapsed_flipCollapsed target⟩, mem_iff⟩
      have answer : (!node.isCollapsed target) =
          decide (target ∈ (document.update slot (Node.flipCollapsed target)).collapsedAt slot) := by
        simp [mem_iff target, collapsed, Node.isCollapsed]
      rw [flipCollapsed, requireNode, found, ← answer]
      exact if_pos (references ▸ isReference)

/-- An entry that the node does not refer to is refused. -/
theorem flipCollapsed_of_not_mem (noReference : target ∉ document.referencesAt slot) :
    ∃ failure, document.flipCollapsed slot target = .error failure := by
  unfold flipCollapsed requireNode
  cases found : document.node? slot with
  | none => exact ⟨_, rfl⟩
  | some node =>
      rw [referencesAt_of_node? found] at noReference
      exact ⟨_, if_neg noReference⟩

/-! ## Histories -/

theorem ClosedReferred.of_eq (closed : before.ClosedReferred)
    (collapsed : ∀ slot, after.collapsedAt slot = before.collapsedAt slot)
    (references : ∀ slot, after.referencesAt slot = before.referencesAt slot) :
    after.ClosedReferred := by
  intro slot id member
  rw [collapsed] at member
  rw [references]
  exact closed slot id member

/-- Populating a node forgets what is no longer referred to. -/
theorem Owned.closedReferred_populate (owned : before.Owned) {count : Nat} {ids : List NodeId}
    (populated : before.populate slot ids = .ok (count, after)) (closed : before.ClosedReferred) :
    after.ClosedReferred := by
  obtain ⟨references, entered, step, resolving⟩ := owned.exists_resolving_populate populated
  intro other id member
  rw [owned.collapsedAt_populate closed populated] at member
  split at member
  · rename_i isSlot
    rw [isSlot]
    exact of_decide_eq_true (List.mem_filter.mp member).2
  · rename_i isOther
    rw [resolving.referencesAt, step.referencesAt, referencesAt_ensureIndex, referencesAt,
      node?_update, if_neg isOther]
    exact closed other id member

theorem ClosedReferred.flip (closed : before.ClosedReferred) {isClosed : Bool}
    (flipped : before.flipCollapsed slot target = .ok (isClosed, after)) :
    after.ClosedReferred := by
  by_cases isReference : target ∈ before.referencesAt slot
  · obtain ⟨result, isResult, ⟨change, isUpdate, onlyCollapsed⟩, mem_iff⟩ :=
      flipped_of_mem isReference
    obtain ⟨-, rfl⟩ := Prod.mk.inj (Except.ok.inj (flipped.symm.trans isResult))
    have references : ∀ other, after.referencesAt other = before.referencesAt other := by
      rw [isUpdate]
      apply referencesAt_update
      intro node
      obtain ⟨collapsed, changed⟩ := onlyCollapsed node
      rw [changed]
    intro other id member
    rw [references]
    by_cases isSlot : other = slot
    · subst isSlot
      by_cases isTarget : id = target
      · rw [isTarget]
        exact isReference
      · exact closed other id (((mem_iff id).mp member).mpr isTarget)
    · rw [isUpdate, collapsedAt, node?_update, if_neg isSlot] at member
      exact closed other id member
  · obtain ⟨failure, refused⟩ := flipCollapsed_of_not_mem isReference
    cases flipped.symm.trans refused

theorem LinkStep.closedReferred (work : LinkStep before after) (owned : before.Owned)
    (closed : before.ClosedReferred) : after.ClosedReferred := by
  cases work with
  | indexed index => exact closed
  | populated populated => exact owned.closedReferred_populate populated closed
  | relinked => exact before.closedReferred_relink
  | flipped flipped => exact closed.flip flipped

theorem LinkWork.closedReferred (work : LinkWork before after) (owned : before.Owned)
    (closed : before.ClosedReferred) : after.ClosedReferred := by
  induction work with
  | refl => exact closed
  | tail work last inductionHypothesis =>
      exact last.closedReferred (owned.of_bare_eq (LinkWork.bare_eq work)) inductionHypothesis

/-- The new node shows nothing closed, and the others are what they were but for a child. -/
theorem Grown.closedReferred {record : Record} {parent : Option Nat}
    (grown : Grown before record parent slot after) (closed : before.ClosedReferred) :
    after.ClosedReferred := by
  have unseen : ∀ node, (Node.appendChild slot node).references = node.references ∧
      (Node.appendChild slot node).collapsed = node.collapsed := by
    intro node
    unfold Node.appendChild
    split <;> exact ⟨rfl, rfl⟩
  intro other id member
  by_cases isNew : other = slot
  · rw [isNew, collapsedAt_of_node? grown.node?_slot] at member
    cases member
  · rw [collapsedAt, grown.map_node?_of_ne _ (fun node => (unseen node).2) isNew] at member
    rw [referencesAt, grown.map_node?_of_ne _ (fun node => (unseen node).1) isNew]
    exact closed other id member

theorem Pruned.closedReferred (pruned : Pruned before slot after)
    (closed : before.ClosedReferred) : after.ClosedReferred := by
  intro other id member
  cases found : after.node? other with
  | none =>
      rw [collapsedAt, found] at member
      cases member
  | some node =>
      obtain ⟨old, oldFound, equal⟩ := pruned.old_of_found found
      have same : node.collapsed = old.collapsed ∧ node.references = old.references := by
        rw [equal]
        split <;> exact ⟨rfl, rfl⟩
      rw [collapsedAt_of_node? found, same.1, ← collapsedAt_of_node? oldFound] at member
      rw [referencesAt_of_node? found, same.2, ← referencesAt_of_node? oldFound]
      exact closed other id member

/-- No change leaves something shown closed that is not referred to. -/
theorem Change.closedReferred (change : Change before after) (owned : before.Owned)
    (closed : before.ClosedReferred) : after.ClosedReferred := by
  cases change with
  | grown grown => exact grown.closedReferred closed
  | pruned pruned => exact pruned.closedReferred closed
  | edited slot content =>
      refine closed.of_eq (fun other => ?_) (referencesAt_update content.references before slot)
      rw [collapsedAt, map_node?_update Node.collapsed content.collapsed, ← collapsedAt]
  | linked work => exact work.closedReferred owned closed

end Document

open Document

/-- In every document that is reached, no node shows closed what it does not refer to. -/
theorem ReachableWhile.closedReferred {document : Document} {good : Document → Prop}
    (reached : ReachableWhile good document) : document.ClosedReferred := by
  apply reached.invariant
  · intro slot id member
    rw [collapsedAt, node?, Document.empty, Store.Arena.get?_empty] at member
    cases member
  · exact fun before after owned _ _ change closed => change.closedReferred owned closed

/-- In every reachable document each node shows closed only what it refers to. Populating a node
keeps closed what the node still refers to, and leaves what others show closed; so does building
all links anew with every node. An entry is flipped exactly if the node refers to it, and that is
all that happens to the document; any other entry is refused, and nothing changes. -/
theorem Reachable.closed_follows_references {document : Document} (reached : Reachable document) :
    (∀ slot, ∀ id ∈ document.collapsedAt slot, id ∈ document.referencesAt slot) ∧
    (∀ slot ids, document.Live slot → ∃ count after,
      document.populate slot ids = .ok (count, after) ∧
      after.collapsedAt slot = (document.collapsedAt slot).filter (· ∈ after.referencesAt slot) ∧
      ∀ other, other ≠ slot → after.collapsedAt other = document.collapsedAt other) ∧
    (∀ slot, document.relink.2.collapsedAt slot = document.collapsedAt slot) ∧
    ∀ slot target,
      (target ∈ document.referencesAt slot → ∃ after, document.flipCollapsed slot target =
        .ok (decide (target ∈ after.collapsedAt slot), after) ∧
        Flipped document slot target after) ∧
      (target ∉ document.referencesAt slot →
        (∃ failure, document.flipCollapsed slot target = .error failure) ∧
        (Operation.flipCollapsed slot target).after document = document) := by
  have owned : document.Owned := reached.owned
  have closed : document.ClosedReferred := ReachableWhile.closedReferred reached
  refine ⟨closed, ?_, ?_, fun slot target => ⟨flipped_of_mem, fun noReference => ?_⟩⟩
  · rintro slot ids ⟨node, found⟩
    obtain ⟨count, after, populated⟩ := exists_populate found ids
    have collapsed := owned.collapsedAt_populate closed populated
    refine ⟨count, after, populated, ?_, fun other different => ?_⟩
    · rw [collapsed, if_pos rfl]
    · rw [collapsed, if_neg different]
  · intro slot
    rw [collapsedAt_relink, closed.keptAt_eq]
  · obtain ⟨failure, refused⟩ := flipCollapsed_of_not_mem noReference
    refine ⟨⟨failure, refused⟩, ?_⟩
    rw [Operation.after, Operation.perform, refused]
    rfl

/-- A node loses one of two closed entries with its reference, a node below it is resolved with it
and keeps its own, and so do both in a full resolution. -/
theorem closed_follows_references_dropped :
    let record := fun number => Record.plain (.ofNat number) "" .last .last
    let document := Operation.run
      [.addRoot (record 1), .addChild 0 (record 2), .addRoot (record 3), .populate 1 [.ofNat 3],
        .flipCollapsed 1 (.ofNat 3), .populate 0 [.ofNat 2, .ofNat 3], .flipCollapsed 0 (.ofNat 2),
        .flipCollapsed 0 (.ofNat 3)]
    Reachable document ∧ document.collapsedAt 0 = [3, 2].map NodeId.ofNat ∧
      document.collapsedAt 1 = [.ofNat 3] ∧
      (∃ count after, document.populate 0 [.ofNat 3, .ofNat 9] = .ok (count, after) ∧
        after.collapsedAt 0 = [.ofNat 3] ∧ after.collapsedAt 1 = [.ofNat 3]) ∧
      document.relink.2.collapsedAt 0 = [3, 2].map NodeId.ofNat ∧
      (∃ after, document.flipCollapsed 0 (.ofNat 2) = .ok (false, after) ∧
        Flipped document 0 (.ofNat 2) after) ∧
      (∃ failure, document.flipCollapsed 0 (.ofNat 9) = .error failure) := by
  intro record document
  have reached : Reachable document := .run fun _ _ => trivial
  obtain ⟨-, populate, relink, flip⟩ := Reachable.closed_follows_references reached
  have atRoot : document.collapsedAt 0 = [3, 2].map NodeId.ofNat := by decide +kernel
  have below : document.collapsedAt 1 = [.ofNat 3] := by decide +kernel
  have live : document.Live 0 := Option.isSome_iff_exists.mp (by decide +kernel)
  obtain ⟨count, after, populated, kept, others⟩ := populate 0 [.ofNat 3, .ofNat 9] live
  have references : after.referencesAt 0 = [3, 9].map NodeId.ofNat := by
    have isAfter : (document.populate 0 [.ofNat 3, .ofNat 9]).toOption.map (fun pair =>
        pair.2.referencesAt 0) = some ([3, 9].map NodeId.ofNat) := by
      decide +kernel
    rw [populated] at isAfter
    exact Option.some.inj isAfter
  rw [references, atRoot] at kept
  obtain ⟨flipped, isFlipped, only⟩ := (flip 0 (.ofNat 2)).1 (by decide +kernel)
  have isOpen : decide (NodeId.ofNat 2 ∈ flipped.collapsedAt 0) = false := by
    rw [decide_eq_false_iff_not, only.mem_iff, atRoot]
    decide
  rw [isOpen] at isFlipped
  exact ⟨reached, atRoot, below,
    ⟨count, after, populated, kept.trans (by decide), (others 1 (by decide)).trans below⟩,
    (relink 0).trans atRoot, ⟨flipped, isFlipped, only⟩,
    ((flip 0 (.ofNat 9)).2 (by decide +kernel)).1⟩

end Outliner
