import Outliner.Proofs.Links.Visit

/-!
Contract: which virtual children stay closed.

Owns: what a node shows closed (`collapsedAt`), and that work on references and links
only ever takes out what a node no longer refers to.

Nothing here asks for distinct identifiers: a resolution is taken as steps of
`Proofs.Links.Resolving`, whatever way leads down to the node of each step.

Main statements: `Owned.collapsedAt_populate`, `collapsedAt_relink`.

Does not own: flipping single entries, and histories (`Proofs.Links.Flipping`).
-/

namespace Outliner

namespace Document

variable {document before after : Document} {slot count : Nat} {ids : List NodeId}

def collapsedAt (document : Document) (slot : Nat) : List NodeId :=
  ((document.node? slot).map Node.collapsed).getD []

/-- What a node shows closed and still refers to. -/
def keptAt (document : Document) (slot : Nat) : List NodeId :=
  (document.collapsedAt slot).filter (· ∈ document.referencesAt slot)

/-- No node shows closed what it does not refer to. -/
def ClosedReferred (document : Document) : Prop :=
  ∀ slot, ∀ id ∈ document.collapsedAt slot, id ∈ document.referencesAt slot

theorem collapsedAt_of_node? {node : Node} (found : document.node? slot = some node) :
    document.collapsedAt slot = node.collapsed := by
  rw [collapsedAt, found]
  rfl

/-- Where nothing is shown closed that is not referred to, all of it is kept. -/
theorem ClosedReferred.keptAt_eq (closed : document.ClosedReferred) (slot : Nat) :
    document.keptAt slot = document.collapsedAt slot := by
  rw [keptAt, List.filter_eq_self]
  exact fun id member => decide_eq_true (closed slot id member)

theorem mem_referencesAt_of_mem_keptAt {id : NodeId} (member : id ∈ document.keptAt slot) :
    id ∈ document.referencesAt slot :=
  of_decide_eq_true (List.mem_filter.mp member).2

theorem collapsedAt_update_setLinks (document : Document) (slot other : Nat) (links : List Link) :
    (document.update slot (Node.setLinks links)).collapsedAt other =
      if other = slot then document.keptAt other else document.collapsedAt other := by
  unfold keptAt collapsedAt referencesAt
  rw [node?_update]
  by_cases isSlot : other = slot
  · rw [if_pos isSlot, if_pos isSlot]
    cases document.node? other <;> rfl
  · rw [if_neg isSlot, if_neg isSlot]

theorem collapsedAt_ensureIndex (document : Document) (slot : Nat) :
    document.ensureIndex.collapsedAt slot = document.collapsedAt slot := by
  unfold collapsedAt node?
  rw [nodes_ensureIndex]

theorem collapsedAt_clearLinks (document : Document) (slot : Nat) :
    document.clearLinks.collapsedAt slot = document.keptAt slot := by
  unfold keptAt collapsedAt referencesAt clearLinks node?
  rw [Store.Arena.get?_mapValues]
  cases document.nodes.get? slot <;> rfl

theorem collapsedAt_setReferences (document : Document) (slot other : Nat)
    (references : List NodeId) :
    (document.update slot (Node.setReferences references)).collapsedAt other =
      document.collapsedAt other := by
  have unseen : ∀ node, (Node.setReferences references node).collapsed = node.collapsed :=
    fun _ => rfl
  unfold collapsedAt
  rw [map_node?_update Node.collapsed unseen]

/-! ## Resolutions -/

theorem ResolveStep.referencesAt (step : ResolveStep slot before after) (other : Nat) :
    after.referencesAt other = before.referencesAt other := by
  cases step with
  | @resolved node _ path =>
      have keeps : ∀ node links, (Node.setLinks links node).references = node.references :=
        fun _ _ => rfl
      exact referencesAt_update (fun other => keeps other _) before slot other

/-- A resolution leaves all references. -/
theorem Resolving.referencesAt (resolving : Resolving before after) (other : Nat) :
    after.referencesAt other = before.referencesAt other := by
  induction resolving with
  | refl => rfl
  | tail _ last inductionHypothesis =>
      obtain ⟨slot, step⟩ := last
      exact (step.referencesAt other).trans inductionHypothesis

/-- Resolving a node takes out of it what it does not refer to. -/
theorem ResolveStep.collapsedAt (step : ResolveStep slot before after) (other : Nat) :
    after.collapsedAt other =
      if other = slot then before.keptAt other else before.collapsedAt other := by
  cases step with
  | resolved found path => exact collapsedAt_update_setLinks before slot other _

/-- Where a node shows nothing closed that it does not refer to, no resolution takes anything
out of it. -/
theorem Resolving.collapsedAt (resolving : Resolving before after)
    (closed : before.keptAt slot = before.collapsedAt slot) :
    after.collapsedAt slot = before.collapsedAt slot := by
  induction resolving with
  | refl => rfl
  | @tail during _ soFar last inductionHypothesis =>
      obtain ⟨visited, step⟩ := last
      rw [step.collapsedAt]
      split
      · rw [keptAt, inductionHypothesis, Resolving.referencesAt soFar, ← keptAt, closed]
      · exact inductionHypothesis

/-- A full resolution takes out of every node what it no longer refers to. -/
theorem collapsedAt_relink (document : Document) (slot : Nat) :
    document.relink.2.collapsedAt slot = document.keptAt slot := by
  have cleared : document.ensureIndex.clearLinks.collapsedAt slot = document.keptAt slot := by
    rw [collapsedAt_clearLinks, keptAt, referencesAt_ensureIndex, collapsedAt_ensureIndex, keptAt]
  -- Clearing the links takes out what there is to take out, so the steps behind it find nothing.
  have kept : document.ensureIndex.clearLinks.keptAt slot =
      document.ensureIndex.clearLinks.collapsedAt slot := by
    rw [keptAt, cleared, referencesAt_clearLinks, referencesAt_ensureIndex, keptAt,
      List.filter_filter]
    simp only [Bool.and_self]
  rw [document.resolving_relink.collapsedAt kept, cleared]

/-- After a full resolution nothing is shown closed that is not referred to. -/
theorem closedReferred_relink (document : Document) : document.relink.2.ClosedReferred := by
  intro slot id member
  rw [collapsedAt_relink] at member
  rw [document.resolving_relink.referencesAt, referencesAt_clearLinks, referencesAt_ensureIndex]
  exact mem_referencesAt_of_mem_keptAt member

/-- Populating a node gives it new references, resolves it, and then the nodes below it. -/
theorem Owned.exists_resolving_populate (owned : before.Owned)
    (populated : before.populate slot ids = .ok (count, after)) :
    ∃ references entered,
      ResolveStep slot (before.update slot (Node.setReferences references)).ensureIndex entered ∧
        Resolving entered after := by
  obtain ⟨node, found, equal⟩ := requireNode_map_ok populated
  obtain ⟨-, rfl⟩ := Prod.mk.inj equal
  have same := before.bare_setReferences slot (firstOccurrences (ids.filter (· ≠ node.id)))
  exact ⟨_, (owned.of_bare_eq same).exists_resolving_linkBelow
    ((live_of_bare_eq same).mpr ⟨node, found⟩) _ _⟩

/-- Populating a node takes out of it what it no longer refers to, and leaves what others
show closed if they refer to it. -/
theorem Owned.collapsedAt_populate (owned : document.Owned) (closed : document.ClosedReferred)
    (populated : document.populate slot ids = .ok (count, after)) (other : Nat) :
    after.collapsedAt other =
      if other = slot then (document.collapsedAt slot).filter (· ∈ after.referencesAt slot)
      else document.collapsedAt other := by
  obtain ⟨references, entered, step, resolving⟩ := owned.exists_resolving_populate populated
  have collapsed : ∀ other, ((document.update slot
      (Node.setReferences references)).ensureIndex).collapsedAt other =
        document.collapsedAt other := by
    intro other
    rw [collapsedAt_ensureIndex, collapsedAt_setReferences]
  by_cases isSlot : other = slot
  · have atNode : entered.collapsedAt slot =
        (document.collapsedAt slot).filter (· ∈ entered.referencesAt slot) := by
      rw [step.collapsedAt, if_pos rfl, keptAt, collapsed, step.referencesAt]
    have kept : entered.keptAt slot = entered.collapsedAt slot := by
      rw [keptAt, atNode, List.filter_filter]
      simp only [Bool.and_self]
    rw [if_pos isSlot, isSlot, resolving.collapsedAt kept, atNode]
    simp only [resolving.referencesAt]
  · have atOther : entered.collapsedAt other = document.collapsedAt other := by
      rw [step.collapsedAt, if_neg isSlot, collapsed]
    have kept : entered.keptAt other = entered.collapsedAt other := by
      rw [keptAt, atOther, step.referencesAt, referencesAt_ensureIndex, Document.referencesAt,
        node?_update, if_neg isSlot, ← Document.referencesAt]
      exact closed.keptAt_eq other
    rw [if_neg isSlot, resolving.collapsedAt kept, atOther]

end Document

end Outliner
