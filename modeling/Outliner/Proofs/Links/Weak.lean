import Outliner.Proofs.Links.Referred

/-!
Contract: links do not keep their targets, and never lead to anything else.

Owns: which nodes the virtual children are, that a resolution of the whole document leaves no
link without its target, and that an identifier comes to a slot only by being inserted there.

Main statements: `Operation.exists_insertion` and `Reachable.virtual_children_weak`.

Does not own: that links are references of their nodes (`Proofs.Links.Referred`).
-/

namespace Outliner

/-- The operation puts a node with an identifier into a slot. -/
def Operation.Inserts (operation : Operation) (document : Document) (slot : Nat) (id : NodeId) :
    Prop :=
  match operation with
  | .addRoot record => record.id = id ∧ (document.addRoot record).1 = slot
  | .addChild parent record =>
    record.id = id ∧ ∃ after, document.addChild parent record = .ok (slot, after)
  | .addSearchNode settings given now parent text query =>
    given = id ∧ ∃ after, settings.addNode document given now parent text query = .ok (slot, after)
  | _ => False

def linkTo (child : Nat × Node) : Link :=
  ⟨child.1, child.2.id⟩

open Document

/-! ## Insertions -/

section Insertions

variable {document before after changed : Document} {slot other : Nat} {id : NodeId}
  {record : Record} {parent : Option Nat} {operation : Operation} {operations : List Operation}

theorem Document.Grown.holds_cases (grown : Grown before record parent slot after)
    (isHeld : after.holds other id) : before.holds other id ∨ record.id = id ∧ slot = other := by
  by_cases isNew : other = slot
  · subst isNew
    obtain ⟨node, found, rfl⟩ := holds_iff.mp isHeld
    rw [grown.node?_slot] at found
    obtain rfl := Option.some.inj found
    exact .inr ⟨rfl, rfl⟩
  · rw [grown.holds_of_ne isNew] at isHeld
    exact .inl isHeld

/-- Where a slot holds an identifier after an operation, it did before, or the operation put it
there. -/
theorem holds_of_perform (owned : document.Owned)
    (performed : operation.perform document = .ok changed) (isHeld : changed.holds slot id) :
    document.holds slot id ∨ operation.Inserts document slot id := by
  cases operation with
  | addRoot record =>
      obtain rfl := Except.ok.inj performed
      exact (addRoot_grown owned record).holds_cases isHeld
  | addChild parent record =>
      obtain ⟨inserted, added⟩ := map_snd_ok performed
      rcases (addChild_grown owned added).holds_cases isHeld with old | ⟨sameId, rfl⟩
      · exact .inl old
      · exact .inr ⟨sameId, _, added⟩
  | addSearchNode settings given now parent text query =>
      obtain ⟨inserted, added⟩ := map_snd_ok performed
      rcases (addNode_grown owned added).holds_cases isHeld with old | ⟨sameId, rfl⟩
      · exact .inl old
      · exact .inr ⟨sameId, _, added⟩
  | removeTree =>
      obtain ⟨count, removed⟩ := map_snd_ok performed
      exact .inl ((removeTree_pruned owned removed).holds_before isHeld)
  | setText | setAttribute | eraseAttribute | addTag =>
      obtain ⟨edited, change, content, rfl⟩ := exists_update_of_perform rfl performed
      left
      rwa [holds_update content.id] at isHeld
  | rebuildIndex | dropIndex | populate | relink | flipCollapsed | refresh =>
      left
      rwa [holds_of_bare_eq (linkWork_of_perform rfl performed).bare_eq] at isHeld

/-- A slot that comes to hold an identifier has a node with it put there. -/
theorem Operation.holds_after (operation : Operation) (owned : document.Owned)
    (isHeld : (operation.after document).holds slot id) :
    document.holds slot id ∨ operation.Inserts document slot id := by
  unfold Operation.after at isHeld
  split at isHeld
  · rename_i changed performed
    exact holds_of_perform owned performed isHeld
  · exact .inl isHeld

/-- If a slot comes to hold an identifier after some operations, then one of them puts a node
with the identifier there. -/
theorem Operation.exists_insertion (owned : document.Owned) (absent : ¬ document.holds slot id)
    (isHeld : (Operation.runFrom document operations).holds slot id) :
    ∃ first operation later, operations = first ++ operation :: later ∧
      operation.Inserts (Operation.runFrom document first) slot id := by
  induction operations generalizing document with
  | nil => exact absurd isHeld absent
  | cons operation rest inductionHypothesis =>
      by_cases now : (operation.after document).holds slot id
      · rcases operation.holds_after owned now with old | inserts
        · exact absurd old absent
        · exact ⟨[], operation, rest, rfl, inserts⟩
      · obtain ⟨first, inserting, later, split, inserts⟩ :=
          inductionHypothesis ((operation.change owned).owned owned) now isHeld
        exact ⟨operation :: first, inserting, later, by rw [split]; rfl, inserts⟩

end Insertions

/-! ## Virtual children -/

namespace Document

variable {document rest : Document} {slot target count : Nat} {link : Link} {child : Nat × Node}

/-- A virtual child is a node that a link of its parent leads to and names. -/
theorem mem_virtualChildren : child ∈ document.virtualChildren slot ↔
    linkTo child ∈ document.linksAt slot ∧ document.node? child.1 = some child.2 := by
  unfold virtualChildren
  rw [List.mem_filterMap]
  constructor
  · rintro ⟨link, isLink, isChild⟩
    obtain ⟨node, isTarget, rfl⟩ := Option.map_eq_some_iff.mp isChild
    obtain ⟨found, sameId⟩ := Option.filter_eq_some_iff.mp isTarget
    have same : linkTo (link.slot, node) = link := by
      rw [linkTo, beq_iff_eq.mp sameId]
    rw [same]
    exact ⟨isLink, found⟩
  · rintro ⟨isLink, found⟩
    refine ⟨linkTo child, isLink, Option.map_eq_some_iff.mpr ⟨child.2, ?_, rfl⟩⟩
    exact Option.filter_eq_some_iff.mpr ⟨found, beq_self_eq_true child.2.id⟩

/-- The virtual children are where the live links lead. -/
theorem map_linkTo_virtualChildren (document : Document) (slot : Nat) :
    (document.virtualChildren slot).map linkTo = document.liveLinks slot := by
  unfold virtualChildren liveLinks
  rw [List.map_filterMap, ← List.filterMap_eq_filter]
  apply List.filterMap_congr
  intro link _
  cases found : document.node? link.slot with
  | none => simp [holds, found, Option.guard]
  | some node =>
      by_cases sameId : node.id = link.id
      · simp [holds, found, Option.guard, sameId, linkTo]
      · simp [holds, found, Option.guard, sameId]

theorem holds_of_mem_linksOf {path : List NodeId} {node : Node}
    (isLink : link ∈ document.linksOf path node) : document.holds link.slot link.id := by
  obtain ⟨-, isLinked⟩ := mem_linksOf.mp isLink
  unfold outcome at isLinked
  split at isLinked
  · cases isLinked
  · split at isLinked
    · cases isLinked
    · split at isLinked
      · cases isLinked
      · rename_i found _
        rw [Outcome.linked.inj isLinked] at found
        exact holds_find? found

/-- After a resolution of the whole document every link leads to a node that it names. -/
theorem liveLinks_relink (document : Document) (slot : Nat) :
    document.relink.2.liveLinks slot = document.relink.2.linksAt slot := by
  apply List.filter_eq_self.mpr
  intro link isLink
  have resolving := document.resolving_relink
  rcases resolving.linksAt_cases slot with kept | ⟨during, path, node, soFar, found, links⟩
  · have noLink : link ∈ [] := (kept.trans (linksAt_clearLinks _ slot)) ▸ isLink
    cases noLink
  · have resolved : link ∈ during.linksOf path node := links ▸ isLink
    rw [holds_of_bare_eq resolving.bare_eq, ← holds_of_bare_eq soFar.bare_eq]
    exact holds_of_mem_linksOf resolved

/-- A removal leaves none of the slots below its root with a node. -/
theorem Owned.not_live_of_removeTree (owned : document.Owned)
    (removed : document.removeTree slot = .ok (count, rest))
    (isBelow : target ∈ document.subtree slot) : ¬ rest.Live target := by
  have pruned := removeTree_pruned owned removed
  obtain ⟨tree, isSubtree, rfl, fits⟩ := owned.exists_subtree pruned.live
  rw [isSubtree] at isBelow
  rw [pruned.live_iff]
  rintro ⟨-, notRoot, notBelow⟩
  exact (fits.eq_or_below owned isBelow).elim notRoot notBelow

end Document

variable {document : Document}

/-- In every reachable document, the virtual children of a node are nodes in the slots that
its links lead to, and their identifiers are some of its references, in their order. Once a
node is removed, nothing is found in its slot through a link until a node with the identifier
that the link names is put there. After a resolution of the whole document every link has its
virtual child. -/
theorem Reachable.virtual_children_weak (reached : Reachable document) :
    (∀ slot node, document.node? slot = some node →
      (∀ child ∈ document.virtualChildren slot,
        document.node? child.1 = some child.2 ∧ linkTo child ∈ node.links) ∧
      ((document.virtualChildren slot).map fun child => child.2.id).Sublist node.references) ∧
    (∀ removed count rest, document.removeTree removed = .ok (count, rest) →
      ∀ target ∈ document.subtree removed, ∀ operations slot,
        ∀ child ∈ (Operation.runFrom rest operations).virtualChildren slot, child.1 = target →
          ∃ first operation later, operations = first ++ operation :: later ∧
            operation.Inserts (Operation.runFrom rest first) target child.2.id) ∧
    ∀ slot, (document.relink.2.virtualChildren slot).map linkTo =
      document.relink.2.linksAt slot := by
  have owned : document.Owned := reached.owned
  refine ⟨?_, ?_, ?_⟩
  · intro slot node found
    have links := linksAt_of_node? found
    constructor
    · intro child isChild
      obtain ⟨isLink, isNode⟩ := mem_virtualChildren.mp isChild
      exact ⟨isNode, links ▸ isLink⟩
    · have ids : ((document.virtualChildren slot).map fun child => child.2.id) =
          (document.liveLinks slot).map Link.id := by
        rw [← map_linkTo_virtualChildren, List.map_map]
        rfl
      rw [ids, ← referencesAt_of_node? found]
      exact (List.filter_sublist.map Link.id).trans (ReachableWhile.linksReferred reached slot)
  · rintro removed count rest isRemoval target isBelow operations slot child isChild rfl
    have restOwned : rest.Owned := (removeTree_pruned owned isRemoval).owned owned
    have vacant := owned.not_live_of_removeTree isRemoval isBelow
    apply Operation.exists_insertion restOwned
    · intro isHeld
      obtain ⟨node, found, -⟩ := holds_iff.mp isHeld
      exact vacant ⟨node, found⟩
    · exact holds_of_node? (mem_virtualChildren.mp isChild).2
  · intro slot
    rw [map_linkTo_virtualChildren, liveLinks_relink]

/-- A link is dead while another node has the slot of its target, and alive again when the
identifier is put back there. -/
theorem virtual_children_weak_revived :
    let record := fun number => Record.plain (.ofNat number) "" .last .last
    let document := Operation.run
      [.addRoot (record 1), .addRoot (record 2), .populate 0 [.ofNat 3, .ofNat 2]]
    let rest := (Operation.removeTree 1).after document
    let operations : List Operation := [.addRoot (record 3), .removeTree 1, .addRoot (record 2)]
    Reachable document ∧ document.removeTree 1 = .ok (1, rest) ∧ 1 ∈ document.subtree 1 ∧
      (Operation.runFrom rest (operations.take 1)).holds 1 (.ofNat 3) ∧
      (Operation.runFrom rest (operations.take 1)).linksAt 0 = [⟨1, .ofNat 2⟩] ∧
      (Operation.runFrom rest (operations.take 1)).virtualChildren 0 = [] ∧
      ((Operation.runFrom rest operations).virtualChildren 0).map linkTo = [⟨1, .ofNat 2⟩] ∧
      (∃ first operation later, operations = first ++ operation :: later ∧
        operation.Inserts (Operation.runFrom rest first) 1 (.ofNat 2)) ∧
      (document.relink.2.virtualChildren 0).map linkTo = document.relink.2.linksAt 0 := by
  intro record document rest operations
  have reached : Reachable document := .run fun _ _ => trivial
  obtain ⟨-, weak, full⟩ := Reachable.virtual_children_weak reached
  have removed : document.removeTree 1 = .ok (1, rest) := by decide +kernel
  have isBelow : 1 ∈ document.subtree 1 := by decide +kernel
  have revived : ((Operation.runFrom rest operations).virtualChildren 0).map linkTo =
      [⟨1, .ofNat 2⟩] := by decide +kernel
  obtain ⟨child, isChild, same⟩ := List.mem_map.mp (revived ▸ List.mem_singleton_self _)
  obtain ⟨isTarget, isId⟩ := Link.mk.inj same
  have inserted := weak 1 1 rest removed 1 isBelow operations 0 child isChild isTarget
  rw [isId] at inserted
  exact ⟨reached, removed, isBelow, by decide +kernel, by decide +kernel, by decide +kernel,
    revived, inserted, full 0⟩

end Outliner
