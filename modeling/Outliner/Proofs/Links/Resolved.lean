import Outliner.Proofs.Document.Alike
import Outliner.Proofs.Links.Relink

/-!
Contract: documents whose links are those of a full resolution.

Owns: the condition `Resolved`, that a full resolution establishes it, and that it leaves
no choice: the links follow from the outline and the references.

Does not own: how a resolution gets there (`Proofs.Links.Relink`).
-/

namespace Outliner

namespace Document

variable {document left right : Document} {slot other target : Nat}

/-- Every node has exactly the links that a full resolution would give it. -/
structure Resolved (document : Document) : Prop where
  ids : ∀ slot, (document.linksAt slot).map Link.id = document.settledIds slot
  held : ∀ slot, ∀ link ∈ document.linksAt slot, document.holds link.slot link.id

namespace Alike

theorem refersTo_iff (alike : left.Alike right)
    (references : ∀ slot, left.referencesAt slot = right.referencesAt slot) :
    left.RefersTo slot other ↔ right.RefersTo slot other := by
  unfold RefersTo
  simp only [references, alike.holds_eq]

theorem linkable_iff (alike : left.Alike right) (leftOwned : left.Owned)
    (rightOwned : right.Owned)
    (references : ∀ slot, left.referencesAt slot = right.referencesAt slot) :
    left.Linkable slot target ↔ right.Linkable slot target := by
  unfold Linkable Precedes
  rw [alike.ancestors_eq leftOwned, alike.preorder_eq leftOwned rightOwned,
    alike.refersTo_iff references]

/-- What is linked to follows from the outline and the references. -/
theorem settledIds_eq (alike : left.Alike right) (leftOwned : left.Owned)
    (rightOwned : right.Owned)
    (references : ∀ slot, left.referencesAt slot = right.referencesAt slot) (slot : Nat) :
    left.settledIds slot = right.settledIds slot := by
  unfold settledIds
  rw [references]
  congr 1
  funext reference
  apply decide_eq_decide.mpr
  simp only [alike.holds_eq, alike.linkable_iff leftOwned rightOwned references]

end Alike

/-- A full resolution leaves the links of a full resolution. -/
theorem Owned.resolved_relink (owned : document.Owned) (distinct : document.DistinctIds) :
    document.relink.2.Resolved := by
  have settled := owned.relinked distinct
  have same := bare_relink document
  have alike := alike_of_bare_eq same
  constructor
  · intro slot
    rw [alike.settledIds_eq (owned.of_bare_eq same) owned settled.referencesAt]
    by_cases live : document.Live slot
    · exact settled.ids slot (owned.mem_preorder.mpr live)
    · have notListed : slot ∉ document.preorder := fun listed => live (owned.mem_preorder.mp listed)
      rw [settled.no_others slot notListed, settledIds, referencesAt, node?_of_not_live live]
      rfl
  · intro slot link isLink
    rw [alike.holds_eq]
    by_cases listed : slot ∈ document.preorder
    · exact settled.held slot listed link isLink
    · rw [settled.no_others slot listed] at isLink
      exact absurd isLink List.not_mem_nil

/-- After a full resolution a node links to what it refers to and can be linked to. -/
theorem Resolved.linksTo_iff (resolved : document.Resolved) (distinct : document.DistinctIds) :
    document.LinksTo slot target ↔
      document.RefersTo slot target ∧ document.Linkable slot target := by
  constructor
  · rintro ⟨link, isLink, isHeld⟩
    have isId : link.id ∈ document.settledIds slot := by
      rw [← resolved.ids]
      exact List.mem_map_of_mem isLink
    obtain ⟨isReference, holder, holderHolds, linkable⟩ := mem_settledIds.mp isId
    obtain rfl := distinct target holder link.id isHeld holderHolds
    exact ⟨⟨link.id, isReference, isHeld⟩, linkable⟩
  · rintro ⟨⟨id, isReference, isHeld⟩, linkable⟩
    have isId : id ∈ document.settledIds slot :=
      mem_settledIds.mpr ⟨isReference, target, isHeld, linkable⟩
    rw [← resolved.ids] at isId
    obtain ⟨link, isLink, rfl⟩ := List.mem_map.mp isId
    exact ⟨link, isLink, isHeld⟩

/-- Links are given by their identifiers where each identifier is held by one slot. -/
theorem links_eq_of_ids (distinct : document.DistinctIds) {links others : List Link}
    (held : ∀ link ∈ links, document.holds link.slot link.id)
    (othersHeld : ∀ link ∈ others, document.holds link.slot link.id)
    (ids : links.map Link.id = others.map Link.id) : links = others := by
  have linkOf : ∀ {links : List Link}, (∀ link ∈ links, document.holds link.slot link.id) →
      links = (links.map Link.id).map fun id => ⟨(document.find? id).getD 0, id⟩ := by
    intro links held
    rw [List.map_map]
    apply (List.map_id links).symm.trans
    apply List.map_congr_left
    intro link isLink
    rw [Function.comp_apply, distinct.find?_eq_some_iff.mpr (held link isLink)]
    rfl
  rw [linkOf held, ids, ← linkOf othersHeld]

/-- Resolved documents with the same outline and the same references have the same
links. -/
theorem Resolved.linksAt_eq (leftResolved : left.Resolved) (rightResolved : right.Resolved)
    (alike : left.Alike right) (leftOwned : left.Owned) (rightOwned : right.Owned)
    (distinct : left.DistinctIds)
    (references : ∀ slot, left.referencesAt slot = right.referencesAt slot) (slot : Nat) :
    left.linksAt slot = right.linksAt slot := by
  apply links_eq_of_ids distinct (leftResolved.held slot)
  · intro link isLink
    rw [alike.holds_eq]
    exact rightResolved.held slot link isLink
  · rw [leftResolved.ids, rightResolved.ids,
      alike.settledIds_eq leftOwned rightOwned references]

end Document

end Outliner
