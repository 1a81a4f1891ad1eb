import Outliner.Proofs.Links.Referred
import Outliner.Proofs.Links.Weak

/-!
Contract: what populating a node does, exactly.

Owns: the references that the node gets, the links that it gets from them, the number that is
returned, and everything that stays as it was.

Main statement: `Reachable.populate_exact`.

Does not own: what becomes of the links of the nodes below (`Proofs.Links.Untangled`).
-/

namespace Outliner

open Outliner.Store

namespace Document

variable {document before after : Document} {slot other count : Nat} {ids : List NodeId}
  {node : Node} {id : NodeId}

/-- The first occurrences of identifiers are the list without its later repetitions. -/
theorem firstOccurrences_eq_eraseDups (ids : List NodeId) :
    firstOccurrences ids = ids.eraseDups := by
  -- The induction needs what is kept so far, of which the rest has no repetition to add.
  have kept : ∀ kept : List NodeId,
      ids.foldl (fun kept id => if id ∈ kept then kept else kept ++ [id]) kept =
        kept ++ (ids.filter (· ∉ kept)).eraseDups := by
    induction ids with
    | nil => exact fun kept => (List.append_nil kept).symm
    | cons id rest inductionHypothesis =>
        intro kept
        rw [List.foldl_cons, inductionHypothesis]
        by_cases isKept : id ∈ kept
        · rw [if_pos isKept, List.filter_cons_of_neg (by simpa using isKept)]
        · rw [if_neg isKept, List.filter_cons_of_pos (by simpa using isKept),
            List.eraseDups_cons, List.filter_filter, List.append_assoc, List.singleton_append]
          congr 3
          apply List.filter_congr
          intro other _
          by_cases same : other = id
          · simp [same]
          · simp [same]
  exact (kept []).trans (by simp)

/-- The node gets the identifiers without its own and without repetitions; other nodes keep
their references. -/
theorem Owned.references_populate (owned : before.Owned) (distinct : before.DistinctIds)
    (found : before.node? slot = some node)
    (populated : before.populate slot ids = .ok (count, after)) :
    after.referencesAt slot = (ids.filter (· ≠ node.id)).eraseDups ∧
      ∀ other, other ≠ slot → after.referencesAt other = before.referencesAt other := by
  have references := owned.referencesAt_populate distinct found populated
  refine ⟨?_, fun other different => (references other).trans (if_neg different)⟩
  rw [references slot, if_pos rfl, firstOccurrences_eq_eraseDups]

/-- A node can be linked to another identifier than its own if the node with it is not above it
and has no link to it. -/
theorem mayLink_iff (found : document.node? slot = some node) (isHeld : document.holds other id)
    (foreign : id ≠ node.id) :
    document.MayLink slot other ↔ other ∉ document.ancestors slot ∧
      ∀ link ∈ document.linksAt other, link.id ≠ node.id := by
  have different : other ≠ slot := by
    rintro rfl
    obtain ⟨holder, isHolder, rfl⟩ := holds_iff.mp isHeld
    rw [found] at isHolder
    exact foreign (congrArg (fun node => node.id) (Option.some.inj isHolder)).symm
  have linksBack : document.LinksTo other slot ↔
      ∃ link ∈ document.linksAt other, link.id = node.id := by
    apply exists_congr
    intro link
    apply and_congr_right
    intro _
    rw [holds_iff, found]
    simp [eq_comm]
  unfold MayLink
  rw [linksBack]
  simp [different]

/-- The node is linked to the nodes that it refers to, but for those above it and those that
had a link to it. -/
theorem Owned.ids_populate (owned : before.Owned) (distinct : before.DistinctIds)
    (found : before.node? slot = some node)
    (populated : before.populate slot ids = .ok (count, after)) :
    (after.linksAt slot).map Link.id = (after.referencesAt slot).filter fun id =>
      ∃ target ∈ before.preorder, before.holds target id ∧ target ∉ before.ancestors slot ∧
        ∀ link ∈ before.linksAt target, link.id ≠ node.id := by
  have references := (owned.references_populate distinct found populated).1
  rw [(owned.populated distinct populated).ids]
  refine List.filter_congr fun id isReference => decide_eq_decide.mpr (exists_congr fun target => ?_)
  have foreign : id ≠ node.id := by
    rw [references] at isReference
    exact of_decide_eq_true (List.mem_filter.mp (List.mem_eraseDups.mp isReference)).2
  constructor
  · rintro ⟨isHeld, may⟩
    obtain ⟨targetNode, isTarget, -⟩ := holds_iff.mp isHeld
    exact ⟨owned.mem_preorder.mpr ⟨targetNode, isTarget⟩, isHeld,
      (mayLink_iff found isHeld foreign).mp may⟩
  · rintro ⟨-, isHeld, may⟩
    exact ⟨isHeld, (mayLink_iff found isHeld foreign).mpr may⟩

end Document

open Document

/-- In every reachable document with distinct identifiers, populating a node gives it the
identifiers in the order of their first occurrences, its own left out, and keeps the references
of all others. It is then linked to those of them that are held by a node which is not above
it and had no link to it; their number is returned, and each has its virtual child. Nodes that
are not in its subtree stay as they are. A slot without a node is refused, and nothing
changes. -/
theorem Reachable.populate_exact {document : Document} (reached : Reachable document)
    (distinct : document.DistinctIds) (slot : Nat) (ids : List NodeId) :
    (¬ document.Live slot → document.populate slot ids = .error (.noNode slot) ∧
      (Operation.populate slot ids).after document = document) ∧
    ∀ node, document.node? slot = some node → ∃ count after,
      document.populate slot ids = .ok (count, after) ∧
      after.referencesAt slot = (ids.filter (· ≠ node.id)).eraseDups ∧
      (∀ other, other ≠ slot → after.referencesAt other = document.referencesAt other) ∧
      (∀ other, other ∉ document.subtree slot → after.node? other = document.node? other) ∧
      ((after.linksAt slot).map Link.id = (after.referencesAt slot).filter fun id =>
        ∃ target ∈ document.preorder, document.holds target id ∧
          target ∉ document.ancestors slot ∧
          ∀ link ∈ document.linksAt target, link.id ≠ node.id) ∧
      (∀ link ∈ after.linksAt slot, after.holds link.slot link.id) ∧
      count = (after.linksAt slot).length ∧ count = (after.virtualChildren slot).length := by
  have owned : document.Owned := reached.owned
  refine ⟨fun vacant => ?_, fun node found => ?_⟩
  · have refused : document.populate slot ids = .error (.noNode slot) := by
      rw [populate, requireNode, node?_of_not_live vacant]
      rfl
    refine ⟨refused, ?_⟩
    rw [Operation.after, Operation.perform, refused]
    rfl
  · obtain ⟨count, after, populated⟩ := exists_populate found ids
    obtain ⟨references, otherReferences⟩ := owned.references_populate distinct found populated
    have isPopulated := owned.populated distinct populated
    have isCount : count = (after.linksAt slot).length := by
      obtain ⟨-, -, -, isCount⟩ := owned.populate_eq_foldl distinct populated
      exact isCount
    have liveLinks : after.liveLinks slot = after.linksAt slot :=
      List.filter_eq_self.mpr isPopulated.held
    refine ⟨count, after, populated, references, otherReferences, isPopulated.node?_outside,
      owned.ids_populate distinct found populated, isPopulated.held, isCount, ?_⟩
    rw [isCount, ← liveLinks, ← map_linkTo_virtualChildren, List.length_map]

/-- The identifiers of the node itself, of its parent, of a node that links to it, of a missing
node and, twice, of another node: only the last is linked. -/
theorem populate_exact_one_linked :
    let record := fun number => Record.plain (.ofNat number) "" .last .last
    let document := Operation.run
      [.addRoot (record 1), .addChild 0 (record 2), .addRoot (record 3), .addRoot (record 4),
        .populate 2 [.ofNat 2]]
    let ids := [2, 4, 1, 3, 4, 9].map NodeId.ofNat
    Reachable document ∧ document.DistinctIds ∧ ∃ after,
      document.populate 1 ids = .ok (1, after) ∧
      after.referencesAt 1 = [4, 1, 3, 9].map NodeId.ofNat ∧
      (after.linksAt 1).map Link.id = [.ofNat 4] ∧ (after.virtualChildren 1).length = 1 ∧
      after.node? 2 = document.node? 2 := by
  intro record document ids
  have reached : Reachable document := .run fun _ _ => trivial
  have distinct : document.DistinctIds := distinctIds_of_nodup (by decide +kernel)
  obtain ⟨node, found⟩ : ∃ node, document.node? 1 = some node :=
    Option.isSome_iff_exists.mp (by decide +kernel)
  obtain ⟨count, after, populated, references, -, others, links, -, isCount, children⟩ :=
    (Reachable.populate_exact reached distinct 1 ids).2 node found
  have ownId : node.id = .ofNat 2 := by
    have isId : (document.node? 1).map (fun node => node.id) = some (.ofNat 2) := by
      decide +kernel
    rw [found] at isId
    exact Option.some.inj isId
  rw [ownId] at references links
  have isReferences : after.referencesAt 1 = [4, 1, 3, 9].map NodeId.ofNat :=
    references.trans (by decide +kernel)
  rw [isReferences] at links
  have isLinks : (after.linksAt 1).map Link.id = [.ofNat 4] := links.trans (by decide +kernel)
  have isOne : count = 1 := by
    rw [isCount, ← List.length_map Link.id, isLinks]
    rfl
  subst isOne
  exact ⟨reached, distinct, after, populated, isReferences, isLinks, children.symm,
    others 2 (by decide +kernel)⟩

end Outliner
