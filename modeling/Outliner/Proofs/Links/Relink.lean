import Mathlib.Algebra.Order.Ring.Nat
import Outliner.Proofs.History
import Outliner.Proofs.Links.Visit

/-!
Contract: which links a resolution of the whole document makes.

Owns: the closed form of these links, which only looks at the forest and at the
references, and the counts that the resolution returns.

The visits read the links that earlier visits made. The closed form holds of every
prefix of the pre-order: what was visited has its final links, and the rest has none.

Main statements: `Settled.visited_next`, `Owned.relinked`, and the closed form for
reachable documents.

Does not own: links of a resolution that starts below the roots
(`Proofs.Links.Untangled`).
-/

namespace Outliner

open Outliner.Store

namespace Document

variable {document origin : Document} {slot other target : Nat} {node : Node}
  {reference : NodeId} {first rest : List Nat}

/-- A full resolution can link a node to a target: one that is neither the node nor above
it, and does not come earlier while it refers to the node. -/
def Linkable (document : Document) (slot target : Nat) : Prop :=
  target ≠ slot ∧ target ∉ document.ancestors slot ∧
    ¬ (document.Precedes target slot ∧ document.RefersTo target slot)

def total (document : Document) (measure : Node → Nat) : Nat :=
  (document.nodes.toList.map fun entry => measure entry.2).sum

open Classical in
/-- The identifiers that a full resolution links a node to. -/
noncomputable def settledIds (document : Document) (slot : Nat) : List NodeId :=
  (document.referencesAt slot).filter fun reference =>
    ∃ target, document.holds target reference ∧ document.Linkable slot target

open Classical in
/-- A node is linked to those of its references that name a node which it can be linked to. -/
theorem mem_settledIds : reference ∈ document.settledIds slot ↔
    reference ∈ document.referencesAt slot ∧
      ∃ target, document.holds target reference ∧ document.Linkable slot target := by
  unfold settledIds
  rw [List.mem_filter, decide_eq_true_iff]

/-- The links of the slots in `first` are settled, there are no others, and the counts are
those of `first`. -/
structure Settled (document : Document) (first : List Nat) (state : LinkCounts × Document) :
    Prop where
  referencesAt : ∀ slot, state.2.referencesAt slot = document.referencesAt slot
  ids : ∀ slot ∈ first, (state.2.linksAt slot).map Link.id = document.settledIds slot
  held : ∀ slot ∈ first, ∀ link ∈ state.2.linksAt slot, document.holds link.slot link.id
  no_others : ∀ slot, slot ∉ first → state.2.linksAt slot = []
  visited : state.1.visited = first.length
  linked : state.1.linked = (first.map fun slot => (state.2.linksAt slot).length).sum
  outcomes : state.1.outcomes = (first.map fun slot => (document.referencesAt slot).length).sum

/-- While the slots before a slot are settled, a node links to it exactly if it is one of
them and refers to it: nothing else can keep the link from being made, since it would
have to come later. -/
theorem Settled.linksTo_iff {state : LinkCounts × Document} (settled : Settled document first state)
    (owned : document.Owned) (same : state.2.bare = document.bare)
    (split : document.preorder = first ++ slot :: rest) :
    state.2.LinksTo target slot ↔
      document.Precedes target slot ∧ document.RefersTo target slot := by
  have nodup := owned.preorder_nodup
  have slotLive : document.Live slot := by
    apply owned.mem_preorder.mp
    rw [split]
    exact List.mem_append_right first List.mem_cons_self
  rw [precedes_iff_mem nodup split]
  constructor
  · rintro ⟨link, isLink, isHeld⟩
    rw [holds_of_bare_eq same] at isHeld
    by_cases isFirst : target ∈ first
    · refine ⟨isFirst, link.id, ?_, isHeld⟩
      have isId : link.id ∈ document.settledIds target := by
        rw [← settled.ids target isFirst]
        exact List.mem_map_of_mem isLink
      exact (mem_settledIds.mp isId).1
    · rw [settled.no_others target isFirst] at isLink
      exact absurd isLink List.not_mem_nil
  · rintro ⟨isFirst, id, isReference, isHeld⟩
    have precedes := (precedes_iff_mem nodup split).mpr isFirst
    have notBack := precedes_asymm nodup precedes
    have linkable : document.Linkable target slot := by
      refine ⟨?_, ?_, fun back => notBack back.1⟩
      · rintro rfl
        exact notBack precedes
      · intro isAbove
        apply notBack
        apply owned.precedes_of_mem_ancestors _ isAbove
        apply owned.mem_preorder.mp
        rw [split]
        exact List.mem_append_left (slot :: rest) isFirst
    have isId : id ∈ document.settledIds target :=
      mem_settledIds.mpr ⟨isReference, slot, isHeld, linkable⟩
    rw [← settled.ids target isFirst] at isId
    obtain ⟨link, isLink, rfl⟩ := List.mem_map.mp isId
    exact ⟨link, isLink, (holds_of_bare_eq same slot link.id).trans isHeld⟩

/-- The visit of the next slot settles it. -/
theorem Settled.visited_next {before after : LinkCounts × Document}
    (settled : Settled document first before) (owned : document.Owned)
    (same : before.2.bare = document.bare) (split : document.preorder = first ++ slot :: rest)
    (visited : Visited before slot after) :
    Settled document (first ++ [slot]) after := by
  have slotNew : slot ∉ first := by
    have nodup := owned.preorder_nodup
    rw [split] at nodup
    exact fun member =>
      (List.nodup_append.mp nodup).2.2 slot member slot List.mem_cons_self rfl
  have kept : ∀ other ∈ first, after.2.linksAt other = before.2.linksAt other := by
    intro other isFirst
    apply visited.linksAt_of_ne
    rintro rfl
    exact slotNew isFirst
  have ids : (after.2.linksAt slot).map Link.id = document.settledIds slot := by
    rw [visited.ids, settled.referencesAt]
    unfold settledIds
    congr 1
    funext reference
    apply decide_eq_decide.mpr
    apply exists_congr
    intro target
    unfold MayLink Linkable
    rw [holds_of_bare_eq same, ancestors_of_bare_eq same,
      settled.linksTo_iff owned same split]
  constructor
  · exact fun other => (visited.referencesAt other).trans (settled.referencesAt other)
  · intro other member
    rcases List.mem_append.mp member with isFirst | isSlot
    · rw [kept other isFirst]
      exact settled.ids other isFirst
    · obtain rfl := List.mem_singleton.mp isSlot
      exact ids
  · intro other member link isLink
    rcases List.mem_append.mp member with isFirst | isSlot
    · rw [kept other isFirst] at isLink
      exact settled.held other isFirst link isLink
    · obtain rfl := List.mem_singleton.mp isSlot
      rw [← holds_of_bare_eq same]
      exact visited.held link isLink
  · intro other notMember
    rw [List.mem_append, List.mem_singleton, not_or] at notMember
    rw [visited.linksAt_of_ne other notMember.2]
    exact settled.no_others other notMember.1
  · rw [visited.visited, settled.visited, List.length_append, List.length_singleton]
  · rw [visited.linked, settled.linked, List.map_append, List.sum_append, List.map_singleton,
      List.sum_singleton]
    congr 2
    apply List.map_congr_left
    intro other isFirst
    rw [kept other isFirst]
  · rw [visited.outcomes, settled.outcomes, settled.referencesAt, List.map_append,
      List.sum_append, List.map_singleton, List.sum_singleton]

/-- The prefix of no slots is settled when all links are removed. -/
theorem settled_nil (document : Document) :
    Settled document [] (⟨0, 0, 0, 0⟩, document.ensureIndex.clearLinks) where
  referencesAt slot :=
    (referencesAt_clearLinks document.ensureIndex slot).trans
      (referencesAt_ensureIndex document slot)
  ids _ member := absurd member List.not_mem_nil
  held _ member := absurd member List.not_mem_nil
  no_others slot _ := linksAt_clearLinks document.ensureIndex slot
  visited := rfl
  linked := rfl
  outcomes := rfl

/-- After a full resolution all links are settled. -/
theorem Owned.relinked (owned : document.Owned) (distinct : document.DistinctIds) :
    Settled document document.preorder document.relink := by
  have same : document.ensureIndex.clearLinks.bare = document.bare := by
    rw [bare_clearLinks, bare_ensureIndex]
  rw [owned.relink_eq_foldl distinct]
  apply owned.foldl_visit (motive := Settled document) distinct _ same (settled_nil document)
  · intro first slot rest before after split sameSoFar visited settled
    exact settled.visited_next owned sameSoFar split visited
  · exact fun slot member => owned.mem_preorder.mp member

/-! ## Sums over all nodes -/

/-- The sum over all nodes is the sum along the pre-order. -/
theorem Owned.total_eq (owned : document.Owned) (measure : Node → Nat) :
    document.total measure =
      (document.preorder.map fun slot => ((document.node? slot).map measure).getD 0).sum := by
  have read : document.nodes.toList.map (fun entry => measure entry.2) =
      (document.nodes.toList.map Prod.fst).map fun slot =>
        ((document.node? slot).map measure).getD 0 := by
    rw [List.map_map]
    apply List.map_congr_left
    rintro ⟨slot, node⟩ member
    have found : document.node? slot = some node := Arena.mem_toList.mp member
    rw [Function.comp_apply, found]
    rfl
  unfold total
  rw [read]
  exact (owned.perm_preorder.map _).sum_nat

theorem length_referencesAt (document : Document) (slot : Nat) :
    (document.referencesAt slot).length =
      ((document.node? slot).map fun node => node.references.length).getD 0 := by
  unfold referencesAt
  cases document.node? slot <;> rfl

/-- The count of links is the number of links in the document. -/
theorem Settled.linked_eq_total {state : LinkCounts × Document}
    (settled : Settled document document.preorder state) (owned : document.Owned)
    (same : state.2.bare = document.bare) :
    state.1.linked = state.2.total fun node => node.links.length := by
  rw [settled.linked, (owned.of_bare_eq same).total_eq, preorder_of_bare_eq same]
  simp only [getD_length_linksAt]

/-- Every reference in the document was counted once. -/
theorem Settled.outcomes_eq_total {state : LinkCounts × Document}
    (settled : Settled document document.preorder state) (owned : document.Owned) :
    state.1.outcomes = document.total fun node => node.references.length := by
  rw [settled.outcomes, owned.total_eq]
  simp only [length_referencesAt]

/-- Documents that differ in links and index at most are bare in the same way. -/
theorem bare_of_reset_eq (same : document.dropIndex.clearLinks = origin.dropIndex.clearLinks) :
    document.bare = origin.bare := by
  rw [← bare_dropIndex, ← bare_clearLinks, same, bare_clearLinks, bare_dropIndex]

end Document

open Document

open Classical in
/-- Whatever links and index a reachable document has, a full resolution links every node
to exactly those of its references that some node holds which is neither the node nor
above it, and does not come earlier in the pre-order while it refers to the node. The
counts are the numbers of nodes, of links and of references. -/
theorem Reachable.relink_closed_form {origin document : Document} (reached : Reachable origin)
    (distinct : origin.DistinctIds)
    (same : document.dropIndex.clearLinks = origin.dropIndex.clearLinks) :
    (∀ slot node, document.node? slot = some node →
      ∃ linked, document.relink.2.node? slot = some linked ∧
        linked.links.map Link.id = node.references.filter (fun reference =>
          ∃ target, document.holds target reference ∧ document.Linkable slot target) ∧
        ∀ link ∈ linked.links, document.holds link.slot link.id) ∧
    document.relink.1.visited = document.size ∧
    document.relink.1.linked = document.relink.2.total (fun node => node.links.length) ∧
    document.relink.1.linked + document.relink.1.missing + document.relink.1.cyclic =
      document.total fun node => node.references.length := by
  have owned := reached.owned.of_bare_eq (bare_of_reset_eq same)
  have settled := owned.relinked (distinct.of_bare_eq (bare_of_reset_eq same))
  refine ⟨?_, settled.visited.trans owned.length_preorder,
    settled.linked_eq_total owned (bare_relink document), settled.outcomes_eq_total owned⟩
  intro slot node found
  have listed : slot ∈ document.preorder := owned.mem_preorder.mpr ⟨node, found⟩
  obtain ⟨linked, isLinked⟩ := (live_of_bare_eq (bare_relink document)).mpr ⟨node, found⟩
  refine ⟨linked, isLinked, ?_, ?_⟩
  · rw [← linksAt_of_node? isLinked, ← referencesAt_of_node? found]
    exact settled.ids slot listed
  · rw [← linksAt_of_node? isLinked]
    exact settled.held slot listed

/-- A document of three nodes is resolved under a wrong link and a wrong index: of seven
references four become links, one is missing, one leads upwards and one leads back. -/
theorem relink_closed_form_stale :
    let record := fun number references =>
      { Record.plain (.ofNat number) "" .last .last with references := references.map .ofNat }
    let origin := Operation.run
      [.addRoot (record 1 [2, 3]), .addChild 0 (record 2 [1, 3, 3]), .addRoot (record 3 [1, 9])]
    let document := { origin.update 2 (Node.setLinks [⟨0, .ofNat 1⟩]) with
      index := some ⟨[(.ofNat 3, 0)], origin.generation⟩ }
    Reachable origin ∧ DistinctIds origin ∧
      document.dropIndex.clearLinks = origin.dropIndex.clearLinks ∧
      document.relink.1 = ⟨3, 4, 1, 2⟩ ∧ document.relink.1.visited = document.size ∧
      (∃ linked, document.relink.2.node? 1 = some linked ∧
        ∀ link ∈ linked.links, document.holds link.slot link.id) := by
  intro record origin document
  have reached : Reachable origin := .run fun _ _ => trivial
  have distinct : origin.DistinctIds := distinctIds_of_nodup (by decide +kernel)
  have same : document.dropIndex.clearLinks = origin.dropIndex.clearLinks := by decide +kernel
  have live : document.Live 1 := Option.isSome_iff_exists.mp (by decide +kernel)
  obtain ⟨node, found⟩ := live
  obtain ⟨each, visited, -, -⟩ := Reachable.relink_closed_form reached distinct same
  obtain ⟨linked, isLinked, -, held⟩ := each 1 node found
  exact ⟨reached, distinct, same, by decide +kernel, visited, linked, isLinked, held⟩

end Outliner
