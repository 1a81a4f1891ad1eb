import Outliner.Proofs.Links.Closed
import Outliner.Proofs.Links.Resolved
import Outliner.Proofs.Search.Refreshing

/-!
Contract: a refresh does not depend on what happened before.

Owns: the condition `UpToDate` that a refresh establishes, and the result of a refresh
for documents that differ in their past: in the references of search nodes, in links, in
what is shown closed, and in the index.

While a refresh runs, links of earlier resolutions do make a difference. They are gone
at its end, since the references are those of the queries and the last resolution starts
without links.

Main statements: `upToDate_refresh`, `UpToDate.node?_refresh`, and both runs for
reachable documents.

Does not own: the number of links that a refresh reports (`Proofs.Search.LinkCount`).
-/

namespace Outliner

open Outliner.Calendar Outliner.Query

/-- A node is what links leave alone, and what they do not. -/
theorem Node.eq_of_parts {node other : Node} (bare : node.bare = other.bare)
    (references : node.references = other.references) (links : node.links = other.links)
    (collapsed : node.collapsed = other.collapsed) : node = other := by
  obtain ⟨⟨id, text, metadata, _⟩, parent, children, _, _⟩ := node
  obtain ⟨⟨otherId, otherText, otherMetadata, _⟩, otherParent, otherChildren, _, _⟩ := other
  simp only [Node.bare, Node.mk.injEq, Record.mk.injEq, and_true] at bare
  obtain ⟨⟨rfl, rfl, rfl⟩, rfl, rfl⟩ := bare
  cases references
  cases links
  cases collapsed
  rfl

namespace Search

open Document

/-- Search nodes refer to what their queries find, links are those of a full resolution,
and nothing is shown closed that is not referred to. -/
structure UpToDate (settings : SearchSettings) (zone : Zone) (now : Instant)
    (document : Document) : Prop where
  references : ∀ slot node, document.node? slot = some node → settings.selects node = true →
    node.references = expectedReferences settings (Scene.ofNow document zone now) node
  resolved : document.Resolved
  closed : document.ClosedReferred

variable {settings : SearchSettings} {zone : Zone} {now : Instant} {document left right : Document}
  {slot : Nat} {node other : Node}

theorem selects_of_bare_eq (same : node.bare = other.bare) :
    settings.selects node = settings.selects other := by
  show settings.selects node.bare = settings.selects other.bare
  rw [same]

theorem attribute?_of_bare_eq (same : node.bare = other.bare) (key : String) :
    node.attribute? key = other.attribute? key := by
  show node.bare.attribute? key = other.bare.attribute? key
  rw [same]

theorem sceneAlike (alike : left.Alike right) (owned : left.Owned) (zone : Zone) (now : Instant) :
    (Scene.ofNow left zone now).Alike (Scene.ofNow right zone now) :=
  ⟨rfl, rfl, alike.nodes, alike.ancestors_eq owned, alike.depth?_eq owned⟩

/-- What a search node should refer to follows from the outline. -/
theorem expectedReferences_alike (alike : left.Alike right) (leftOwned : left.Owned)
    (rightOwned : right.Owned) (same : node.bare = other.bare) :
    expectedReferences settings (Scene.ofNow left zone now) node =
      expectedReferences settings (Scene.ofNow right zone now) other := by
  have sameId : node.id = other.id := congrArg (fun node => node.id) same
  have matching : ∀ expr, matchingSlots (Scene.ofNow left zone now) expr =
      matchingSlots (Scene.ofNow right zone now) expr :=
    matchingSlots_alike (sceneAlike alike leftOwned zone now)
      (alike.preorder_eq leftOwned rightOwned)
  have ids : ∀ slots, (Scene.ofNow left zone now).document.idsOf slots =
      (Scene.ofNow right zone now).document.idsOf slots := alike.idsOf_eq
  unfold expectedReferences
  simp only [attribute?_of_bare_eq same, matching, ids, sameId]

/-! ## What a refresh leaves -/

theorem bare_refresh (settings : SearchSettings) (zone : Zone) (now : Instant)
    (document : Document) : (Search.refresh settings zone now document).2.bare = document.bare :=
  (linkWork_refresh settings zone now document).bare_eq

/-- After a refresh a search node has the references its query asks for, and any other node has
what it had. -/
theorem referencesAt_refresh (settings : SearchSettings) (zone : Zone) (now : Instant)
    (owned : document.Owned) (distinct : document.DistinctIds)
    (found : document.node? slot = some node) :
    (Search.refresh settings zone now document).2.referencesAt slot =
      if settings.selects node then
        expectedReferences settings (Scene.ofNow document zone now) node
      else node.references := by
  obtain ⟨same, references, -⟩ :=
    refreshed_foldl settings owned distinct zone now fun _ member => member
  have relinked := (owned.of_bare_eq same).referencesAt_relink (distinct.of_bare_eq same) slot
  refine relinked.trans ?_
  rw [references slot node found]
  simp only [mem_slots owned found]

/-- A refresh leaves every search node with the references of its query. -/
theorem upToDate_refresh (settings : SearchSettings) (zone : Zone) (now : Instant)
    (owned : document.Owned) (distinct : document.DistinctIds) :
    UpToDate settings zone now (Search.refresh settings zone now document).2 := by
  have same := bare_refresh settings zone now document
  have sameBefore := (linkWork_refreshNodes settings zone now (settings.slots document)
    ⟨document, ⟨0, 0, []⟩⟩).bare_eq
  have ownedBefore := owned.of_bare_eq sameBefore
  have distinctBefore := distinct.of_bare_eq sameBefore
  constructor
  · intro slot node found isSearch
    obtain ⟨old, oldFound, sameNode⟩ := exists_node?_of_bare_eq same.symm found
    have references := referencesAt_refresh settings zone now owned distinct oldFound
    rw [selects_of_bare_eq sameNode, if_pos isSearch, referencesAt_of_node? found] at references
    rw [references]
    exact expectedReferences_alike (alike_of_bare_eq same.symm) owned (owned.of_bare_eq same)
      sameNode
  · exact ownedBefore.resolved_relink distinctBefore
  · exact closedReferred_relink _

/-! ## Refreshing once more -/

/-- Up to date, a further refresh writes the references that are there. -/
theorem UpToDate.referencesAt_foldl (upToDate : UpToDate settings zone now document)
    (owned : document.Owned) (distinct : document.DistinctIds) {slots : List Nat}
    (searchNodes : ∀ slot ∈ slots, slot ∈ settings.slots document) (slot : Nat) :
    (slots.foldl (Refreshing.refreshNode settings zone now)
      ⟨document, ⟨0, 0, []⟩⟩).document.referencesAt slot = document.referencesAt slot := by
  obtain ⟨same, references, -⟩ := refreshed_foldl settings owned distinct zone now searchNodes
  cases found : document.node? slot with
  | none =>
      have vacant : ¬ document.Live slot := fun ⟨node, isNode⟩ => by
        rw [found] at isNode
        cases isNode
      rw [← live_of_bare_eq same] at vacant
      rw [referencesAt, node?_of_not_live vacant, referencesAt, found]
  | some node =>
      rw [references slot node found, referencesAt_of_node? found]
      by_cases member : slot ∈ slots
      · have isSearch := (mem_slots owned found).mp (searchNodes slot member)
        rw [if_pos member, upToDate.references slot node found isSearch]
      · rw [if_neg member]

/-- Up to date, a further refresh drops no reference, so every folded one stays folded. -/
theorem UpToDate.collapsedAt_foldl (upToDate : UpToDate settings zone now document)
    (owned : document.Owned) (distinct : document.DistinctIds) {slots : List Nat}
    (searchNodes : ∀ slot ∈ slots, slot ∈ settings.slots document) (slot : Nat) :
    (slots.foldl (Refreshing.refreshNode settings zone now)
      ⟨document, ⟨0, 0, []⟩⟩).document.collapsedAt slot = document.collapsedAt slot := by
  have references := upToDate.referencesAt_foldl owned distinct searchNodes
  induction slots using List.reverseRecOn generalizing slot with
  | nil => rfl
  | append_singleton first last inductionHypothesis =>
      have firstSearch : ∀ slot ∈ first, slot ∈ settings.slots document :=
        fun slot member => searchNodes slot (List.mem_append_left [last] member)
      have collapsed := fun slot =>
        inductionHypothesis firstSearch slot (upToDate.referencesAt_foldl owned distinct firstSearch)
      have same := (linkWork_refreshNodes settings zone now first ⟨document, ⟨0, 0, []⟩⟩).bare_eq
      have live : document.Live last := live_of_mem_slots owned
        (searchNodes last (List.mem_append_right first List.mem_cons_self))
      rw [← live_of_bare_eq same] at live
      obtain ⟨node, found⟩ := live
      have closed : (first.foldl (Refreshing.refreshNode settings zone now)
          ⟨document, ⟨0, 0, []⟩⟩).document.ClosedReferred := by
        intro slot id member
        rw [collapsed] at member
        rw [upToDate.referencesAt_foldl owned distinct firstSearch]
        exact upToDate.closed slot id member
      rw [List.foldl_append, List.foldl_cons, List.foldl_nil] at references ⊢
      obtain ⟨ids, count, populated, -⟩ :=
        exists_populate_refreshNode settings zone now _ found
      rw [(owned.of_bare_eq same).collapsedAt_populate closed populated,
        references, collapsed, collapsed]
      by_cases isLast : slot = last
      · rw [if_pos isLast, isLast]
        exact upToDate.closed.keptAt_eq last
      · rw [if_neg isLast]

/-- A refresh of a document that is up to date changes no node. -/
theorem UpToDate.node?_refresh (upToDate : UpToDate settings zone now document)
    (owned : document.Owned) (distinct : document.DistinctIds) (slot : Nat) :
    (Search.refresh settings zone now document).2.node? slot = document.node? slot := by
  have same := bare_refresh settings zone now document
  have searchNodes : ∀ slot ∈ settings.slots document, slot ∈ settings.slots document :=
    fun _ member => member
  have sameBefore := (linkWork_refreshNodes settings zone now (settings.slots document)
    ⟨document, ⟨0, 0, []⟩⟩).bare_eq
  have ownedBefore := owned.of_bare_eq sameBefore
  have distinctBefore := distinct.of_bare_eq sameBefore
  have references : ∀ slot, (Search.refresh settings zone now document).2.referencesAt slot =
      document.referencesAt slot := by
    intro slot
    refine (ownedBefore.referencesAt_relink distinctBefore slot).trans ?_
    exact upToDate.referencesAt_foldl owned distinct searchNodes slot
  have links : (Search.refresh settings zone now document).2.linksAt slot =
      document.linksAt slot :=
    (ownedBefore.resolved_relink distinctBefore).linksAt_eq upToDate.resolved
      (alike_of_bare_eq same) (owned.of_bare_eq same) owned (distinct.of_bare_eq same)
      references slot
  have collapsed : (Search.refresh settings zone now document).2.collapsedAt slot =
      document.collapsedAt slot := by
    refine (collapsedAt_relink _ slot).trans ?_
    rw [keptAt, upToDate.collapsedAt_foldl owned distinct searchNodes,
      upToDate.referencesAt_foldl owned distinct searchNodes]
    exact upToDate.closed.keptAt_eq slot
  by_cases live : document.Live slot
  · obtain ⟨node, found⟩ := live
    obtain ⟨again, isAgain, sameNode⟩ := exists_node?_of_bare_eq same found
    have sameReferences := references slot
    rw [referencesAt_of_node? isAgain, referencesAt_of_node? found] at sameReferences
    rw [linksAt_of_node? isAgain, linksAt_of_node? found] at links
    rw [collapsedAt_of_node? isAgain, collapsedAt_of_node? found] at collapsed
    rw [isAgain, found, Node.eq_of_parts sameNode sameReferences links collapsed]
  · rw [node?_of_not_live live, node?_of_not_live fun again => live ((live_of_bare_eq same).mp again)]

/-- Documents with the same outline, and with the same references on all nodes but search
nodes, have the same references and links after a refresh. -/
theorem refresh_alike (zone : Zone) (now : Instant) (alike : left.Alike right)
    (leftOwned : left.Owned) (rightOwned : right.Owned) (distinct : left.DistinctIds)
    (others : ∀ slot node, left.node? slot = some node → settings.selects node = false →
      left.referencesAt slot = right.referencesAt slot) (slot : Nat) :
    let leftAfter := (Search.refresh settings zone now left).2
    let rightAfter := (Search.refresh settings zone now right).2
    leftAfter.referencesAt slot = rightAfter.referencesAt slot ∧
      leftAfter.linksAt slot = rightAfter.linksAt slot := by
  intro leftAfter rightAfter
  have leftSame : leftAfter.bare = left.bare := bare_refresh settings zone now left
  have rightSame : rightAfter.bare = right.bare := bare_refresh settings zone now right
  have alikeAfter : leftAfter.Alike rightAfter :=
    (alike_of_bare_eq leftSame).trans (alike.trans (alike_of_bare_eq rightSame.symm))
  have references : ∀ slot, leftAfter.referencesAt slot = rightAfter.referencesAt slot := by
    intro slot
    by_cases live : left.Live slot
    · obtain ⟨node, found⟩ := live
      obtain ⟨other, otherFound, sameNode⟩ := alike.exists_node? found
      have leftReferences := referencesAt_refresh settings zone now leftOwned distinct found
      have rightReferences := referencesAt_refresh settings zone now rightOwned
        (alike.distinctIds distinct) otherFound
      rw [selects_of_bare_eq sameNode] at rightReferences
      refine leftReferences.trans (Eq.trans ?_ rightReferences.symm)
      cases isSearch : settings.selects node with
      | true =>
          rw [if_pos rfl, if_pos rfl]
          exact expectedReferences_alike alike leftOwned rightOwned sameNode.symm
      | false =>
          rw [if_neg Bool.false_ne_true, if_neg Bool.false_ne_true,
            ← referencesAt_of_node? found, ← referencesAt_of_node? otherFound]
          exact others slot node found isSearch
    · have leftVacant : ¬ leftAfter.Live slot := by rwa [live_of_bare_eq leftSame]
      have rightVacant : ¬ rightAfter.Live slot := by rwa [← alikeAfter.live_iff]
      rw [referencesAt, node?_of_not_live leftVacant, referencesAt,
        node?_of_not_live rightVacant]
  refine ⟨references slot, ?_⟩
  have leftResolved := (upToDate_refresh settings zone now leftOwned distinct).resolved
  have rightResolved :=
    (upToDate_refresh settings zone now rightOwned (alike.distinctIds distinct)).resolved
  exact leftResolved.linksAt_eq rightResolved alikeAfter (leftOwned.of_bare_eq leftSame)
    (rightOwned.of_bare_eq rightSame) (distinct.of_bare_eq leftSame) references slot

end Search

open Document Search

/-- Two documents that show the same outline, and differ at most in the references of
search nodes, in links, in what is shown closed and in their indexes, have the same
references and links after a refresh. A second refresh at the same time then changes no
node. -/
theorem Reachable.refresh_forgets_history {leftOrigin rightOrigin left right : Document}
    (leftReached : Reachable leftOrigin) (rightReached : Reachable rightOrigin)
    (leftSame : left.bare = leftOrigin.bare) (rightSame : right.bare = rightOrigin.bare)
    (distinct : left.DistinctIds) (alike : left.Alike right) (settings : SearchSettings)
    (others : ∀ slot node other, left.node? slot = some node → right.node? slot = some other →
      settings.selects node = false → node.references = other.references)
    (zone : Zone) (now : Instant) :
    let refreshed := fun document => (Search.refresh settings zone now document).2
    (∀ slot, ((refreshed left).node? slot).map (fun node => (node.references, node.links)) =
      ((refreshed right).node? slot).map fun node => (node.references, node.links)) ∧
    ∀ slot, (refreshed (refreshed left)).node? slot = (refreshed left).node? slot := by
  intro refreshed
  have leftOwned := leftReached.owned.of_bare_eq leftSame
  have rightOwned := rightReached.owned.of_bare_eq rightSame
  have sameLeft : (refreshed left).bare = left.bare := bare_refresh settings zone now left
  have sameRight : (refreshed right).bare = right.bare := bare_refresh settings zone now right
  constructor
  · intro slot
    have othersAt : ∀ slot node, left.node? slot = some node → settings.selects node = false →
        left.referencesAt slot = right.referencesAt slot := by
      intro slot node found isOther
      obtain ⟨other, otherFound, -⟩ := alike.exists_node? found
      rw [referencesAt_of_node? found, referencesAt_of_node? otherFound]
      exact others slot node other found otherFound isOther
    obtain ⟨references, links⟩ :=
      refresh_alike zone now alike leftOwned rightOwned distinct othersAt slot
    have alikeAfter : (refreshed left).Alike (refreshed right) :=
      (alike_of_bare_eq sameLeft).trans (alike.trans (alike_of_bare_eq sameRight.symm))
    by_cases live : (refreshed left).Live slot
    · obtain ⟨node, found⟩ := live
      obtain ⟨other, otherFound, -⟩ := alikeAfter.exists_node? found
      rw [referencesAt_of_node? found, referencesAt_of_node? otherFound] at references
      rw [linksAt_of_node? found, linksAt_of_node? otherFound] at links
      rw [found, otherFound, Option.map_some, Option.map_some, references, links]
    · rw [node?_of_not_live live,
        node?_of_not_live fun other => live (alikeAfter.live_iff.mpr other)]
  · have upToDate := upToDate_refresh settings zone now leftOwned distinct
    exact upToDate.node?_refresh (leftOwned.of_bare_eq sameLeft) (distinct.of_bare_eq sameLeft)

/-- One of two search nodes that find each other was populated before, shows its virtual
child closed, and stands in a larger store with an index. -/
theorem refresh_forgets_history_populated :
    let note := { Record.plain (.ofNat 3) "note" .last .last with references := [.ofNat 1] }
    let nodes : List Operation :=
      [.addSearchNode .standard (.ofNat 1) .last none "alpha" "beta",
        .addSearchNode .standard (.ofNat 2) .last none "beta" "alpha", .addRoot note]
    let left := Operation.run nodes
    let right := Operation.run (nodes ++ [.addRoot (.plain (.ofNat 4) "gone" .last .last),
      .populate 1 [.ofNat 1], .flipCollapsed 1 (.ofNat 1), .removeTree 3, .rebuildIndex])
    let refreshed := fun document => (Search.refresh .standard .universal .last document).2
    left.linksAt 1 = [] ∧ right.linksAt 1 = [⟨0, .ofNat 1⟩] ∧ left.bare ≠ right.bare ∧
      left.DistinctIds ∧ left.Alike right ∧
      ((refreshed left).node? 1).map (fun node => (node.references, node.links)) =
        ((refreshed right).node? 1).map (fun node => (node.references, node.links)) ∧
      (refreshed (refreshed left)).node? 1 = (refreshed left).node? 1 := by
  intro note nodes left right refreshed
  have leftReached : Reachable left := .run fun _ _ => trivial
  have rightReached : Reachable right := .run fun _ _ => trivial
  have distinct : left.DistinctIds := distinctIds_of_nodup (by decide +kernel)
  have leftEnd : ∀ slot, ¬ slot < 4 → left.node? slot = none := fun slot large =>
    node?_of_not_live fun live => large (Nat.lt_of_lt_of_le live.lt_reach (by decide +kernel))
  have rightEnd : ∀ slot, ¬ slot < 4 → right.node? slot = none := fun slot large =>
    node?_of_not_live fun live => large (Nat.lt_of_lt_of_le live.lt_reach (by decide +kernel))
  have alike : left.Alike right := by
    refine ⟨by decide +kernel, fun slot => ?_⟩
    by_cases small : slot < 4
    · revert slot
      decide +kernel
    · rw [leftEnd slot small, rightEnd slot small]
  have sameOthers : ∀ slot < 4, ∀ node ∈ left.node? slot, ∀ other ∈ right.node? slot,
      SearchSettings.standard.selects node = false → node.references = other.references := by
    decide +kernel
  have others : ∀ slot node other, left.node? slot = some node → right.node? slot = some other →
      SearchSettings.standard.selects node = false → node.references = other.references := by
    intro slot node other found otherFound
    by_cases small : slot < 4
    · exact sameOthers slot small node found other otherFound
    · rw [leftEnd slot small] at found
      cases found
  have both := Reachable.refresh_forgets_history leftReached rightReached rfl rfl distinct alike
    .standard others .universal .last
  exact ⟨by decide +kernel, by decide +kernel, by decide +kernel, distinct, alike, both.1 1,
    both.2 1⟩

end Outliner
