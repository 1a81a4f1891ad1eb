import Outliner.Proofs.History
import Outliner.Proofs.Links.Visit

/-!
Contract: links never lead to a node itself or upwards, and never in both directions.

Owns: the invariant `Untangled` about all links, live or not, and that every operation
keeps it while identifiers are distinct.

The links of earlier resolutions stay until the node is visited again, also those to
identifiers that are gone and may come back. So the invariant is about the identifiers
that links name and not about the slots they lead to.

Main statements: `Change.untangled`, `ReachableWhile.untangled`, and what follows for
virtual children.

Does not own: which links a resolution of the whole document makes
(`Proofs.Links.Relink`).
-/

namespace Outliner

namespace Document

variable {document before after : Document} {slot other target depth : Nat} {id : NodeId}
  {record : Record} {parent : Option Nat} {link : Link}

/-- No link names the identifier of its node or of one above it, and no two nodes have
links that name each other. -/
structure Untangled (document : Document) : Prop where
  not_upward : ∀ slot other, document.LinksTo slot other →
    other ≠ slot ∧ other ∉ document.ancestors slot
  one_way : ∀ slot other, document.LinksTo slot other → ¬ document.LinksTo other slot

/-- Links that go away, among nodes whose ways up stay, tangle nothing. -/
theorem Untangled.of_fewer (untangled : before.Untangled)
    (fewer : ∀ slot other, after.LinksTo slot other → before.LinksTo slot other)
    (ancestors : ∀ slot other, after.LinksTo slot other →
      after.ancestors slot = before.ancestors slot) : after.Untangled where
  not_upward slot other isLink := by
    rw [ancestors slot other isLink]
    exact untangled.not_upward slot other (fewer slot other isLink)
  one_way slot other isLink linksBack :=
    untangled.one_way slot other (fewer slot other isLink) (fewer other slot linksBack)

theorem live_of_linksTo (isLink : document.LinksTo slot other) : document.Live slot := by
  obtain ⟨link, isLink, -⟩ := isLink
  cases found : document.node? slot with
  | some node => exact ⟨node, found⟩
  | none =>
      rw [linksAt, found] at isLink
      exact absurd isLink List.not_mem_nil

theorem linksTo_congr (links : ∀ slot, after.linksAt slot = before.linksAt slot)
    (holds : ∀ slot id, after.holds slot id = before.holds slot id) :
    after.LinksTo slot other ↔ before.LinksTo slot other := by
  unfold LinksTo
  simp only [links, holds]

/-! ## Edits of the forest -/

namespace Grown

/-- A new node has no links. -/
theorem linksAt_slot (grown : Grown before record parent slot after) :
    after.linksAt slot = [] :=
  linksAt_of_node? grown.node?_slot

theorem linksAt_of_ne (grown : Grown before record parent slot after) (different : other ≠ slot) :
    after.linksAt other = before.linksAt other := by
  have unseen : ∀ node, (node.appendChild slot).links = Node.links node := by
    intro node
    unfold Node.appendChild
    split <;> rfl
  unfold linksAt
  rw [grown.map_node?_of_ne Node.links unseen different]

theorem holds_of_ne (grown : Grown before record parent slot after) (different : other ≠ slot) :
    after.holds other id = before.holds other id := by
  have unseen : ∀ node : Node, (node.appendChild slot).id = node.id := by
    intro node
    unfold Node.appendChild
    split <;> rfl
  rw [holds_eq_any_map, grown.map_node?_of_ne (fun node => node.id) unseen different,
    holds_eq_any_map]

/-- A new node is above none of the others. -/
theorem ancestors_eq (grown : Grown before record parent slot after) (owned : before.Owned)
    (live : before.Live other) : after.ancestors other = before.ancestors other := by
  obtain ⟨depth, atDepth⟩ := owned.rooted other live
  apply atDepth.ancestors_eq (grown.atDepth atDepth)
  exact fun above aboveLive _ => grown.parent?_of_ne (grown.ne_slot aboveLive)

/-- A new node has no links; a link to it, which an old node can have since before, is
one that does not lead upwards. -/
theorem untangled (grown : Grown before record parent slot after) (owned : before.Owned)
    (wasUntangled : before.Untangled) : after.Untangled := by
  have notNew : ∀ {source target : Nat}, after.LinksTo source target → source ≠ slot := by
    rintro source target ⟨link, isLink, -⟩ rfl
    rw [grown.linksAt_slot] at isLink
    exact absurd isLink List.not_mem_nil
  have old : ∀ {source target : Nat}, after.LinksTo source target → target ≠ slot →
      before.LinksTo source target := by
    intro source target isLink different
    obtain ⟨link, member, isHeld⟩ := isLink
    rw [grown.linksAt_of_ne (notNew ⟨link, member, isHeld⟩)] at member
    rw [grown.holds_of_ne different] at isHeld
    exact ⟨link, member, isHeld⟩
  constructor
  · intro source target isLink
    have fromLive : before.Live source :=
      (grown.live_iff.mp (live_of_linksTo isLink)).resolve_left (notNew isLink)
    rw [grown.ancestors_eq owned fromLive]
    by_cases toNew : target = slot
    · subst toNew
      refine ⟨(notNew isLink).symm, fun isAbove => ?_⟩
      obtain ⟨depth, atDepth⟩ := owned.rooted source fromLive
      obtain ⟨_, -, aboveAt⟩ := atDepth.of_mem_ancestors isAbove
      exact grown.ne_slot aboveAt.live rfl
    · exact wasUntangled.not_upward source target (old isLink toNew)
  · intro source target isLink linksBack
    exact wasUntangled.one_way source target (old isLink (notNew linksBack))
      (old linksBack (notNew isLink))

end Grown

namespace Pruned

theorem mem_linksAt (pruned : Pruned before slot after) (isLink : link ∈ after.linksAt other) :
    link ∈ before.linksAt other := by
  cases found : after.node? other with
  | none =>
      rw [linksAt, found] at isLink
      exact absurd isLink List.not_mem_nil
  | some node =>
      obtain ⟨old, oldFound, equal⟩ := pruned.old_of_found found
      rw [linksAt_of_node? found, equal] at isLink
      rw [linksAt_of_node? oldFound]
      split at isLink <;> exact isLink

theorem holds_before (pruned : Pruned before slot after) (isHeld : after.holds other id) :
    before.holds other id := by
  obtain ⟨node, found, sameId⟩ := holds_iff.mp isHeld
  obtain ⟨old, oldFound, equal⟩ := pruned.old_of_found found
  refine holds_iff.mpr ⟨old, oldFound, ?_⟩
  rw [← sameId, equal]
  split <;> rfl

/-- Nodes that stay keep all nodes above them. -/
theorem ancestors_eq (pruned : Pruned before slot after) (owned : before.Owned)
    (live : after.Live other) : after.ancestors other = before.ancestors other := by
  obtain ⟨depth, atDepth⟩ := owned.rooted other (pruned.live_iff.mp live).1
  apply atDepth.ancestors_eq (pruned.atDepth owned atDepth live)
  exact fun above _ aboveLive => pruned.parent?_of_live aboveLive

/-- A removal tangles no links. -/
theorem untangled (pruned : Pruned before slot after) (owned : before.Owned)
    (wasUntangled : before.Untangled) : after.Untangled := by
  apply wasUntangled.of_fewer
  · rintro source target ⟨link, isLink, isHeld⟩
    exact ⟨link, pruned.mem_linksAt isLink, pruned.holds_before isHeld⟩
  · exact fun source target isLink => pruned.ancestors_eq owned (live_of_linksTo isLink)

end Pruned

/-! ## Edits of one node -/

theorem linksAt_update {change : Node → Node} (keeps : ∀ node, (change node).links = node.links)
    (document : Document) (slot other : Nat) :
    (document.update slot change).linksAt other = document.linksAt other := by
  unfold linksAt
  rw [map_node?_update Node.links keeps]

theorem holds_update {change : Node → Node} (keeps : ∀ node, (change node).id = node.id)
    (document : Document) (slot other : Nat) (id : NodeId) :
    (document.update slot change).holds other id = document.holds other id := by
  rw [holds_eq_any_map, map_node?_update (fun node => node.id) keeps, holds_eq_any_map]

theorem ancestors_update {change : Node → Node}
    (keeps : ∀ node, (change node).placement = node.placement) (document : Document)
    (slot other : Nat) :
    (document.update slot change).ancestors other = document.ancestors other := by
  have reach : (document.update slot change).reach = document.reach := Array.size_modify
  apply ancestors_congr reach
  exact fun above => parent?_congr (map_node?_update Node.placement keeps document slot above)

/-- A change that keeps links, identifiers and places tangles no links. -/
theorem Untangled.update (untangled : document.Untangled) {change : Node → Node}
    (links : ∀ node, (change node).links = node.links)
    (ids : ∀ node, (change node).id = node.id)
    (placements : ∀ node, (change node).placement = node.placement) (slot : Nat) :
    (document.update slot change).Untangled := by
  apply untangled.of_fewer
  · intro source target
    exact (linksTo_congr (linksAt_update links document slot)
      (holds_update ids document slot)).mp
  · exact fun source target _ => ancestors_update placements document slot source

/-! ## Work on links -/

theorem Untangled.of_same_nodes (untangled : before.Untangled) (same : after.nodes = before.nodes) :
    after.Untangled := by
  have nodes : ∀ slot, after.node? slot = before.node? slot := by
    intro slot
    rw [node?, same, node?]
  have links : ∀ slot, after.linksAt slot = before.linksAt slot := by
    intro slot
    rw [linksAt, nodes, linksAt]
  have holds : ∀ slot id, after.holds slot id = before.holds slot id := by
    intro slot id
    rw [holds, nodes, holds]
  have reach : after.reach = before.reach := by
    rw [reach, same, reach]
  have parents : ∀ slot, after.parent? slot = before.parent? slot := by
    intro slot
    rw [parent?, nodes, parent?]
  apply untangled.of_fewer
  · exact fun source target => (linksTo_congr links holds).mp
  · exact fun source target _ => ancestors_congr reach parents source

theorem untangled_of_no_links (noLinks : ∀ slot, document.linksAt slot = []) :
    document.Untangled := by
  have none : ∀ slot other, ¬ document.LinksTo slot other := by
    rintro slot other ⟨link, isLink, -⟩
    rw [noLinks slot] at isLink
    exact absurd isLink List.not_mem_nil
  exact ⟨fun slot other isLink => absurd isLink (none slot other),
    fun slot other isLink => absurd isLink (none slot other)⟩

/-- A visit of a node keeps links one way: it makes none that has one back, and none
upwards. -/
theorem Visited.untangled {before after : LinkCounts × Document}
    (visited : Visited before slot after) (distinct : before.2.DistinctIds)
    (wasUntangled : before.2.Untangled) : after.2.Untangled := by
  have new : ∀ {target : Nat}, after.2.LinksTo slot target → before.2.MayLink slot target :=
    fun isLink => ((visited.linksTo_self distinct).mp isLink).2
  constructor
  · intro source target isLink
    rw [ancestors_of_bare_eq visited.bare_eq]
    by_cases isSlot : source = slot
    · subst isSlot
      exact ⟨(new isLink).1, (new isLink).2.1⟩
    · exact wasUntangled.not_upward source target ((visited.linksTo_of_ne isSlot).mp isLink)
  · intro source target isLink linksBack
    by_cases fromSlot : source = slot
    · subst fromSlot
      obtain ⟨toOther, -, noLinkBack⟩ := new isLink
      exact noLinkBack ((visited.linksTo_of_ne toOther).mp linksBack)
    · have wasLink := (visited.linksTo_of_ne fromSlot).mp isLink
      by_cases toSlot : target = slot
      · subst toSlot
        exact (new linksBack).2.2 wasLink
      · exact wasUntangled.one_way source target wasLink
          ((visited.linksTo_of_ne toSlot).mp linksBack)

/-- Visits in a row tangle no links. -/
theorem Owned.untangled_foldl_visit (owned : document.Owned) (distinct : document.DistinctIds)
    {slots : List Nat} (live : ∀ slot ∈ slots, document.Live slot)
    {state : LinkCounts × Document} (same : state.2.bare = document.bare)
    (untangled : state.2.Untangled) : (slots.foldl visit state).2.Untangled := by
  apply owned.foldl_visit (motive := fun _ state => state.2.Untangled) distinct live same untangled
  intro first slot rest before after _ sameSoFar visited wasUntangled
  exact visited.untangled (distinct.of_bare_eq sameSoFar) wasUntangled

/-- A piece of work on links tangles none. -/
theorem LinkStep.untangled (work : LinkStep before after) (owned : before.Owned)
    (distinct : before.DistinctIds) (untangled : before.Untangled) : after.Untangled := by
  cases work with
  | indexed index => exact untangled.of_same_nodes rfl
  | @populated slot count ids _ populated =>
      obtain ⟨node, found, rfl, -⟩ := owned.populate_eq_foldl distinct populated
      apply owned.untangled_foldl_visit distinct
      · exact fun other member => owned.live_of_mem_subtree ⟨node, found⟩ member
      · exact before.bare_setReferences slot _
      · have referring : (before.update slot (Node.setReferences
            (firstOccurrences (ids.filter (· ≠ node.id))))).Untangled := by
          apply untangled.update
          all_goals
            intro other
            rfl
        exact referring.of_same_nodes (nodes_ensureIndex _)
  | relinked =>
      rw [owned.relink_eq_foldl distinct]
      apply owned.untangled_foldl_visit distinct
      · exact fun slot member => owned.mem_preorder.mp member
      · rw [bare_clearLinks, bare_ensureIndex]
      · exact untangled_of_no_links (linksAt_clearLinks _)
  | @flipped slot target _ _ flipped =>
      rw [flipCollapsed_eq flipped]
      apply untangled.update
      all_goals
        intro node
        unfold Node.flipCollapsed
        split <;> rfl

theorem LinkWork.untangled (work : LinkWork before after) (owned : before.Owned)
    (distinct : before.DistinctIds) (untangled : before.Untangled) : after.Untangled := by
  induction work with
  | refl => exact untangled
  | @tail middle _ work last inductionHypothesis =>
      have same : middle.bare = before.bare := LinkWork.bare_eq work
      exact last.untangled (owned.of_bare_eq same) (distinct.of_bare_eq same) inductionHypothesis

/-! ## Histories -/

/-- No change tangles links, as long as identifiers are distinct. -/
theorem Change.untangled (change : Change before after) (owned : before.Owned)
    (distinct : before.DistinctIds) (untangled : before.Untangled) : after.Untangled := by
  cases change with
  | grown grown => exact grown.untangled owned untangled
  | pruned pruned => exact pruned.untangled owned untangled
  | edited slot content =>
      exact untangled.update content.links content.id content.placement slot
  | linked work => exact work.untangled owned distinct untangled

theorem linksTo_of_mem_liveLinks (isLink : link ∈ document.liveLinks slot) :
    document.LinksTo slot link.slot := by
  obtain ⟨isRawLink, isHeld⟩ := List.mem_filter.mp isLink
  exact ⟨link, isRawLink, isHeld⟩

end Document

open Document

/-- Links are untangled along every history with distinct identifiers. -/
theorem ReachableWhile.untangled {document : Document}
    (reached : ReachableWhile DistinctIds document) : document.Untangled := by
  apply reached.invariant
  · apply untangled_of_no_links
    intro slot
    rw [linksAt, node?, Document.empty, Store.Arena.get?_empty]
    rfl
  · exact fun before after owned distinct _ change wasUntangled =>
      change.untangled owned distinct wasUntangled

/-- In every document that is reached without two nodes sharing an identifier, no virtual
child of a node is the node itself or above it, and no two nodes are virtual children of
each other. -/
theorem ReachableWhile.links_untangled {document : Document}
    (reached : ReachableWhile DistinctIds document) :
    (∀ slot, ∀ link ∈ document.liveLinks slot,
      link.slot ≠ slot ∧ link.slot ∉ document.ancestors slot) ∧
    ∀ left right, ¬ ((∃ link ∈ document.liveLinks left, link.slot = right) ∧
      ∃ link ∈ document.liveLinks right, link.slot = left) := by
  have untangled := reached.untangled
  constructor
  · intro slot link isLink
    exact untangled.not_upward slot link.slot (linksTo_of_mem_liveLinks isLink)
  · rintro left right ⟨⟨forth, isForth, rfl⟩, back, isBack, rfl⟩
    exact untangled.one_way _ _ (linksTo_of_mem_liveLinks isForth)
      (linksTo_of_mem_liveLinks isBack)

/-- A link outlives its target and comes to life again with the identifier; the node that
took it over then gets no link back. -/
theorem links_untangled_revived :
    let record := fun number => Record.plain (.ofNat number) "" .last .last
    let document := Operation.run
      [.addRoot (record 1), .addRoot (record 2), .populate 0 [.ofNat 2], .removeTree 1,
        .addRoot (record 2), .populate 1 [.ofNat 1]]
    ReachableWhile DistinctIds document ∧ document.liveLinks 0 = [⟨1, .ofNat 2⟩] ∧
      ¬ ((∃ link ∈ document.liveLinks 0, link.slot = 1) ∧
        ∃ link ∈ document.liveLinks 1, link.slot = 0) := by
  intro record document
  have reached : ReachableWhile DistinctIds document := by
    apply ReachableWhile.run
    intro first isFirst
    apply distinctIds_of_nodup
    revert first
    decide +kernel
  exact ⟨reached, by decide +kernel, (ReachableWhile.links_untangled reached).2 0 1⟩

end Outliner
