import Mathlib.Algebra.BigOperators.Group.List.Basic
import Mathlib.Data.List.ProdSigma
import Mathlib.Data.List.Perm.Subperm
import Outliner.Proofs.Links.Referred
import Outliner.Proofs.Search.Forgetting

/-!
Contract: when the number of links that a refresh reports is that of the links it leaves.

Owns: the links that search nodes have while a refresh runs and at its end, and their
number.

A search node is counted right after it was populated, when links of earlier resolutions
are still there; the links that stay are made afterwards, from none. The two differ where
a node that a search node finds refers back to it without finding it. Where every such
node is a search node that finds the other too, each resolution links the two in one of
the two directions, and the numbers agree although the links need not.

Main statements: `tallied_refreshNode`, `Oriented.length_le`, and the report of a refresh.

Does not own: which links a full resolution makes (`Proofs.Links.Resolved`).
-/

namespace Outliner

open Outliner.Calendar

namespace Document

variable {document : Document} {slot target : Nat} {slots : List Nat}

instance (document : Document) (slot target : Nat) : Decidable (document.LinksTo slot target) := by
  unfold LinksTo
  infer_instance

instance (document : Document) (slot target : Nat) : Decidable (document.RefersTo slot target) := by
  unfold RefersTo
  infer_instance

theorem length_idsOf (live : ∀ slot ∈ slots, document.Live slot) :
    (document.idsOf slots).length = slots.length := by
  unfold idsOf
  rw [List.filterMap_length_eq_length]
  intro slot member
  obtain ⟨node, found⟩ := live slot member
  rw [found]
  rfl

/-- A slot holds one id. -/
theorem holds_unique {left right : NodeId} (leftHeld : document.holds slot left)
    (rightHeld : document.holds slot right) : left = right := by
  obtain ⟨node, found, rfl⟩ := holds_iff.mp leftHeld
  obtain ⟨other, otherFound, rfl⟩ := holds_iff.mp rightHeld
  rw [found] at otherFound
  rw [Option.some.inj otherFound]

theorem live_of_holds {id : NodeId} (isHeld : document.holds slot id) : document.Live slot := by
  obtain ⟨node, found, -⟩ := holds_iff.mp isHeld
  exact ⟨node, found⟩

/-- A node that refers to other nodes only, and to each once, has as many links as there
are nodes it links to. -/
theorem Owned.length_linksAt (owned : document.Owned) (distinct : document.DistinctIds)
    (referred : document.ReferredAt slot) (nodup : (document.referencesAt slot).Nodup)
    (held : ∀ id ∈ document.referencesAt slot, ∃ target, document.holds target id) :
    (document.linksAt slot).length =
      document.preorder.countP fun target => document.LinksTo slot target := by
  have live : ∀ target ∈ document.preorder.filter fun target => document.LinksTo slot target,
      document.Live target :=
    fun target member => owned.mem_preorder.mp (List.mem_filter.mp member).1
  have perm : ((document.linksAt slot).map Link.id).Perm
      (document.idsOf (document.preorder.filter fun target => document.LinksTo slot target)) := by
    rw [List.perm_ext_iff_of_nodup (nodup.sublist referred)
      (distinct.idsOf_nodup (owned.preorder_nodup.filter _))]
    intro id
    rw [mem_idsOf]
    constructor
    · intro member
      obtain ⟨target, isHeld⟩ := held id (referred.subset member)
      obtain ⟨link, isLink, rfl⟩ := List.mem_map.mp member
      refine ⟨target, List.mem_filter.mpr ⟨?_, ?_⟩, isHeld⟩
      · exact owned.mem_preorder.mpr (live_of_holds isHeld)
      · exact decide_eq_true ⟨link, isLink, isHeld⟩
    · rintro ⟨target, member, isHeld⟩
      obtain ⟨link, isLink, linkHeld⟩ := of_decide_eq_true (List.mem_filter.mp member).2
      rw [holds_unique isHeld linkHeld]
      exact List.mem_map_of_mem isLink
  rw [List.countP_eq_length_filter, ← length_idsOf live, ← perm.length_eq, List.length_map]

end Document

namespace Search

open Document

/-- What a search node finds: a node whose identifier is among the references that the
search node should have. -/
def Finds (settings : SearchSettings) (scene : Scene) (slot target : Nat) : Prop :=
  ∃ node, scene.document.node? slot = some node ∧ settings.selects node = true ∧
    ∃ id ∈ expectedReferences settings scene node, scene.document.holds target id

instance (settings : SearchSettings) (scene : Scene) (slot target : Nat) :
    Decidable (Finds settings scene slot target) := by
  apply decidable_of_iff ((scene.document.node? slot).any fun node => settings.selects node &&
    (expectedReferences settings scene node).any (scene.document.holds target) = true)
  simp [Finds, Option.any_eq_true]

/-- What a search node finds and refers to it is a search node that finds it too. -/
def FindsBack (settings : SearchSettings) (scene : Scene) : Prop :=
  ∀ slot target, Finds settings scene slot target → scene.document.RefersTo target slot →
    Finds settings scene target slot

/-- The links of search nodes lead to what they find, and what a search node finds is
linked with it, in one of the directions that are possible. -/
structure Oriented (settings : SearchSettings) (scene : Scene) (document : Document) : Prop where
  bare_eq : document.bare = scene.document.bare
  untangled : document.Untangled
  finds : ∀ slot ∈ settings.slots scene.document, ∀ target, document.LinksTo slot target →
    Finds settings scene slot target
  linked : ∀ slot target, Finds settings scene slot target → target ≠ slot →
    target ∉ scene.document.ancestors slot →
    document.LinksTo slot target ∨ Finds settings scene target slot ∧ document.LinksTo target slot

def linkPairs (slots : List Nat) (document : Document) : List (Nat × Nat) :=
  (slots ×ˢ document.preorder).filter fun pair => document.LinksTo pair.1 pair.2

theorem length_linkPairs (slots : List Nat) (document : Document) :
    (linkPairs slots document).length = (slots.map fun slot =>
      document.preorder.countP fun target => document.LinksTo slot target).sum := by
  unfold linkPairs
  rw [← List.countP_eq_length_filter]
  induction slots with
  | nil => rfl
  | cons slot rest inductionHypothesis =>
      rw [List.product_cons, List.countP_append, inductionHypothesis, List.countP_map,
        List.map_cons, List.sum_cons]
      rfl

variable {settings : SearchSettings} {scene : Scene} {document left right : Document}
  {slot target : Nat} {node : Node}

theorem Finds.mem_slots (finds : Finds settings scene slot target) (owned : scene.document.Owned) :
    slot ∈ settings.slots scene.document := by
  obtain ⟨node, found, isSearch, -⟩ := finds
  exact (Search.mem_slots owned found).mpr isSearch

theorem Finds.target_live (finds : Finds settings scene slot target) :
    scene.document.Live target := by
  obtain ⟨-, -, -, id, -, isHeld⟩ := finds
  exact live_of_holds isHeld

/-- A pair of linked slots, in the direction in which a document links them. -/
def turned (document : Document) (pair : Nat × Nat) : Nat × Nat :=
  if document.LinksTo pair.1 pair.2 then pair else pair.swap

theorem mem_linkPairs {slots : List Nat} {pair : Nat × Nat} (same : document.bare = right.bare) :
    pair ∈ linkPairs slots document ↔
      pair.1 ∈ slots ∧ pair.2 ∈ right.preorder ∧ document.LinksTo pair.1 pair.2 := by
  unfold linkPairs
  rw [List.mem_filter, List.mem_product, preorder_of_bare_eq same, decide_eq_true_iff, and_assoc]

/-- Of two pairs of which one is the other turned around, a document without links in both
directions has one at most. -/
theorem turned_inj {pair other : Nat × Nat} (untangled : left.Untangled)
    (isLink : left.LinksTo pair.1 pair.2) (otherIsLink : left.LinksTo other.1 other.2)
    (same : turned right pair = turned right other) : pair = other := by
  have notSwapped : pair ≠ other.swap := by
    rintro rfl
    exact untangled.one_way _ _ isLink otherIsLink
  unfold turned at same
  by_cases stays : right.LinksTo pair.1 pair.2 <;>
    by_cases otherStays : right.LinksTo other.1 other.2
  · rwa [if_pos stays, if_pos otherStays] at same
  · rw [if_pos stays, if_neg otherStays] at same
    exact absurd same notSwapped
  · rw [if_neg stays, if_pos otherStays] at same
    exact absurd (Prod.swap_swap pair ▸ congrArg Prod.swap same) notSwapped
  · rw [if_neg stays, if_neg otherStays] at same
    exact Prod.swap_injective same

/-- Of two documents in which search nodes are linked with what they find, one has no
fewer links than the other: a link that it lacks it has the other way round. -/
theorem Oriented.length_le (leftOriented : Oriented settings scene left)
    (rightOriented : Oriented settings scene right) (owned : scene.document.Owned) :
    let slots := settings.slots scene.document
    (linkPairs slots left).length ≤ (linkPairs slots right).length := by
  intro slots
  have pairsNodup : (linkPairs slots left).Nodup := by
    apply List.Nodup.filter
    apply (owned.preorder_nodup.filter _).product
    rw [preorder_of_bare_eq leftOriented.bare_eq]
    exact owned.preorder_nodup
  have turnedNodup : ((linkPairs slots left).map (turned right)).Nodup := by
    apply pairsNodup.map_on
    intro pair member other otherMember
    exact turned_inj leftOriented.untangled ((mem_linkPairs leftOriented.bare_eq).mp member).2.2
      ((mem_linkPairs leftOriented.bare_eq).mp otherMember).2.2
  have subset : (linkPairs slots left).map (turned right) ⊆ linkPairs slots right := by
    intro pair member
    obtain ⟨⟨slot, target⟩, isPair, rfl⟩ := List.mem_map.mp member
    obtain ⟨isSlot, isTarget, isLink⟩ := (mem_linkPairs leftOriented.bare_eq).mp isPair
    obtain ⟨different, notAbove⟩ := leftOriented.untangled.not_upward slot target isLink
    rw [ancestors_of_bare_eq leftOriented.bare_eq] at notAbove
    have finds := leftOriented.finds slot isSlot target isLink
    unfold turned
    by_cases stays : right.LinksTo slot target
    · rw [if_pos stays, mem_linkPairs rightOriented.bare_eq]
      exact ⟨isSlot, isTarget, stays⟩
    · obtain ⟨findsBack, linksBack⟩ :=
        (rightOriented.linked slot target finds different notAbove).resolve_left stays
      rw [if_neg stays, mem_linkPairs rightOriented.bare_eq]
      exact ⟨findsBack.mem_slots owned, owned.mem_preorder.mpr findsBack.target_live, linksBack⟩
  rw [← List.length_map (turned right)]
  exact (turnedNodup.subperm subset).length_le

/-! ## Links while a refresh runs -/

/-- The search nodes in `first` are populated and counted, and what they find is linked
with them: a search node that is not populated yet may be to blame for a link that is not
made, and then will link back. -/
structure Tallied (settings : SearchSettings) (scene : Scene) (first : List Nat)
    (state : Refreshing) : Prop where
  bare_eq : state.document.bare = scene.document.bare
  untangled : state.document.Untangled
  linksReferred : state.document.LinksReferred
  refersTo : ∀ slot target, state.document.RefersTo slot target ↔
    if slot ∈ first then Finds settings scene slot target
    else scene.document.RefersTo slot target
  linked : ∀ slot ∈ first, ∀ target, Finds settings scene slot target → target ≠ slot →
    target ∉ scene.document.ancestors slot → state.document.LinksTo slot target ∨
      Finds settings scene target slot ∧ slot ∉ scene.document.ancestors target ∧
        (target ∈ first → state.document.LinksTo target slot)
  linkCount : state.summary.linkCount =
    (first.map fun slot => (state.document.linksAt slot).length).sum

variable {first rest : List Nat} {other : Nat} {before after : Refreshing} {zone : Zone}
  {now : Instant}

/-- If a node that is found refers back, it finds back: an old reference by hypothesis, a new
one because it was found. -/
theorem Tallied.findsBack (tallied : Tallied settings scene first before)
    (findsBack : FindsBack settings scene) (finds : Finds settings scene slot target)
    (refersBack : before.document.RefersTo target slot) : Finds settings scene target slot := by
  rw [tallied.refersTo] at refersBack
  split at refersBack
  · exact refersBack
  · exact findsBack slot target finds refersBack

/-- A search node does not come before those above it. -/
theorem not_above_earlier (owned : document.Owned)
    (split : settings.slots document = first ++ slot :: rest) (isFirst : other ∈ first) :
    other ≠ slot ∧ slot ∉ document.ancestors other := by
  have precedes : document.Precedes other slot := by
    have inSlots : [other, slot].Sublist (settings.slots document) := by
      rw [split]
      exact (List.singleton_sublist.mpr isFirst).append
        (List.singleton_sublist.mpr List.mem_cons_self)
    exact inSlots.trans List.filter_sublist
  have notBack := precedes_asymm owned.preorder_nodup precedes
  constructor
  · rintro rfl
    exact notBack precedes
  · intro isAbove
    apply notBack
    apply owned.precedes_of_mem_ancestors _ isAbove
    exact owned.mem_preorder.mp (precedes.subset List.mem_cons_self)

theorem linksTo_of_linksAt_eq (same : right.bare = left.bare)
    (links : right.linksAt slot = left.linksAt slot) (isLink : left.LinksTo slot target) :
    right.LinksTo slot target := by
  obtain ⟨link, isLink, isHeld⟩ := isLink
  rw [← links] at isLink
  rw [← holds_of_bare_eq same] at isHeld
  exact ⟨link, isLink, isHeld⟩

theorem finds_iff (found : scene.document.node? slot = some node)
    (isSearch : settings.selects node = true) : Finds settings scene slot target ↔
      ∃ id ∈ expectedReferences settings scene node, scene.document.holds target id := by
  constructor
  · rintro ⟨other, otherFound, -, referred⟩
    rw [found] at otherFound
    obtain rfl := Option.some.inj otherFound
    exact referred
  · exact fun referred => ⟨node, found, isSearch, referred⟩

/-- After a step, the node that it populates refers to what it finds, and the others refer
to what they did. -/
theorem refersTo_of_refreshed (refreshed : Refreshed settings scene before slot node after)
    (tallied : Tallied settings scene first before)
    (found : scene.document.node? slot = some node) (isSearch : settings.selects node = true)
    (source target : Nat) : after.document.RefersTo source target ↔
      if source ∈ first ++ [slot] then Finds settings scene source target
      else scene.document.RefersTo source target := by
  have refersTo : after.document.RefersTo source target ↔
      ∃ id ∈ after.document.referencesAt source, before.document.holds target id := by
    unfold RefersTo
    simp only [holds_of_bare_eq refreshed.bare_eq]
  rw [refersTo, refreshed.referencesAt]
  by_cases isSlot : source = slot
  · subst isSlot
    rw [if_pos rfl, if_pos (List.mem_append_right first List.mem_cons_self),
      finds_iff found isSearch]
    simp only [holds_of_bare_eq tallied.bare_eq]
  · rw [if_neg isSlot]
    simp only [List.mem_append, List.mem_singleton, isSlot, or_false]
    exact tallied.refersTo source target

/-- A step links the node that it populates, or that node is linked already; where an
earlier step was kept from making a link, this one makes it the other way round. -/
theorem Tallied.linked_next (tallied : Tallied settings scene first before)
    (findsBack : FindsBack settings scene)
    (repopulated : Repopulated before.document slot after.document)
    (same : after.document.bare = before.document.bare)
    (refersTo : ∀ target, Finds settings scene slot target →
      after.document.RefersTo slot target)
    (kept : ∀ other ∈ first, after.document.linksAt other = before.document.linksAt other)
    (source : Nat) (member : source ∈ first ++ [slot]) (target : Nat)
    (finds : Finds settings scene source target) (different : target ≠ source)
    (notAbove : target ∉ scene.document.ancestors source) :
    after.document.LinksTo source target ∨
      Finds settings scene target source ∧ source ∉ scene.document.ancestors target ∧
        (target ∈ first ++ [slot] → after.document.LinksTo target source) := by
  have isFirst : ∀ {other : Nat}, other ∈ first ++ [slot] → other ≠ slot → other ∈ first :=
    fun member notSlot => (List.mem_append.mp member).resolve_right fun single =>
      notSlot (List.mem_singleton.mp single)
  have stays : ∀ {other goal : Nat}, other ∈ first → before.document.LinksTo other goal →
      after.document.LinksTo other goal :=
    fun isFirst isLink => linksTo_of_linksAt_eq same (kept _ isFirst) isLink
  have isMade : ∀ {goal : Nat}, Finds settings scene slot goal → goal ≠ slot →
      goal ∉ scene.document.ancestors slot → ¬ before.document.LinksTo goal slot →
      after.document.LinksTo slot goal := by
    intro goal finds different notAbove notBack
    rw [← ancestors_of_bare_eq tallied.bare_eq] at notAbove
    exact (repopulated.linksTo_self goal).mpr ⟨refersTo goal finds, different, notAbove, notBack⟩
  by_cases fromSlot : source = slot
  · subst fromSlot
    by_cases back : before.document.LinksTo target source
    · right
      refine ⟨tallied.findsBack findsBack finds (tallied.linksReferred.refersTo back), ?_, ?_⟩
      · rw [← ancestors_of_bare_eq tallied.bare_eq]
        exact (tallied.untangled.not_upward target source back).2
      · exact fun member => stays (isFirst member different) back
    · exact .inl (isMade finds different notAbove back)
  · have sourceFirst := isFirst member fromSlot
    rcases tallied.linked source sourceFirst target finds different notAbove with
      isLink | ⟨findsSource, notBelow, linksBack⟩
    · exact .inl (stays sourceFirst isLink)
    · by_cases toSlot : target = slot
      · subst toSlot
        by_cases isLink : before.document.LinksTo source target
        · exact .inl (stays sourceFirst isLink)
        · exact .inr ⟨findsSource, notBelow,
            fun _ => isMade findsSource different.symm notBelow isLink⟩
      · right
        refine ⟨findsSource, notBelow, fun member => ?_⟩
        have targetFirst := isFirst member toSlot
        exact stays targetFirst (linksBack targetFirst)

/-- A step of a refresh populates and counts the next search node. -/
theorem tallied_refreshNode (owned : document.Owned) (distinct : document.DistinctIds)
    (findsBack : FindsBack settings (Scene.ofNow document zone now))
    (split : settings.slots document = first ++ slot :: rest)
    (tallied : Tallied settings (Scene.ofNow document zone now) first before) :
    Tallied settings (Scene.ofNow document zone now) (first ++ [slot])
      (Refreshing.refreshNode settings zone now before slot) := by
  have same : before.document.bare = document.bare := tallied.bare_eq
  have isSlot : slot ∈ settings.slots document := by
    rw [split]
    exact List.mem_append_right first List.mem_cons_self
  obtain ⟨node, found⟩ := live_of_mem_slots owned isSlot
  have isSearch : settings.selects node = true := (mem_slots owned found).mp isSlot
  obtain ⟨current, isCurrent, -⟩ := exists_node?_of_bare_eq same found
  have step := refreshed_refreshNode settings owned distinct zone now same found isSearch
  obtain ⟨ids, count, populated, linkCount⟩ :=
    exists_populate_refreshNode settings zone now before isCurrent
  generalize Refreshing.refreshNode settings zone now before slot = after at *
  have nowOwned := owned.of_bare_eq same
  have nowDistinct := distinct.of_bare_eq same
  have repopulated := nowOwned.repopulated nowDistinct populated
  obtain ⟨-, -, -, isCount⟩ := nowOwned.populate_eq_foldl nowDistinct populated
  have sameAfter : after.document.bare = document.bare := step.bare_eq.trans same
  have kept : ∀ other ∈ first, after.document.linksAt other = before.document.linksAt other := by
    intro other isFirst
    obtain ⟨different, notAbove⟩ := not_above_earlier owned split isFirst
    apply repopulated.linksAt_other other different
    rw [ancestors_of_bare_eq same]
    exact notAbove
  have refersTo := refersTo_of_refreshed step tallied found isSearch
  constructor
  · exact sameAfter
  · exact LinkStep.untangled (.populated populated) nowOwned nowDistinct tallied.untangled
  · exact nowOwned.linksReferred_populate populated tallied.linksReferred
  · exact refersTo
  · apply tallied.linked_next findsBack repopulated step.bare_eq _ kept
    intro target finds
    rw [refersTo, if_pos (List.mem_append_right first List.mem_cons_self)]
    exact finds
  · rw [linkCount, tallied.linkCount, isCount, List.map_append, List.sum_append, List.map_singleton,
      List.sum_singleton]
    congr 2
    apply List.map_congr_left
    intro other isFirst
    rw [kept other isFirst]

/-- The tally is kept search node by search node. -/
theorem tallied_foldl (owned : document.Owned) (distinct : document.DistinctIds)
    (untangled : document.Untangled) (referred : document.LinksReferred)
    (findsBack : FindsBack settings (Scene.ofNow document zone now))
    (split : settings.slots document = first ++ rest) :
    Tallied settings (Scene.ofNow document zone now) first
      (first.foldl (Refreshing.refreshNode settings zone now) ⟨document, ⟨0, 0, []⟩⟩) := by
  induction first using List.reverseRecOn generalizing rest with
  | nil => exact ⟨rfl, untangled, referred, fun _ _ => by rw [if_neg List.not_mem_nil]; rfl,
      nofun, rfl⟩
  | append_singleton first slot inductionHypothesis =>
      rw [List.append_assoc, List.singleton_append] at split
      rw [List.foldl_append, List.foldl_cons, List.foldl_nil]
      exact tallied_refreshNode owned distinct findsBack split (inductionHypothesis split)

/-- When all search nodes are populated, they are linked with what they find. -/
theorem Tallied.oriented
    (tallied : Tallied settings scene (settings.slots scene.document) before)
    (owned : scene.document.Owned) : Oriented settings scene before.document where
  bare_eq := tallied.bare_eq
  untangled := tallied.untangled
  finds slot isSlot target isLink := by
    have refersTo := tallied.linksReferred.refersTo isLink
    rw [tallied.refersTo, if_pos isSlot] at refersTo
    exact refersTo
  linked slot target finds different notAbove := by
    apply (tallied.linked slot (finds.mem_slots owned) target finds different notAbove).imp_right
    rintro ⟨findsSlot, -, linksBack⟩
    exact ⟨findsSlot, linksBack (findsSlot.mem_slots owned)⟩

/-- After the full resolution at the end, search nodes are linked with what they find as
well. -/
theorem Tallied.oriented_relink
    (tallied : Tallied settings scene (settings.slots scene.document) before)
    (owned : scene.document.Owned) (distinct : scene.document.DistinctIds)
    (findsBack : FindsBack settings scene) :
    Oriented settings scene before.document.relink.2 := by
  have nowOwned := owned.of_bare_eq tallied.bare_eq
  have nowDistinct := distinct.of_bare_eq tallied.bare_eq
  have same := bare_relink before.document
  have refersTo : ∀ slot target, before.document.relink.2.RefersTo slot target ↔
      before.document.RefersTo slot target := by
    intro slot target
    unfold RefersTo
    simp only [nowOwned.referencesAt_relink nowDistinct, holds_of_bare_eq same]
  have linksTo : ∀ slot target, before.document.relink.2.LinksTo slot target ↔
      before.document.RefersTo slot target ∧ before.document.relink.2.Linkable slot target := by
    intro slot target
    rw [← refersTo]
    exact (nowOwned.resolved_relink nowDistinct).linksTo_iff (nowDistinct.of_bare_eq same)
  have findsTarget : ∀ {slot target : Nat}, slot ∈ settings.slots scene.document →
      (before.document.RefersTo slot target ↔ Finds settings scene slot target) := by
    intro slot target isSlot
    rw [tallied.refersTo, if_pos isSlot]
  constructor
  · exact same.trans tallied.bare_eq
  · exact LinkStep.untangled .relinked nowOwned nowDistinct tallied.untangled
  · intro slot isSlot target isLink
    exact (findsTarget isSlot).mp ((linksTo slot target).mp isLink).1
  · intro slot target finds different notAbove
    have ancestors := ancestors_of_bare_eq (same.trans tallied.bare_eq)
    have isReference := (findsTarget (finds.mem_slots owned)).mpr finds
    by_cases back : before.document.relink.2.Precedes target slot ∧
        before.document.relink.2.RefersTo target slot
    · have refersBack := (refersTo target slot).mp back.2
      have notBack := precedes_asymm (nowOwned.of_bare_eq same).preorder_nodup back.1
      refine .inr ⟨tallied.findsBack findsBack finds refersBack, ?_⟩
      refine (linksTo target slot).mpr ⟨refersBack, different.symm, ?_, fun both => notBack both.1⟩
      intro isAbove
      apply notBack
      apply (nowOwned.of_bare_eq same).precedes_of_mem_ancestors _ isAbove
      rw [live_of_bare_eq (same.trans tallied.bare_eq)]
      exact finds.target_live
    · left
      refine (linksTo slot target).mpr ⟨isReference, different, ?_, back⟩
      rw [ancestors]
      exact notAbove

/-! ## Numbers of links -/

theorem expectedReferences_nodup (owned : document.Owned) (distinct : document.DistinctIds) :
    (expectedReferences settings (Scene.ofNow document zone now) node).Nodup := by
  unfold expectedReferences
  split
  · exact List.nodup_nil
  · split
    · exact List.nodup_nil
    · split
      · exact (distinct.idsOf_nodup (owned.preorder_nodup.filter _)).filter _
      · exact List.nodup_nil

theorem exists_holds_of_expected {id : NodeId}
    (member : id ∈ expectedReferences settings scene node) :
    ∃ target, scene.document.holds target id := by
  unfold expectedReferences at member
  split at member
  · cases member
  · split at member
    · cases member
    · split at member
      · obtain ⟨target, -, isHeld⟩ := mem_idsOf.mp (List.mem_filter.mp member).1
        exact ⟨target, isHeld⟩
      · cases member

/-- Where search nodes refer to what their queries find, their links are as many as the
pairs of slots that are linked. -/
theorem sum_length_linksAt (zone : Zone) (now : Instant) (owned : document.Owned)
    (distinct : document.DistinctIds) (same : right.bare = document.bare)
    (referred : right.LinksReferred)
    (references : ∀ slot ∈ settings.slots document, ∀ node, document.node? slot = some node →
      right.referencesAt slot = expectedReferences settings (Scene.ofNow document zone now) node) :
    ((settings.slots document).map fun slot => (right.linksAt slot).length).sum =
      (linkPairs (settings.slots document) right).length := by
  rw [length_linkPairs]
  congr 1
  apply List.map_congr_left
  intro slot isSlot
  obtain ⟨node, found⟩ := live_of_mem_slots owned isSlot
  have expected := references slot isSlot node found
  apply (owned.of_bare_eq same).length_linksAt (distinct.of_bare_eq same) (referred slot)
  · rw [expected]
    exact expectedReferences_nodup owned distinct
  · intro id member
    rw [expected] at member
    obtain ⟨target, isHeld⟩ := exists_holds_of_expected member
    exact ⟨target, (holds_of_bare_eq same target id).trans isHeld⟩

theorem total_eq_sum_slots (owned : document.Owned) (same : right.bare = document.bare) :
    right.total (fun node => if settings.selects node then node.links.length else 0) =
      ((settings.slots document).map fun slot => (right.linksAt slot).length).sum := by
  have split := List.sum_map_ite (fun slot => (document.node? slot).any settings.selects = true)
    (fun slot => (right.linksAt slot).length) (fun _ => 0) document.preorder
  rw [List.map_const', List.sum_replicate, nsmul_zero, Nat.add_zero] at split
  rw [(owned.of_bare_eq same).total_eq, preorder_of_bare_eq same]
  refine Eq.trans ?_ (split.trans ?_)
  · congr 1
    apply List.map_congr_left
    intro slot listed
    obtain ⟨node, found⟩ := owned.mem_preorder.mp listed
    obtain ⟨current, isCurrent, sameNode⟩ := exists_node?_of_bare_eq same found
    rw [isCurrent, found, linksAt_of_node? isCurrent, Option.any_some,
      ← selects_of_bare_eq sameNode]
    rfl
  · simp only [SearchSettings.slots, Bool.decide_eq_true]

end Search

open Document Search

/-- A refresh reports as many links as it leaves with search nodes, if what a search node
finds and refers to it always is a search node that finds it too. -/
theorem ReachableWhile.refresh_count_exact {document : Document}
    (reached : ReachableWhile DistinctIds document) (settings : SearchSettings) (zone : Zone)
    (now : Instant) (findsBack : FindsBack settings (Scene.ofNow document zone now)) :
    let after := Search.refresh settings zone now document
    after.1.linkCount =
      after.2.total fun node => if settings.selects node then node.links.length else 0 := by
  intro after
  have owned := reached.owned
  have distinct := reached.isGood
  obtain ⟨same, references, -⟩ :=
    refreshed_foldl settings owned distinct zone now fun _ member => member
  have tallied := tallied_foldl owned distinct reached.untangled reached.linksReferred findsBack
    (List.append_nil _).symm
  have sameAfter : after.2.bare = document.bare := bare_refresh settings zone now document
  have oriented := tallied.oriented owned
  have orientedAfter : Oriented settings (Scene.ofNow document zone now) after.2 :=
    tallied.oriented_relink owned distinct findsBack
  have counted := sum_length_linksAt zone now owned distinct same tallied.linksReferred
    fun slot isSlot node found => (references slot node found).trans (if_pos isSlot)
  have countedAfter := sum_length_linksAt zone now owned distinct sameAfter
    (linksReferred_relink _)
    fun slot isSlot node found => by
      refine (referencesAt_refresh settings zone now owned distinct found).trans (if_pos ?_)
      exact (mem_slots owned found).mp isSlot
  calc after.1.linkCount
      = (linkPairs (settings.slots document) _).length := tallied.linkCount.trans counted
    _ = (linkPairs (settings.slots document) after.2).length :=
        Nat.le_antisymm (oriented.length_le orientedAfter owned)
          (orientedAfter.length_le oriented owned)
    _ = _ := countedAfter.symm.trans (total_eq_sum_slots owned sameAfter).symm

/-- Two search nodes find each other, and the second has had a link to the first since
before. The refresh counts that link; the one that it leaves leads the other way. -/
theorem refresh_count_exact_turned :
    let document := Operation.run
      [.addSearchNode .standard (.ofNat 1) .last none "alpha" "beta",
        .addSearchNode .standard (.ofNat 2) .last none "beta" "alpha", .populate 1 [.ofNat 1]]
    let after := Search.refresh .standard .universal .last document
    ReachableWhile DistinctIds document ∧
      FindsBack .standard (Scene.ofNow document .universal .last) ∧
      document.linksAt 1 = [⟨0, .ofNat 1⟩] ∧ after.2.linksAt 1 = [] ∧
      after.2.linksAt 0 = [⟨1, .ofNat 2⟩] ∧ after.1.linkCount = 1 ∧
      after.1.linkCount = after.2.total fun node =>
        if SearchSettings.standard.selects node then node.links.length else 0 := by
  intro document after
  have reached : ReachableWhile DistinctIds document := by
    apply ReachableWhile.run
    intro first isFirst
    apply distinctIds_of_nodup
    revert first
    decide +kernel
  have small : ∀ slot < 2, ∀ target < 2,
      Finds .standard (Scene.ofNow document .universal .last) slot target →
      document.RefersTo target slot →
      Finds .standard (Scene.ofNow document .universal .last) target slot := by
    decide +kernel
  have findsBack : FindsBack .standard (Scene.ofNow document .universal .last) := by
    intro slot target finds
    have slotLive : document.Live slot :=
      live_of_mem_slots reached.owned (finds.mem_slots reached.owned)
    exact small slot (Nat.lt_of_lt_of_le slotLive.lt_reach (by decide +kernel)) target
      (Nat.lt_of_lt_of_le finds.target_live.lt_reach (by decide +kernel)) finds
  exact ⟨reached, findsBack, by decide +kernel, by decide +kernel, by decide +kernel,
    by decide +kernel, ReachableWhile.refresh_count_exact reached _ _ _ findsBack⟩

/-- Where a node that a search node finds still has a link back to it, the report can fall
short: the second search node found the first once, and neither its query nor its links are
looked at when the first, which now finds it, is counted. -/
theorem refresh_count_short :
    let document := Operation.run
      [.addSearchNode .standard (.ofNat 1) .last none "alpha" "nothing",
        .addSearchNode .standard (.ofNat 2) .last none "beta" "alpha",
        .refresh .standard .universal .last,
        .setAttribute .last 0 "query" "beta", .setAttribute .last 1 "query" "nothing"]
    let after := Search.refresh .standard .universal .last document
    Reachable document ∧ document.DistinctIds ∧ after.1.linkCount = 0 ∧
      (after.2.total fun node =>
        if SearchSettings.standard.selects node then node.links.length else 0) = 1 := by
  intro document after
  exact ⟨.run fun _ _ => trivial, distinctIds_of_nodup (by decide +kernel), by decide +kernel,
    by decide +kernel⟩

end Outliner
