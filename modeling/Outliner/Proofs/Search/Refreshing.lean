import Outliner.Proofs.History
import Outliner.Proofs.Links.Visit
import Outliner.Proofs.Query.Reading
import Outliner.Proofs.Search.Matching

/-!
Contract: a refresh gives every search node what its query finds.

Owns: the references that a search node should have, what one step of a refresh does,
and what the whole refresh does to references and reports.

Each step rewrites references and links of the document that the next query is
evaluated in. Queries do not read them, so every query finds what it would have found
at the start.

Main statements: `refreshed_refreshNode`, `refreshed_foldl`, and the whole refresh of a
reachable document.

Does not own: the links after a refresh (`Proofs.Links.Relink`).
-/

namespace Outliner

open Outliner.Calendar Outliner.Query Outliner.Store

namespace Document

variable {document : Document}

theorem DistinctIds.idsOf_nodup (distinct : document.DistinctIds) {slots : List Nat}
    (nodup : slots.Nodup) : (document.idsOf slots).Nodup := by
  apply nodup.filterMap
  intro left right id leftId rightId
  apply distinct left right id
  · exact holds_iff.mpr (Option.map_eq_some_iff.mp leftId)
  · exact holds_iff.mpr (Option.map_eq_some_iff.mp rightId)

end Document

namespace Search

open Document

/-- A node is a search node: its attributes give it the type of search nodes. -/
def IsSearchNode (settings : SearchSettings) (node : Node) : Prop :=
  node.attribute? settings.typeAttribute = some settings.searchType

instance (settings : SearchSettings) (node : Node) : Decidable (IsSearchNode settings node) :=
  inferInstanceAs (Decidable (_ = _))

/-- The references that a search node should have: the identifiers of the nodes that match the
query in its attributes, in pre-order and without its own. There are none without a query, and
for white space or a text that is no query. -/
def expectedReferences (settings : SearchSettings) (scene : Scene) (node : Node) : List NodeId :=
  match node.attribute? settings.queryAttribute with
  | none => []
  | some query =>
    if query.toList.all Text.isBlank then []
    else match Expr.parse query with
      | .ok expr => (scene.document.idsOf (matchingSlots scene expr)).filter (· ≠ node.id)
      | .error _ => []

/-- The failure that a search node is reported with, if the query in its attributes cannot be
read. -/
def queryFailure? (settings : SearchSettings) (node : Node) : Option (NodeId × Failure) :=
  match (node.attribute? settings.queryAttribute).map Expr.parse with
  | some (.error error) => some (node.id, .query error)
  | _ => none

/-- What one step of a refresh does to the references and the summary. -/
structure Refreshed (settings : SearchSettings) (scene : Scene) (before : Refreshing) (slot : Nat)
    (node : Node) (after : Refreshing) : Prop where
  bare_eq : after.document.bare = before.document.bare
  referencesAt : ∀ other, after.document.referencesAt other =
    if other = slot then expectedReferences settings scene node
    else before.document.referencesAt other
  refreshed : after.summary.refreshed = before.summary.refreshed + 1
  failures : after.summary.failures =
    before.summary.failures ++ (queryFailure? settings node).toList

variable {settings : SearchSettings} {scene : Scene} {document : Document} {slot : Nat}
  {node : Node}

/-- The filter of the refresh is the condition on a search node. -/
theorem selects_iff : settings.selects node = true ↔ IsSearchNode settings node :=
  beq_iff_eq

/-- The query of a search node is the value of its query attribute. -/
theorem query?_of_selects (isSearch : settings.selects node = true) :
    settings.query? node = node.attribute? settings.queryAttribute :=
  if_pos isSearch

/-- The refresh visits exactly the live search nodes. -/
theorem mem_slots (owned : document.Owned) (found : document.node? slot = some node) :
    slot ∈ settings.slots document ↔ settings.selects node = true := by
  unfold SearchSettings.slots
  rw [List.mem_filter, found, Option.any_some, and_iff_right_iff_imp]
  exact fun _ => owned.mem_preorder.mpr ⟨node, found⟩

theorem live_of_mem_slots (owned : document.Owned) (member : slot ∈ settings.slots document) :
    document.Live slot :=
  owned.mem_preorder.mp (List.mem_filter.mp member).1

/-- Populating a node from a list without repetition gives it the list without its own
identifier. -/
theorem populate_spec (state : Refreshing) (owned : state.document.Owned)
    (distinct : state.document.DistinctIds) (found : state.document.node? slot = some node)
    {ids : List NodeId} (nodup : ids.Nodup) :
    let after := state.populate slot node.id ids
    after.document.bare = state.document.bare ∧
    (∀ other, after.document.referencesAt other =
      if other = slot then ids.filter (· ≠ node.id) else state.document.referencesAt other) ∧
    after.summary.refreshed = state.summary.refreshed + 1 ∧
    after.summary.failures = state.summary.failures := by
  intro after
  obtain ⟨count, populated, isPopulated⟩ := exists_populate found ids
  have equal : after = ⟨populated, { state.summary with
      refreshed := state.summary.refreshed + 1,
      linkCount := state.summary.linkCount + count }⟩ := by
    show state.populate slot node.id ids = _
    rw [Refreshing.populate, isPopulated]
  rw [equal]
  refine ⟨bare_populate isPopulated, ?_, rfl, rfl⟩
  intro other
  have references := owned.referencesAt_populate distinct found isPopulated other
  rw [firstOccurrences_of_nodup (nodup.filter _)] at references
  exact references

/-- What a query finds, by its expression: nothing if it is blank, else every matching slot. -/
theorem queryMatches_eq (scene : Scene) (query : String) :
    queryMatches scene query = (Expr.parse query).map fun expr =>
      if expr.isBlank then [] else scene.document.idsOf (matchingSlots scene expr) := by
  unfold queryMatches CompiledQuery.ofText
  simp only [map_id_matchingNodes]
  cases Expr.parse query <;> rfl

/-- Where the query is valid, the references are its matches without the node itself. -/
theorem expected_of_ok {ids : List NodeId}
    (matched : queryMatches scene ((node.attribute? settings.queryAttribute).getD "") = .ok ids) :
    ids.filter (· ≠ node.id) = expectedReferences settings scene node ∧
      queryFailure? settings node = none := by
  rw [queryMatches_eq] at matched
  obtain ⟨expr, parsed, rfl⟩ := exists_of_map_eq_ok matched
  unfold expectedReferences queryFailure?
  cases isQuery : node.attribute? settings.queryAttribute with
  | none =>
      rw [isQuery] at parsed
      have blank : expr.isBlank = true := (isBlank_of_parse parsed).mpr nofun
      rw [if_pos blank]
      exact ⟨rfl, rfl⟩
  | some query =>
      rw [isQuery] at parsed
      dsimp only [Option.getD_some] at parsed
      simp only [Option.map_some, parsed, and_true]
      have blank := isBlank_of_parse parsed
      rw [← List.all_eq_true] at blank
      by_cases isBlank : expr.isBlank = true
      · rw [if_pos isBlank, if_pos (blank.mp isBlank)]
        rfl
      · rw [if_neg isBlank, if_neg fun allBlank => isBlank (blank.mpr allBlank)]

/-- Where the query is invalid, there are no references and one failure. -/
theorem expected_of_error {error : QueryError}
    (failed : queryMatches scene ((node.attribute? settings.queryAttribute).getD "") = .error error) :
    expectedReferences settings scene node = [] ∧
      queryFailure? settings node = some (node.id, .query error) := by
  rw [queryMatches_eq] at failed
  unfold expectedReferences queryFailure?
  cases isQuery : node.attribute? settings.queryAttribute with
  | none =>
      have parsed : Expr.parse "" = .ok (.all []) := parse_of_blank (by simp)
      rw [isQuery, Option.getD_none, parsed] at failed
      cases failed
  | some query =>
      rw [isQuery, Option.getD_some] at failed
      cases parsed : Expr.parse query with
      | ok expr =>
          rw [parsed] at failed
          cases failed
      | error fault =>
          rw [parsed] at failed
          obtain rfl := Except.error.inj failed
          simp [parsed]

theorem idsOf_matches_nodup (owned : document.Owned) (distinct : document.DistinctIds)
    {zone : Zone} {now : Instant} {query : String} {ids : List NodeId}
    (matched : queryMatches (Scene.ofNow document zone now) query = .ok ids) : ids.Nodup := by
  rw [queryMatches_eq] at matched
  obtain ⟨expr, -, rfl⟩ := exists_of_map_eq_ok matched
  split
  · exact List.nodup_nil
  · exact distinct.idsOf_nodup (owned.preorder_nodup.filter _)

/-- A step of a refresh does what `Refreshed` says, as the document was at the start:
what earlier steps wrote is not read. -/
theorem refreshed_refreshNode (settings : SearchSettings) (owned : document.Owned)
    (distinct : document.DistinctIds) (zone : Zone) (now : Instant) {state : Refreshing}
    (same : state.document.bare = document.bare)
    (found : document.node? slot = some node) (isSearch : settings.selects node = true) :
    Refreshed settings (Scene.ofNow document zone now) state slot node
      (Refreshing.refreshNode settings zone now state slot) := by
  obtain ⟨current, isCurrent, sameNode⟩ := exists_node?_of_bare_eq same found
  have sameId : current.id = node.id := congrArg (fun node => node.id) sameNode
  have isQuery : settings.query? current = node.attribute? settings.queryAttribute := by
    show settings.query? current.bare = _
    rw [sameNode]
    exact query?_of_selects isSearch
  have nowOwned := owned.of_bare_eq same
  have nowDistinct := distinct.of_bare_eq same
  unfold Refreshing.refreshNode
  rw [isCurrent]
  dsimp only
  rw [queryMatches_of_bare_eq same, isQuery]
  cases matched : queryMatches (Scene.ofNow document zone now)
      ((node.attribute? settings.queryAttribute).getD "") with
  | ok ids =>
      obtain ⟨expected, noFailure⟩ := expected_of_ok matched
      obtain ⟨bareEq, references, refreshed, failures⟩ := populate_spec state nowOwned nowDistinct
        isCurrent (idsOf_matches_nodup owned distinct matched)
      rw [← sameId] at expected
      rw [expected] at references
      refine ⟨bareEq, references, refreshed, ?_⟩
      rw [noFailure, Option.toList_none, List.append_nil]
      exact failures
  | error error =>
      obtain ⟨expected, failure⟩ := expected_of_error matched
      obtain ⟨bareEq, references, refreshed, failures⟩ :=
        populate_spec (state.fail current.id (.query error)) nowOwned nowDistinct isCurrent
          List.nodup_nil
      refine ⟨bareEq, ?_, refreshed, ?_⟩
      · rw [expected]
        exact references
      · rw [failure, Option.toList_some, ← sameId]
        exact failures

/-- A step of a refresh populates the node in its slot, whether its query can be read or
not, and adds its links to the count. -/
theorem exists_populate_refreshNode (settings : SearchSettings) (zone : Zone) (now : Instant)
    (state : Refreshing) (found : state.document.node? slot = some node) :
    ∃ ids count, state.document.populate slot ids =
        .ok (count, (Refreshing.refreshNode settings zone now state slot).document) ∧
      (Refreshing.refreshNode settings zone now state slot).summary.linkCount =
        state.summary.linkCount + count := by
  have populated : ∀ (start : Refreshing) (ids : List NodeId),
      start.document = state.document → start.summary.linkCount = state.summary.linkCount →
      ∃ count, state.document.populate slot ids =
          .ok (count, (start.populate slot node.id ids).document) ∧
        (start.populate slot node.id ids).summary.linkCount =
          state.summary.linkCount + count := by
    intro start ids sameDocument sameCount
    obtain ⟨count, after, isPopulated⟩ := exists_populate found ids
    refine ⟨count, ?_⟩
    unfold Refreshing.populate
    rw [sameDocument, isPopulated, ← sameCount]
    exact ⟨rfl, rfl⟩
  unfold Refreshing.refreshNode
  rw [found]
  dsimp only
  split
  · exact ⟨_, populated state _ rfl rfl⟩
  · exact ⟨_, populated (state.fail _ _) _ rfl rfl⟩

/-! ## The whole refresh -/

/-- Steps in a row give every search node at one of their slots what its query finds, and leave
the references of the others. -/
theorem refreshed_foldl (settings : SearchSettings) (owned : document.Owned)
    (distinct : document.DistinctIds) (zone : Zone) (now : Instant) {slots : List Nat}
    (searchNodes : ∀ slot ∈ slots, slot ∈ settings.slots document) :
    let after := slots.foldl (Refreshing.refreshNode settings zone now) ⟨document, ⟨0, 0, []⟩⟩
    after.document.bare = document.bare ∧
    (∀ slot node, document.node? slot = some node → after.document.referencesAt slot =
      if slot ∈ slots then expectedReferences settings (Scene.ofNow document zone now) node
      else node.references) ∧
    after.summary.refreshed = slots.length ∧
    after.summary.failures =
      (slots.filterMap document.node?).filterMap (queryFailure? settings) := by
  induction slots using List.reverseRecOn with
  | nil => exact ⟨rfl, fun slot node found => referencesAt_of_node? found, rfl, rfl⟩
  | append_singleton first slot inductionHypothesis =>
      obtain ⟨same, references, refreshed, failures⟩ := inductionHypothesis
        fun other isFirst => searchNodes other (List.mem_append_left [slot] isFirst)
      have isSlot := searchNodes slot (List.mem_append_right first List.mem_cons_self)
      obtain ⟨node, found⟩ := live_of_mem_slots owned isSlot
      have step := refreshed_refreshNode settings owned distinct zone now same found
        ((mem_slots owned found).mp isSlot)
      rw [List.foldl_append, List.foldl_cons, List.foldl_nil]
      refine ⟨step.bare_eq.trans same, ?_, ?_, ?_⟩
      · intro other otherNode otherFound
        rw [step.referencesAt]
        by_cases isLast : other = slot
        · subst isLast
          rw [found] at otherFound
          obtain rfl := Option.some.inj otherFound
          rw [if_pos rfl, if_pos (List.mem_append_right first List.mem_cons_self)]
        · rw [if_neg isLast, references other otherNode otherFound]
          simp only [List.mem_append, List.mem_singleton, isLast, or_false]
      · rw [step.refreshed, refreshed, List.length_append, List.length_singleton]
      · rw [step.failures, failures, List.filterMap_append, List.filterMap_append,
          List.filterMap_cons_some found, List.filterMap_nil]
        cases failure : queryFailure? settings node with
        | none => rw [List.filterMap_cons_none failure]; rfl
        | some entry => rw [List.filterMap_cons_some failure]; rfl

/-- As many search nodes are visited as the document has. -/
theorem length_slots (owned : document.Owned) : (settings.slots document).length =
    document.nodes.toList.countP fun entry => IsSearchNode settings entry.2 := by
  unfold SearchSettings.slots
  rw [← List.countP_eq_length_filter, ← owned.perm_preorder.countP_eq, List.countP_map]
  apply List.countP_congr
  rintro ⟨slot, node⟩ member
  have found : document.node? slot = some node := Arena.mem_toList.mp member
  rw [Function.comp_apply, found, Option.any_some, decide_eq_true_iff]
  exact selects_iff

/-- The nodes in the slots of the search nodes are the search nodes of the pre-order. -/
theorem filterMap_slots (settings : SearchSettings) (document : Document) :
    (settings.slots document).filterMap document.node? =
      (document.preorder.filterMap document.node?).filter fun node => IsSearchNode settings node := by
  unfold SearchSettings.slots
  rw [List.filter_filterMap, List.filterMap_filter]
  apply List.filterMap_congr
  intro slot _
  cases document.node? slot with
  | none => rfl
  | some node =>
      rw [Option.any_some, Option.filter_some]
      simp only [selects_iff, decide_eq_true_iff]

end Search

open Document Search

/-- A refresh of a reachable document with distinct identifiers gives every search node
the identifiers of the nodes that match its query, and leaves the references of the other
nodes. It counts the search nodes and reports those whose query cannot be read, in
pre-order. What a query finds is the same before, during and after the refresh. -/
theorem Reachable.refresh_spec {document : Document} (reached : Reachable document)
    (distinct : document.DistinctIds) (settings : SearchSettings) (zone : Zone) (now : Instant) :
    let scene := Scene.ofNow document zone now
    let start : Refreshing := ⟨document, ⟨0, 0, []⟩⟩
    let after := Search.refresh settings zone now document
    (∀ slot node, document.node? slot = some node →
      ∃ populated, after.2.node? slot = some populated ∧ populated.references =
        if IsSearchNode settings node then expectedReferences settings scene node
        else node.references) ∧
    after.1.refreshed = document.nodes.toList.countP (fun entry => IsSearchNode settings entry.2) ∧
    after.1.failures =
      ((document.preorder.filterMap document.node?).filter
        fun node => IsSearchNode settings node).filterMap (queryFailure? settings) ∧
    (∀ first rest, settings.slots document = first ++ rest → ∀ expr,
      matchingSlots (Scene.ofNow
        (first.foldl (Refreshing.refreshNode settings zone now) start).document zone now) expr =
        matchingSlots scene expr) ∧
    ∀ expr, matchingSlots (Scene.ofNow after.2 zone now) expr = matchingSlots scene expr := by
  intro scene start after
  have owned := reached.owned
  obtain ⟨same, references, refreshed, failures⟩ :=
    refreshed_foldl settings owned distinct zone now fun _ member => member
  refine ⟨?_, refreshed.trans (length_slots owned), ?_, ?_, ?_⟩
  · intro slot node found
    have whole := (linkWork_refresh settings zone now document).bare_eq
    obtain ⟨populated, isPopulated⟩ := (live_of_bare_eq whole).mpr ⟨node, found⟩
    refine ⟨populated, isPopulated, ?_⟩
    rw [← referencesAt_of_node? isPopulated]
    refine ((owned.of_bare_eq same).referencesAt_relink (distinct.of_bare_eq same) slot).trans ?_
    rw [references slot node found]
    simp only [mem_slots owned found, selects_iff]
    rfl
  · rw [← filterMap_slots]
    exact failures
  · intro first rest split expr
    have before := refreshed_foldl settings owned distinct zone now
      fun slot member => split ▸ List.mem_append_left rest member
    exact matchingSlots_of_bare_eq before.1 zone now expr
  · exact matchingSlots_of_bare_eq (linkWork_refresh settings zone now document).bare_eq zone now

/-- Two search nodes are refreshed. The first is among the nodes that its query matches, which do
not stand in the order of their slots; the text of the other is no query. -/
theorem refresh_spec_two :
    let document := Operation.run
      [.addRoot (.plain (.ofNat 1) "plan a trip" .last .last),
        .addSearchNode .standard (.ofNat 2) .last (some 0) "trips" "trip",
        .addSearchNode .standard (.ofNat 3) .last none "broken" "(trip",
        .addChild 2 (.plain (.ofNat 4) "Round TRIP" .last .last),
        .addChild 0 (.plain (.ofNat 5) "tripod" .last .last)]
    let after := Search.refresh .standard .universal .last document
    Reachable document ∧ document.DistinctIds ∧
      (∃ trips, after.2.node? 1 = some trips ∧
        trips.references = [.ofNat 1, .ofNat 5, .ofNat 4]) ∧
      (∃ broken, after.2.node? 2 = some broken ∧ broken.references = []) ∧
      after.1.refreshed = 2 ∧
      after.1.failures = [(.ofNat 3, .query ⟨0, .unclosedGroup⟩)] := by
  intro document after
  have reached : Reachable document := .run fun _ _ => trivial
  have distinct : document.DistinctIds := distinctIds_of_nodup (by decide +kernel)
  obtain ⟨each, refreshed, failures, -⟩ :=
    Reachable.refresh_spec reached distinct .standard .universal .last
  -- What the theorem says of a slot is evaluated there, and not what the refresh does.
  have expected : ∀ slot ids, (document.node? slot).map (fun node =>
      if IsSearchNode .standard node then
        expectedReferences .standard (Scene.ofNow document .universal .last) node
      else node.references) = some ids →
      ∃ populated, after.2.node? slot = some populated ∧ populated.references = ids := by
    intro slot ids isExpected
    obtain ⟨node, found, rfl⟩ := Option.map_eq_some_iff.mp isExpected
    exact each slot node found
  exact ⟨reached, distinct, expected 1 _ (by decide +kernel), expected 2 _ (by decide +kernel),
    refreshed.trans (by decide +kernel), failures.trans (by decide +kernel)⟩

end Outliner
