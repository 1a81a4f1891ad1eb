import Mathlib.Data.List.Induction
import Outliner.Proofs.Document.Bare

/-!
Contract: a resolution visits the slots of a tree one after another, in pre-order.

Owns: the visit of one slot, that the walk with its set of identifiers is the sequence
of these visits, and what one visit makes of the links of the node it is at.

Main statements: `relink_eq_foldl` and `populate_eq_foldl` give the two resolutions as
visits in a row; `Owned.visited` says which references a visit links, and
`Owned.foldl_visit` is the induction over visits.

Where identifiers are not distinct, leaving a node can take the identifier of an
ancestor off the way, so all of this is about documents with distinct identifiers.

Does not own: what a sequence of visits amounts to (`Proofs.Links.Relink`).
-/

namespace Outliner

open Outliner.Store

namespace Document

variable {document : Document} {slot : Nat} {node : Node} {id : NodeId} {slots : List Nat}

def referencesAt (document : Document) (slot : Nat) : List NodeId :=
  ((document.node? slot).map fun node => node.references).getD []

/-- The links of the node in a slot, whether their targets are still there or not. -/
def linksAt (document : Document) (slot : Nat) : List Link :=
  ((document.node? slot).map Node.links).getD []

/-- A node refers to the identifier that another slot holds. -/
def RefersTo (document : Document) (slot other : Nat) : Prop :=
  ∃ id ∈ document.referencesAt slot, document.holds other id

/-- A node has a link to the identifier that another slot holds. -/
def LinksTo (document : Document) (slot other : Nat) : Prop :=
  ∃ link ∈ document.linksAt slot, document.holds other link.id

/-- Resolves the references of the node in a slot, reached by the way down to it. -/
def visit (state : LinkCounts × Document) (slot : Nat) : LinkCounts × Document :=
  match state.2.node? slot with
  | none => state
  | some node =>
    let path := state.2.idsOf (state.2.ancestors slot)
    let walk := Walk.linkNode ⟨state.2, path, state.1⟩ slot node
    (walk.counts, walk.document)

theorem referencesAt_of_node? (found : document.node? slot = some node) :
    document.referencesAt slot = node.references := by
  rw [referencesAt, found]
  rfl

theorem linksAt_of_node? (found : document.node? slot = some node) :
    document.linksAt slot = node.links := by
  rw [linksAt, found]
  rfl

theorem referencesAt_update {change : Node → Node}
    (keeps : ∀ node, (change node).references = node.references) (document : Document)
    (slot other : Nat) :
    (document.update slot change).referencesAt other = document.referencesAt other := by
  unfold referencesAt
  rw [map_node?_update (fun node => node.references) keeps]

theorem linksAt_clearLinks (document : Document) (slot : Nat) :
    document.clearLinks.linksAt slot = [] := by
  unfold linksAt clearLinks node?
  rw [Store.Arena.get?_mapValues]
  cases document.nodes.get? slot <;> rfl

theorem referencesAt_clearLinks (document : Document) (slot : Nat) :
    document.clearLinks.referencesAt slot = document.referencesAt slot := by
  unfold referencesAt clearLinks node?
  rw [Store.Arena.get?_mapValues]
  cases document.nodes.get? slot <;> rfl

theorem referencesAt_ensureIndex (document : Document) (slot : Nat) :
    document.ensureIndex.referencesAt slot = document.referencesAt slot := by
  unfold referencesAt node?
  rw [nodes_ensureIndex]

/-! ## The way up as identifiers -/

/-- The identifiers of some slots are those that one of the slots holds. -/
theorem mem_idsOf : id ∈ document.idsOf slots ↔ ∃ slot ∈ slots, document.holds slot id := by
  unfold idsOf
  rw [List.mem_filterMap]
  apply exists_congr
  intro slot
  rw [holds_iff, Option.map_eq_some_iff]

theorem idsOf_cons (found : document.node? slot = some node) (slots : List Nat) :
    document.idsOf (slot :: slots) = node.id :: document.idsOf slots := by
  unfold idsOf
  rw [List.filterMap_cons_some (b := node.id)]
  rw [found]
  rfl

/-- No node above a node has its identifier. -/
theorem Owned.id_not_mem_ancestors (owned : document.Owned) (distinct : document.DistinctIds)
    (found : document.node? slot = some node) :
    node.id ∉ document.idsOf (document.ancestors slot) := by
  intro member
  obtain ⟨above, isAbove, isHeld⟩ := mem_idsOf.mp member
  obtain rfl := distinct above slot node.id isHeld (holds_of_node? found)
  obtain ⟨depth, atDepth⟩ := owned.rooted above ⟨node, found⟩
  exact atDepth.not_mem_ancestors isAbove

/-- The way down to a node and the node are the way down to its children. -/
theorem Owned.addToPath_ancestors (owned : document.Owned) (distinct : document.DistinctIds)
    (found : document.node? slot = some node) :
    addToPath (document.idsOf (document.ancestors slot)) node.id =
      document.idsOf (slot :: document.ancestors slot) := by
  rw [addToPath, if_neg (owned.id_not_mem_ancestors distinct found), idsOf_cons found]

/-! ## Walks as sequences of visits -/

/-- A visit is not seen in the bare document. -/
theorem bare_visit (state : LinkCounts × Document) (slot : Nat) :
    (visit state slot).2.bare = state.2.bare := by
  unfold visit
  split
  · rfl
  · exact bare_update (Node.bare_setLinks _) state.2 slot

theorem bare_foldl_visit (slots : List Nat) (state : LinkCounts × Document) :
    (slots.foldl visit state).2.bare = state.2.bare := by
  induction slots generalizing state with
  | nil => rfl
  | cons slot rest inductionHypothesis =>
      exact (inductionHypothesis (visit state slot)).trans (bare_visit state slot)

/-- A visit leaves all nodes but one. -/
theorem node?_visit {other : Nat} (different : other ≠ slot) (state : LinkCounts × Document) :
    (visit state slot).2.node? other = state.2.node? other := by
  unfold visit
  split
  · rfl
  · exact (node?_update state.2 slot _ other).trans (if_neg different)

/-- Visits in a row leave the nodes that they are not at. -/
theorem node?_foldl_visit (notVisited : slot ∉ slots) (state : LinkCounts × Document) :
    (slots.foldl visit state).2.node? slot = state.2.node? slot := by
  induction slots generalizing state with
  | nil => rfl
  | cons first rest inductionHypothesis =>
      obtain ⟨different, notInRest⟩ := not_or.mp (mt List.mem_cons.mpr notVisited)
      exact (inductionHypothesis notInRest (visit state first)).trans (node?_visit different state)

theorem referencesAt_visit (state : LinkCounts × Document) (slot other : Nat) :
    (visit state slot).2.referencesAt other = state.2.referencesAt other := by
  have keeps : ∀ links node, (Node.setLinks links node).references = node.references :=
    fun _ _ => rfl
  unfold visit
  split
  · rfl
  · exact referencesAt_update (keeps _) state.2 slot other

theorem referencesAt_foldl_visit (slots : List Nat) (state : LinkCounts × Document)
    (other : Nat) : (slots.foldl visit state).2.referencesAt other = state.2.referencesAt other := by
  induction slots generalizing state with
  | nil => rfl
  | cons slot rest inductionHypothesis =>
      exact (inductionHypothesis (visit state slot)).trans (referencesAt_visit state slot other)

end Document

/-- The references that were resolved, whatever became of them. -/
def LinkCounts.outcomes (counts : LinkCounts) : Nat :=
  counts.linked + counts.missing + counts.cyclic

namespace Walk

open Document

variable {origin : Document}

/-- The walk after visits in a row, back at the node where they started. -/
def afterVisits (walk : Walk) (slots : List Nat) : Walk :=
  let state := slots.foldl visit (walk.counts, walk.document)
  ⟨state.2, walk.path, state.1⟩

theorem afterVisits_append (walk : Walk) (first second : List Nat) :
    walk.afterVisits (first ++ second) = (walk.afterVisits first).afterVisits second := by
  unfold afterVisits
  rw [List.foldl_append]

theorem bare_afterVisits (walk : Walk) (slots : List Nat) :
    (walk.afterVisits slots).document.bare = walk.document.bare :=
  bare_foldl_visit slots (walk.counts, walk.document)

/-- The visit of a node is its resolution, once the walk has come down to it. -/
theorem visit_eq_linkNode (walk : Walk) {slot : Nat} {node : Node}
    (found : walk.document.node? slot = some node)
    (isPath : walk.path = walk.document.idsOf (walk.document.ancestors slot)) :
    visit (walk.counts, walk.document) slot =
      ((walk.linkNode slot node).counts, (walk.linkNode slot node).document) := by
  unfold visit
  rw [found]
  dsimp only
  rw [← isPath]

/-- If each tree is resolved by visits in pre-order, so are trees one after another. -/
theorem linkTrees_eq_afterVisits {trees : List Tree} {path : List NodeId}
    (each : ∀ tree ∈ trees, ∀ walk : Walk, walk.document.bare = origin.bare → walk.path = path →
      walk.linkTree tree = walk.afterVisits tree.preorder)
    (walk : Walk) (same : walk.document.bare = origin.bare) (isPath : walk.path = path) :
    walk.linkTrees trees = walk.afterVisits (trees.flatMap Tree.preorder) := by
  induction trees generalizing walk with
  | nil => rw [linkTrees]; rfl
  | cons tree rest inductionHypothesis =>
      rw [linkTrees, each tree List.mem_cons_self walk same isPath, List.flatMap_cons,
        afterVisits_append]
      apply inductionHypothesis
      · exact fun other isOther => each other (List.mem_cons_of_mem tree isOther)
      · exact (walk.bare_afterVisits tree.preorder).trans same
      · exact isPath

/-- The walk through a tree visits its slots in pre-order and leaves the way down to the
tree as it was. -/
theorem linkTree_eq_afterVisits (owned : origin.Owned) (distinct : origin.DistinctIds)
    {tree : Tree} (fits : tree.Fits origin) (walk : Walk)
    (same : walk.document.bare = origin.bare)
    (isPath : walk.path = origin.idsOf (origin.ancestors tree.slot)) :
    walk.linkTree tree = walk.afterVisits tree.preorder := by
  induction fits generalizing walk with
  | @branch slot node trees found children fits inductionHypothesis =>
      obtain ⟨current, isCurrent, sameNode⟩ := exists_node?_of_bare_eq same found
      have sameId : current.id = node.id := congrArg (fun node => node.id) sameNode
      have fresh : node.id ∉ walk.path := by
        rw [isPath]
        exact owned.id_not_mem_ancestors distinct found
      have visited := walk.visit_eq_linkNode isCurrent (by
        rw [idsOf_of_bare_eq same, ancestors_of_bare_eq same]
        exact isPath)
      have inside : (walk.linkNode slot current).path = node.id :: walk.path := by
        show addToPath walk.path current.id = _
        rw [sameId, addToPath, if_neg fresh]
      have below : ∀ tree ∈ trees, ∀ inner : Walk, inner.document.bare = origin.bare →
          inner.path = node.id :: walk.path →
          inner.linkTree tree = inner.afterVisits tree.preorder := by
        intro tree isTree inner innerSame innerPath
        apply inductionHypothesis tree isTree inner innerSame
        obtain ⟨depth, atDepth⟩ := owned.rooted slot ⟨node, found⟩
        rw [innerPath, isPath,
          atDepth.ancestors_of_parent (Tree.Fits.parent?_of_mem owned found children isTree),
          idsOf_cons found]
        rfl
      have entered : (walk.linkNode slot current).document.bare = origin.bare :=
        (bare_update (Node.bare_setLinks _) walk.document slot).trans same
      rw [linkTree, isCurrent]
      show ((walk.linkNode slot current).linkTrees trees).leave current.id = _
      rw [linkTrees_eq_afterVisits below _ entered inside, Tree.preorder_branch]
      unfold afterVisits leave
      rw [List.foldl_cons, visited, inside, sameId]
      have left : (node.id :: walk.path).filter (· ≠ node.id) = walk.path := by
        rw [List.filter_cons_of_neg (by simp), List.filter_eq_self]
        intro id member
        exact decide_eq_true fun equal => fresh (equal ▸ member)
      rw [left]

end Walk

namespace Document

variable {document after : Document} {slot other target count : Nat} {node : Node}
  {slots : List Nat} {reference : NodeId} {ids : List NodeId} {link : Link}

/-- Trees that are walked with the way down to them as identifiers are visited slot by
slot. -/
theorem Owned.linkBelow_eq_afterVisits (owned : document.Owned) (distinct : document.DistinctIds)
    (live : document.Live slot) {current : Document} (same : current.bare = document.bare)
    (counts : LinkCounts) :
    let path := document.idsOf (document.ancestors slot)
    current.linkBelow slot path counts =
      (Walk.mk current path counts).afterVisits (document.subtree slot) := by
  intro path
  obtain ⟨tree, isTree, rfl, fits⟩ := owned.exists_tree? live
  have sameTree : current.tree? tree.slot = some tree := by
    rw [← tree?_bare, same, tree?_bare]
    exact isTree
  unfold linkBelow subtree
  rw [sameTree, isTree]
  exact Walk.linkTree_eq_afterVisits owned distinct fits ⟨current, path, counts⟩ same rfl

/-- Resolving the trees of some roots is visiting their slots in pre-order. -/
theorem Owned.linkRoots_eq_foldl (owned : document.Owned) (distinct : document.DistinctIds)
    {roots : List Nat} (areRoots : ∀ root ∈ roots, root ∈ document.roots)
    {current : Document} (same : current.bare = document.bare) (counts : LinkCounts) :
    current.linkRoots counts roots =
      (roots.flatMap document.subtree).foldl visit (counts, current) := by
  induction roots generalizing current counts with
  | nil => rfl
  | cons root rest inductionHypothesis =>
      obtain ⟨live, isRoot⟩ := (owned.mem_roots root).mp (areRoots root List.mem_cons_self)
      have noPath : document.idsOf (document.ancestors root) = [] := by
        rw [ancestors_of_root isRoot]
        rfl
      have walked := owned.linkBelow_eq_afterVisits distinct live same counts
      rw [noPath] at walked
      rw [linkRoots, walked, List.flatMap_cons, List.foldl_append]
      apply inductionHypothesis
      · exact fun other isOther => areRoots other (List.mem_cons_of_mem root isOther)
      · exact (Walk.bare_afterVisits _ _).trans same

theorem flatMap_subtree (slots : List Nat) :
    slots.flatMap document.subtree = (slots.filterMap document.tree?).flatMap Tree.preorder := by
  induction slots with
  | nil => rfl
  | cons slot rest inductionHypothesis =>
      rw [List.flatMap_cons, inductionHypothesis]
      cases isTree : document.tree? slot with
      | none => rw [List.filterMap_cons_none isTree, subtree, isTree]; rfl
      | some tree =>
          rw [List.filterMap_cons_some isTree, subtree_of_tree? isTree, List.flatMap_cons]

/-- Building all links anew visits every node in pre-order. -/
theorem Owned.relink_eq_foldl (owned : document.Owned) (distinct : document.DistinctIds) :
    document.relink =
      document.preorder.foldl visit (⟨0, 0, 0, 0⟩, document.ensureIndex.clearLinks) := by
  have same : document.ensureIndex.clearLinks.bare = document.bare := by
    rw [bare_clearLinks, bare_ensureIndex]
  have sameRoots : document.ensureIndex.clearLinks.roots = document.roots :=
    congrArg (fun document => document.roots) same
  have inOrder : document.roots.flatMap document.subtree = document.preorder := by
    rw [flatMap_subtree, preorder_eq_flatMap]
    rfl
  unfold relink
  dsimp only
  rw [sameRoots, ← inOrder]
  exact owned.linkRoots_eq_foldl distinct (fun _ isRoot => isRoot) same ⟨0, 0, 0, 0⟩

/-- A full resolution leaves all references. -/
theorem Owned.referencesAt_relink (owned : document.Owned) (distinct : document.DistinctIds)
    (slot : Nat) : document.relink.2.referencesAt slot = document.referencesAt slot := by
  rw [owned.relink_eq_foldl distinct, referencesAt_foldl_visit, referencesAt_clearLinks,
    referencesAt_ensureIndex]

def firstOccurrences (ids : List NodeId) : List NodeId :=
  ids.foldl (fun kept id => if id ∈ kept then kept else kept ++ [id]) []

theorem getD_length_linksAt (document : Document) (slot : Nat) :
    ((document.node? slot).map fun node => node.links.length).getD 0 =
      (document.linksAt slot).length := by
  unfold linksAt
  cases document.node? slot <;> rfl

/-- Populating a node gives it new references and visits the tree below it. -/
theorem Owned.populate_eq_foldl (owned : document.Owned) (distinct : document.DistinctIds)
    (populated : document.populate slot ids = .ok (count, after)) :
    ∃ node, document.node? slot = some node ∧
      after = ((document.subtree slot).foldl visit (⟨0, 0, 0, 0⟩,
        (document.update slot (Node.setReferences
          (firstOccurrences (ids.filter (· ≠ node.id))))).ensureIndex)).2 ∧
      count = (after.linksAt slot).length := by
  obtain ⟨node, found, equal⟩ := requireNode_map_ok populated
  obtain ⟨isCount, rfl⟩ := Prod.mk.inj equal
  refine ⟨node, found, ?_, isCount.symm.trans (getD_length_linksAt _ slot)⟩
  have same := document.bare_setReferences slot (firstOccurrences (ids.filter (· ≠ node.id)))
  have walked := owned.linkBelow_eq_afterVisits distinct ⟨node, found⟩ same ⟨0, 0, 0, 0⟩
  dsimp only at walked
  rw [← ancestors_of_bare_eq same, ← idsOf_of_bare_eq same] at walked
  exact congrArg Walk.document walked

theorem firstOccurrences_of_nodup {ids : List NodeId} (nodup : ids.Nodup) :
    firstOccurrences ids = ids := by
  -- The induction needs what is kept so far, from which the rest is apart.
  have kept : ∀ kept : List NodeId, (kept ++ ids).Nodup →
      ids.foldl (fun kept id => if id ∈ kept then kept else kept ++ [id]) kept = kept ++ ids := by
    clear nodup
    induction ids with
    | nil => exact fun kept _ => (List.append_nil kept).symm
    | cons id rest inductionHypothesis =>
        intro kept nodup
        have absent : id ∉ kept := fun member =>
          (List.nodup_append.mp nodup).2.2 id member id List.mem_cons_self rfl
        rw [List.append_cons] at nodup
        rw [List.foldl_cons, if_neg absent, inductionHypothesis (kept ++ [id]) nodup,
          List.append_assoc, List.singleton_append]
  exact kept [] nodup

/-- Populating a node replaces its references and keeps those of all others. -/
theorem Owned.referencesAt_populate (owned : document.Owned) (distinct : document.DistinctIds)
    (found : document.node? slot = some node)
    (populated : document.populate slot ids = .ok (count, after)) (other : Nat) :
    after.referencesAt other =
      if other = slot then firstOccurrences (ids.filter (· ≠ node.id))
      else document.referencesAt other := by
  obtain ⟨same, isSame, rfl, -⟩ := owned.populate_eq_foldl distinct populated
  rw [found] at isSame
  obtain rfl := Option.some.inj isSame
  rw [referencesAt_foldl_visit, referencesAt_ensureIndex, referencesAt, node?_update]
  split
  · rename_i isSlot
    rw [isSlot, found]
    rfl
  · rfl

/-- A node that is there can be populated. -/
theorem exists_populate (found : document.node? slot = some node) (ids : List NodeId) :
    ∃ count after, document.populate slot ids = .ok (count, after) := by
  unfold populate requireNode
  rw [found]
  exact ⟨_, _, rfl⟩

/-! ## One visit -/

@[simp] theorem linkOf?_linked (reference : NodeId) (slot : Nat) :
    linkOf? reference (.linked slot) = some ⟨slot, reference⟩ :=
  rfl

@[simp] theorem linkOf?_cyclic (reference : NodeId) : linkOf? reference .cyclic = none :=
  rfl

@[simp] theorem linkOf?_missing (reference : NodeId) : linkOf? reference .missing = none :=
  rfl

/-- Only a linked outcome makes a link, which names the reference. -/
theorem linkOf?_eq_some_iff {outcome : Outcome} :
    linkOf? reference outcome = some link ↔ link.id = reference ∧ outcome = .linked link.slot := by
  obtain ⟨target, id⟩ := link
  cases outcome with
  | linked slot =>
      simp only [linkOf?_linked, Option.some.injEq, Link.mk.injEq, Outcome.linked.injEq]
      exact ⟨fun ⟨slots, ids⟩ => ⟨ids.symm, slots⟩, fun ⟨ids, slots⟩ => ⟨slots, ids.symm⟩⟩
  | cyclic => simp
  | missing => simp

/-- A node gets a link for each reference with a linked outcome. -/
theorem mem_linksOf {path : List NodeId} : link ∈ document.linksOf path node ↔
    link.id ∈ node.references ∧ document.outcome path node.id link.id = .linked link.slot := by
  unfold linksOf
  rw [List.mem_filterMap]
  constructor
  · rintro ⟨reference, member, isLink⟩
    obtain ⟨rfl, isLinked⟩ := linkOf?_eq_some_iff.mp isLink
    exact ⟨member, isLinked⟩
  · rintro ⟨member, isLinked⟩
    exact ⟨link.id, member, linkOf?_eq_some_iff.mpr ⟨rfl, isLinked⟩⟩

open Classical in
theorem map_id_linksOf (path : List NodeId) (node : Node) :
    (document.linksOf path node).map Link.id = node.references.filter fun reference =>
      ∃ target, document.outcome path node.id reference = .linked target := by
  unfold linksOf
  rw [List.map_filterMap, ← List.filterMap_eq_filter]
  apply List.filterMap_congr
  intro reference _
  cases isOutcome : document.outcome path node.id reference with
  | linked slot => simp [Option.guard, isOutcome]
  | cyclic => simp [Option.guard, isOutcome]
  | missing => simp [Option.guard, isOutcome]

/-- Every reference is linked, missing, or part of a cycle. -/
theorem length_linksOf_add (path : List NodeId) (node : Node) :
    (document.linksOf path node).length +
      document.countOutcomes path node (· == .missing) +
      document.countOutcomes path node (· == .cyclic) = node.references.length := by
  unfold linksOf countOutcomes
  induction node.references with
  | nil => rfl
  | cons reference rest inductionHypothesis =>
      rw [List.countP_cons, List.countP_cons, List.length_cons, List.filterMap_cons]
      dsimp only at inductionHypothesis ⊢
      cases document.outcome path node.id reference with
      | linked slot =>
          rw [linkOf?_linked, List.length_cons, if_neg (by simp), if_neg (by simp)]
          omega
      | cyclic =>
          rw [linkOf?_cyclic, if_neg (by decide), if_pos (by decide)]
          dsimp only
          omega
      | missing =>
          rw [linkOf?_missing, if_pos (by decide), if_neg (by decide)]
          dsimp only
          omega

/-- A node with a link to an identifier links to the node that has it. -/
theorem hasLinkTo_iff (found : document.node? slot = some node) :
    document.hasLinkTo target node.id ↔ document.LinksTo target slot := by
  have hasLink : document.hasLinkTo target node.id ↔
      ∃ link ∈ document.linksAt target, link.id = node.id := by
    unfold hasLinkTo linksAt Node.hasLinkTo
    cases document.node? target <;> simp
  rw [hasLink]
  apply exists_congr
  intro link
  apply and_congr_right
  intro _
  constructor
  · intro sameId
    rw [sameId]
    exact holds_of_node? found
  · intro isHeld
    obtain ⟨other, isOther, sameId⟩ := holds_iff.mp isHeld
    rw [found] at isOther
    obtain rfl := Option.some.inj isOther
    exact sameId.symm

/-- A visit of a node can link it to a target: one that is neither the node nor above it,
and has no link to it. -/
def MayLink (document : Document) (slot target : Nat) : Prop :=
  target ≠ slot ∧ target ∉ document.ancestors slot ∧ ¬ document.LinksTo target slot

/-- A reference is linked if a slot holds it and the visit can link the node to that slot. -/
theorem outcome_eq_linked_iff (distinct : document.DistinctIds)
    (found : document.node? slot = some node) :
    document.outcome (document.idsOf (slot :: document.ancestors slot)) node.id reference =
        .linked target ↔
      document.holds target reference ∧ document.MayLink slot target := by
  unfold outcome MayLink
  by_cases onWay : reference ∈ document.idsOf (slot :: document.ancestors slot)
  · rw [if_pos onWay]
    obtain ⟨above, isAbove, aboveHolds⟩ := mem_idsOf.mp onWay
    refine ⟨nofun, ?_⟩
    rintro ⟨isHeld, notSlot, notAbove, -⟩
    obtain rfl := distinct target above reference isHeld aboveHolds
    rcases List.mem_cons.mp isAbove with rfl | isAncestor
    · exact absurd rfl notSlot
    · exact absurd isAncestor notAbove
  · rw [if_neg onWay]
    have apart : document.holds target reference → target ≠ slot ∧
        target ∉ document.ancestors slot := by
      intro isHeld
      have notOnWay : target ∉ slot :: document.ancestors slot :=
        fun member => onWay (mem_idsOf.mpr ⟨target, member, isHeld⟩)
      exact ⟨fun equal => notOnWay (equal ▸ List.mem_cons_self),
        fun member => notOnWay (List.mem_cons_of_mem slot member)⟩
    have linksBack : document.hasLinkTo target node.id ↔ document.LinksTo target slot :=
      hasLinkTo_iff found
    rw [← distinct.find?_eq_some_iff, ← linksBack]
    cases isFound : document.find? reference with
    | none => exact ⟨nofun, nofun⟩
    | some holder =>
        dsimp only
        have heldBy := holds_find? isFound
        split
        · rename_i back
          refine ⟨nofun, ?_⟩
          rintro ⟨same, -, -, noBack⟩
          obtain rfl := Option.some.inj same
          exact absurd back noBack
        · rename_i noBack
          constructor
          · intro isLinked
            obtain rfl := Outcome.linked.inj isLinked
            exact ⟨rfl, (apart heldBy).1, (apart heldBy).2, noBack⟩
          · rintro ⟨same, -⟩
            rw [Option.some.inj same]

open Classical in
/-- Links that come from references to what can be linked lead to what is referred to and can be
linked. -/
theorem DistinctIds.linksTo_iff (distinct : document.DistinctIds)
    (same : after.bare = document.bare) {references : List NodeId} {mayLink : Nat → Prop}
    (ids : (after.linksAt slot).map Link.id = references.filter fun reference =>
      ∃ target, document.holds target reference ∧ mayLink target) :
    after.LinksTo slot target ↔
      (∃ id ∈ references, document.holds target id) ∧ mayLink target := by
  have linked : ∀ id, (∃ link ∈ after.linksAt slot, link.id = id) ↔
      id ∈ references ∧ ∃ target, document.holds target id ∧ mayLink target := by
    intro id
    rw [← List.mem_map, ids, List.mem_filter, decide_eq_true_iff]
  constructor
  · rintro ⟨link, isLink, isHeld⟩
    rw [holds_of_bare_eq same] at isHeld
    obtain ⟨isReference, other, otherHolds, may⟩ := (linked link.id).mp ⟨link, isLink, rfl⟩
    obtain rfl := distinct target other link.id isHeld otherHolds
    exact ⟨⟨link.id, isReference, isHeld⟩, may⟩
  · rintro ⟨⟨id, isReference, isHeld⟩, may⟩
    obtain ⟨link, isLink, rfl⟩ := (linked id).mpr ⟨isReference, target, isHeld, may⟩
    exact ⟨link, isLink, (holds_of_bare_eq same target link.id).trans isHeld⟩

open Classical in
/-- What a visit of a slot does: it links the references of the node there that it can
link, and it leaves everything else as it was. -/
structure Visited (before : LinkCounts × Document) (slot : Nat) (after : LinkCounts × Document) :
    Prop where
  bare_eq : after.2.bare = before.2.bare
  referencesAt : ∀ other, after.2.referencesAt other = before.2.referencesAt other
  linksAt_of_ne : ∀ other, other ≠ slot → after.2.linksAt other = before.2.linksAt other
  ids : (after.2.linksAt slot).map Link.id = (before.2.referencesAt slot).filter fun reference =>
    ∃ target, before.2.holds target reference ∧ before.2.MayLink slot target
  held : ∀ link ∈ after.2.linksAt slot, before.2.holds link.slot link.id
  visited : after.1.visited = before.1.visited + 1
  linked : after.1.linked = before.1.linked + (after.2.linksAt slot).length
  outcomes : after.1.outcomes = before.1.outcomes + (before.2.referencesAt slot).length

/-- A visit gives a node the links of its references and adds up the outcomes. -/
theorem Owned.visit_eq {state : LinkCounts × Document} (owned : state.2.Owned)
    (distinct : state.2.DistinctIds) (found : state.2.node? slot = some node) :
    let path := state.2.idsOf (slot :: state.2.ancestors slot)
    let links := state.2.linksOf path node
    visit state slot = (⟨state.1.visited + 1, state.1.linked + links.length,
        state.1.missing + state.2.countOutcomes path node (· == .missing),
        state.1.cyclic + state.2.countOutcomes path node (· == .cyclic)⟩,
      state.2.update slot (Node.setLinks links)) := by
  intro path links
  unfold visit
  rw [found]
  simp only [Walk.linkNode, owned.addToPath_ancestors distinct found]
  rfl

theorem linksAt_update_setLinks (found : document.node? slot = some node) (links : List Link)
    (other : Nat) : (document.update slot (Node.setLinks links)).linksAt other =
      if other = slot then links else document.linksAt other := by
  rw [linksAt, node?_update]
  split
  · rename_i same
    rw [same, found]
    rfl
  · rfl

/-- A visit of a node does what `Visited` says. -/
theorem Owned.visited {state : LinkCounts × Document} (owned : state.2.Owned)
    (distinct : state.2.DistinctIds) (live : state.2.Live slot) :
    Visited state slot (visit state slot) := by
  obtain ⟨node, found⟩ := live
  have links := linksAt_update_setLinks found
    (state.2.linksOf (state.2.idsOf (slot :: state.2.ancestors slot)) node)
  have sum := state.2.length_linksOf_add (state.2.idsOf (slot :: state.2.ancestors slot)) node
  have references := referencesAt_visit state slot
  rw [owned.visit_eq distinct found] at references ⊢
  constructor
  · exact bare_update (Node.bare_setLinks _) state.2 slot
  · exact references
  · intro other different
    exact (links other).trans (if_neg different)
  · dsimp only
    rw [links slot, if_pos rfl, map_id_linksOf, referencesAt_of_node? found]
    congr 1
    funext reference
    exact decide_eq_decide.mpr (exists_congr fun _ => outcome_eq_linked_iff distinct found)
  · dsimp only
    rw [links slot, if_pos rfl]
    intro link isLink
    exact ((outcome_eq_linked_iff distinct found).mp (mem_linksOf.mp isLink).2).1
  · rfl
  · dsimp only
    rw [links slot, if_pos rfl]
  · rw [referencesAt_of_node? found]
    simp only [LinkCounts.outcomes]
    omega

namespace Visited

variable {before after : LinkCounts × Document}

theorem holds (visited : Visited before slot after) (other : Nat) (id : NodeId) :
    after.2.holds other id = before.2.holds other id :=
  holds_of_bare_eq visited.bare_eq other id

/-- A visited node has links to what it refers to and can be linked to. -/
theorem linksTo_self (visited : Visited before slot after) (distinct : before.2.DistinctIds) :
    after.2.LinksTo slot target ↔
      before.2.RefersTo slot target ∧ before.2.MayLink slot target :=
  distinct.linksTo_iff visited.bare_eq visited.ids

/-- A visit leaves the links of the other nodes. -/
theorem linksTo_of_ne (visited : Visited before slot after) {other : Nat}
    (different : other ≠ slot) : after.2.LinksTo other target ↔ before.2.LinksTo other target := by
  unfold LinksTo
  rw [visited.linksAt_of_ne other different]
  simp only [visited.holds]

end Visited

/-- What holds at the start of visits in a row and is kept by each of them holds at
their end. -/
theorem Owned.foldl_visit {motive : List Nat → LinkCounts × Document → Prop}
    (owned : document.Owned) (distinct : document.DistinctIds)
    (live : ∀ slot ∈ slots, document.Live slot)
    {state : LinkCounts × Document} (same : state.2.bare = document.bare)
    (initially : motive [] state)
    (kept : ∀ first slot rest before after, slots = first ++ slot :: rest →
      before.2.bare = document.bare → Visited before slot after →
      motive first before → motive (first ++ [slot]) after) :
    motive slots (slots.foldl visit state) := by
  induction slots using List.reverseRecOn with
  | nil => exact initially
  | append_singleton first slot inductionHypothesis =>
      have reached : motive first (first.foldl visit state) := by
        apply inductionHypothesis
        · exact fun other member => live other (List.mem_append_left [slot] member)
        · intro start other rest before after split
          apply kept start other (rest ++ [slot])
          rw [split, List.append_assoc, List.cons_append]
      have sameSoFar := (bare_foldl_visit first state).trans same
      rw [List.foldl_append, List.foldl_cons, List.foldl_nil]
      apply kept first slot [] _ _ rfl sameSoFar _ reached
      apply Owned.visited (owned.of_bare_eq sameSoFar) (distinct.of_bare_eq sameSoFar)
      rw [live_of_bare_eq sameSoFar]
      exact live slot (List.mem_append_right first List.mem_cons_self)

end Document

end Outliner
