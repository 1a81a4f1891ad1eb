import Outliner.Proofs.History

/-!
Contract: what the index of a reached document can be trusted for.

Owns: that an index says of every identifier where it is, the condition that an index of
the current generation does, and that every operation keeps the condition. An operation
either moves on to a new generation and leaves the index behind, or moves no identifier.

Main statements: `Operation.indexKept_after`, the step, and `Reachable.find?_right`.

Does not own: the scan that answers where the index does not (`Proofs.Document.Identity`).
-/

namespace Outliner

open Outliner.Calendar Outliner.Search Outliner.Store

/-- Of every identifier the index names a slot that holds it, or no slot if none does. -/
structure SlotIndex.Agrees (index : SlotIndex) (document : Document) : Prop where
  holds_of_slot? : ∀ {id slot}, index.slot? id = some slot → document.holds slot id
  not_holds_of_slot? : ∀ {id slot}, index.slot? id = none → ¬ document.holds slot id

/-- Where identifiers are distinct, an index that agrees names the slot of each one. -/
theorem SlotIndex.Agrees.slot?_eq_some_iff {index : SlotIndex} {document : Document} {slot : Nat}
    {id : NodeId} (agrees : index.Agrees document) (distinct : document.DistinctIds) :
    index.slot? id = some slot ↔ document.holds slot id := by
  refine ⟨agrees.holds_of_slot?, fun isHeld => ?_⟩
  cases named : index.slot? id with
  | none => exact absurd isHeld (agrees.not_holds_of_slot? named)
  | some other => rw [distinct other slot id (agrees.holds_of_slot? named) isHeld]

/-- Whatever identifiers nodes share, an index agrees with the nodes that it is built of. -/
theorem SlotIndex.agrees_build (document : Document) (generation : Nat) :
    (SlotIndex.build document.nodes generation).Agrees document := by
  constructor
  · intro id slot named
    obtain ⟨first, rest, split, -⟩ := List.lookup_eq_some_iff.mp named
    have isEntry : (id, slot) ∈ (SlotIndex.build document.nodes generation).entries :=
      split ▸ List.mem_append_right first List.mem_cons_self
    obtain ⟨⟨stored, node⟩, isStored, equal⟩ := List.mem_map.mp (List.mem_reverse.mp isEntry)
    obtain ⟨rfl, rfl⟩ := Prod.mk.inj equal
    exact Document.holds_of_node? (Arena.mem_toList.mp isStored)
  · intro id slot unnamed isHeld
    obtain ⟨node, found, rfl⟩ := Document.holds_iff.mp isHeld
    have isEntry : (node.id, slot) ∈
        (document.nodes.toList.map fun entry => (entry.2.id, entry.1)).reverse :=
      List.mem_reverse.mpr (List.mem_map_of_mem (Arena.mem_toList.mpr found))
    have differs := List.lookup_eq_none_iff.mp unnamed _ isEntry
    exact absurd rfl (bne_iff_ne.mp differs)

theorem Node.id_setLinks (links : List Link) (node : Node) : (node.setLinks links).id = node.id :=
  rfl

theorem Node.id_setReferences (references : List NodeId) (node : Node) :
    (node.setReferences references).id = node.id :=
  rfl

theorem Node.id_flipCollapsed (target : NodeId) (node : Node) :
    (node.flipCollapsed target).id = node.id := by
  unfold Node.flipCollapsed
  split <;> rfl

namespace Document

variable {document before after : Document} {slot : Nat}

/-- The index is of no later generation than the document, and agrees with it if both are
of one generation. -/
def IndexKept (document : Document) : Prop :=
  ∀ index, document.index = some index → index.generation ≤ document.generation ∧
    (index.generation = document.generation → index.Agrees document)

/-- No identifier has moved. -/
structure Unmoved (before after : Document) : Prop where
  generation : after.generation = before.generation
  holds : ∀ slot id, after.holds slot id = before.holds slot id

/-! ## What moves no identifier -/

theorem Unmoved.agrees (unmoved : Unmoved before after) {index : SlotIndex}
    (agrees : index.Agrees before) : index.Agrees after where
  holds_of_slot? named := (unmoved.holds _ _).trans (agrees.holds_of_slot? named)
  not_holds_of_slot? unnamed := by
    rw [unmoved.holds]
    exact agrees.not_holds_of_slot? unnamed

/-- Where no identifier has moved, the same index is as good as it was. -/
theorem Unmoved.indexKept (unmoved : Unmoved before after) (same : after.index = before.index)
    (kept : before.IndexKept) : after.IndexKept := by
  intro index isIndex
  obtain ⟨notLater, agrees⟩ := kept index (same.symm.trans isIndex)
  rw [unmoved.generation]
  exact ⟨notLater, fun current => unmoved.agrees (agrees current)⟩

theorem unmoved_of_bare_eq (same : after.bare = before.bare) : Unmoved before after where
  generation := by
    have generations := congrArg (fun document => document.generation) same
    exact generations
  holds := holds_of_bare_eq same

theorem unmoved_update (change : Node → Node) (sameId : ∀ node, (change node).id = node.id)
    (document : Document) (slot : Nat) : Unmoved document (document.update slot change) where
  generation := rfl
  holds other id := by
    rw [holds_eq_any_map, map_node?_update (fun node => node.id) sameId, ← holds_eq_any_map]

theorem IndexKept.update (kept : document.IndexKept) (change : Node → Node)
    (sameId : ∀ node, (change node).id = node.id) (slot : Nat) :
    (document.update slot change).IndexKept :=
  (unmoved_update change sameId document slot).indexKept rfl kept

/-- A change of the forest moves on to a new generation, and so no index is current. -/
theorem IndexKept.outdated (kept : before.IndexKept) (same : after.index = before.index)
    (later : after.generation = before.generation + 1) : after.IndexKept := by
  intro index isIndex
  obtain ⟨notLater, -⟩ := kept index (same.symm.trans isIndex)
  exact ⟨by omega, fun current => by omega⟩

/-! ## Building the index -/

/-- An index that was just built is kept. -/
theorem indexKept_rebuildIndex (document : Document) : document.rebuildIndex.IndexKept := by
  intro index isIndex
  obtain rfl := Option.some.inj isIndex
  have agrees := SlotIndex.agrees_build document document.generation
  have unmoved : Unmoved document document.rebuildIndex := unmoved_of_bare_eq rfl
  exact ⟨Nat.le_refl _, fun _ => unmoved.agrees agrees⟩

theorem indexKept_dropIndex (document : Document) : document.dropIndex.IndexKept := by
  intro index isIndex
  cases isIndex

theorem IndexKept.ensureIndex (kept : document.IndexKept) : document.ensureIndex.IndexKept := by
  unfold Document.ensureIndex
  split
  · exact kept
  · exact document.indexKept_rebuildIndex

/-! ## References and links -/

/-- A resolution keeps the index. -/
theorem IndexKept.resolving (resolving : Resolving before after) (kept : before.IndexKept) :
    after.IndexKept := by
  induction resolving with
  | refl => exact kept
  | tail _ last inductionHypothesis =>
      obtain ⟨slot, step⟩ := last
      cases step with
      | resolved found path =>
          exact inductionHypothesis.update _ (Node.id_setLinks _) slot

theorem IndexKept.relink (kept : document.IndexKept) : document.relink.2.IndexKept := by
  have unmoved : Unmoved document.ensureIndex document.ensureIndex.clearLinks :=
    unmoved_of_bare_eq (bare_clearLinks _)
  exact (unmoved.indexKept rfl kept.ensureIndex).resolving document.resolving_relink

theorem IndexKept.populate {ids : List NodeId} {count : Nat} (kept : before.IndexKept)
    (populated : before.populate slot ids = .ok (count, after)) : after.IndexKept := by
  obtain ⟨node, -, equal⟩ := requireNode_map_ok populated
  obtain ⟨-, rfl⟩ := Prod.mk.inj equal
  apply IndexKept.resolving (resolving_linkBelow _ slot _ _)
  exact (kept.update _ (Node.id_setReferences _) slot).ensureIndex

theorem IndexKept.flipCollapsed {target : NodeId} {closed : Bool} (kept : before.IndexKept)
    (flipped : before.flipCollapsed slot target = .ok (closed, after)) : after.IndexKept := by
  rw [flipCollapsed_eq flipped]
  exact kept.update _ (Node.id_flipCollapsed target) slot

theorem IndexKept.refreshNode (settings : SearchSettings) (zone : Zone) (now : Instant)
    {state : Refreshing} (kept : state.document.IndexKept) (slot : Nat) :
    (Refreshing.refreshNode settings zone now state slot).document.IndexKept := by
  have populated : ∀ (state : Refreshing) (id : NodeId) (ids : List NodeId),
      state.document.IndexKept → (state.populate slot id ids).document.IndexKept := by
    intro state id ids kept
    unfold Refreshing.populate
    split
    · exact kept
    · rename_i count after populated
      exact kept.populate populated
  unfold Refreshing.refreshNode
  split
  · exact kept
  · split
    · exact populated state _ _ kept
    · exact populated (state.fail _ _) _ _ kept

/-- A refresh keeps the index. -/
theorem IndexKept.refresh (settings : SearchSettings) (zone : Zone) (now : Instant)
    (kept : document.IndexKept) : (Search.refresh settings zone now document).2.IndexKept := by
  have each : ∀ (slots : List Nat) (state : Refreshing), state.document.IndexKept →
      (slots.foldl (Refreshing.refreshNode settings zone now) state).document.IndexKept := by
    intro slots
    induction slots with
    | nil => exact fun _ kept => kept
    | cons slot rest inductionHypothesis =>
        exact fun _ kept => inductionHypothesis _ (kept.refreshNode settings zone now slot)
  exact (each (settings.slots document) ⟨document, ⟨0, 0, []⟩⟩ kept).relink

end Document

open Document

/-! ## Histories -/

variable {document changed : Document} {operation : Operation}

/-- Every operation keeps the index. -/
theorem indexKept_of_perform (performed : operation.perform document = .ok changed)
    (kept : document.IndexKept) : changed.IndexKept := by
  cases operation with
  | addRoot record =>
      obtain rfl := Except.ok.inj performed
      exact kept.outdated rfl rfl
  | addChild parent record =>
      obtain ⟨slot, added⟩ := map_snd_ok performed
      obtain ⟨_, _, equal⟩ := requireNode_map_ok added
      obtain ⟨-, rfl⟩ := Prod.mk.inj equal
      exact kept.outdated rfl rfl
  | addSearchNode settings id now parent text query =>
      obtain ⟨slot, added⟩ := map_snd_ok performed
      cases parent with
      | none =>
          obtain ⟨-, rfl⟩ := Prod.mk.inj (Except.ok.inj added)
          exact kept.outdated rfl rfl
      | some parent =>
          obtain ⟨_, _, equal⟩ := requireNode_map_ok added
          obtain ⟨-, rfl⟩ := Prod.mk.inj equal
          exact kept.outdated rfl rfl
  | removeTree slot =>
      obtain ⟨count, removed⟩ := map_snd_ok performed
      obtain ⟨node, _, equal⟩ := requireNode_map_ok removed
      obtain ⟨-, rfl⟩ := Prod.mk.inj equal
      cases parent : node.parent with
      | none => exact kept.outdated rfl rfl
      | some above => exact kept.outdated rfl rfl
  | setText | setAttribute | eraseAttribute | addTag =>
      obtain ⟨slot, change, content, rfl⟩ := exists_update_of_perform rfl performed
      exact kept.update change content.id slot
  | rebuildIndex =>
      obtain rfl := Except.ok.inj performed
      exact document.indexKept_rebuildIndex
  | dropIndex =>
      obtain rfl := Except.ok.inj performed
      exact document.indexKept_dropIndex
  | populate slot ids =>
      obtain ⟨count, populated⟩ := map_snd_ok performed
      exact kept.populate populated
  | relink =>
      obtain rfl := Except.ok.inj performed
      exact kept.relink
  | flipCollapsed slot target =>
      obtain ⟨closed, flipped⟩ := map_snd_ok performed
      exact kept.flipCollapsed flipped
  | refresh settings zone now =>
      obtain rfl := Except.ok.inj performed
      exact kept.refresh settings zone now

theorem Operation.indexKept_after (operation : Operation) (kept : document.IndexKept) :
    (operation.after document).IndexKept := by
  unfold Operation.after
  split
  · rename_i changed performed
    exact indexKept_of_perform performed kept
  · exact kept

/-- The index is kept along every history. -/
theorem ReachableWhile.indexKept {good : Document → Prop}
    (reached : ReachableWhile good document) : document.IndexKept := by
  induction reached with
  | empty => exact Document.empty.indexKept_dropIndex
  | step operation _ _ inductionHypothesis => exact operation.indexKept_after inductionHypothesis

/-- Look-up in a reached document is right whatever its index is: a slot that it returns
holds a node with the identifier, and it returns none only where no node has it. Where no
two nodes share an identifier, look-up is the scan, and an index of the current generation
maps exactly the identifiers of nodes, each to its slot. -/
theorem Reachable.find?_right (reached : Reachable document) :
    (∀ id slot, document.find? id = some slot →
      ∃ node, document.node? slot = some node ∧ node.id = id) ∧
    (∀ id, document.find? id = none →
      ∀ slot node, document.node? slot = some node → node.id ≠ id) ∧
    (document.DistinctIds →
      (∀ id, document.find? id = document.scanFor id) ∧
      ∀ index, document.index = some index → index.generation = document.generation →
        ∀ id slot, index.slot? id = some slot ↔
          ∃ node, document.node? slot = some node ∧ node.id = id) := by
  refine ⟨fun id slot found => holds_iff.mp (holds_find? found), ?_, fun distinct => ⟨?_, ?_⟩⟩
  · intro id missing slot node found sameId
    exact not_holds_of_find? missing (holds_iff.mpr ⟨node, found, sameId⟩)
  · intro id
    cases scanned : document.scanFor id with
    | some slot => exact distinct.find?_eq_some_iff.mpr (holds_scanFor scanned)
    | none =>
        cases found : document.find? id with
        | none => rfl
        | some slot => exact absurd (holds_find? found) (not_holds_of_scanFor scanned)
  · intro index isIndex current id slot
    have agrees := (reached.indexKept index isIndex).2 current
    exact (agrees.slot?_eq_some_iff distinct).trans holds_iff

/-- An index is left behind when a node is removed and another takes its slot: it still
names the slot for the identifier that is gone, which look-up does not return, and misses
the one that is new, which look-up finds. Once links are built anew, it maps the
identifiers that there are. -/
theorem find?_right_reused :
    let record := fun number => Record.plain (.ofNat number) "" .last .last
    let outdated := Operation.run [.addRoot (record 1), .addChild 0 (record 2), .rebuildIndex,
      .removeTree 1, .addChild 0 (record 3)]
    let current := Operation.relink.after outdated
    Reachable outdated ∧
      outdated.index.bind (·.slot? (.ofNat 2)) = some 1 ∧ outdated.find? (.ofNat 2) = none ∧
      (∀ slot node, outdated.node? slot = some node → node.id ≠ .ofNat 2) ∧
      outdated.index.bind (·.slot? (.ofNat 3)) = none ∧ outdated.find? (.ofNat 3) = some 1 ∧
      (∃ node, outdated.node? 1 = some node ∧ node.id = .ofNat 3) ∧
      Reachable current ∧ current.DistinctIds ∧
      ∃ index, current.index = some index ∧ index.generation = current.generation ∧
        index.entries.length = 2 ∧ ∀ id slot, index.slot? id = some slot ↔
          ∃ node, current.node? slot = some node ∧ node.id = id := by
  intro record outdated current
  have reached : Reachable outdated := .run fun _ _ => trivial
  have later : Reachable current := .step .relink reached trivial
  have distinct : current.DistinctIds := distinctIds_of_nodup (by decide +kernel)
  have missing : outdated.find? (.ofNat 2) = none := by decide +kernel
  have found : outdated.find? (.ofNat 3) = some 1 := by decide +kernel
  obtain ⟨hit, miss, -⟩ := Reachable.find?_right reached
  obtain ⟨-, -, whole⟩ := Reachable.find?_right later
  have isIndex : current.index = some ⟨[(.ofNat 3, 1), (.ofNat 1, 0)], 4⟩ := by decide +kernel
  exact ⟨reached, by decide +kernel, missing, miss _ missing, by decide +kernel, found,
    hit _ _ found, later, distinct, _, isIndex, by decide +kernel, rfl,
    (whole distinct).2 _ isIndex (by decide +kernel)⟩

end Outliner
