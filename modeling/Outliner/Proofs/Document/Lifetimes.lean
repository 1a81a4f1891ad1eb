import Outliner.Proofs.Document.InPlace

/-!
Contract: what happens to a node while it lives.

Owns: which operations stamp a node as modified, that nothing else changes the instant of its
last change, and that nothing at all changes its identifier and the instant of its creation; and
that an operation that stamps a node changes nothing but the contents of that node.

The slots that a run frees are taken again by other nodes, so a node is followed by its slot only
as long as every document of the run has a node there.

Main statement: `Reachable.edits_stay_local`.

Does not own: that failures leave the document alone (`Proofs.Document.InPlace`).
-/

namespace Outliner

open Outliner.Calendar Outliner.Search Outliner.Store

/-- What one node becomes in its life: it keeps its identifier and the instant of its creation,
and was modified when it was stamped, if it was. -/
structure Node.Becomes (node later : Node) (stamp : Option Instant) : Prop where
  id : later.id = node.id
  created : later.metadata.created = node.metadata.created
  modified : later.metadata.modified = stamp.getD node.metadata.modified

namespace Operation

/-- The instant that an operation stamps the node in a slot with, if it does. A new text and a
new value of an attribute always count as changes, the removal of an attribute only if the node
has it, and a tag only if it is new. -/
def stamp? (slot : Nat) (node : Node) : Operation → Option Instant
  | .setText now target _ | .setAttribute now target _ _ =>
    if target = slot then some now else none
  | .eraseAttribute now target key =>
    if target = slot ∧ (node.attribute? key).isSome then some now else none
  | .addTag now target tag =>
    if target = slot ∧ ¬ node.hasTag tag then some now else none
  | _ => none

/-- The last instant that some operations stamp the node in a slot with. -/
def lastStamp? (slot : Nat) (document : Document) : List Operation → Option Instant
  | [] => none
  | operation :: rest =>
    (lastStamp? slot (operation.after document) rest).or
      ((document.node? slot).bind fun node => operation.stamp? slot node)

/-- The slot that an operation edits the contents of, and what becomes of the node there. -/
def edit? : Operation → Option (Nat × (Node → Node))
  | .setText now slot text => some (slot, Node.setText now text)
  | .setAttribute now slot key value => some (slot, Node.setAttribute now key value)
  | .eraseAttribute now slot key => some (slot, Node.eraseAttribute now key)
  | .addTag now slot tag => some (slot, Node.addTag now tag)
  | _ => none

end Operation

namespace Document

/-- A slot holds a node before some operations and after each of them. -/
def LivesThrough (document : Document) (operations : List Operation) (slot : Nat) : Prop :=
  ∀ first, first <+: operations → (Operation.runFrom document first).Live slot

/-- One node has other contents and is stamped. What it is connected with, all other nodes, and
the rest of the document are as before. -/
structure Stamped (before : Document) (slot : Nat) (now : Instant) (after : Document) : Prop where
  update : ∃ change : Node → Node, after = before.update slot change
  node : ∃ node text tags attributes, before.node? slot = some node ∧ after.node? slot =
    some { node with text, metadata := ⟨tags, attributes, node.metadata.created, now⟩ }
  others : ∀ other, other ≠ slot → after.node? other = before.node? other

/-- The nodes that stay in their slots keep their identifiers and their metadata. -/
def KeepsMetadata (before after : Document) : Prop :=
  ∀ ⦃slot : Nat⦄ ⦃node kept : Node⦄, before.node? slot = some node →
    after.node? slot = some kept → kept.id = node.id ∧ kept.metadata = node.metadata

end Document

open Document

/-! ## The life of a node -/

namespace Node.Becomes

variable {node next later : Node} {stamp further : Option Instant}

theorem refl (node : Node) : node.Becomes node none :=
  ⟨rfl, rfl, rfl⟩

/-- Two parts of a life are one, with the later stamp. -/
theorem trans (first : node.Becomes next stamp) (second : next.Becomes later further) :
    node.Becomes later (further.or stamp) where
  id := second.id.trans first.id
  created := second.created.trans first.created
  modified := by
    rw [second.modified, first.modified]
    cases further <;> rfl

end Node.Becomes

/-! ## Changes of one node -/

namespace Store.Arena

/-- A change that leaves the value in a slot as it is leaves the whole arena. -/
theorem modify_eq_self {α : Type} {arena : Arena α} {slot : Nat} {change : α → α}
    (unchanged : ∀ value, arena.get? slot = some value → change value = value) :
    arena.modify slot change = arena := by
  refine Arena.entry_ext rfl rfl fun other => ?_
  rw [Arena.modify, Array.getElem?_modify]
  split
  · rename_i same
    subst same
    cases stored : arena.entries[slot]? with
    | none => rfl
    | some entry =>
        cases entry with
        | vacant next => rfl
        | occupied value =>
            have held : arena.get? slot = some value := by
              rw [Arena.get?, stored]
              rfl
            rw [Option.map_some, Arena.mapEntry, unchanged value held]
  · rfl

end Store.Arena

namespace Document

/-- A change that is not seen in the node of a slot is not seen in the document. -/
theorem update_eq_self {document : Document} {slot : Nat} {change : Node → Node}
    (unchanged : ∀ node, document.node? slot = some node → change node = node) :
    document.update slot change = document := by
  have same : document.nodes.modify slot change = document.nodes :=
    Arena.modify_eq_self unchanged
  rw [update, same]

theorem map_snd_change {α : Type} (answer : Node → α) (document : Document) (slot : Nat)
    (change : Node → Node) :
    ((document.requireNode slot).map fun node =>
      (answer node, document.update slot change)).map Prod.snd = document.change slot change := by
  unfold Document.change
  cases document.requireNode slot <;> rfl

end Document

/-! ## Operations that edit no contents -/

namespace Document

variable {before after : Document} {record : Record} {parent : Option Nat} {slot : Nat}

theorem Grown.keepsMetadata (grown : Grown before record parent slot after) :
    before.KeepsMetadata after := by
  intro other node kept found isKept
  obtain ⟨old, isOld, rfl⟩ := grown.old_of_ne (grown.ne_slot ⟨node, found⟩) isKept
  obtain rfl := Option.some.inj (found.symm.trans isOld)
  unfold Node.appendChild
  split
  · split <;> exact ⟨rfl, rfl⟩
  · exact ⟨rfl, rfl⟩

theorem Pruned.keepsMetadata (pruned : Pruned before slot after) :
    before.KeepsMetadata after := by
  intro other node kept found isKept
  obtain ⟨old, isOld, rfl⟩ := pruned.old_of_found isKept
  obtain rfl := Option.some.inj (found.symm.trans isOld)
  split <;> exact ⟨rfl, rfl⟩

/-- Work on references and links keeps all metadata. -/
theorem LinkWork.keepsMetadata (work : LinkWork before after) : before.KeepsMetadata after := by
  intro slot node kept found isKept
  obtain ⟨current, isCurrent, same⟩ := exists_node?_of_bare_eq (LinkWork.bare_eq work) found
  obtain rfl := Option.some.inj (isKept.symm.trans isCurrent)
  exact ⟨congrArg (fun node => node.id) same, congrArg (fun node => node.metadata) same⟩

end Document

namespace Operation

variable {document changed : Document} {operation : Operation} {slot target : Nat} {node : Node}
  {change : Node → Node} {now : Instant}

/-- An operation that edits no node keeps all metadata. -/
theorem keepsMetadata_of_perform (owned : document.Owned) (noEdit : operation.edit? = none)
    (performed : operation.perform document = .ok changed) : document.KeepsMetadata changed := by
  cases operation with
  | addRoot record =>
      obtain rfl := Except.ok.inj performed
      exact (addRoot_grown owned record).keepsMetadata
  | addChild parent record =>
      obtain ⟨slot, added⟩ := map_snd_ok performed
      exact (addChild_grown owned added).keepsMetadata
  | addSearchNode settings id now parent text query =>
      obtain ⟨slot, added⟩ := map_snd_ok performed
      exact (addNode_grown owned added).keepsMetadata
  | removeTree slot =>
      obtain ⟨count, removed⟩ := map_snd_ok performed
      exact (removeTree_pruned owned removed).keepsMetadata
  | setText | setAttribute | eraseAttribute | addTag => cases noEdit
  | rebuildIndex | dropIndex | populate | relink | flipCollapsed | refresh =>
      exact (linkWork_of_perform rfl performed).keepsMetadata

theorem stamp?_of_no_edit (noEdit : operation.edit? = none) (slot : Nat) (node : Node) :
    operation.stamp? slot node = none := by
  cases operation with
  | setText | setAttribute | eraseAttribute | addTag => cases noEdit
  | _ => rfl

/-! ## Edits of contents -/

theorem perform_of_edit (isEdit : operation.edit? = some (slot, change)) (document : Document) :
    operation.perform document = document.change slot change := by
  cases operation with
  | setText | setAttribute =>
      cases isEdit
      rfl
  | eraseAttribute now slot key =>
      cases isEdit
      exact map_snd_change (fun node => node.attribute? key) document slot _
  | addTag now slot tag =>
      cases isEdit
      exact map_snd_change (fun node => !node.hasTag tag) document slot _
  | _ => cases isEdit

/-- An edit either stamps the node, and replaces at most its text, its tags and its attributes, or
leaves it as it is. -/
theorem edit_cases (isEdit : operation.edit? = some (slot, change)) (node : Node) :
    operation.stamp? slot node = none ∧ change node = node ∨
      ∃ now text tags attributes, operation.stamp? slot node = some now ∧ change node =
        { node with text, metadata := ⟨tags, attributes, node.metadata.created, now⟩ } := by
  cases operation with
  | setText now slot text =>
      cases isEdit
      exact .inr ⟨now, _, _, _, if_pos rfl, rfl⟩
  | setAttribute now slot key value =>
      cases isEdit
      exact .inr ⟨now, _, _, _, if_pos rfl, rfl⟩
  | eraseAttribute now slot key =>
      cases isEdit
      by_cases hasKey : (node.attribute? key).isSome
      · exact .inr ⟨now, _, _, _, if_pos ⟨rfl, hasKey⟩, if_pos hasKey⟩
      · exact .inl ⟨if_neg fun both => hasKey both.2, if_neg hasKey⟩
  | addTag now slot tag =>
      cases isEdit
      by_cases hasTag : node.hasTag tag
      · exact .inl ⟨if_neg fun both => both.2 hasTag, if_pos hasTag⟩
      · exact .inr ⟨now, _, _, _, if_pos ⟨rfl, hasTag⟩, if_neg hasTag⟩
  | _ => cases isEdit

/-- An edit stamps the node that it edits and no other. -/
theorem stamp?_of_edit_of_ne (isEdit : operation.edit? = some (target, change))
    (different : target ≠ slot) (node : Node) : operation.stamp? slot node = none := by
  cases operation with
  | setText | setAttribute =>
      cases isEdit
      exact if_neg different
  | eraseAttribute | addTag =>
      cases isEdit
      exact if_neg fun both => different both.1
  | _ => rfl

/-- Only the slot that an operation edits is stamped. -/
theorem exists_edit_of_stamp (isStamp : operation.stamp? slot node = some now) :
    ∃ change, operation.edit? = some (slot, change) := by
  cases isEdit : operation.edit? with
  | none =>
      rw [stamp?_of_no_edit isEdit] at isStamp
      cases isStamp
  | some edit =>
      obtain ⟨target, change⟩ := edit
      by_cases same : target = slot
      · exact ⟨change, by rw [same]⟩
      · rw [stamp?_of_edit_of_ne isEdit same] at isStamp
        cases isStamp

/-- An edit changes the node in its slot, if there is one. -/
theorem after_of_edit (isEdit : operation.edit? = some (target, change)) (document : Document) :
    operation.after document = document.update target change := by
  unfold after
  rw [perform_of_edit isEdit, Document.change, requireNode]
  cases found : document.node? target with
  | none =>
      refine (update_eq_self fun node isNode => ?_).symm
      cases found.symm.trans isNode
  | some node => rfl

/-! ## Steps and runs -/

/-- A node that an operation leaves in its slot keeps its identifier and the instant of its
creation, and the instant of its last change unless the operation stamps it. -/
theorem becomes_after (owned : document.Owned) (operation : Operation)
    (found : document.node? slot = some node) (live : (operation.after document).Live slot) :
    ∃ later, (operation.after document).node? slot = some later ∧
      node.Becomes later (operation.stamp? slot node) := by
  cases isEdit : operation.edit? with
  | none =>
      rw [stamp?_of_no_edit isEdit]
      unfold after at live ⊢
      split
      · rename_i changed performed
        rw [performed] at live
        obtain ⟨later, isLater⟩ := live
        obtain ⟨id, metadata⟩ := keepsMetadata_of_perform owned isEdit performed found isLater
        exact ⟨later, isLater, id, by rw [metadata], by rw [metadata]; rfl⟩
      · exact ⟨node, found, .refl node⟩
  | some edit =>
      obtain ⟨target, change⟩ := edit
      rw [after_of_edit isEdit, node?_update, found]
      by_cases same : target = slot
      · subst same
        rw [if_pos rfl]
        refine ⟨change node, rfl, ?_⟩
        rcases edit_cases isEdit node with
          ⟨noStamp, unchanged⟩ | ⟨now, text, tags, attributes, isStamp, changed⟩
        · rw [noStamp, unchanged]
          exact .refl node
        · rw [isStamp, changed]
          exact ⟨rfl, rfl, rfl⟩
      · rw [stamp?_of_edit_of_ne isEdit same, if_neg (Ne.symm same)]
        exact ⟨node, rfl, .refl node⟩

/-- A node that lives through a run keeps its identifier and the instant of its creation, and was
modified when the run stamped it last. -/
theorem becomes_runFrom (owned : document.Owned) {operations : List Operation}
    (found : document.node? slot = some node) (lives : document.LivesThrough operations slot) :
    ∃ later, (runFrom document operations).node? slot = some later ∧
      node.Becomes later (lastStamp? slot document operations) := by
  -- What the node is by now decides which operations stamp it, so it varies in the induction.
  induction operations generalizing document node with
  | nil => exact ⟨node, found, .refl node⟩
  | cons operation rest inductionHypothesis =>
      obtain ⟨next, isNext, becomesNext⟩ :=
        becomes_after owned operation found (lives [operation] (by simp))
      have restLives : (operation.after document).LivesThrough rest slot :=
        fun first isFirst => lives (operation :: first) (List.cons_prefix_cons.mpr ⟨rfl, isFirst⟩)
      obtain ⟨later, isLater, becomesLater⟩ :=
        inductionHypothesis ((operation.change owned).owned owned) isNext restLives
      refine ⟨later, isLater, ?_⟩
      rw [lastStamp?, found]
      exact becomesNext.trans becomesLater

/-- An operation that stamps a node succeeds, and changes nothing but the contents of the node. -/
theorem stamped_of_stamp (owned : document.Owned) (found : document.node? slot = some node)
    (isStamp : operation.stamp? slot node = some now) :
    operation.execute document = .ok () (operation.after document) ∧
      Stamped document slot now (operation.after document) := by
  obtain ⟨change, isEdit⟩ := exists_edit_of_stamp isStamp
  have isAfter := after_of_edit isEdit document
  rcases edit_cases isEdit node with
    ⟨noStamp, -⟩ | ⟨instant, text, tags, attributes, isInstant, changed⟩
  · cases noStamp.symm.trans isStamp
  · obtain rfl := Option.some.inj (isInstant.symm.trans isStamp)
    refine ⟨?_, ⟨change, isAfter⟩, ⟨node, text, tags, attributes, found, ?_⟩, ?_⟩
    · rw [execute_eq_settle owned, perform_of_edit isEdit, Document.change, requireNode, found,
        isAfter]
      rfl
    · rw [isAfter, node?_update, if_pos rfl, found, Option.map_some, changed]
    · intro other different
      rw [isAfter, node?_update, if_neg different]

/-- An edit of contents that stamps no node leaves the document as it was. -/
theorem after_eq_self_of_no_stamp (edits : operation.editsContent = true)
    (noStamp : ∀ slot node, document.node? slot = some node → operation.stamp? slot node = none) :
    operation.after document = document := by
  have isSome : operation.edit?.isSome = true := by
    cases operation with
    | setText | setAttribute | eraseAttribute | addTag => rfl
    | _ => cases edits
  obtain ⟨⟨target, change⟩, isEdit⟩ := Option.isSome_iff_exists.mp isSome
  rw [after_of_edit isEdit]
  apply update_eq_self
  intro node found
  rcases edit_cases isEdit node with ⟨-, unchanged⟩ | ⟨now, _, _, _, isStamp, -⟩
  · exact unchanged
  · cases (noStamp target node found).symm.trans isStamp

end Operation

/-- In every reachable document a procedure leaves what its operation returns, or it fails and
leaves the whole document as it was: nodes, roots, vacant slots, index and generation. A node that
lives through a run, while other slots are freed and taken again, keeps its identifier and the
instant of its creation, and was modified when the run stamped it last, or else when it was before.
Only a new text, a new value of an attribute, the removal of an attribute that the node has, and a
tag that it does not have stamp a node. They change the contents of this node and nothing else, and
an edit that stamps no node changes nothing. -/
theorem Reachable.edits_stay_local {document : Document} (reached : Reachable document) :
    (∀ operation : Operation,
      operation.execute document = .ok () (operation.after document) ∨
        ∃ failure, operation.execute document = .error failure document ∧
          operation.after document = document) ∧
    (∀ operations slot node, document.node? slot = some node →
      document.LivesThrough operations slot →
      ∃ later, (Operation.runFrom document operations).node? slot = some later ∧
        node.Becomes later (Operation.lastStamp? slot document operations)) ∧
    (∀ (operation : Operation) slot node now, document.node? slot = some node →
      operation.stamp? slot node = some now →
      operation.execute document = .ok () (operation.after document) ∧
        document.Stamped slot now (operation.after document)) ∧
    ∀ operation : Operation, operation.editsContent = true →
      (∀ slot node, document.node? slot = some node → operation.stamp? slot node = none) →
      operation.after document = document := by
  have owned : document.Owned := reached.owned
  exact ⟨Operation.execute_cases owned,
    fun _ _ _ found lives => Operation.becomes_runFrom owned found lives,
    fun _ _ _ _ found isStamp => Operation.stamped_of_stamp owned found isStamp,
    fun _ edits noStamp => Operation.after_eq_self_of_no_stamp edits noStamp⟩

/-- A node lives through a run in which the slot of its child is freed and taken again. It gets a
tag twice, which stamps it once; edits of other slots, one of them vacant, do not stamp it, nor do
new references. A child of a vacant slot is refused, and a missing attribute is not removed. -/
theorem edits_stay_local_reused :
    let record := fun number => Record.plain (.ofNat number) "" .last .last
    let document := Operation.run [.addRoot (record 1), .addChild 0 (record 2)]
    let now : Instant := ⟨0, 0, by decide⟩
    let further : Instant := ⟨1, 0, by decide⟩
    let operations : List Operation :=
      [.addTag now 0 "a", .removeTree 1, .addChild 0 (record 3), .addTag further 0 "a",
        .setText further 1 "b", .setText further 7 "c", .populate 0 [.ofNat 3]]
    Reachable document ∧ document.LivesThrough operations 0 ∧
      ((Operation.runFrom document operations).node? 1).map (·.id) = some (.ofNat 3) ∧
      (∃ later, (Operation.runFrom document operations).node? 0 = some later ∧
        later.id = .ofNat 1 ∧ later.metadata.created = .last ∧ later.metadata.modified = now) ∧
      document.Stamped 0 now ((Operation.addTag now 0 "a").after document) ∧
      (∃ failure, (Operation.addChild 7 (record 4)).execute document = .error failure document) ∧
      (Operation.eraseAttribute now 0 "a").after document = document := by
  intro record document now further operations
  have reached : Reachable document := .run fun _ _ => trivial
  obtain ⟨outcomes, lives, stamped, unstamped⟩ := Reachable.edits_stay_local reached
  obtain ⟨node, found, isFirst⟩ : ∃ node, document.node? 0 = some node ∧
      (node.id, node.metadata) = ((record 1).id, (record 1).metadata) :=
    Option.map_eq_some_iff.mp (by decide +kernel)
  have livesThrough : document.LivesThrough operations 0 := by
    have all : ∀ first ∈ operations.inits,
        ((Operation.runFrom document first).node? 0).isSome = true := by
      decide +kernel
    intro first isFirst
    exact Option.isSome_iff_exists.mp (all first ((List.mem_inits _ _).mpr isFirst))
  have lastStamp : Operation.lastStamp? 0 document operations = some now := by decide +kernel
  have isStamp : (document.node? 0).bind ((Operation.addTag now 0 "a").stamp? 0) = some now := by
    decide +kernel
  have noStamp :
      (document.node? 0).bind ((Operation.eraseAttribute now 0 "a").stamp? 0) = none := by
    decide +kernel
  rw [found] at isStamp noStamp
  obtain ⟨later, isLater, id, created, modified⟩ := lives operations 0 node found livesThrough
  rw [lastStamp] at modified
  refine ⟨reached, livesThrough, by decide +kernel, ⟨later, isLater, ?_, ?_, modified⟩,
    (stamped (.addTag now 0 "a") 0 node now found isStamp).2, ?_, ?_⟩
  · exact id.trans (congrArg Prod.fst isFirst)
  · exact created.trans (congrArg (fun pair => pair.2.created) isFirst)
  · rcases outcomes (.addChild 7 (record 4)) with succeeded | ⟨failure, failed, -⟩
    · have refused : (match (Operation.addChild 7 (record 4)).execute document with
          | .ok .. => true
          | .error .. => false) = false := by
        decide +kernel
      rw [succeeded] at refused
      cases refused
    · exact ⟨failure, failed⟩
  · refine unstamped _ rfl fun slot other isOther => ?_
    by_cases same : slot = 0
    · subst same
      obtain rfl := Option.some.inj (found.symm.trans isOther)
      exact noStamp
    · exact Operation.stamp?_of_edit_of_ne rfl (Ne.symm same) other

end Outliner
