import Mathlib.Data.List.Induction
import Mathlib.Data.List.Infix
import Mathlib.Logic.Relation
import Outliner.Proofs.Document.Bare
import Outliner.Search.Refresh

/-!
Contract: the documents that histories of operations lead to.

Owns: the operations on a document, the documents they reach from the empty one, and
what one operation can do: one node more, a tree less, other contents of one node, or
work on references, links and the index.

Main statements: `Operation.change` says that nothing else can happen, and
`ReachableWhile.invariant` is the induction over histories that rests on it.

Does not own: what work on links does to them (`Proofs.Links.Populated`,
`Proofs.Links.Relink`).
-/

namespace Outliner

open Outliner.Calendar Outliner.Search

inductive Operation where
  | addRoot (record : Record)
  | addChild (parent : Nat) (record : Record)
  | addSearchNode (settings : SearchSettings) (id : NodeId) (now : Instant) (parent : Option Nat)
      (text query : String)
  | removeTree (slot : Nat)
  | setText (now : Instant) (slot : Nat) (text : String)
  | setAttribute (now : Instant) (slot : Nat) (key value : String)
  | eraseAttribute (now : Instant) (slot : Nat) (key : String)
  | addTag (now : Instant) (slot : Nat) (tag : String)
  | rebuildIndex
  | dropIndex
  | populate (slot : Nat) (ids : List NodeId)
  | relink
  | flipCollapsed (slot : Nat) (target : NodeId)
  | refresh (settings : SearchSettings) (zone : Zone) (now : Instant)

namespace Operation

/-- The document that an operation leaves, if it does not fail. -/
def perform (document : Document) : Operation → Except Failure Document
  | .addRoot record => .ok (document.addRoot record).2
  | .addChild parent record => (document.addChild parent record).map Prod.snd
  | .addSearchNode settings id now parent text query =>
    (settings.addNode document id now parent text query).map Prod.snd
  | .removeTree slot => (document.removeTree slot).map Prod.snd
  | .setText now slot text => document.setText now slot text
  | .setAttribute now slot key value => document.setAttribute now slot key value
  | .eraseAttribute now slot key => (document.eraseAttribute now slot key).map Prod.snd
  | .addTag now slot tag => (document.addTag now slot tag).map Prod.snd
  | .rebuildIndex => .ok document.rebuildIndex
  | .dropIndex => .ok document.dropIndex
  | .populate slot ids => (document.populate slot ids).map Prod.snd
  | .relink => .ok document.relink.2
  | .flipCollapsed slot target => (document.flipCollapsed slot target).map Prod.snd
  | .refresh settings zone now => .ok (Search.refresh settings zone now document).2

/-- The document after an operation. One that fails changes nothing. -/
def after (operation : Operation) (document : Document) : Document :=
  match operation.perform document with
  | .ok changed => changed
  | .error _ => document

def run (operations : List Operation) : Document :=
  operations.foldl (fun document operation => operation.after document) .empty

def runFrom (document : Document) (operations : List Operation) : Document :=
  operations.foldl (fun document operation => operation.after document) document

def editsContent : Operation → Bool
  | .setText .. | .setAttribute .. | .eraseAttribute .. | .addTag .. => true
  | _ => false

def worksOnLinks : Operation → Bool
  | .rebuildIndex | .dropIndex | .populate .. | .relink | .flipCollapsed .. | .refresh .. => true
  | _ => false

end Operation

/-- A document that some history leads to, where `good` holds of every document on the
way. -/
inductive ReachableWhile (good : Document → Prop) : Document → Prop where
  | empty (isGood : good .empty) : ReachableWhile good .empty
  | step {document : Document} (operation : Operation) (reached : ReachableWhile good document)
      (isGood : good (operation.after document)) : ReachableWhile good (operation.after document)

/-- A document that some history leads to. -/
abbrev Reachable : Document → Prop :=
  ReachableWhile fun _ => True

/-- A change of a node that keeps everything but its text and its metadata. -/
def ContentOnly (change : Node → Node) : Prop :=
  ∀ node, ∃ text metadata, (change node : Node) = { node with text, metadata }

namespace Document

/-- A piece of work on references, links and the index. -/
inductive LinkStep (before : Document) : Document → Prop where
  | indexed (index : Option SlotIndex) : LinkStep before { before with index }
  | populated {slot count : Nat} {ids : List NodeId} {after : Document}
      (populated : before.populate slot ids = .ok (count, after)) : LinkStep before after
  | relinked : LinkStep before before.relink.2
  | flipped {slot : Nat} {target : NodeId} {closed : Bool} {after : Document}
      (flipped : before.flipCollapsed slot target = .ok (closed, after)) : LinkStep before after

/-- Any amount of work on references, links and the index. -/
abbrev LinkWork : Document → Document → Prop :=
  Relation.ReflTransGen LinkStep

/-- What one operation can do to a document. -/
inductive Change (before : Document) : Document → Prop where
  | grown {record : Record} {parent : Option Nat} {slot : Nat} {after : Document}
      (grown : Grown before record parent slot after) : Change before after
  | pruned {slot : Nat} {after : Document} (pruned : Pruned before slot after) :
      Change before after
  | edited (slot : Nat) {change : Node → Node} (content : ContentOnly change) :
      Change before (before.update slot change)
  | linked {after : Document} (work : LinkWork before after) : Change before after

end Document

/-! ## Contents -/

/-- A change of contents leaves a node in its place. -/
theorem ContentOnly.placement {change : Node → Node} (content : ContentOnly change)
    (node : Node) : (change node).placement = node.placement := by
  obtain ⟨text, metadata, changed⟩ := content node
  rw [changed]
  rfl

theorem ContentOnly.id {change : Node → Node} (content : ContentOnly change) (node : Node) :
    (change node).id = node.id := by
  obtain ⟨text, metadata, changed⟩ := content node
  rw [changed]

theorem ContentOnly.references {change : Node → Node} (content : ContentOnly change)
    (node : Node) : (change node).references = node.references := by
  obtain ⟨text, metadata, changed⟩ := content node
  rw [changed]

theorem ContentOnly.links {change : Node → Node} (content : ContentOnly change) (node : Node) :
    (change node).links = node.links := by
  obtain ⟨text, metadata, changed⟩ := content node
  rw [changed]

theorem contentOnly_setText (now : Instant) (text : String) :
    ContentOnly (Node.setText now text) :=
  fun node => ⟨text, { node.metadata with modified := now }, rfl⟩

theorem contentOnly_setAttribute (now : Instant) (key value : String) :
    ContentOnly (Node.setAttribute now key value) :=
  fun _ => ⟨_, _, rfl⟩

theorem contentOnly_eraseAttribute (now : Instant) (key : String) :
    ContentOnly (Node.eraseAttribute now key) := by
  intro node
  unfold Node.eraseAttribute
  split <;> exact ⟨_, _, rfl⟩

theorem contentOnly_addTag (now : Instant) (tag : String) : ContentOnly (Node.addTag now tag) := by
  intro node
  unfold Node.addTag
  split <;> exact ⟨_, _, rfl⟩

/-! ## Links -/

namespace Document

variable {document before after : Document}

theorem LinkStep.bare_eq (work : LinkStep before after) : after.bare = before.bare := by
  cases work with
  | indexed index => rfl
  | populated populated => exact bare_populate populated
  | relinked => exact bare_relink before
  | flipped flipped => exact bare_flipCollapsed flipped

/-- Work on references, links and the index is not seen in the bare document. -/
theorem LinkWork.bare_eq (work : LinkWork before after) : after.bare = before.bare := by
  induction work with
  | refl => rfl
  | tail _ last inductionHypothesis => exact last.bare_eq.trans inductionHypothesis

theorem linkWork_refreshNode (settings : SearchSettings) (zone : Zone) (now : Instant)
    (state : Refreshing) (slot : Nat) :
    LinkWork state.document (Refreshing.refreshNode settings zone now state slot).document := by
  have populated : ∀ (state : Refreshing) (id : NodeId) (ids : List NodeId),
      LinkWork state.document (state.populate slot id ids).document := by
    intro state id ids
    unfold Refreshing.populate
    split
    · exact .refl
    · rename_i count after populated
      exact .single (.populated populated)
  unfold Refreshing.refreshNode
  split
  · exact .refl
  · split
    · exact populated state _ _
    · exact populated (state.fail _ _) _ _

theorem linkWork_refreshNodes (settings : SearchSettings) (zone : Zone) (now : Instant)
    (slots : List Nat) (state : Refreshing) :
    LinkWork state.document
      (slots.foldl (Refreshing.refreshNode settings zone now) state).document := by
  induction slots generalizing state with
  | nil => exact .refl
  | cons slot rest inductionHypothesis =>
      exact (linkWork_refreshNode settings zone now state slot).trans (inductionHypothesis _)

/-- A refresh is work on references and links. -/
theorem linkWork_refresh (settings : SearchSettings) (zone : Zone) (now : Instant)
    (document : Document) : LinkWork document (Search.refresh settings zone now document).2 :=
  (linkWork_refreshNodes settings zone now (settings.slots document)
    ⟨document, ⟨0, 0, []⟩⟩).tail .relinked

/-! ## Changes -/

/-- Every change keeps every node owned exactly once. -/
theorem Change.owned (change : Change before after) (owned : before.Owned) : after.Owned := by
  cases change with
  | grown grown => exact grown.owned owned
  | pruned pruned => exact pruned.owned owned
  | edited slot content => exact owned.update content.placement slot
  | linked work => exact owned.of_bare_eq work.bare_eq

end Document

open Document

variable {document changed : Document} {operation : Operation}

/-- An operation that edits contents changes one node. -/
theorem exists_update_of_perform (edits : operation.editsContent = true)
    (performed : operation.perform document = .ok changed) :
    ∃ slot change, ContentOnly change ∧ changed = document.update slot change := by
  cases operation with
  | setText now slot text =>
      obtain ⟨-, -, rfl⟩ := requireNode_map_ok performed
      exact ⟨slot, _, contentOnly_setText now text, rfl⟩
  | setAttribute now slot key value =>
      obtain ⟨-, -, rfl⟩ := requireNode_map_ok performed
      exact ⟨slot, _, contentOnly_setAttribute now key value, rfl⟩
  | eraseAttribute now slot key =>
      obtain ⟨value, erased⟩ := map_snd_ok performed
      obtain ⟨_, _, equal⟩ := requireNode_map_ok erased
      obtain rfl := congrArg Prod.snd equal
      exact ⟨slot, _, contentOnly_eraseAttribute now key, rfl⟩
  | addTag now slot tag =>
      obtain ⟨isNew, added⟩ := map_snd_ok performed
      obtain ⟨_, _, equal⟩ := requireNode_map_ok added
      obtain rfl := congrArg Prod.snd equal
      exact ⟨slot, _, contentOnly_addTag now tag, rfl⟩
  | _ => cases edits

theorem linkWork_of_perform (works : operation.worksOnLinks = true)
    (performed : operation.perform document = .ok changed) : LinkWork document changed := by
  cases operation with
  | rebuildIndex | dropIndex =>
      obtain rfl := Except.ok.inj performed
      exact .single (.indexed _)
  | populate slot ids =>
      obtain ⟨count, populated⟩ := map_snd_ok performed
      exact .single (.populated populated)
  | relink =>
      obtain rfl := Except.ok.inj performed
      exact .single .relinked
  | flipCollapsed slot target =>
      obtain ⟨closed, flipped⟩ := map_snd_ok performed
      exact .single (.flipped flipped)
  | refresh settings zone now =>
      obtain rfl := Except.ok.inj performed
      exact linkWork_refresh settings zone now document
  | _ => cases works

/-- Any number of operations on links is work on links. -/
theorem linkWork_runFrom {operations : List Operation}
    (work : ∀ operation ∈ operations, operation.worksOnLinks = true) (document : Document) :
    LinkWork document (Operation.runFrom document operations) := by
  induction operations generalizing document with
  | nil => exact .refl
  | cons operation rest inductionHypothesis =>
      have first : LinkWork document (operation.after document) := by
        unfold Operation.after
        split
        · rename_i changed performed
          exact linkWork_of_perform (work operation List.mem_cons_self) performed
        · exact .refl
      exact first.trans (inductionHypothesis
        (fun other isRest => work other (List.mem_cons_of_mem operation isRest)) _)

theorem addNode_grown (owned : document.Owned) {settings : SearchSettings} {id : NodeId}
    {now : Instant} {parent : Option Nat} {text query : String} {slot : Nat}
    (added : settings.addNode document id now parent text query = .ok (slot, changed)) :
    Grown document (settings.record id now text query) parent slot changed := by
  cases parent with
  | none =>
      obtain ⟨rfl, rfl⟩ := Prod.mk.inj (Except.ok.inj added)
      exact addRoot_grown owned _
  | some parent => exact addChild_grown owned added

/-- What an operation can do is one of the four kinds of changes. -/
theorem change_of_perform (owned : document.Owned)
    (performed : operation.perform document = .ok changed) : Change document changed := by
  cases operation with
  | addRoot record =>
      obtain rfl := Except.ok.inj performed
      exact .grown (addRoot_grown owned record)
  | addChild parent record =>
      obtain ⟨slot, added⟩ := map_snd_ok performed
      exact .grown (addChild_grown owned added)
  | addSearchNode settings id now parent text query =>
      obtain ⟨slot, added⟩ := map_snd_ok performed
      exact .grown (addNode_grown owned added)
  | removeTree slot =>
      obtain ⟨count, removed⟩ := map_snd_ok performed
      exact .pruned (removeTree_pruned owned removed)
  | setText | setAttribute | eraseAttribute | addTag =>
      obtain ⟨slot, change, content, rfl⟩ := exists_update_of_perform rfl performed
      exact .edited slot content
  | rebuildIndex | dropIndex | populate | relink | flipCollapsed | refresh =>
      exact .linked (linkWork_of_perform rfl performed)

/-- An operation adds a node, removes a tree, edits one node, or works on links; if it
fails, it does none of these. -/
theorem Operation.change (operation : Operation) (owned : document.Owned) :
    Change document (operation.after document) := by
  unfold Operation.after
  split
  · rename_i changed performed
    exact change_of_perform owned performed
  · exact .linked .refl

/-! ## Histories -/

theorem empty_owned : Document.empty.Owned where
  sound := Store.Arena.empty_sound
  roots_nodup := List.nodup_nil
  mem_roots slot := by
    constructor
    · nofun
    · rintro ⟨⟨node, found⟩, -⟩
      cases (Store.Arena.get?_empty slot).symm.trans found
  children_nodup slot node found := by
    cases (Store.Arena.get?_empty slot).symm.trans found
  mem_children slot node found := by
    cases (Store.Arena.get?_empty slot).symm.trans found
  rooted slot live := by
    obtain ⟨node, found⟩ := live
    cases (Store.Arena.get?_empty slot).symm.trans found

namespace ReachableWhile

variable {good : Document → Prop}

theorem isGood (reached : ReachableWhile good document) : good document := by
  cases reached with
  | empty isGood => exact isGood
  | step _ _ isGood => exact isGood

/-- Every node of a document with a history is owned exactly once. -/
theorem owned (reached : ReachableWhile good document) : document.Owned := by
  induction reached with
  | empty => exact empty_owned
  | step operation _ _ inductionHypothesis =>
      exact (operation.change inductionHypothesis).owned inductionHypothesis

/-- What holds of the empty document and survives every change holds at the end of every
history. -/
theorem invariant {holds : Document → Prop} (initially : holds .empty)
    (kept : ∀ before after, before.Owned → good before → good after → Change before after →
      holds before → holds after)
    (reached : ReachableWhile good document) : holds document := by
  induction reached with
  | empty => exact initially
  | step operation reached isGood inductionHypothesis =>
      exact kept _ _ reached.owned reached.isGood isGood (operation.change reached.owned)
        inductionHypothesis

/-- A list of operations is a history if what is asked for holds after each of them. -/
theorem run {operations : List Operation}
    (isGood : ∀ first ∈ operations.inits, good (Operation.run first)) :
    ReachableWhile good (Operation.run operations) := by
  induction operations using List.reverseRecOn with
  | nil => exact .empty (isGood [] ((List.mem_inits _ _).mpr (List.prefix_refl [])))
  | append_singleton first operation inductionHypothesis =>
      have reached : ReachableWhile good (Operation.run first) := by
        apply inductionHypothesis
        intro start isStart
        apply isGood
        exact (List.mem_inits _ _).mpr (((List.mem_inits _ _).mp isStart).trans (List.prefix_append _ _))
      have last : Operation.run (first ++ [operation]) =
          operation.after (Operation.run first) := by
        simp [Operation.run]
      rw [last]
      apply ReachableWhile.step operation reached
      rw [← last]
      exact isGood _ ((List.mem_inits _ _).mpr (List.prefix_refl _))

end ReachableWhile

end Outliner
