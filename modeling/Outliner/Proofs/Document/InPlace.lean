import Outliner.Procedure
import Outliner.Proofs.Document.Blocks

/-!
Contract: procedures write all or nothing.

Owns: the outcome of a procedure that leaves the document alone if it fails, that each procedure
has it and otherwise leads to the document that its operation returns, and the operations of a
history as procedures.

Main statement: `Operation.execute_cases`.

Does not own: what the operations do (`Proofs.Document.Ownership`, `Proofs.Document.Blocks`,
`Proofs.Links.Populated`, `Proofs.Links.Flipping`).
-/

namespace Outliner

open Outliner.Calendar Outliner.Search Outliner.Store

namespace Document

variable {α : Type} {document : Document} {slot : Nat}

/-- The outcome of a procedure that writes what an operation returns, and nothing if the
operation fails. -/
def settle (document : Document) :
    Except Failure (α × Document) → EStateM.Result Failure Document α
  | .ok (value, after) => .ok value after
  | .error failure => .error failure document

/-! ## Checks before writes -/

theorem require_apply (slot : Nat) (document : Document) :
    Procedure.require slot document =
      match document.node? slot with
      | some node => .ok node document
      | none => .error (.noNode slot) document := by
  change (match document.node? slot with
    | some node => (return node : Procedure Node)
    | none => throw (Failure.noNode slot)) document = _
  cases document.node? slot <;> rfl

/-- A procedure that requires a node before all else writes all or nothing if the rest does. -/
theorem settle_bind {next : Node → Procedure α} {result : Node → Except Failure (α × Document)}
    (further : ∀ node, document.node? slot = some node →
      next node document = document.settle (result node)) :
    (Procedure.require slot >>= next) document =
      document.settle ((document.requireNode slot).bind result) := by
  have required := require_apply slot document
  unfold requireNode
  change EStateM.bind (Procedure.require slot) next document = _
  unfold EStateM.bind
  rw [required]
  cases found : document.node? slot with
  | none => rfl
  | some node => exact further node found

/-- A procedure that requires a node before all else, and cannot fail then, writes all or
nothing. -/
theorem settle_map {next : Node → Procedure α} {result : Node → α × Document}
    (further : ∀ node, document.node? slot = some node →
      next node document = .ok (result node).1 (result node).2) :
    (Procedure.require slot >>= next) document =
      document.settle ((document.requireNode slot).map result) := by
  have bound : (Procedure.require slot >>= next) document =
      document.settle ((document.requireNode slot).bind fun node => .ok (result node)) :=
    settle_bind further
  rw [bound]
  cases document.requireNode slot <;> rfl

/-! ## The procedures -/

theorem addRoot_eq_settle (document : Document) (record : Record) :
    Procedure.addRoot record document = document.settle (.ok (document.addRoot record)) :=
  rfl

theorem addChild_eq_settle (document : Document) (parent : Nat) (record : Record) :
    Procedure.addChild parent record document =
      document.settle (document.addChild parent record) :=
  settle_map fun _ _ => rfl

theorem addSearchNode_eq_settle (document : Document) (settings : SearchSettings) (id : NodeId)
    (now : Instant) (parent : Option Nat) (text query : String) :
    Procedure.addSearchNode settings id now parent text query document =
      document.settle (settings.addNode document id now parent text query) := by
  cases parent with
  | none => exact document.addRoot_eq_settle _
  | some parent => exact document.addChild_eq_settle parent _

/-- A node that has to be there is changed, or nothing is. -/
theorem change_eq_settle (document : Document) (slot : Nat) (change : Node → Node) :
    (do let _ ← Procedure.require slot
        Procedure.alter slot change : Procedure Unit) document =
      document.settle ((document.change slot change).map fun after => ((), after)) := by
  calc _ = document.settle ((document.requireNode slot).map fun _ =>
          ((), document.update slot change)) := settle_map fun _ _ => rfl
    _ = _ := by
        unfold Document.change
        cases document.requireNode slot <;> rfl

theorem eraseAttribute_eq_settle (document : Document) (now : Instant) (slot : Nat)
    (key : String) : Procedure.eraseAttribute now slot key document =
      document.settle (document.eraseAttribute now slot key) :=
  settle_map fun _ _ => rfl

theorem addTag_eq_settle (document : Document) (now : Instant) (slot : Nat) (tag : String) :
    Procedure.addTag now slot tag document = document.settle (document.addTag now slot tag) :=
  settle_map fun _ _ => rfl

theorem populate_eq_settle (document : Document) (slot : Nat) (ids : List NodeId) :
    Procedure.populate slot ids document = document.settle (document.populate slot ids) :=
  settle_map fun _ _ => rfl

theorem flipCollapsed_eq_settle (document : Document) (slot : Nat) (target : NodeId) :
    Procedure.flipCollapsed slot target document =
      document.settle (document.flipCollapsed slot target) := by
  apply settle_bind
  intro node _
  split <;> rfl

/-- The loop that frees a tree ends, and does what its steps do. -/
theorem frees_freeAll (nodes : Arena Node) (stack : List Nat) :
    Frees nodes stack (Procedure.freeAll nodes stack).1 (Procedure.freeAll nodes stack).2 := by
  fun_induction Procedure.freeAll nodes stack with
  | case1 nodes => exact .done
  | case2 nodes slot pending vacant inductionHypothesis => exact .passed vacant inductionHypothesis
  | case3 nodes slot pending node rest erased count left isRest inductionHypothesis =>
      rw [isRest] at inductionHypothesis
      exact .freed erased inductionHypothesis

/-- Taking a slot out of the forest does not count as a change of it by itself. -/
theorem generation_detach (document : Document) (slot : Nat) (parent : Option Nat) :
    (document.detach slot parent).generation = document.generation := by
  cases parent <;> rfl

/-- The loop frees what a removal frees. -/
theorem Owned.removeTree_eq_settle (owned : document.Owned) (slot : Nat) :
    Procedure.removeTree slot document = document.settle (document.removeTree slot) := by
  apply settle_map
  intro node found
  obtain ⟨after, isRemoved⟩ := owned.exists_removeTree ⟨node, found⟩
  obtain ⟨same, isNode, equal⟩ := requireNode_map_ok isRemoved
  rw [found] at isNode
  obtain rfl := Option.some.inj isNode
  obtain ⟨isCount, isNodes⟩ := (owned.frees_iff found isRemoved).mp (frees_freeAll _ _)
  rw [equal]
  obtain ⟨-, rfl⟩ := Prod.mk.inj equal
  -- The loop runs on the nodes as they are once the node is taken out of the list that it is in.
  change EStateM.Result.ok (Procedure.freeAll (document.detach slot node.parent).nodes [slot]).1
    { document.detach slot node.parent with
      nodes := (Procedure.freeAll (document.detach slot node.parent).nodes [slot]).2
      generation := (document.detach slot node.parent).generation + 1 } = _
  rw [isCount, isNodes, generation_detach]

/-- What a procedure returns can be discarded on both sides. -/
theorem settle_discard {procedure : Procedure α} {result : Except Failure (α × Document)}
    (settled : procedure document = document.settle result) :
    (discard procedure) document =
      document.settle ((result.map Prod.snd).map fun after => ((), after)) := by
  change EStateM.map (Function.const α ()) procedure document = _
  unfold EStateM.map
  rw [settled]
  cases result <;> rfl

end Document

open Document

namespace Operation

def execute : Operation → Procedure Unit
  | .addRoot record => discard (Procedure.addRoot record)
  | .addChild parent record => discard (Procedure.addChild parent record)
  | .addSearchNode settings id now parent text query =>
    discard (Procedure.addSearchNode settings id now parent text query)
  | .removeTree slot => discard (Procedure.removeTree slot)
  | .setText now slot text => Procedure.setText now slot text
  | .setAttribute now slot key value => Procedure.setAttribute now slot key value
  | .eraseAttribute now slot key => discard (Procedure.eraseAttribute now slot key)
  | .addTag now slot tag => discard (Procedure.addTag now slot tag)
  | .rebuildIndex => modify Document.rebuildIndex
  | .dropIndex => modify Document.dropIndex
  | .populate slot ids => discard (Procedure.populate slot ids)
  | .relink => modify fun document => document.relink.2
  | .flipCollapsed slot target => discard (Procedure.flipCollapsed slot target)
  | .refresh settings zone now =>
    modify fun document => (Search.refresh settings zone now document).2

variable {document : Document}

/-- The procedure of an operation leads to the document that the operation returns, and leaves
the document alone where it fails. -/
theorem execute_eq_settle (owned : document.Owned) (operation : Operation) :
    operation.execute document =
      document.settle ((operation.perform document).map fun after => ((), after)) := by
  cases operation with
  | addRoot record => exact settle_discard (document.addRoot_eq_settle record)
  | addChild parent record => exact settle_discard (document.addChild_eq_settle parent record)
  | addSearchNode settings id now parent text query =>
      exact settle_discard (document.addSearchNode_eq_settle settings id now parent text query)
  | removeTree slot => exact settle_discard (owned.removeTree_eq_settle slot)
  | setText now slot text => exact document.change_eq_settle slot (Node.setText now text)
  | setAttribute now slot key value =>
      exact document.change_eq_settle slot (Node.setAttribute now key value)
  | eraseAttribute now slot key =>
      exact settle_discard (document.eraseAttribute_eq_settle now slot key)
  | addTag now slot tag => exact settle_discard (document.addTag_eq_settle now slot tag)
  | populate slot ids => exact settle_discard (document.populate_eq_settle slot ids)
  | flipCollapsed slot target =>
      exact settle_discard (document.flipCollapsed_eq_settle slot target)
  | rebuildIndex | dropIndex | relink | refresh => rfl

/-- A procedure succeeds and leaves what its operation returns, or it fails and leaves the whole
document as it was. -/
theorem execute_cases (owned : document.Owned) (operation : Operation) :
    operation.execute document = .ok () (operation.after document) ∨
      ∃ failure, operation.execute document = .error failure document ∧
        operation.after document = document := by
  rw [execute_eq_settle owned]
  unfold after
  cases operation.perform document with
  | ok changed => exact .inl rfl
  | error failure => exact .inr ⟨failure, rfl, rfl⟩

end Operation

end Outliner
