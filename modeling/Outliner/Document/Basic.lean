import Outliner.Document.Node
import Outliner.Failure
import Outliner.Store.Arena

/-!
Contract: documents, ordered forests of nodes in a slot store.

Owns: the type `Document` with its identifier index, and access to single nodes.

Does not own: edits (`Document.Edit`), the walk over the forest
(`Document.Tree`), look-up by identifier (`Document.Lookup`) and virtual
references (`Document.Links`).
-/

namespace Outliner

open Outliner.Store

/-- An index from identifiers to slots, as of one generation of a document. The
entries of higher slots come first. -/
structure SlotIndex where
  entries : List (NodeId × Nat)
  generation : Nat
deriving DecidableEq

/-- A document. `generation` counts the changes of the forest, so that an index
of an earlier generation is known to be outdated. -/
structure Document where
  nodes : Arena Node
  roots : List Nat
  index : Option SlotIndex
  generation : Nat
deriving DecidableEq

namespace Document

def empty : Document := ⟨.empty, [], none, 0⟩

def node? (document : Document) (slot : Nat) : Option Node :=
  document.nodes.get? slot

/-- The node in a slot that has to hold one. -/
def requireNode (document : Document) (slot : Nat) : Except Failure Node :=
  match document.node? slot with
  | some node => .ok node
  | none => .error (.noNode slot)

def size (document : Document) : Nat :=
  document.nodes.len

def update (document : Document) (slot : Nat) (change : Node → Node) : Document :=
  { document with nodes := document.nodes.modify slot change }

def change (document : Document) (slot : Nat) (change : Node → Node) :
    Except Failure Document :=
  (document.requireNode slot).map fun _ => document.update slot change

/-- An update is seen in its slot and nowhere else. -/
theorem node?_update (document : Document) (slot : Nat) (change : Node → Node) (other : Nat) :
    (document.update slot change).node? other =
      if other = slot then (document.node? other).map change else document.node? other :=
  Arena.get?_modify document.nodes slot change other

end Document

end Outliner
