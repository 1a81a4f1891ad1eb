import Outliner.Document.Links
import Outliner.Search.Settings

/-!
Contract: the operations on a document as procedures that write to it in place.

Owns: the type `Procedure`, and for each operation that can fail its checks and its writes in
their order, with the loop that frees a tree. A procedure that fails stops there, and what it
has written before stays written.

Does not own: the documents that the operations lead to (`Document.Edit`, `Document.Links`).
Those functions return no document with a failure, so they cannot say what it leaves behind.
-/

namespace Outliner

open Outliner.Calendar Outliner.Search Outliner.Store

/-- Work on a document in place. A failure comes with the document as it is by then. -/
abbrev Procedure : Type → Type :=
  EStateM Failure Document

namespace Procedure

def require (slot : Nat) : Procedure Node := do
  match (← get).node? slot with
  | some node => return node
  | none => throw (.noNode slot)

def alter (slot : Nat) (change : Node → Node) : Procedure Unit :=
  modify fun document => document.update slot change

def allocate (node : Node) : Procedure Nat :=
  modifyGet fun document =>
    let (slot, nodes) := document.nodes.insert node
    (slot, { document with nodes })

/-- Marks the forest as changed. -/
def advance : Procedure Unit :=
  modify fun document => { document with generation := document.generation + 1 }

def addRoot (record : Record) : Procedure Nat := do
  let slot ← allocate (record.toNode none)
  modify fun document => { document with roots := document.roots ++ [slot] }
  advance
  return slot

def addChild (parent : Nat) (record : Record) : Procedure Nat := do
  let _ ← require parent
  let slot ← allocate (record.toNode (some parent))
  alter parent (Node.appendChild slot)
  advance
  return slot

def addSearchNode (settings : SearchSettings) (id : NodeId) (now : Instant)
    (parent : Option Nat) (text query : String) : Procedure Nat :=
  let record := settings.record id now text query
  match parent with
  | some parent => addChild parent record
  | none => addRoot record

/-- Frees the slots on a stack until it is empty, and counts them. A slot without a node is
passed over; the children of a node go on top of the stack, the last one uppermost. -/
def freeAll (nodes : Arena Node) : List Nat → Nat × Arena Node
  | [] => (0, nodes)
  | slot :: pending =>
    match _ : nodes.erase? slot with
    | none => freeAll nodes pending
    | some (node, rest) =>
      let (count, left) := freeAll rest (node.children.reverse ++ pending)
      (count + 1, left)
termination_by stack => (nodes.occupancy, stack.length)
decreasing_by
  · exact .right _ (Nat.lt_succ_self _)
  · exact .left _ _ (Arena.occupancy_erase_lt ‹_›)

def removeTree (slot : Nat) : Procedure Nat := do
  let node ← require slot
  modify fun document => document.detach slot node.parent
  let count ← modifyGet fun document =>
    let (count, nodes) := freeAll document.nodes [slot]
    (count, { document with nodes })
  advance
  return count

def setText (now : Instant) (slot : Nat) (text : String) : Procedure Unit := do
  let _ ← require slot
  alter slot (Node.setText now text)

def setAttribute (now : Instant) (slot : Nat) (key value : String) : Procedure Unit := do
  let _ ← require slot
  alter slot (Node.setAttribute now key value)

def eraseAttribute (now : Instant) (slot : Nat) (key : String) :
    Procedure (Option String) := do
  let node ← require slot
  alter slot (Node.eraseAttribute now key)
  return node.attribute? key

def addTag (now : Instant) (slot : Nat) (tag : String) : Procedure Bool := do
  let node ← require slot
  alter slot (Node.addTag now tag)
  return !node.hasTag tag

def populate (slot : Nat) (ids : List NodeId) : Procedure Nat := do
  let node ← require slot
  alter slot <| Node.setReferences <| (ids.filter (· ≠ node.id)).foldl
    (fun kept id => if id ∈ kept then kept else kept ++ [id]) []
  modify Document.ensureIndex
  let referring ← get
  let path := referring.idsOf (referring.ancestors slot)
  modify fun document => (document.linkBelow slot path ⟨0, 0, 0, 0⟩).document
  let linked ← get
  return ((linked.node? slot).map (·.links.length)).getD 0

def flipCollapsed (slot : Nat) (target : NodeId) : Procedure Bool := do
  let node ← require slot
  if target ∈ node.references then
    alter slot (Node.flipCollapsed target)
    return !node.isCollapsed target
  else throw (.notReferenced target node.id)

end Procedure

end Outliner
