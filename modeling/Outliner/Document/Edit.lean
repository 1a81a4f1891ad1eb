import Outliner.Document.Tree

/-!
Contract: changes of the forest and of the contents of its nodes.

Owns: adding roots and children, removing a node with everything below it, and
the edits of one node. An edit that fails leaves the document as it was: the
error is all that is returned. Edits that mark a node as modified are given the
instant to mark it with.

Does not own: references and links (`Document.Links`).
-/

namespace Outliner.Document

open Outliner.Calendar Outliner.Store

/-- Adds a root after the others. -/
def addRoot (document : Document) (record : Record) : Nat × Document :=
  let (slot, nodes) := document.nodes.insert (record.toNode none)
  (slot, { document with
    nodes, roots := document.roots ++ [slot], generation := document.generation + 1 })

/-- Adds a child after the other children of a node. -/
def addChild (document : Document) (parent : Nat) (record : Record) :
    Except Failure (Nat × Document) :=
  (document.requireNode parent).map fun _ =>
    let (slot, nodes) := document.nodes.insert (record.toNode (some parent))
    (slot, { document with
      nodes := nodes.modify parent (Node.appendChild slot),
      generation := document.generation + 1 })

/-- Takes a slot out of the children of its parent, or out of the roots. -/
def detach (document : Document) (slot : Nat) (parent : Option Nat) : Document :=
  match parent with
  | some parent => document.update parent (Node.dropChild slot)
  | none => { document with roots := document.roots.filter (· ≠ slot) }

def release (nodes : Arena Node) (slots : List Nat) : Arena Node :=
  slots.foldl (fun nodes slot => ((nodes.erase? slot).map Prod.snd).getD nodes) nodes

/-- Removes a node with everything below it, and counts what was removed.
References to removed nodes stay. -/
def removeTree (document : Document) (slot : Nat) : Except Failure (Nat × Document) :=
  (document.requireNode slot).map fun node =>
    let slots := ((document.tree? slot).map Tree.removalOrder).getD []
    let detached := document.detach slot node.parent
    (slots.length, { detached with
      nodes := release detached.nodes slots, generation := document.generation + 1 })

def setText (document : Document) (now : Instant) (slot : Nat) (text : String) :
    Except Failure Document :=
  document.change slot (Node.setText now text)

def setAttribute (document : Document) (now : Instant) (slot : Nat) (key value : String) :
    Except Failure Document :=
  document.change slot (Node.setAttribute now key value)

/-- Removes an attribute of a node, and returns the value that it had. -/
def eraseAttribute (document : Document) (now : Instant) (slot : Nat) (key : String) :
    Except Failure (Option String × Document) :=
  (document.requireNode slot).map fun node =>
    (node.attribute? key, document.update slot (Node.eraseAttribute now key))

/-- Adds a tag to a node, and returns whether it is new there. -/
def addTag (document : Document) (now : Instant) (slot : Nat) (tag : String) :
    Except Failure (Bool × Document) :=
  (document.requireNode slot).map fun node =>
    (!node.hasTag tag, document.update slot (Node.addTag now tag))

end Outliner.Document
