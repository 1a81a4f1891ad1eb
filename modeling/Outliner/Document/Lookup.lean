import Outliner.Document.Basic

/-!
Contract: finding nodes by their identifiers.

Owns: the index of a document, when it is rebuilt, and the look-up. A hit of the
index counts only if the slot still holds that identifier; otherwise the nodes
are searched in the order of their slots.

Does not own: which operations make the index outdated (`Document.Edit`).
-/

namespace Outliner

open Outliner.Store

/-- The index of the nodes in a store. Where nodes share an identifier, the
highest slot comes first. -/
def SlotIndex.build (nodes : Arena Node) (generation : Nat) : SlotIndex :=
  ⟨(nodes.toList.map fun (slot, node) => (node.id, slot)).reverse, generation⟩

def SlotIndex.slot? (index : SlotIndex) (id : NodeId) : Option Nat :=
  index.entries.lookup id

namespace Document

def rebuildIndex (document : Document) : Document :=
  { document with index := some (SlotIndex.build document.nodes document.generation) }

def dropIndex (document : Document) : Document :=
  { document with index := none }

/-- Whether there is an index, outdated or not. -/
def hasIndex (document : Document) : Bool :=
  document.index.isSome

/-- Builds the index anew unless it is of the current generation. -/
def ensureIndex (document : Document) : Document :=
  if document.index.map SlotIndex.generation = some document.generation then document
  else document.rebuildIndex

def holds (document : Document) (slot : Nat) (id : NodeId) : Bool :=
  (document.node? slot).any (·.id == id)

def scanFor (document : Document) (id : NodeId) : Option Nat :=
  (document.nodes.toList.find? fun (_, node) => node.id == id).map Prod.fst

def find? (document : Document) (id : NodeId) : Option Nat :=
  match document.index.bind (·.slot? id) with
  | some slot => if document.holds slot id then some slot else document.scanFor id
  | none => document.scanFor id

end Document

end Outliner
