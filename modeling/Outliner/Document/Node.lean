import Outliner.Calendar.Instant
import Outliner.Document.NodeId
import Outliner.Text.Ascending

/-!
Contract: the nodes of an outline.

Owns: what is kept of a node when it is saved (`Record`), what a document adds
while the node lives in it (`Node`), and the changes of a single node.

Does not own: the tree that the nodes form and how references become links.
-/

namespace Outliner

open Outliner.Calendar Outliner.Text

structure Metadata where
  tags : TextSet
  attributes : TextMap
  created : Instant
  modified : Instant
deriving DecidableEq

/-- What is saved of a node. `references` name other nodes that are shown as its
virtual children. -/
structure Record where
  id : NodeId
  text : String
  metadata : Metadata
  references : List NodeId
deriving DecidableEq

/-- A reference that was found: the slot of its target, and the identifier that
the slot had to hold for the link to be live. -/
structure Link where
  slot : Nat
  id : NodeId
deriving DecidableEq

/-- A node in a document. The links come from the references by resolution;
`collapsed` are the references that are shown closed. -/
structure Node extends Record where
  parent : Option Nat
  children : List Nat
  links : List Link
  collapsed : List NodeId
deriving DecidableEq

namespace Record

/-- A record without tags, attributes and references. -/
def plain (id : NodeId) (text : String) (created modified : Instant) : Record :=
  ⟨id, text, ⟨.empty, .empty, created, modified⟩, []⟩

def bindAttribute (record : Record) (key value : String) : Record :=
  { record with metadata :=
    { record.metadata with attributes := record.metadata.attributes.insert key value } }

def toNode (record : Record) (parent : Option Nat) : Node :=
  { record with parent, children := [], links := [], collapsed := [] }

end Record

namespace Node

def attribute? (node : Node) (key : String) : Option String :=
  node.metadata.attributes.get? key

def hasTag (node : Node) (tag : String) : Bool :=
  node.metadata.tags.contains tag

def isCollapsed (node : Node) (target : NodeId) : Bool :=
  node.collapsed.contains target

def stamp (now : Instant) (node : Node) : Node :=
  { node with metadata := { node.metadata with modified := now } }

def setText (now : Instant) (text : String) (node : Node) : Node :=
  stamp now { node with text }

def setAttribute (now : Instant) (key value : String) (node : Node) : Node :=
  stamp now { node with metadata :=
    { node.metadata with attributes := node.metadata.attributes.insert key value } }

/-- Removes an attribute. A node without it is not touched. -/
def eraseAttribute (now : Instant) (key : String) (node : Node) : Node :=
  if (node.attribute? key).isSome then
    stamp now { node with metadata :=
      { node.metadata with attributes := node.metadata.attributes.erase key } }
  else node

/-- Adds a tag. A node that has it is not touched. -/
def addTag (now : Instant) (tag : String) (node : Node) : Node :=
  if node.hasTag tag then node
  else stamp now { node with metadata :=
    { node.metadata with tags := node.metadata.tags.insert tag } }

/-- Appends a child, unless it is there. -/
def appendChild (child : Nat) (node : Node) : Node :=
  if child ∈ node.children then node else { node with children := node.children ++ [child] }

def dropChild (child : Nat) (node : Node) : Node :=
  { node with children := node.children.erase child }

def setReferences (references : List NodeId) (node : Node) : Node :=
  { node with references }

/-- Replaces the links. What is shown closed but no longer referred to is
forgotten. -/
def setLinks (links : List Link) (node : Node) : Node :=
  { node with links, collapsed := node.collapsed.filter (· ∈ node.references) }

def flipCollapsed (target : NodeId) (node : Node) : Node :=
  if node.isCollapsed target then
    { node with collapsed := node.collapsed.filter (· ≠ target) }
  else { node with collapsed := target :: node.collapsed }

def hasLinkTo (node : Node) (target : NodeId) : Bool :=
  node.links.any (·.id == target)

end Node

end Outliner
