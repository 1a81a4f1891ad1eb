import Outliner.Document.Lookup
import Outliner.Document.Tree

/-!
Contract: turning references into links.

Owns: the resolution of one tree and of the whole document, the references of
search nodes, the virtual children, and which of them are shown closed.

Resolution visits the forest in pre-order and carries the set of identifiers on
the way from the root. A reference is linked unless its target is on that way,
or has a link back to the node, or does not exist. Links are not followed.

Does not own: the queries that choose the references of search nodes
(`Search.Refresh`).
-/

namespace Outliner

open Outliner.Store

structure LinkCounts where
  visited : Nat
  linked : Nat
  missing : Nat
  cyclic : Nat
deriving DecidableEq, Repr

/-- What becomes of one reference. -/
inductive Outcome where
  | linked (slot : Nat)
  | cyclic
  | missing
deriving DecidableEq, Repr

/-- The state of a resolution: the document so far, the identifiers on the way
from the root, and the counts. -/
structure Walk where
  document : Document
  path : List NodeId
  counts : LinkCounts
deriving DecidableEq

def addToPath (path : List NodeId) (id : NodeId) : List NodeId :=
  if id ∈ path then path else id :: path

namespace Document

def hasLinkTo (document : Document) (slot : Nat) (target : NodeId) : Bool :=
  (document.node? slot).any (·.hasLinkTo target)

/-- What becomes of a reference of the node `owner` that is reached by `path`. -/
def outcome (document : Document) (path : List NodeId) (owner reference : NodeId) : Outcome :=
  if reference ∈ path then .cyclic
  else match document.find? reference with
    | none => .missing
    | some slot => if document.hasLinkTo slot owner then .cyclic else .linked slot

def linkOf? (reference : NodeId) : Outcome → Option Link
  | .linked slot => some ⟨slot, reference⟩
  | _ => none

def linksOf (document : Document) (path : List NodeId) (node : Node) : List Link :=
  node.references.filterMap fun reference =>
    linkOf? reference (document.outcome path node.id reference)

/-- How many references of a node have an outcome of some kind. -/
def countOutcomes (document : Document) (path : List NodeId) (node : Node)
    (kind : Outcome → Bool) : Nat :=
  node.references.countP fun reference => kind (document.outcome path node.id reference)

end Document

namespace Walk

def linkNode (walk : Walk) (slot : Nat) (node : Node) : Walk :=
  let path := addToPath walk.path node.id
  let links := walk.document.linksOf path node
  let count := walk.document.countOutcomes path node
  { document := walk.document.update slot (Node.setLinks links), path,
    counts := {
      visited := walk.counts.visited + 1,
      linked := walk.counts.linked + links.length,
      missing := walk.counts.missing + count (· == .missing),
      cyclic := walk.counts.cyclic + count (· == .cyclic) } }

/-- Leaves the node with an identifier: it is no longer on the way. -/
def leave (walk : Walk) (id : NodeId) : Walk :=
  { walk with path := walk.path.filter (· ≠ id) }

mutual

def linkTree (walk : Walk) : Tree → Walk
  | .branch slot children =>
    match walk.document.node? slot with
    | none => walk
    | some node => (linkTrees (walk.linkNode slot node) children).leave node.id

/-- Resolves the nodes of trees, one tree after another. -/
def linkTrees (walk : Walk) : List Tree → Walk
  | [] => walk
  | tree :: rest => linkTrees (linkTree walk tree) rest

end

end Walk

namespace Document

/-- Resolves the tree below a slot that is reached by `path`. -/
def linkBelow (document : Document) (slot : Nat) (path : List NodeId) (counts : LinkCounts) :
    Walk :=
  match document.tree? slot with
  | some tree => Walk.linkTree ⟨document, path, counts⟩ tree
  | none => ⟨document, path, counts⟩

def clearLinks (document : Document) : Document :=
  { document with nodes := document.nodes.mapValues (Node.setLinks []) }

/-- Resolves the trees of some roots, each with a way of its own. -/
def linkRoots (document : Document) (counts : LinkCounts) : List Nat → LinkCounts × Document
  | [] => (counts, document)
  | root :: rest =>
    let walk := document.linkBelow root [] counts
    walk.document.linkRoots walk.counts rest

/-- Builds all links anew. -/
def relink (document : Document) : LinkCounts × Document :=
  let cleared := document.ensureIndex.clearLinks
  cleared.linkRoots ⟨0, 0, 0, 0⟩ cleared.roots

def idsOf (document : Document) (slots : List Nat) : List NodeId :=
  slots.filterMap fun slot => (document.node? slot).map (·.id)

/-- Replaces the references of a node by a list without its own identifier and
without repetitions, resolves the tree below it, and counts its links. -/
def populate (document : Document) (slot : Nat) (ids : List NodeId) :
    Except Failure (Nat × Document) :=
  (document.requireNode slot).map fun node =>
    let references := (ids.filter (· ≠ node.id)).foldl
      (fun kept id => if id ∈ kept then kept else kept ++ [id]) []
    let referring := (document.update slot (Node.setReferences references)).ensureIndex
    let path := referring.idsOf (referring.ancestors slot)
    let linked := (referring.linkBelow slot path ⟨0, 0, 0, 0⟩).document
    (((linked.node? slot).map (·.links.length)).getD 0, linked)

/-- The links of a node whose targets are still where they were. -/
def liveLinks (document : Document) (slot : Nat) : List Link :=
  ((document.node? slot).map Node.links).getD [] |>.filter fun link =>
    document.holds link.slot link.id

/-- The virtual children of a node with their slots: the nodes that its links name, where
they are still in the slots that the links lead to. -/
def virtualChildren (document : Document) (slot : Nat) : List (Nat × Node) :=
  ((document.node? slot).map Node.links).getD [] |>.filterMap fun link =>
    ((document.node? link.slot).filter (·.id == link.id)).map (link.slot, ·)

/-- Flips whether a virtual child is shown closed, and returns whether it is now. -/
def flipCollapsed (document : Document) (slot : Nat) (target : NodeId) :
    Except Failure (Bool × Document) :=
  (document.requireNode slot).bind fun node =>
    if target ∈ node.references then
      .ok (!node.isCollapsed target, document.update slot (Node.flipCollapsed target))
    else .error (.notReferenced target node.id)

end Document

end Outliner
