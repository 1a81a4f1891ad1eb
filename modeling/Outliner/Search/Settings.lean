import Outliner.Document.Edit

/-!
Contract: search nodes, which carry a query in an attribute.

Owns: the attributes that make a node a search node, the query of such a node,
adding one, and the search nodes of a document.

Does not own: running the queries (`Search.Refresh`) and reading the settings
from a file (`Search.SettingsFile`).
-/

namespace Outliner.Search

open Outliner.Calendar

/-- How search nodes are told from others and where their queries are. -/
structure SearchSettings where
  typeAttribute : String
  searchType : String
  queryAttribute : String
deriving DecidableEq, Repr

namespace SearchSettings

def standard : SearchSettings := ⟨"type", "search", "query"⟩

def selects (settings : SearchSettings) (node : Node) : Bool :=
  node.attribute? settings.typeAttribute == some settings.searchType

def query? (settings : SearchSettings) (node : Node) : Option String :=
  if settings.selects node then node.attribute? settings.queryAttribute else none

def record (settings : SearchSettings) (id : NodeId) (now : Instant) (text query : String) :
    Record :=
  ((Record.plain id text now now).bindAttribute settings.typeAttribute settings.searchType)
    |>.bindAttribute settings.queryAttribute query

def addNode (settings : SearchSettings) (document : Document) (id : NodeId) (now : Instant)
    (parent : Option Nat) (text query : String) : Except Failure (Nat × Document) :=
  let record := settings.record id now text query
  match parent with
  | some parent => document.addChild parent record
  | none => .ok (document.addRoot record)

/-- The slots of the search nodes, in pre-order. -/
def slots (settings : SearchSettings) (document : Document) : List Nat :=
  document.preorder.filter fun slot => (document.node? slot).any settings.selects

end SearchSettings

end Outliner.Search
