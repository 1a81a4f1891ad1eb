import Outliner.Document.Links
import Outliner.Query.CompiledQuery
import Outliner.Search.Match
import Outliner.Search.Settings

/-!
Contract: bringing the references of all search nodes up to date.

Owns: the references that a query gives, and the pass over the search nodes.
The search nodes are listed once at the start, in pre-order; each gets the nodes
that match its query at that moment. At the end all links are built anew.

A missing or blank query gives no references; neither does one that is not a
query, which is reported.

Does not own: how references become links (`Document.Links`).
-/

namespace Outliner.Search

open Outliner.Calendar Outliner.Query

/-- What a refresh did: how many search nodes got references, how many links
they had right after, and which queries could not be read. -/
structure RefreshSummary where
  refreshed : Nat
  linkCount : Nat
  failures : List (NodeId × Failure)
deriving DecidableEq

def queryMatches (scene : Scene) (query : String) : Except QueryError (List NodeId) :=
  (CompiledQuery.ofText query).map fun compiled =>
    if compiled.isBlank then [] else (matchingNodes scene compiled.expr).map (·.id)

structure Refreshing where
  document : Document
  summary : RefreshSummary

namespace Refreshing

def fail (state : Refreshing) (id : NodeId) (error : Failure) : Refreshing :=
  { state with summary :=
    { state.summary with failures := state.summary.failures ++ [(id, error)] } }

def populate (state : Refreshing) (slot : Nat) (id : NodeId) (ids : List NodeId) : Refreshing :=
  match state.document.populate slot ids with
  | .error error => state.fail id error
  | .ok (count, document) =>
    { document, summary := { state.summary with
      refreshed := state.summary.refreshed + 1,
      linkCount := state.summary.linkCount + count } }

/-- Brings the search node in a slot up to date. -/
def refreshNode (settings : SearchSettings) (zone : Zone) (now : Instant) (state : Refreshing)
    (slot : Nat) : Refreshing :=
  match state.document.node? slot with
  | none => state
  | some node =>
    match queryMatches (Scene.ofNow state.document zone now)
      ((settings.query? node).getD "") with
    | .ok ids => state.populate slot node.id ids
    | .error error => (state.fail node.id (.query error)).populate slot node.id []

end Refreshing

/-- Brings all search nodes up to date and builds all links anew. -/
def refresh (settings : SearchSettings) (zone : Zone) (now : Instant) (document : Document) :
    RefreshSummary × Document :=
  let state := (settings.slots document).foldl (Refreshing.refreshNode settings zone now)
    ⟨document, ⟨0, 0, []⟩⟩
  (state.summary, state.document.relink.2)

end Outliner.Search
