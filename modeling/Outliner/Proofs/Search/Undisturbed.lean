import Outliner.Proofs.History
import Outliner.Proofs.Search.Matching

/-!
Contract: work on references, links and the index disturbs neither the outline nor queries.

Owns: what any number of such operations, failed ones among them, leave as it was.

Main statement: `outline_undisturbed`.

Does not own: what such operations do to references and links (`Proofs.Links.Populated`,
`Proofs.Links.Relink`, `Proofs.Links.Flipping`).
-/

namespace Outliner

open Outliner.Calendar Outliner.Query Outliner.Search

namespace Document

variable {before after : Document} {slot : Nat} {node : Node}

/-- The nodes are the same but for references, links and what is shown closed. -/
structure SameOutline (before after : Document) : Prop where
  roots : after.roots = before.roots
  live : ∀ slot, after.Live slot ↔ before.Live slot
  nodes : ∀ slot node current, before.node? slot = some node → after.node? slot = some current →
    current.id = node.id ∧ current.parent = node.parent ∧ current.children = node.children ∧
      current.text = node.text ∧ current.metadata.tags = node.metadata.tags ∧
      current.metadata.attributes = node.metadata.attributes ∧
      current.metadata.created = node.metadata.created ∧
      current.metadata.modified = node.metadata.modified

theorem sameOutline_of_bare_eq (same : after.bare = before.bare) : SameOutline before after where
  roots := congrArg (fun document => document.roots) same
  live slot := live_of_bare_eq same
  nodes slot node current found isCurrent := by
    obtain ⟨other, isOther, sameNode⟩ := exists_node?_of_bare_eq same found
    obtain rfl := Option.some.inj (isCurrent.symm.trans isOther)
    have metadata : current.metadata = node.metadata :=
      congrArg (fun node => node.metadata) sameNode
    rw [metadata]
    exact ⟨congrArg (fun node => node.id) sameNode, congrArg (fun node => node.parent) sameNode,
      congrArg (fun node => node.children) sameNode, congrArg (fun node => node.text) sameNode,
      rfl, rfl, rfl, rfl⟩

end Document

open Document

/-- However many nodes are populated, links resolved, entries shown closed or open, indexes
built or dropped and search nodes refreshed, and whether this fails or not, the outline is the
same and every query finds the same nodes. -/
theorem Document.outline_undisturbed (document : Document) {operations : List Operation}
    (work : ∀ operation ∈ operations, operation.worksOnLinks = true) :
    let after := Operation.runFrom document operations
    SameOutline document after ∧ ∀ zone now expr,
      matchingSlots (Scene.ofNow after zone now) expr =
        matchingSlots (Scene.ofNow document zone now) expr := by
  have same := (linkWork_runFrom work document).bare_eq
  exact ⟨sameOutline_of_bare_eq same, matchingSlots_of_bare_eq same⟩

/-- A node below its search node is linked from there and shown closed, after failures on a
vacant slot and on a node that is not referred to; as a child it is found as before. -/
theorem outline_undisturbed_closed :
    let document := Operation.run
      [.addSearchNode .standard (.ofNat 1) .last none "search" "note",
        .addRoot (.plain (.ofNat 2) "plan" .last .last),
        .addChild 1 (.plain (.ofNat 3) "note" .last .last)]
    let operations : List Operation :=
      [.populate 7 [.ofNat 3], .flipCollapsed 0 (.ofNat 3), .rebuildIndex,
        .refresh .standard .universal .last, .flipCollapsed 0 (.ofNat 3), .dropIndex,
        .populate 2 [.ofNat 1, .ofNat 2], .relink]
    let after := Operation.runFrom document operations
    let isChild := Expr.parent (.leaf (.text "plan"))
    (∀ operation ∈ operations, operation.worksOnLinks = true) ∧
      document.liveLinks 0 = [] ∧ after.liveLinks 0 = [⟨2, .ofNat 3⟩] ∧
      (after.node? 0).map Node.collapsed = some [.ofNat 3] ∧ SameOutline document after ∧
      matchingSlots (Scene.ofNow document .universal .last) isChild = [2] ∧
      matchingSlots (Scene.ofNow after .universal .last) isChild = [2] := by
  intro document operations after isChild
  have work : ∀ operation ∈ operations, operation.worksOnLinks = true := by decide +kernel
  obtain ⟨same, matching⟩ := Document.outline_undisturbed document work
  have found : matchingSlots (Scene.ofNow document .universal .last) isChild = [2] := by
    decide +kernel
  exact ⟨work, by decide +kernel, by decide +kernel, by decide +kernel, same, found,
    (matching .universal .last isChild).trans found⟩

end Outliner
