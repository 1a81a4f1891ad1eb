import Outliner.Document.NodeId
import Outliner.Query.Fault

/-!
Contract: the failures of operations on documents and settings.

Owns: their causes and wording.

Does not own: the faults of query texts (`Query.Fault`) and of slot stores
(`Store.Slot`).
-/

namespace Outliner

open Outliner.Query

inductive Failure where
  | query (error : QueryError)
  | noNode (slot : Nat)
  | notReferenced (target owner : NodeId)
  | settings
  | unreadable
deriving DecidableEq

/-- The wording of a failure, where `name` writes identifiers. The causes of bad
settings and unreadable files have wordings elsewhere. -/
def Failure.message (name : NodeId → String) : Failure → Option String
  | .query error => some error.message
  | .noNode slot => some ("Node not found: NodeIndex(" ++ toString slot ++ ")")
  | .notReferenced target owner =>
    some ("Invalid input: " ++ name target ++ " is not a virtual reference of " ++ name owner)
  | .settings => none
  | .unreadable => none

end Outliner
