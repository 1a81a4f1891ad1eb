import Outliner.Query.DayTest

/-!
Contract: the expressions that queries stand for.

Owns: the tests of a single node (`Leaf`), the expressions over them, and the
form in which an expression is shown.

Does not own: reading expressions from a text (`Query.Expr.Parse`) and what a
document makes of them (`Search.Match`).
-/

namespace Outliner.Query

/-- The instants that every node carries. -/
inductive TimeField where
  | created
  | modified
deriving DecidableEq, Repr

inductive ValueTest where
  | text (sign : Comparison) (value : String)
  | day (test : DayTest)
deriving DecidableEq

/-- A test of one node by itself. -/
inductive Leaf where
  | text (needle : String)
  | depth (sign : Comparison) (count : Nat)
  | children (sign : Comparison) (count : Nat)
  | attr (key : String) (test : Option ValueTest)
  | time (field : TimeField) (test : DayTest)
deriving DecidableEq

/-- A query. `parent` and `ancestor` ask about nodes above; `all` of no parts
matches every node. -/
inductive Expr where
  | leaf (test : Leaf)
  | parent (inner : Expr)
  | ancestor (inner : Expr)
  | not (operand : Expr)
  | all (parts : List Expr)
  | any (parts : List Expr)

/-- Whether an expression is the one of a blank query. -/
def Expr.isBlank : Expr → Bool
  | .all [] => true
  | _ => false

end Outliner.Query
