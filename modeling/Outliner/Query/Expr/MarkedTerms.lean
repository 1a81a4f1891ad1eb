import Outliner.Query.Expr
import Outliner.Text.Ascending
import Outliner.Text.Blank
import Outliner.Text.Lowercase

/-!
Contract: the terms to mark in the texts of matching nodes.

Owns: which texts of an expression a matching node can contain: those reached
without passing a negation or a sub-filter. They are trimmed, put into lower
case, and listed once each in ascending order.

Does not own: whether a node matches.
-/

namespace Outliner.Query

open Outliner.Text

mutual

/-- The texts that an expression asks for itself, in the order of the query. -/
def Expr.ownTexts : Expr → List String
  | .leaf (.text needle) => [needle]
  | .leaf _ => []
  | .parent _ => []
  | .ancestor _ => []
  | .not _ => []
  | .all parts => Expr.ownTextsOfParts parts
  | .any parts => Expr.ownTextsOfParts parts

def Expr.ownTextsOfParts : List Expr → List String
  | [] => []
  | part :: rest => part.ownTexts ++ Expr.ownTextsOfParts rest

end

def markedForm (text : String) : String :=
  String.ofList (lowerChars (trim text.toList))

def Expr.markedTerms (expr : Expr) : List String :=
  ((expr.ownTexts.map markedForm).filter (· ≠ "")).foldl (fun terms term =>
    insertText term terms) []

end Outliner.Query
