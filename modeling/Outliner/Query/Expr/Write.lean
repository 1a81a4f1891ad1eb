import Outliner.Query.Expr
import Outliner.Text.Display

/-!
Contract: the form in which an expression is shown.

Owns: the words and brackets around the parts. Texts are shown between double
quotes with escapes; keys, counts and days are shown as they are.

Does not own: reading the form back; that of a leaf is again a query.
-/

namespace Outliner.Query

open Outliner.Text

def ValueTest.write : ValueTest → List Char
  | .text sign value => sign.spelling.toList ++ quoteChars value.toList
  | .day test => test.write

def Leaf.write : Leaf → List Char
  | .text needle => quoteChars needle.toList
  | .depth sign count => "d:".toList ++ sign.spelling.toList ++ Numeral.digits count
  | .children sign count => "children:".toList ++ sign.spelling.toList ++ Numeral.digits count
  | .attr key none => '@' :: key.toList
  | .attr key (some test) => '@' :: key.toList ++ test.write
  | .time .created test => "c:".toList ++ test.write
  | .time .modified test => "m:".toList ++ test.write

mutual

def Expr.write : Expr → List Char
  | .leaf test => test.write
  | .parent inner => "PARENT(".toList ++ inner.write ++ [')']
  | .ancestor inner => "ANCESTOR(".toList ++ inner.write ++ [')']
  | .not operand => "NOT ".toList ++ operand.write
  | .all [] => ['*']
  | .all (first :: rest) => '(' :: first.write ++ Expr.writeAfter " AND ".toList rest ++ [')']
  | .any [] => "()".toList
  | .any (first :: rest) => '(' :: first.write ++ Expr.writeAfter " OR ".toList rest ++ [')']

/-- Expressions, each after a separator. -/
def Expr.writeAfter (separator : List Char) : List Expr → List Char
  | [] => []
  | first :: rest => separator ++ first.write ++ Expr.writeAfter separator rest

end

def Expr.toText (expr : Expr) : String :=
  String.ofList expr.write

end Outliner.Query
