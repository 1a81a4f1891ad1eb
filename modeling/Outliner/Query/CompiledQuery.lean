import Outliner.Query.Expr.MarkedTerms
import Outliner.Query.Expr.Parse

/-!
Contract: a query text together with what it stands for.

Owns: the pair of text and expression, and what callers ask of it.

Does not own: the reading of the text (`Query.Expr.Parse`).
-/

namespace Outliner.Query

structure CompiledQuery where
  source : String
  expr : Expr

namespace CompiledQuery

def ofText (source : String) : Except QueryError CompiledQuery :=
  (Expr.parse source).map fun expr => ⟨source, expr⟩

/-- Whether the text has no terms at all. -/
def isBlank (query : CompiledQuery) : Bool :=
  query.expr.isBlank

def markedTerms (query : CompiledQuery) : List String :=
  query.expr.markedTerms

end CompiledQuery

end Outliner.Query
