import Outliner.Except
import Outliner.Query.Token

/-!
Contract: why a text is not a query.

Owns: the causes, the place each one is reported at, and the wording.

Does not own: the errors of documents (`Outliner.Failure`).
-/

namespace Outliner.Query

/-- Groups, minus signs and sub-filters nest at most this deep. -/
def maxNesting : Nat := 256

inductive Fault where
  | unclosedQuote
  | unclosedGroup
  | emptyGroup
  | nestedTooDeep
  | danglingBar
  | danglingPlus
  | danglingMinus
  | missingTerm (found : Option TokenKind)
  | unexpected (found : TokenKind)
  | missingValue (subject : FilterSubject)
  | missingInner (subject : FilterSubject)
  | invalidCount (subject : FilterSubject) (value : String)
  | invalidDay (subject : FilterSubject) (value : String)
deriving DecidableEq, Repr

def Fault.message : Fault → String
  | .unclosedQuote => "missing closing quote"
  | .unclosedGroup => "missing closing ')'"
  | .emptyGroup => "empty group '()'"
  | .nestedTooDeep => "query nests deeper than " ++ toString maxNesting ++ " levels"
  | .danglingBar => "'|' must be followed by a query term"
  | .danglingPlus => "'+' must be followed by a query term"
  | .danglingMinus => "'-' must be followed by a query term"
  | .missingTerm none => "expected a query term"
  | .missingTerm (some found) => "expected a query term, found " ++ found.shortForm
  | .unexpected found => "unexpected " ++ found.shortForm
  | .missingValue subject => "missing comparison value for " ++ subject.label
  | .missingInner subject => subject.label ++ " requires an inner expression"
  | .invalidCount subject value => "invalid number '" ++ value ++ "' for " ++ subject.label
  | .invalidDay subject value =>
    "invalid date '" ++ value ++ "' for " ++ subject.label ++ ", expected YYYY-MM-DD or [+-]Nd"

/-- A cause and the byte offset at which it is reported. -/
structure QueryError where
  position : Nat
  fault : Fault
deriving DecidableEq, Repr

def QueryError.message (error : QueryError) : String :=
  "Syntax error near byte " ++ toString error.position ++ ": " ++ error.fault.message

end Outliner.Query
