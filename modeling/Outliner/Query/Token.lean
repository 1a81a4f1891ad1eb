import Outliner.Query.Comparison

/-!
Contract: the tokens of a query.

Owns: the kinds of token, the filters a word can name, and the short form of a
token for messages.

Does not own: how tokens are found in a text (`Query.Token.Scan`) and what a
filter's value has to look like (`Query.Expr.Parse`).
-/

namespace Outliner.Query

inductive FilterSubject where
  | depth
  | created
  | modified
  | children
  | parent
  | ancestor
  | attr (key : String)
deriving DecidableEq, Repr

/-- The words in front of a filter's value, in the order in which they are tried. -/
def FilterSubject.words : List (String × FilterSubject) :=
  [("children:", children), ("d:", depth), ("c:", created), ("m:", modified), ("p:", parent),
    ("a:", ancestor)]

def FilterSubject.label : FilterSubject → String
  | .depth => "d:"
  | .created => "c:"
  | .modified => "m:"
  | .children => "children:"
  | .parent => "p:"
  | .ancestor => "a:"
  | .attr key => "@" ++ key

/-- A filter as it was written. For `parent` and `ancestor` there is no sign and
the value is the text of the inner query. -/
structure WrittenFilter where
  subject : FilterSubject
  sign : Option Comparison
  value : String
  valueOffset : Nat
deriving DecidableEq, Repr

inductive TokenKind where
  | text (value : String)
  | quoted (value : String)
  | filter (written : WrittenFilter)
  | leftParen
  | rightParen
  | plus
  | bar
  | minus
deriving DecidableEq, Repr

def TokenKind.shortForm : TokenKind → String
  | .text value => "'" ++ value ++ "'"
  | .quoted value => "\"" ++ value ++ "\""
  | .filter written => "'" ++ written.subject.label ++ "'"
  | .leftParen => "'('"
  | .rightParen => "')'"
  | .plus => "'+'"
  | .bar => "'|'"
  | .minus => "'-'"

def TokenKind.startsOperand : TokenKind → Bool
  | .text _ | .quoted _ | .filter _ | .leftParen | .minus => true
  | .rightParen | .plus | .bar => false

/-- A token with the byte offsets at which it starts and at which it is over. -/
structure Token where
  kind : TokenKind
  position : Nat
  stop : Nat
deriving DecidableEq, Repr

end Outliner.Query
