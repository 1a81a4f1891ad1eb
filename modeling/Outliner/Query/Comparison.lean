/-!
Contract: the six comparison signs of the query language.

Owns: the signs and their spelling, splitting one off the front of a text, and
the test of an ordering.

Does not own: which values are compared.
-/

namespace Outliner.Query

inductive Comparison where
  | less
  | lessOrEqual
  | greater
  | greaterOrEqual
  | equal
  | notEqual
deriving DecidableEq, Repr

namespace Comparison

def spelling : Comparison → String
  | less => "<"
  | lessOrEqual => "<="
  | greater => ">"
  | greaterOrEqual => ">="
  | equal => "="
  | notEqual => "!="

/-- Whether a sign asks for an order and not only for equality. -/
def asksOrder : Comparison → Bool
  | equal | notEqual => false
  | _ => true

def accepts : Comparison → Ordering → Bool
  | less, order => order == .lt
  | lessOrEqual, order => order != .gt
  | greater, order => order == .gt
  | greaterOrEqual, order => order != .lt
  | equal, order => order == .eq
  | notEqual, order => order != .eq

def test {α : Type} [Ord α] (sign : Comparison) (left right : α) : Bool :=
  sign.accepts (compare left right)

/-- Takes the longest sign off the front of a text, if one is there. -/
def split : List Char → Option Comparison × List Char
  | '>' :: '=' :: rest => (some greaterOrEqual, rest)
  | '<' :: '=' :: rest => (some lessOrEqual, rest)
  | '!' :: '=' :: rest => (some notEqual, rest)
  | '>' :: rest => (some greater, rest)
  | '<' :: rest => (some less, rest)
  | '=' :: rest => (some equal, rest)
  | text => (none, text)

/-- A comparator is split off as the longest sign in front, so `=` must not follow it. -/
theorem split_spelling (sign : Comparison) (rest : List Char)
    (noEquals : rest.head? ≠ some '=') :
    split (sign.spelling.toList ++ rest) = (some sign, rest) := by
  cases sign <;> cases rest <;> simp_all [spelling, split]

end Comparison

end Outliner.Query
