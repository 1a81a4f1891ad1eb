import Outliner.Json.Value
import Outliner.Numeral.Hexadecimal

/-!
Contract: writing JSON values without blanks.

Owns: the spelling of values. In texts the quote, the backslash and the controls
are escaped, and nothing else is.

Does not own: which values are written.
-/

namespace Outliner.Json

def escape (char : Char) : List Char :=
  match char with
  | '"' => ['\\', '"']
  | '\\' => ['\\', '\\']
  | '\n' => ['\\', 'n']
  | '\r' => ['\\', 'r']
  | '\t' => ['\\', 't']
  | '\x08' => ['\\', 'b']
  | '\x0c' => ['\\', 'f']
  | _ => if char.toNat < 0x20 then ['\\', 'u'] ++ Numeral.hexDigits 4 char.toNat else [char]

/-- A text. What no string can hold is written as the empty text. -/
def writeText (content : Option String) : List Char :=
  '"' :: (content.getD "").toList.flatMap escape ++ ['"']

mutual

def write : Json → List Char
  | .null => "null".toList
  | .bool value => (if value then "true" else "false").toList
  | .number spelling => spelling.toList
  | .text content => writeText content
  | .array [] => ['[', ']']
  | .array (first :: rest) => '[' :: write first ++ writeItems rest ++ [']']
  | .object [] => ['\x7b', '\x7d']
  | .object (first :: rest) => '\x7b' :: writeMember first ++ writeMembers rest ++ ['\x7d']

/-- Items after the first of an array. -/
def writeItems : List Json → List Char
  | [] => []
  | first :: rest => ',' :: write first ++ writeItems rest

def writeMember : Option String × Json → List Char
  | (key, value) => writeText key ++ [':'] ++ write value

def writeMembers : List (Option String × Json) → List Char
  | [] => []
  | first :: rest => ',' :: writeMember first ++ writeMembers rest

end

end Outliner.Json
