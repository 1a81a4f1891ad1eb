import Outliner.Text.Lowercase
import Outliner.Text.PrintTable

/-!
Contract: texts written between double quotes, with escapes.

Owns: which characters are escaped, and how: short escapes for the quote, the
backslash and four controls, and the code point in braces for every other
character that has no shape or attaches to its neighbour.

Does not own: reading a quoted phrase of a query (`Query.Token.Scan`).
-/

namespace Outliner.Text

/-- Whether a character is written as itself, quotes and backslashes apart. -/
def isShown (char : Char) : Bool :=
  if char.toNat < 0x80 then 0x20 ≤ char.toNat && char.toNat < 0x7F
  else !inRanges attachingRanges char.toNat && !inRanges shapelessRanges char.toNat

def escapeChar (char : Char) : List Char :=
  match char with
  | '"' => ['\\', '"']
  | '\\' => ['\\', '\\']
  | '\n' => ['\\', 'n']
  | '\r' => ['\\', 'r']
  | '\t' => ['\\', 't']
  | '\x00' => ['\\', '0']
  | _ =>
    if isShown char then [char]
    else ['\\', 'u', '\x7b'] ++ Nat.toDigits 16 char.toNat ++ ['\x7d']

/-- A text between double quotes, with its escapes. -/
def quoteChars (text : List Char) : List Char :=
  '"' :: text.flatMap escapeChar ++ ['"']

def quote (text : String) : String :=
  String.ofList (quoteChars text.toList)

end Outliner.Text
