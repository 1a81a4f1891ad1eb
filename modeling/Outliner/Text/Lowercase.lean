import Outliner.Text.CaseTable

/-!
Contract: the full lower-case mapping of texts.

Owns: the mapping of one character, and the one rule that looks around a
character: a capital sigma at the end of a word becomes the final small sigma.

Does not own: the case data beyond ASCII (`Text.CaseTable`).
-/

namespace Outliner.Text

def inRanges (ranges : List (Nat × Nat)) (code : Nat) : Bool :=
  ranges.any fun range => range.1 ≤ code && code ≤ range.2

/-- Letters that have a case. -/
def isCased (char : Char) : Bool :=
  if char.toNat < 0x80 then char.isAlpha else inRanges casedRanges char.toNat

/-- Characters that do not separate a sigma from its word. -/
def isCaseIgnorable (char : Char) : Bool :=
  if char.toNat < 0x80 then "'.:^\x60".contains char
  else inRanges caseIgnorableRanges char.toNat

/-- The small letter of a character beyond ASCII. -/
def smallBeyondAscii (char : Char) : Char :=
  match capitalRuns.find? (·.covers char.toNat) with
  | some run => Char.ofNat (run.smallOf char.toNat)
  | none => char

/-- The lower case of a character by itself. Only the capital I with a dot
becomes two characters. -/
def lowerChar (char : Char) : List Char :=
  if char.toNat < 0x80 then [char.toLower]
  else if char == 'İ' then ['i', Char.ofNat 0x307]
  else [smallBeyondAscii char]

/-- Whether the first character that the sigma rule does not look past is a
letter with a case. -/
def startsCased : List Char → Bool
  | [] => false
  | char :: rest => if isCaseIgnorable char then startsCased rest else isCased char

/-- Lower case of a text, where `inWord` says whether the text before it ends in
a letter with a case, ignorable characters aside. -/
def lowerFrom (inWord : Bool) : List Char → List Char
  | [] => []
  | char :: rest =>
    let small :=
      if char == 'Σ' then [if inWord && !startsCased rest then 'ς' else 'σ']
      else lowerChar char
    small ++ lowerFrom (if isCaseIgnorable char then inWord else isCased char) rest

def lowerChars (text : List Char) : List Char :=
  lowerFrom false text

def lowercase (text : String) : String :=
  String.ofList (lowerChars text.toList)

end Outliner.Text
