import Outliner.Numeral.Hexadecimal
import Outliner.Text.Blank

/-!
Contract: the identifiers of nodes, 128-bit numbers written in groups of
hexadecimal digits.

Owns: the accepted spellings (32 digits, the five groups with hyphens, the
groups in braces or after `urn:uuid:`) and the one written form, the groups in
small letters.

Does not own: where identifiers come from.
-/

namespace Outliner

open Outliner.Numeral

structure NodeId where
  bits : BitVec 128
deriving DecidableEq

namespace NodeId

/-- The identifier whose number is given, modulo `2 ^ 128`. -/
def ofNat (number : Nat) : NodeId :=
  ⟨BitVec.ofNat 128 number⟩

def toNat (id : NodeId) : Nat :=
  id.bits.toNat

/-- Puts hyphens after 8, 12, 16 and 20 of 32 digits. -/
def hyphenate (digits : List Char) : List Char :=
  digits.take 8 ++ ['-'] ++ (digits.drop 8).take 4 ++ ['-'] ++ (digits.drop 12).take 4 ++ ['-'] ++
    (digits.drop 16).take 4 ++ ['-'] ++ digits.drop 20

def unhyphenate? (text : List Char) : Option (List Char) :=
  let digits :=
    text.take 8 ++ (text.drop 9).take 4 ++ (text.drop 14).take 4 ++ (text.drop 19).take 4 ++
      text.drop 24
  if text.length = 36 ∧ text[8]? = some '-' ∧ text[13]? = some '-' ∧ text[18]? = some '-' ∧
      text[23]? = some '-' then some digits
  else none

/-- The identifier as five groups of small hexadecimal digits. -/
def write (id : NodeId) : List Char :=
  hyphenate (hexDigits 32 id.toNat)

def resourceMark : List Char := "urn:uuid:".toList

/-- The digits of a spelling of an identifier. -/
def digitsOf? (text : List Char) : Option (List Char) :=
  if text.length = 32 then some text
  else if text.length = 36 then unhyphenate? text
  else if text.length = 38 ∧ text.head? = some '\x7b' ∧ text.getLast? = some '\x7d' then
    unhyphenate? (text.drop 1).dropLast
  else if text.length = 45 ∧ (text.take 9).map Char.toLower = resourceMark then
    unhyphenate? (text.drop 9)
  else none

def ofSpelling? (text : List Char) : Option NodeId :=
  ((digitsOf? text).bind ofHex?).map ofNat

/-- Reads an identifier with blanks around it. -/
def read (text : List Char) : Option NodeId :=
  ofSpelling? (Text.trim text)

end NodeId

end Outliner
