import Outliner.Json.Value
import Outliner.Numeral.Hexadecimal

/-!
Contract: reading JSON values from a text.

Owns: the grammar of values, with blanks between its parts and nothing else
after the value.

Every reader returns the rest of the text together with the proof that it is
shorter, which is why values nest only so deep.

Does not own: what the values are used for.
-/

namespace Outliner.Json

/-- A value read off the front of a text, and the shorter text after it. -/
structure Front (α : Type) (text : List Char) where
  value : α
  rest : List Char
  shorter : rest.length < text.length

/-- Blanks between the parts of a value. -/
def isGap (char : Char) : Bool :=
  char == ' ' || char == '\n' || char == '\t' || char == '\r'

def skipGap (text : List Char) : List Char :=
  text.dropWhile isGap

theorem length_skipGap_le (text : List Char) : (skipGap text).length ≤ text.length :=
  (List.dropWhile_sublist _).length_le

/-! ## Texts -/

/-- The unit that a short escape stands for. -/
def shortEscape? : Char → Option Nat
  | '"' => some 0x22
  | '\\' => some 0x5C
  | '/' => some 0x2F
  | 'b' => some 0x08
  | 'f' => some 0x0C
  | 'n' => some 0x0A
  | 'r' => some 0x0D
  | 't' => some 0x09
  | _ => none

/-- Reads the rest of a text after its opening quote, as code points and halves
of surrogate pairs. -/
def readUnits : List Char → Option (List Nat × List Char)
  | [] => none
  | '"' :: rest => some ([], rest)
  | '\\' :: 'u' :: a :: b :: c :: d :: rest =>
    (Numeral.ofHex? [a, b, c, d]).bind fun unit =>
      (readUnits rest).map fun (units, rest) => (unit :: units, rest)
  | '\\' :: char :: rest =>
    (shortEscape? char).bind fun unit =>
      (readUnits rest).map fun (units, rest) => (unit :: units, rest)
  | char :: rest =>
    if char.toNat < 0x20 then none
    else (readUnits rest).map fun (units, rest) => (char.toNat :: units, rest)

theorem readUnits_shorter {text rest : List Char} {units : List Nat}
    (read : readUnits text = some (units, rest)) : rest.length < text.length := by
  fun_induction readUnits text generalizing units with
  | case1 => simp at read
  | case2 =>
      obtain ⟨-, rfl⟩ := Prod.mk.inj (Option.some.inj read)
      simp
  | case3 a b c d after inductionHypothesis =>
      obtain ⟨unit, _, more⟩ := Option.bind_eq_some_iff.mp read
      obtain ⟨⟨inner, last⟩, readRest, equal⟩ := Option.map_eq_some_iff.mp more
      obtain ⟨-, rfl⟩ := Prod.mk.inj equal
      have := inductionHypothesis readRest
      simp only [List.length_cons]
      omega
  | case4 char after _ inductionHypothesis =>
      obtain ⟨unit, _, more⟩ := Option.bind_eq_some_iff.mp read
      obtain ⟨⟨inner, last⟩, readRest, equal⟩ := Option.map_eq_some_iff.mp more
      obtain ⟨-, rfl⟩ := Prod.mk.inj equal
      have := inductionHypothesis readRest
      simp only [List.length_cons]
      omega
  | case5 => simp at read
  | case6 char after _ _ _ _ inductionHypothesis =>
      obtain ⟨⟨inner, last⟩, readRest, equal⟩ := Option.map_eq_some_iff.mp read
      obtain ⟨-, rfl⟩ := Prod.mk.inj equal
      have := inductionHypothesis readRest
      simp only [List.length_cons]
      omega

def isHighHalf (unit : Nat) : Bool :=
  0xD800 ≤ unit && unit < 0xDC00

def isLowHalf (unit : Nat) : Bool :=
  0xDC00 ≤ unit && unit < 0xE000

/-- Joins the halves of surrogate pairs; none if a half stands alone. -/
def joinHalves : List Nat → Option (List Char)
  | [] => some []
  | [unit] => if isHighHalf unit || isLowHalf unit then none else some [Char.ofNat unit]
  | unit :: next :: rest =>
    if isHighHalf unit then
      if isLowHalf next then
        (joinHalves rest).map
          (Char.ofNat (0x10000 + (unit - 0xD800) * 0x400 + (next - 0xDC00)) :: ·)
      else none
    else if isLowHalf unit then none
    else (joinHalves (next :: rest)).map (Char.ofNat unit :: ·)

/-- Reads the rest of a text after its opening quote. -/
def readText (text : List Char) : Option (Front (Option String) text) :=
  match read : readUnits text with
  | none => none
  | some (units, rest) =>
    some ⟨(joinHalves units).map String.ofList, rest, readUnits_shorter read⟩

/-! ## Numbers -/

def spanDigits? (text : List Char) : Option (List Char × List Char) :=
  let numeral := text.takeWhile Char.isDigit
  if numeral.isEmpty then none else some (numeral, text.dropWhile Char.isDigit)

/-- Takes the whole part of a number: no digit follows a leading zero. -/
def spanWhole? (text : List Char) : Option (List Char × List Char) :=
  (spanDigits? text).bind fun (numeral, rest) =>
    if numeral.head? = some '0' && numeral.length ≠ 1 then none else some (numeral, rest)

def spanFraction? : List Char → Option (List Char × List Char)
  | '.' :: rest => (spanDigits? rest).map fun (numeral, rest) => ('.' :: numeral, rest)
  | whole => some ([], whole)

def spanExponent? : List Char → Option (List Char × List Char)
  | mark :: rest =>
    if mark == 'e' || mark == 'E' then
      match rest with
      | sign :: after =>
        if sign == '+' || sign == '-' then
          (spanDigits? after).map fun (numeral, rest) => (mark :: sign :: numeral, rest)
        else (spanDigits? rest).map fun (numeral, rest) => (mark :: numeral, rest)
      | [] => none
    else some ([], mark :: rest)
  | [] => some ([], [])

def spanNumber? (text : List Char) : Option (List Char × List Char) :=
  let (sign, unsigned) := match text with
    | '-' :: rest => (['-'], rest)
    | _ => ([], text)
  (spanWhole? unsigned).bind fun (whole, afterWhole) =>
    (spanFraction? afterWhole).bind fun (fraction, afterFraction) =>
      (spanExponent? afterFraction).map fun (exponent, rest) =>
        (sign ++ whole ++ fraction ++ exponent, rest)

/-! ## Values -/

/-- Weakens the bound of a reading to a longer text. -/
def Front.within {α β : Type} {text longer : List Char} (front : Front α text) (change : α → β)
    (longerText : text.length ≤ longer.length) : Front β longer :=
  ⟨change front.value, front.rest, Nat.lt_of_lt_of_le front.shorter longerText⟩

def readLiteral (word : List Char) (value : Json) (text : List Char) : Option (Front Json text) :=
  if found : word.isPrefixOf text ∧ word ≠ [] then
    some ⟨value, text.drop word.length, by
      have positive := List.length_pos_iff.mpr found.2
      have fits := (List.isPrefixOf_iff_prefix.mp found.1).length_le
      simp only [List.length_drop]
      omega⟩
  else none

def readNumber (text : List Char) : Option (Front Json text) :=
  (spanNumber? text).bind fun (spelling, rest) =>
    if shorter : rest.length < text.length then
      some ⟨.number (String.ofList spelling), rest, shorter⟩
    else none

mutual

def readValue (text : List Char) : Option (Front Json text) :=
  match text with
  | [] => none
  | '"' :: rest => (readText rest).map fun front => front.within .text (Nat.le_succ _)
  | '[' :: rest =>
    match gap : skipGap rest with
    | ']' :: after =>
      some ⟨.array [], after, by
        have le := length_skipGap_le rest
        simp only [gap, List.length_cons] at le ⊢
        omega⟩
    | items =>
      have le : items.length ≤ rest.length := gap ▸ length_skipGap_le rest
      (readItems items).map fun front => front.within .array (Nat.le_succ_of_le le)
  | '\x7b' :: rest =>
    match gap : skipGap rest with
    | '\x7d' :: after =>
      some ⟨.object [], after, by
        have le := length_skipGap_le rest
        simp only [gap, List.length_cons] at le ⊢
        omega⟩
    | members =>
      have le : members.length ≤ rest.length := gap ▸ length_skipGap_le rest
      (readMembers members).map fun front => front.within .object (Nat.le_succ_of_le le)
  | source =>
    readLiteral "null".toList .null source
      <|> readLiteral "true".toList (.bool true) source
      <|> readLiteral "false".toList (.bool false) source
      <|> readNumber source
termination_by (text.length, 0)

/-- Reads the items of an array from the first to the closing bracket. -/
def readItems (text : List Char) : Option (Front (List Json) text) :=
  match readValue text with
  | none => none
  | some first =>
    match gap : skipGap first.rest with
    | ']' :: after =>
      some ⟨[first.value], after, by
        have le := length_skipGap_le first.rest
        have shorter := first.shorter
        simp only [gap, List.length_cons] at le
        omega⟩
    | ',' :: after =>
      have le : (skipGap after).length < text.length := by
        have le := length_skipGap_le first.rest
        have leAfter := length_skipGap_le after
        have shorter := first.shorter
        simp only [gap, List.length_cons] at le
        omega
      (readItems (skipGap after)).map fun more => more.within (first.value :: ·) (Nat.le_of_lt le)
    | _ => none
termination_by (text.length, 1)

/-- Reads the members of an object from the first to the closing brace. -/
def readMembers (text : List Char) : Option (Front (List (Option String × Json)) text) :=
  match text with
  | '"' :: rest =>
    match readText rest with
    | none => none
    | some key =>
      match keyGap : skipGap key.rest with
      | ':' :: value =>
        have leValue : (skipGap value).length < rest.length := by
          have le := length_skipGap_le key.rest
          have leAfter := length_skipGap_le value
          have shorter := key.shorter
          simp only [keyGap, List.length_cons] at le
          omega
        match readValue (skipGap value) with
        | none => none
        | some first =>
          match gap : skipGap first.rest with
          | '\x7d' :: after =>
            some ⟨[(key.value, first.value)], after, by
              have le := length_skipGap_le first.rest
              have shorter := first.shorter
              simp only [gap, List.length_cons] at le ⊢
              omega⟩
          | ',' :: after =>
            have le : (skipGap after).length < rest.length := by
              have le := length_skipGap_le first.rest
              have leAfter := length_skipGap_le after
              have shorter := first.shorter
              simp only [gap, List.length_cons] at le
              omega
            (readMembers (skipGap after)).map fun more =>
              more.within ((key.value, first.value) :: ·) (Nat.le_succ_of_le (Nat.le_of_lt le))
          | _ => none
      | _ => none
  | _ => none
termination_by (text.length, 1)

end

def read (text : List Char) : Option Json :=
  match readValue (skipGap text) with
  | some front => if (skipGap front.rest).isEmpty then some front.value else none
  | none => none

end Outliner.Json
