import Outliner.Query.Expr
import Outliner.Query.Token.Scan
import Outliner.Text.Lowercase

/-!
Contract: reading the expression that a query text stands for.

Owns: the grammar. From loosest to tightest: alternatives separated by `|`;
conjunctions of adjacent operands, each with an optional `+` in front; a `-` in
front of one operand; groups, texts and filters. Groups, minus signs and
sub-filters use up nesting levels.

Every reader returns the tokens it leaves together with the proof that they are
fewer, which is why the loops end. A sub-filter's argument is scanned and read
again on its own, with byte offsets that count from the start of the query.

Does not own: how a text is split into tokens (`Query.Token.Scan`).
-/

namespace Outliner.Query

open Outliner.Calendar Outliner.Text

/-- A value read off the front of some tokens, and the fewer tokens after it. -/
structure Taken (α : Type) (tokens : List Token) where
  value : α
  rest : List Token
  shorter : rest.length < tokens.length

/-- Values read off the front of some tokens, each of which took a token. -/
structure TakenAll (α : Type) (tokens : List Token) where
  values : List α
  rest : List Token
  counted : rest.length + values.length ≤ tokens.length

abbrev OperandReader := (tokens : List Token) → Except QueryError (Taken Expr tokens)

def startsOperand : List Token → Bool
  | [] => false
  | token :: _ => token.kind.startsOperand

/-- Whether an operand starts here, with or without a plus sign. -/
def startsConjunct : List Token → Bool
  | [] => false
  | token :: _ => token.kind.startsOperand || token.kind == .plus

/-- The complaint that an operand is missing, in a text that ends at `stop`. -/
def missingTerm (stop : Nat) : List Token → QueryError
  | [] => ⟨stop, .missingTerm none⟩
  | token :: _ => ⟨token.position, .missingTerm (some token.kind)⟩

/-- One part stands for itself, several are joined. -/
def joinParts (join : List Expr → Expr) (first : Expr) : List Expr → Expr
  | [] => first
  | rest => join (first :: rest)

/-! ## Filters -/

def givenValue (written : WrittenFilter) : Except QueryError String :=
  if written.value = "" then .error ⟨written.valueOffset, .missingValue written.subject⟩
  else .ok written.value

def readCountFilter (leaf : Comparison → Nat → Leaf) (written : WrittenFilter) :
    Except QueryError Leaf :=
  (givenValue written).bind fun value =>
    match Numeral.readCount value.toList with
    | some count => .ok (leaf (written.sign.getD .equal) count)
    | none => .error ⟨written.valueOffset, .invalidCount written.subject value⟩

def readTimeFilter (field : TimeField) (written : WrittenFilter) : Except QueryError Leaf :=
  (givenValue written).bind fun value =>
    match DayRef.read value.toList with
    | some day => .ok (.time field ⟨written.sign.getD .equal, day⟩)
    | none => .error ⟨written.valueOffset, .invalidDay written.subject value⟩

/-- What an attribute's value is compared with: a day if the text reads as one. -/
def ValueTest.ofText (sign : Comparison) (value : String) : ValueTest :=
  match DayRef.read value.toList with
  | some reference => .day ⟨sign, reference⟩
  | none => .text sign value

/-- A filter on an attribute: without sign and value, that it is there. -/
def readAttributeFilter (key : String) (written : WrittenFilter) : Except QueryError Leaf :=
  if written.sign = none ∧ written.value = "" then .ok (.attr key none)
  else (givenValue written).map fun value =>
    .attr key (some (ValueTest.ofText (written.sign.getD .equal) value))

/-- What a filter asks for: a test of the node, or a query about nodes above. -/
inductive FilterShape where
  | leaf (result : Except QueryError Leaf)
  | above (relation : Expr → Expr)

def WrittenFilter.shape (written : WrittenFilter) : FilterShape :=
  match written.subject with
  | .depth => .leaf (readCountFilter .depth written)
  | .children => .leaf (readCountFilter .children written)
  | .created => .leaf (readTimeFilter .created written)
  | .modified => .leaf (readTimeFilter .modified written)
  | .attr key => .leaf (readAttributeFilter key written)
  | .parent => .above .parent
  | .ancestor => .above .ancestor

/-! ## Conjunctions and alternatives -/

/-- Reads operands, each with an optional plus sign in front, as long as another
one starts. -/
def readConjuncts (operand : OperandReader) (tokens : List Token) :
    Except QueryError (TakenAll Expr tokens) :=
  match tokens with
  | [] => .ok ⟨[], [], Nat.le_refl _⟩
  | token :: rest =>
    if token.kind = .plus then
      if startsOperand rest then
        (readConjuncts operand rest).map fun more =>
          ⟨more.values, more.rest, Nat.le_succ_of_le more.counted⟩
      else .error ⟨token.position, .danglingPlus⟩
    else if token.kind.startsOperand then
      match operand (token :: rest) with
      | .error error => .error error
      | .ok first =>
        have shorter : first.rest.length ≤ rest.length := Nat.le_of_lt_succ first.shorter
        (readConjuncts operand first.rest).map fun more =>
          ⟨first.value :: more.values, more.rest, by
            have counted := more.counted
            simp only [List.length_cons]
            omega⟩
    else .ok ⟨[], token :: rest, Nat.le_refl _⟩
termination_by tokens.length

def readConjunction (operand : OperandReader) (stop : Nat) (tokens : List Token) :
    Except QueryError (Taken Expr tokens) :=
  match readConjuncts operand tokens with
  | .error error => .error error
  | .ok ⟨[], rest, _⟩ => .error (missingTerm stop rest)
  | .ok ⟨first :: more, rest, counted⟩ =>
    .ok ⟨joinParts .all first more, rest, by
      simp only [List.length_cons] at counted
      omega⟩

def readAlternatives (operand : OperandReader) (stop : Nat) (tokens : List Token) :
    Except QueryError (TakenAll Expr tokens) :=
  match tokens with
  | [] => .ok ⟨[], [], Nat.le_refl _⟩
  | token :: rest =>
    if token.kind = .bar then
      if startsConjunct rest then
        match readConjunction operand stop rest with
        | .error error => .error error
        | .ok first =>
          have := first.shorter
          (readAlternatives operand stop first.rest).map fun more =>
            ⟨first.value :: more.values, more.rest, by
              have counted := more.counted
              simp only [List.length_cons]
              omega⟩
      else .error ⟨token.position, .danglingBar⟩
    else .ok ⟨[], token :: rest, Nat.le_refl _⟩
termination_by tokens.length

/-- Reads an expression: one conjunction or several alternatives. -/
def readExpr (operand : OperandReader) (stop : Nat) (tokens : List Token) :
    Except QueryError (Taken Expr tokens) :=
  match readConjunction operand stop tokens with
  | .error error => .error error
  | .ok first =>
    (readAlternatives operand stop first.rest).map fun more =>
      ⟨joinParts .any first.value more.values, more.rest, by
        have shorter := first.shorter
        have counted := more.counted
        omega⟩

/-- Reads all the tokens of a text that ends at `stop` as one expression. No
tokens at all are the blank query. -/
def readWhole (operand : OperandReader) (stop : Nat) (tokens : List Token) :
    Except QueryError Expr :=
  if tokens.isEmpty then .ok (.all [])
  else match readExpr operand stop tokens with
    | .error error => .error error
    | .ok ⟨expr, [], _⟩ => .ok expr
    | .ok ⟨_, token :: _, _⟩ => .error ⟨token.position, .unexpected token.kind⟩

/-! ## Operands -/

/-- Reads the operand at the front, in a text that ends at `stop`. `levels` is how
many more groups, minus signs and sub-filters may nest here. -/
def readOperand (levels stop : Nat) (tokens : List Token) :
    Except QueryError (Taken Expr tokens) :=
  match tokens with
  | [] => .error (missingTerm stop [])
  | token :: rest =>
    match token.kind with
    | .text value | .quoted value =>
      .ok ⟨.leaf (.text (lowercase value)), rest, Nat.lt_succ_self _⟩
    | .filter written =>
      match written.shape with
      | .leaf result => result.map fun leaf => ⟨.leaf leaf, rest, Nat.lt_succ_self _⟩
      | .above relation =>
        if (trim written.value.toList).isEmpty then
          .error ⟨token.position, .missingInner written.subject⟩
        else match levels with
          | 0 => .error ⟨token.position, .nestedTooDeep⟩
          | levels + 1 =>
            let stop := written.valueOffset + byteLength written.value.toList
            match Token.scanFrom levels written.valueOffset written.value.toList with
            | .error error => .error error
            | .ok inner =>
              (readWhole (readOperand levels stop) stop inner).map fun expr =>
                ⟨relation expr, rest, Nat.lt_succ_self _⟩
    | .minus =>
      if startsOperand rest then
        match levels with
        | 0 => .error ⟨token.position, .nestedTooDeep⟩
        | levels + 1 =>
          (readOperand levels stop rest).map fun operand =>
            ⟨.not operand.value, operand.rest, Nat.lt_succ_of_lt operand.shorter⟩
      else .error ⟨token.position, .danglingMinus⟩
    | .leftParen =>
      if rest.head?.map Token.kind = some .rightParen then
        .error ⟨token.position, .emptyGroup⟩
      else match levels with
        | 0 => .error ⟨token.position, .nestedTooDeep⟩
        | levels + 1 =>
          match readExpr (readOperand levels stop) stop rest with
          | .error error => .error error
          | .ok ⟨expr, close :: after, shorter⟩ =>
            if close.kind = .rightParen then
              .ok ⟨expr, after, by
                simp only [List.length_cons] at shorter ⊢
                omega⟩
            else .error ⟨token.position, .unclosedGroup⟩
          | .ok ⟨_, [], _⟩ => .error ⟨token.position, .unclosedGroup⟩
    | .rightParen | .plus | .bar => .error (missingTerm stop (token :: rest))

/-- Reads a text that starts at a byte offset of the query. -/
def Expr.parseFrom (levels offset : Nat) (text : List Char) : Except QueryError Expr :=
  let stop := offset + byteLength text
  (Token.scanFrom levels offset text).bind fun tokens =>
    readWhole (readOperand levels stop) stop tokens

/-- The expression that a query text stands for. -/
def Expr.parse (text : String) : Except QueryError Expr :=
  Expr.parseFrom maxNesting 0 text.toList

end Outliner.Query
