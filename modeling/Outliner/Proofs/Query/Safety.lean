import Mathlib.Data.List.TakeWhile
import Outliner.Proofs.Query.CountedParse
import Outliner.Proofs.Query.ErrorPlaces

/-!
Contract: what can be relied on whatever text is read as a query.

Owns: the places of tokens and errors as byte positions of strings.

Main statements: `Expr.parse_safe`.

Does not own: which texts are queries (`Proofs.Query.Grammar`, `Proofs.Query.Completeness`).
-/

namespace Outliner.Query

open Outliner.Text Cursor

/-- In a text that starts at a byte offset itself, a part reaches from one offset to another. -/
def Spans (text : String) (offset : Nat) (part : String) (start stop : Nat) : Prop :=
  ∃ front back, text = front ++ part ++ back ∧
    start = offset + front.utf8ByteSize ∧ stop = start + part.utf8ByteSize

/-- An error is at a position of a text: not past its end and not inside a character. -/
def QueryError.PointsInto (error : QueryError) (text : String) : Prop :=
  error.position ≤ text.utf8ByteSize ∧ String.Pos.Raw.IsValid text ⟨error.position⟩

variable {text : String} {offset : Nat}

/-- A cursor ahead gives a slice on character boundaries. -/
theorem spans_of_leads {part rest : List Char} {start stop : Nat}
    (leads : LeadsTo ⟨offset, text.toList⟩ ⟨start, part ++ rest⟩)
    (isStop : stop = start + byteLength part) :
    Spans text offset (String.ofList part) start stop := by
  obtain ⟨passed, isText, isStart⟩ := leads
  refine ⟨String.ofList passed, String.ofList rest, ?_, ?_, ?_⟩
  · rw [← String.ofList_append, ← String.ofList_append, List.append_assoc, ← isText,
      String.ofList_toList]
  · rw [utf8ByteSize_ofList]
    exact isStart
  · rw [utf8ByteSize_ofList]
    exact isStop

/-- A token that is placed in a text spans a part of it. -/
theorem Token.Placed.spans {token : Token} (placed : token.Placed ⟨offset, text.toList⟩) :
    ∃ part, Spans text offset part token.position token.stop := by
  obtain ⟨behind, stop, leads, stops, -⟩ := placed
  obtain ⟨passed, isBehind, isStop⟩ := stops
  dsimp only at isBehind isStop
  rw [isBehind] at leads
  exact ⟨String.ofList passed, spans_of_leads leads isStop⟩

/-- The value of a sub-filter is the text from where the value starts to the end of the token. -/
theorem Token.Placed.spans_value {token : Token} {written : WrittenFilter}
    (placed : token.Placed ⟨offset, text.toList⟩) (isFilter : token.kind = .filter written)
    (isAbove : written.subject = .parent ∨ written.subject = .ancestor) :
    Spans text offset written.value written.valueOffset token.stop := by
  obtain ⟨behind, stop, leads, -, isPlaced⟩ := placed
  rw [isFilter] at isPlaced
  obtain ⟨value, isValue⟩ := isPlaced
  obtain ⟨passed, isPassed, isStop⟩ := isValue.stops
  have isSlice := isValue.slice isAbove
  dsimp only at isPassed isStop isSlice
  obtain rfl := List.append_cancel_right (isSlice.symm.trans isPassed)
  have valueLeads := leads.trans isValue.leads
  rw [isSlice] at valueLeads
  have spans := spans_of_leads valueLeads isStop
  rwa [String.ofList_toList] at spans

theorem pointsInto_of_hasPlace {error : QueryError}
    (place : HasPlace ⟨0, text.toList⟩ error.position) : error.PointsInto text := by
  obtain ⟨rest, passed, isText, isOffset⟩ := place
  have isValid : String.Pos.Raw.IsValid text ⟨error.position⟩ := by
    rw [String.Pos.Raw.isValid_iff_exists_append]
    refine ⟨String.ofList passed, String.ofList rest, ?_, ?_⟩
    · rw [← String.ofList_append, ← isText, String.ofList_toList]
    · rw [String.Pos.Raw.ext_iff, String.byteIdx_rawEndPos, utf8ByteSize_ofList]
      exact isOffset.trans (Nat.zero_add _)
  exact ⟨isValid.le_utf8ByteSize, isValid⟩

/-- An error of the parser is at a character boundary within the text, or at its end. -/
theorem parseFrom_pointsInto {levels : Nat} {error : QueryError}
    (failed : Expr.parseFrom levels 0 text.toList = .error error) : error.PointsInto text := by
  have points := parseFrom_points levels 0 text.toList
  rw [failed] at points
  exact pointsInto_of_hasPlace points

theorem isBlank_of_trim {text : List Char} (isEmpty : (trim text).isEmpty = true) :
    ∀ char ∈ text, isBlank char = true := by
  rw [trim, trimEnd, List.isEmpty_reverse, List.isEmpty_iff, List.dropWhile_eq_nil_iff] at isEmpty
  intro char member
  have isText : text.takeWhile isBlank ++ trimStart text = text := List.takeWhile_append_dropWhile
  rw [← isText, List.mem_append] at member
  rcases member with inFront | behind
  · exact List.mem_takeWhile_imp inFront
  · exact isEmpty char (List.mem_reverse.mpr behind)

/-- What is wrong with the argument of a sub-filter, read as a text of its own, is wrong with
the sub-filter, so many bytes further on. -/
theorem readOperand_of_argument_error {levels : Nat} {token : Token} {written : WrittenFilter}
    {error : QueryError} (isFilter : token.kind = .filter written)
    (isAbove : written.subject = .parent ∨ written.subject = .ancestor)
    (failed : Expr.parseFrom levels 0 written.value.toList = .error error) (stop : Nat)
    (rest : List Token) :
    readOperand (levels + 1) stop (token :: rest) = .error (error.shift written.valueOffset) := by
  have notBlank : ¬ (trim written.value.toList).isEmpty = true := by
    intro isEmpty
    rw [Expr.parseFrom, scanFrom_eq_nil_iff.mpr (isBlank_of_trim isEmpty)] at failed
    cases failed
  obtain ⟨relation, isShape⟩ := above_iff.mpr isAbove
  rw [readOperand_filter isFilter, readFilter, isShape]
  dsimp only
  rw [if_neg notBlank, parseFrom_argument, failed]
  rfl

/-- Whatever text is read as a query, no slice fails, no counter goes below zero, and there is
an expression or an error at a position of the text. Wherever the text stands, its tokens
are parts of it, and the value of a sub-filter is the part from its offset on. As the argument
of a sub-filter the text has the error that it has by itself, moved to where it starts. -/
theorem Expr.parse_safe (text : String) :
    Expr.countedParse text = some (Expr.parse text) ∧
    ((∃ expr, Expr.parse text = .ok expr) ∨
      ∃ error, Expr.parse text = .error error ∧ error.PointsInto text) ∧
    (∀ levels offset tokens, Token.scanFrom levels offset text.toList = .ok tokens →
      ∀ token ∈ tokens, (∃ part, Spans text offset part token.position token.stop) ∧
        ∀ written, token.kind = .filter written →
          written.subject = .parent ∨ written.subject = .ancestor →
            Spans text offset written.value written.valueOffset token.stop) ∧
    (∀ levels error, Expr.parseFrom levels 0 text.toList = .error error →
      error.PointsInto text ∧ ∀ token written stop rest, token.kind = .filter written →
        written.subject = .parent ∨ written.subject = .ancestor → written.value = text →
          readOperand (levels + 1) stop (token :: rest) =
            .error (error.shift written.valueOffset)) := by
  refine ⟨countedParse_eq text, ?_, ?_, ?_⟩
  · cases parsed : Expr.parse text with
    | ok expr => exact .inl ⟨expr, rfl⟩
    | error error => exact .inr ⟨error, rfl, parseFrom_pointsInto parsed⟩
  · intro levels offset tokens scanned token member
    have placed := scanFrom_points levels offset text.toList
    rw [scanned] at placed
    have isPlaced := placed token member
    exact ⟨isPlaced.spans, fun written isFilter isAbove => isPlaced.spans_value isFilter isAbove⟩
  · intro levels error failed
    refine ⟨parseFrom_pointsInto failed, ?_⟩
    rintro token written stop rest isFilter isAbove rfl
    exact readOperand_of_argument_error isFilter isAbove failed stop rest

/-- The count in the inner of two sub-filters is no number. Each argument starts behind
characters of several bytes, and the error is at the last of them. -/
theorem parse_safe_nested :
    let text := "ü p:(é|a:d:ß)"
    let argument := "(é|a:d:ß)"
    let written : WrittenFilter := ⟨.parent, none, argument, 5⟩
    let token : Token := ⟨.filter written, 3, 16⟩
    let error : QueryError := ⟨13, .invalidCount .depth "ß"⟩
    Token.scanFrom 256 0 text.toList = .ok [⟨.text "ü", 0, 2⟩, token] ∧
      Spans text 0 argument 5 16 ∧ Expr.countedParse text = some (.error error) ∧
      Expr.parse text = .error error ∧ error.PointsInto text ∧
      Expr.parseFrom 255 0 argument.toList = .error ⟨8, .invalidCount .depth "ß"⟩ ∧
      readOperand 256 16 [token] = .error error := by
  intro text argument written token error
  have scanned : Token.scanFrom 256 0 text.toList = .ok [⟨.text "ü", 0, 2⟩, token] := by
    decide +kernel
  have failed : Expr.parse text = .error error := eq_error_of_map (by decide +kernel)
  have inner : Expr.parseFrom 255 0 argument.toList = .error ⟨8, .invalidCount .depth "ß"⟩ :=
    eq_error_of_map (by decide +kernel)
  obtain ⟨counted, outcome, tokens, -⟩ := Expr.parse_safe text
  obtain ⟨-, -, -, arguments⟩ := Expr.parse_safe argument
  have member : token ∈ [⟨.text "ü", 0, 2⟩, token] := by decide
  obtain ⟨-, slices⟩ := tokens 256 0 _ scanned token member
  rw [failed] at counted
  refine ⟨scanned, slices written rfl (.inl rfl), counted, failed, ?_, inner, ?_⟩
  · rcases outcome with ⟨expr, parsed⟩ | ⟨found, isFound, points⟩
    · rw [failed] at parsed
      cases parsed
    · rw [failed] at isFound
      obtain rfl := Except.error.inj isFound
      exact points
  · exact (arguments 255 _ inner).2 token written 16 [] rfl (.inl rfl) rfl

end Outliner.Query
