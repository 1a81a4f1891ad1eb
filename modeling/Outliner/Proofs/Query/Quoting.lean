import Outliner.Proofs.Query.Composing
import Outliner.Proofs.Query.Places

/-!
Contract: texts in quotes.

Owns: how any text is put in quotes, that what is read of it is the text itself and nothing
of what stands behind it, and what a query is read as that is a text in quotes.

Main statements: `readPhrase_hidden`, `scanFrom_inQuotes`, `parse_inQuotes`.

Does not own: phrases that no one has put in quotes so (`Query.Token.Scan`).
-/

namespace Outliner.Query

open Outliner.Text

variable {mark : Char} {token : Token} {value : String}

/-- A character as it stands in quotes: a backslash hides the mark and another backslash. -/
def hide (mark char : Char) : List Char :=
  if char = mark ∨ char = '\\' then ['\\', char] else [char]

def inQuotes (mark : Char) (text : List Char) : List Char :=
  mark :: (text.flatMap (hide mark) ++ [mark])

/-! ## Phrases -/

/-- A hidden character is read as the character. -/
theorem readPhrase_hide (mark char : Char) (offset : Nat) (rest : List Char) :
    readPhrase mark offset (hide mark char ++ rest) =
      (readPhrase mark (offset + byteLength (hide mark char)) rest).map fun (content, stop) =>
        (char :: content, stop) := by
  unfold hide
  by_cases isHidden : char = mark ∨ char = '\\'
  · have size : byteLength ['\\', char] = 1 + char.utf8Size := rfl
    rw [if_pos isHidden, size, ← Nat.add_assoc, List.cons_append, List.singleton_append,
      readPhrase, unescape, if_pos isHidden]
    rfl
  · rw [if_neg isHidden]
    obtain ⟨notMark, notBackslash⟩ := not_or.mp isHidden
    rw [List.singleton_append, readPhrase_cons notBackslash, if_neg notMark]
    rfl

/-- A text whose characters are hidden is read up to the mark behind it. -/
theorem readPhrase_hidden (noBackslash : mark ≠ '\\') (text : List Char) (offset : Nat)
    (rest : List Char) :
    readPhrase mark offset (text.flatMap (hide mark) ++ mark :: rest) =
      some (text, ⟨offset + byteLength (text.flatMap (hide mark)) + mark.utf8Size, rest⟩) := by
  induction text generalizing offset with
  | nil =>
      rw [List.flatMap_nil, List.nil_append, readPhrase_cons noBackslash, if_pos rfl]
      rfl
  | cons char text inductionHypothesis =>
      rw [List.flatMap_cons, List.append_assoc, readPhrase_hide, inductionHypothesis,
        byteLength_append, ← Nat.add_assoc]
      rfl

theorem ne_backslash_of_mark (isMark : isQuotationMark mark = true) : mark ≠ '\\' := by
  rintro rfl
  revert isMark
  decide

theorem not_blank_of_mark (isMark : isQuotationMark mark = true) : ¬ isBlank mark = true := by
  obtain rfl | rfl := isQuotationMark_iff.mp isMark <;> decide

/-- A text in quotes is one token. -/
theorem scanFrom_inQuotes (isMark : isQuotationMark mark = true) (levels offset : Nat)
    (text behind : List Char) :
    Token.scanFrom levels offset (inQuotes mark text ++ behind) =
      (Token.scanFrom levels (offset + byteLength (inQuotes mark text)) behind).map
        (⟨.quoted (String.ofList text), offset, offset + byteLength (inQuotes mark text)⟩ :: ·) := by
  have phrase := readPhrase_hidden (ne_backslash_of_mark isMark) text (offset + mark.utf8Size)
    behind
  rw [inQuotes, List.cons_append, List.append_assoc, List.singleton_append,
    scanFrom_of_token (not_blank_of_mark isMark) (readLexeme_of_phrase isMark phrase levels)]
  have stops : offset + byteLength (mark :: (text.flatMap (hide mark) ++ [mark])) =
      offset + mark.utf8Size + byteLength (text.flatMap (hide mark)) + mark.utf8Size := by
    simp only [byteLength, byteLength_append, Nat.add_zero, Nat.add_assoc]
  rw [stops]

/-- Where a quote opens a phrase, a text in quotes is a word with nothing behind it. -/
theorem readWord_inQuotes (isMark : isQuotationMark mark = true) (text : List Char)
    (offset : Nat) : readWord true offset (inQuotes mark text) =
      .ok (text, ⟨offset + byteLength (inQuotes mark text), []⟩) := by
  have phrase := readPhrase_hidden (ne_backslash_of_mark isMark) text (offset + mark.utf8Size) []
  have goesOn : ¬ endsWord mark = true := by
    obtain rfl | rfl := isQuotationMark_iff.mp isMark <;> decide
  have stops : offset + byteLength (inQuotes mark text) =
      offset + mark.utf8Size + byteLength (text.flatMap (hide mark)) + mark.utf8Size := by
    simp only [inQuotes, byteLength, byteLength_append, Nat.add_zero, Nat.add_assoc]
  rw [stops, inQuotes, readWord_of_phrase goesOn (by simp [isMark]) phrase,
    readWord_of_stop stopsWord_nil]
  simp only [Except.map, List.append_nil]

/-! ## Queries -/

theorem readWhole_text (isText : token.kind = .text value ∨ token.kind = .quoted value)
    (levels stop : Nat) :
    readWhole (readOperand levels stop) stop [token] = .ok (.leaf (.text (lowercase value))) := by
  have isStart : token.kind.startsOperand = true := by
    rcases isText with isText | isQuoted
    · rw [isText]
      rfl
    · rw [isQuoted]
      rfl
  have ends : EndsExpr [] := nofun
  unfold readWhole readExpr readConjunction
  rw [if_neg (by simp), readConjuncts_of_operand isStart, readOperand_text isText]
  dsimp only [Except.map, Except.bind]
  rw [readConjuncts_of_end rfl]
  dsimp only [Except.map]
  rw [readAlternatives_of_end ends]
  rfl

/-- A query that is a text in quotes asks for the text in lower case. -/
theorem parse_inQuotes (isMark : isQuotationMark mark = true) (text : List Char) :
    Expr.parse (String.ofList (inQuotes mark text)) =
      .ok (.leaf (.text (String.ofList (lowerChars text)))) := by
  have scanned := scanFrom_inQuotes isMark maxNesting 0 text []
  rw [List.append_nil, scanFrom_nil] at scanned
  unfold Expr.parse Expr.parseFrom
  rw [String.toList_ofList, scanned]
  refine (readWhole_text (.inr rfl) _ _).trans ?_
  rw [lowercase, String.toList_ofList]

end Outliner.Query
