import Outliner.Proofs.Query.Covering
import Outliner.Proofs.Query.Quoting
import Outliner.Proofs.Query.SingleFilter

/-!
Contract: quotes carry any text through the scan.

Owns: the tokens of a query that is a text in quotes, or the filter of an attribute whose value is
a text in quotes. Nothing is asked of the text: it may have marks of both kinds, backslashes,
signs and parentheses.

Main statements: `scanFrom_attribute_inQuotes`, `scan_quotedForm`.

Does not own: how a text is put in quotes (`Proofs.Query.Quoting`), and which keys a query can
name (`Proofs.Query.SingleFilter`).
-/

namespace Outliner.Query

open Outliner.Text

variable {mark : Char} {sign : Comparison} {key : List Char}

/-- A string in quotes: a backslash stands before each mark and each backslash in it. -/
def quotedForm (mark : Char) (text : String) : String :=
  String.ofList (inQuotes mark text.toList)

/-- A character that stops neither a key nor the word it is in, and belongs to no sign. -/
def IsKeyChar (char : Char) : Prop :=
  isBlank char = false ∧ char ∉ ['(', ')', '|', '<', '>', '=', '!']

instance (char : Char) : Decidable (IsKeyChar char) :=
  inferInstanceAs (Decidable (_ ∧ _))

theorem toList_quotedForm (mark : Char) (text : String) :
    (quotedForm mark text).toList = inQuotes mark text.toList :=
  String.toList_ofList

/-- A key without exclamation marks can stand in front of every sign. -/
theorem isKeyBefore_of_isKeyChar (notEmpty : key ≠ []) (plain : ∀ char ∈ key, IsKeyChar char)
    (sign : Comparison) : IsKeyBefore sign key := by
  refine ⟨notEmpty, fun char member => ?_, fun _ isLast => ?_⟩
  · obtain ⟨notBlank, others⟩ := plain char member
    simp only [List.mem_cons, List.not_mem_nil, or_false, not_or] at others ⊢
    simp [endsWord, notBlank, others]
  · exact (plain '!' (List.mem_of_getLast? isLast)).2 (by decide)

/-- No mark makes a longer sign of the one in front of it. -/
theorem endsBefore_inQuotes (isMark : isQuotationMark mark = true) (sign : Comparison)
    (text : List Char) : sign.EndsBefore (inQuotes mark text) := by
  refine Comparison.split_spelling sign _ fun isFirst => ?_
  obtain rfl : mark = '=' := Option.some.inj isFirst
  revert isMark
  decide

/-- The filter of an attribute whose value is a text in quotes is one token. -/
theorem scanFrom_attribute_inQuotes (isMark : isQuotationMark mark = true)
    (isKey : IsKeyBefore sign key) (levels offset : Nat) (text : List Char) :
    Token.scanFrom levels offset ('@' :: (key ++ (sign.spelling.toList ++ inQuotes mark text))) =
      .ok [⟨.filter ⟨.attr (String.ofList key), some sign, String.ofList text,
        offset + byteLength ('@' :: (key ++ sign.spelling.toList))⟩, offset,
        offset + byteLength ('@' :: (key ++ (sign.spelling.toList ++ inQuotes mark text)))⟩] := by
  have isToken := readLexeme_of_key isKey levels offset (inQuotes mark text)
  rw [readComparison_of_split (endsBefore_inQuotes isMark sign text), readWord_inQuotes isMark]
    at isToken
  have valueOffset : offset + byteLength ('@' :: key) + byteLength sign.spelling.toList =
      offset + byteLength ('@' :: (key ++ sign.spelling.toList)) := by
    simp only [byteLength, byteLength_append, Nat.add_assoc]
  have stop : offset + byteLength ('@' :: key) + byteLength sign.spelling.toList +
      byteLength (inQuotes mark text) =
      offset + byteLength ('@' :: (key ++ (sign.spelling.toList ++ inQuotes mark text))) := by
    simp only [byteLength, byteLength_append, Nat.add_assoc]
  rw [scanFrom_of_token (by decide) isToken]
  dsimp only
  rw [scanFrom_nil, stop, valueOffset]
  rfl

/-- Any text in quotes of either kind is one token, which covers the whole query and stands for
the text. Behind the key of an attribute and a sign it is the value of the one filter that the
query is. -/
theorem scan_quotedForm (isMark : isQuotationMark mark = true) (text : String) :
    Token.scan (quotedForm mark text) =
      .ok [⟨.quoted text, 0, (quotedForm mark text).utf8ByteSize⟩] ∧
    ∀ (key : String) (sign : Comparison), key ≠ "" → (∀ char ∈ key.toList, IsKeyChar char) →
      Token.scan ("@" ++ key ++ sign.spelling ++ quotedForm mark text) =
        .ok [⟨.filter ⟨.attr key, some sign, text, ("@" ++ key ++ sign.spelling).utf8ByteSize⟩, 0,
          ("@" ++ key ++ sign.spelling ++ quotedForm mark text).utf8ByteSize⟩] := by
  constructor
  · have scanned := scanFrom_inQuotes isMark maxNesting 0 text.toList []
    rw [List.append_nil, scanFrom_nil, String.ofList_toList, Nat.zero_add] at scanned
    rw [Token.scan, utf8ByteSize_eq, toList_quotedForm]
    exact scanned
  · intro key sign notEmpty plain
    have isKey := isKeyBefore_of_isKeyChar (by simpa using notEmpty) plain sign
    have scanned := scanFrom_attribute_inQuotes isMark isKey maxNesting 0 text.toList
    have label : ("@" ++ key ++ sign.spelling).toList =
        '@' :: (key.toList ++ sign.spelling.toList) := by
      simp only [String.toList_append]
      rfl
    have whole : ("@" ++ key ++ sign.spelling ++ quotedForm mark text).toList =
        '@' :: (key.toList ++ (sign.spelling.toList ++ inQuotes mark text.toList)) := by
      rw [String.toList_append, label, toList_quotedForm, List.cons_append, List.append_assoc]
    rw [String.ofList_toList, String.ofList_toList, Nat.zero_add, Nat.zero_add] at scanned
    rw [Token.scan, utf8ByteSize_eq, utf8ByteSize_eq, whole, label]
    exact scanned

/-- Backslashes in front of both marks and at the end, among signs and parentheses, behind a key
with a mark, a colon and an at sign. -/
theorem scan_quotedForm_backslashes :
    let text := "\\\" \\'(|<é)\\\\"
    isQuotationMark '\'' = true ∧ (∀ char ∈ "k'@:ß".toList, IsKeyChar char) ∧
      quotedForm '\'' text = "'\\\\\" \\\\\\'(|<é)\\\\\\\\'" ∧
      Token.scan (quotedForm '\'' text) = .ok [⟨.quoted text, 0, 20⟩] ∧
      Token.scan ("@" ++ "k'@:ß" ++ "<=" ++ quotedForm '\'' text) =
        .ok [⟨.filter ⟨.attr "k'@:ß", some .lessOrEqual, text, 9⟩, 0, 29⟩] := by
  intro text
  have plain : ("k'@:ß".toList.all fun char => decide (IsKeyChar char)) = true := by
    decide +kernel
  have plain : ∀ char ∈ "k'@:ß".toList, IsKeyChar char := fun char member =>
    of_decide_eq_true (List.all_eq_true.mp plain char member)
  obtain ⟨phrase, value⟩ := @scan_quotedForm '\'' (by decide) text
  exact ⟨by decide, plain, by decide +kernel, phrase.trans (by decide +kernel),
    (value "k'@:ß" .lessOrEqual (by decide) plain).trans (by decide +kernel)⟩

end Outliner.Query
