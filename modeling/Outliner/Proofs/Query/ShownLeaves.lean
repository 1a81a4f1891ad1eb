import Outliner.Proofs.Query.FilterTokens
import Outliner.Proofs.Query.Quoting
import Outliner.Proofs.Query.Terms
import Outliner.Proofs.Text.SmallLetters

/-!
Contract: the form in which a test of a node is shown, as a query.

Owns: what the tests that are read from queries have in common, that each such test is read back
from its form, and that no character of a shown text but a quotation mark and a backslash may be
escaped for this, as the query language knows no other escapes.

Main statements: `isReadable_of_within`, `parse_write`, `parse_shown_leaf`.

Does not own: the forms of joined expressions, which are no queries for them.
-/

namespace Outliner.Query

open Outliner.Calendar Outliner.Text

variable {source : List Char} {leaf : Leaf} {written : WrittenFilter} {sign : Comparison}
  {value : List Char} {expr : Expr}

/-- What a test is like that is read from a query: texts are in lower case, counts fit into 64
bits, keys are as they are read in front of what follows them, texts that attributes are compared
with are not empty and do not read as days, and days have a form in which they are read. -/
def Leaf.IsReadable : Leaf → Prop
  | .text needle => lowerChars needle.toList = needle.toList
  | .depth _ count | .children _ count => count < Numeral.countLimit
  | .attr key none => key.toList ≠ [] ∧ attributeKey key.toList = key.toList
  | .attr key (some (.text sign value)) =>
    IsKeyBefore sign key.toList ∧ value ≠ "" ∧ DayRef.read value.toList = none
  | .attr key (some (.day test)) => IsKeyBefore test.sign key.toList ∧ test.day.HasForm
  | .time _ test => test.day.HasForm

/-- The text that is shown in quotes, if the test has one. -/
def Leaf.quoted : Leaf → List Char
  | .text needle => needle.toList
  | .attr _ (some (.text _ value)) => value.toList
  | _ => []

/-! ## Tests as they are read -/

/-- A number that is read fits 64 bits. -/
theorem readCount_lt {text : List Char} {count : Nat}
    (isRead : Numeral.readCount text = some count) : count < Numeral.countLimit := by
  obtain ⟨isCount, isSame⟩ := Option.ite_none_right_eq_some.mp isRead
  rw [Bool.and_eq_true, decide_eq_true_eq] at isCount
  rw [← Option.some.inj isSame]
  exact isCount.2

theorem isReadable_of_attribute {key : String} (hasKey : written.HasKey key.toList)
    (isRead : readAttributeFilter key written = .ok leaf) : leaf.IsReadable := by
  unfold readAttributeFilter at isRead
  unfold WrittenFilter.HasKey at hasKey
  split at hasKey
  · rename_i noSign
    obtain ⟨notEmpty, isKey, noValue⟩ := hasKey
    rw [if_pos ⟨noSign, noValue⟩] at isRead
    obtain rfl := Except.ok.inj isRead
    exact ⟨notEmpty, isKey⟩
  · rename_i sign isSign
    rw [if_neg (by simp [isSign]), isSign] at isRead
    obtain ⟨value, isGiven, rfl⟩ := exists_of_map_eq_ok isRead
    unfold givenValue at isGiven
    split at isGiven
    · cases isGiven
    · rename_i notEmpty
      obtain rfl := Except.ok.inj isGiven
      unfold ValueTest.ofText
      split
      · rename_i day isDay
        exact ⟨hasKey, hasForm_of_read isDay⟩
      · rename_i noDay
        exact ⟨hasKey, notEmpty, noDay⟩

/-- The test of a filter that was scanned can be shown and read again. -/
theorem isReadable_of_filter (isWritten : written.IsWritten)
    (isLeaf : written.shape = .leaf (.ok leaf)) : leaf.IsReadable := by
  unfold WrittenFilter.shape at isLeaf
  split at isLeaf
  · obtain ⟨count, isCount, rfl⟩ := readCountFilter_eq_ok_iff.mp (FilterShape.leaf.inj isLeaf)
    exact readCount_lt isCount
  · obtain ⟨count, isCount, rfl⟩ := readCountFilter_eq_ok_iff.mp (FilterShape.leaf.inj isLeaf)
    exact readCount_lt isCount
  · obtain ⟨day, isDay, rfl⟩ := readTimeFilter_eq_ok_iff.mp (FilterShape.leaf.inj isLeaf)
    exact hasForm_of_read isDay
  · obtain ⟨day, isDay, rfl⟩ := readTimeFilter_eq_ok_iff.mp (FilterShape.leaf.inj isLeaf)
    exact hasForm_of_read isDay
  · rename_i key isKey
    exact isReadable_of_attribute (isWritten.key key isKey) (FilterShape.leaf.inj isLeaf)
  · cases isLeaf
  · cases isLeaf

/-- The tests in the expression of a query are as tests are read. -/
theorem isReadable_of_within {text : String} (parsed : Expr.parse text = .ok expr)
    (within : (Expr.leaf leaf).Within expr) : leaf.IsReadable := by
  obtain ⟨kind, occurs, standsFor⟩ := exists_token_of_term parsed within rfl
  have ofText (value : String) (isText : Expr.leaf leaf = .leaf (.text (lowercase value))) :
      leaf.IsReadable := by
    obtain rfl := Expr.leaf.inj isText
    have isLower : (lowercase value).toList = lowerChars value.toList := String.toList_ofList
    unfold Leaf.IsReadable
    dsimp only
    rw [isLower, lowerChars_lowerChars]
  cases kind with
  | text value => exact ofText value standsFor
  | quoted value => exact ofText value standsFor
  | filter written =>
      obtain ⟨levels, position, valueOffset, isRead⟩ := standsFor
      have isWritten := isWritten_of_occursIn occurs
      rcases readFilter_cases isRead with
        ⟨other, isLeaf, isOther⟩ | ⟨-, inner, -, -, -, ⟨-, isAbove⟩ | ⟨-, isAbove⟩⟩
      · obtain rfl := Expr.leaf.inj isOther
        have isMoved : { written with valueOffset }.IsWritten := ⟨isWritten.argument, isWritten.key⟩
        exact isReadable_of_filter isMoved isLeaf
      · cases isAbove
      · cases isAbove
  | _ => cases standsFor

/-! ## Forms that are read back -/

/-- A number that fits is read back from its digits. -/
theorem readCount_digits {count : Nat} (fits : count < Numeral.countLimit) :
    Numeral.readCount (Numeral.digits count) = some count := by
  have notPlus (rest : List Char) : Numeral.digits count ≠ '+' :: rest := by
    intro isPlus
    have member : '+' ∈ Numeral.digits count := isPlus ▸ List.mem_cons_self
    have isDigit : '+'.isDigit = true :=
      Nat.isDigit_of_mem_toDigits (by decide) (by decide) member
    cases isDigit
  have isCount : (Numeral.isDigits (Numeral.digits count) &&
      decide (Numeral.ofDigits (Numeral.digits count) < Numeral.countLimit)) = true := by
    rw [Numeral.isDigits_digits, Numeral.ofDigits_digits, decide_eq_true fits]
    rfl
  unfold Numeral.readCount
  split
  · rename_i rest isPlus
    exact absurd isPlus (notPlus rest)
  · dsimp only
    rw [if_pos isCount, Numeral.ofDigits_digits]

theorem write_ne_nil {day : DayRef} (hasForm : day.HasForm) : day.write ≠ [] := by
  intro isEmpty
  have isRead := hasForm.read_write
  rw [isEmpty] at isRead
  cases isRead

/-- A filter on a count is read back from the digits of the count. -/
theorem readCountFilter_digits {count : Nat} (fits : count < Numeral.countLimit)
    (toLeaf : Comparison → Nat → Leaf) (subject : FilterSubject) (sign : Comparison)
    (offset : Nat) :
    readCountFilter toLeaf ⟨subject, some sign, String.ofList (Numeral.digits count), offset⟩ =
      .ok (toLeaf sign count) := by
  refine readCountFilter_eq_ok_iff.mpr ⟨count, ?_, rfl⟩
  dsimp only
  rw [String.toList_ofList, readCount_digits fits]

/-- A filter on an instant is read back from the form of the day. -/
theorem readTimeFilter_day {day : DayRef} (hasForm : day.HasForm) (field : TimeField)
    (subject : FilterSubject) (sign : Comparison) (offset : Nat) :
    readTimeFilter field ⟨subject, some sign, String.ofList day.write, offset⟩ =
      .ok (.time field ⟨sign, day⟩) := by
  refine readTimeFilter_eq_ok_iff.mpr ⟨day, ?_, rfl⟩
  dsimp only
  rw [String.toList_ofList, hasForm.read_write]

/-- Where no other characters are escaped, a text is shown as it is put in quotes. -/
theorem quoteChars_eq_inQuotes {text : List Char}
    (shown : ∀ char ∈ text, escapeChar char = [char] ∨ char = '"' ∨ char = '\\') :
    quoteChars text = inQuotes '"' text := by
  have same (char : Char) (member : char ∈ text) : escapeChar char = hide '"' char := by
    unfold hide
    split
    · rename_i isHidden
      rcases isHidden with rfl | rfl <;> rfl
    · rename_i notHidden
      exact (shown char member).resolve_right notHidden
  unfold quoteChars inQuotes
  rw [List.cons_append, List.flatMap_congr same]

theorem readAttributeFilter_of_ne {value : List Char} (notEmpty : value ≠ []) (key : String)
    (subject : FilterSubject) (sign : Comparison) (offset : Nat) :
    readAttributeFilter key ⟨subject, some sign, String.ofList value, offset⟩ =
      .ok (.attr key (some (ValueTest.ofText sign (String.ofList value)))) := by
  rw [readAttributeFilter, if_neg (by simp), givenValue_of_ne (by rwa [String.toList_ofList])]
  rfl

/-- A label, a sign and a value are read as the test that the filter stands for. -/
theorem parse_labelled {subject : FilterSubject} {raw : List Char} (takes : subject.Takes sign)
    (ends : sign.EndsBefore raw)
    (isWord : ∀ offset, ∃ place, readWord true offset raw = .ok (value, ⟨place, []⟩))
    (isLeaf : ∀ offset, WrittenFilter.shape ⟨subject, some sign, String.ofList value, offset⟩ =
      .leaf (.ok leaf)) :
    Expr.parse (String.ofList (subject.label.toList ++ (sign.spelling.toList ++ raw))) =
      .ok (.leaf leaf) := by
  obtain ⟨offset, isFilter⟩ := parse_filter_of_word takes ends isWord
  rw [isFilter, readFilter, isLeaf]
  rfl

/-- A filter on a number is read from how it is shown. -/
theorem parse_count {toLeaf : Comparison → Nat → Leaf} {subject : FilterSubject} {count : Nat}
    (takes : subject.Takes sign)
    (isCount : ∀ value offset, WrittenFilter.shape ⟨subject, some sign, value, offset⟩ =
      .leaf (readCountFilter toLeaf ⟨subject, some sign, value, offset⟩))
    (fits : count < Numeral.countLimit) :
    Expr.parse (String.ofList (subject.label.toList ++
      (sign.spelling.toList ++ Numeral.digits count))) = .ok (.leaf (toLeaf sign count)) := by
  refine parse_labelled takes (endsBefore_digits sign count)
    (fun offset => ⟨_, readWord_plain (isPlain_digits count) true offset⟩) fun offset => ?_
  rw [isCount, readCountFilter_digits fits]

/-- A filter on a time is read from how it is shown. -/
theorem parse_day {field : TimeField} {subject : FilterSubject} {day : DayRef}
    (takes : subject.Takes sign)
    (isTime : ∀ value offset, WrittenFilter.shape ⟨subject, some sign, value, offset⟩ =
      .leaf (readTimeFilter field ⟨subject, some sign, value, offset⟩))
    (hasForm : day.HasForm) :
    Expr.parse (String.ofList (subject.label.toList ++ (sign.spelling.toList ++ day.write))) =
      .ok (.leaf (.time field ⟨sign, day⟩)) := by
  refine parse_labelled takes (endsBefore_day hasForm sign)
    (fun offset => ⟨_, readWord_plain (isPlain_day hasForm) true offset⟩) fun offset => ?_
  rw [isTime, readTimeFilter_day hasForm]

/-- A filter on an attribute is read from its key, its comparator and any spelling of its
value. -/
theorem parse_attribute {key : String} {raw : List Char} (isKey : IsKeyBefore sign key.toList)
    (ends : sign.EndsBefore raw)
    (isWord : ∀ offset, ∃ place, readWord true offset raw = .ok (value, ⟨place, []⟩))
    (notEmpty : value ≠ []) :
    Expr.parse (String.ofList ('@' :: (key.toList ++ (sign.spelling.toList ++ raw)))) =
      .ok (.leaf (.attr key (some (ValueTest.ofText sign (String.ofList value))))) := by
  have isLabel : (FilterSubject.attr key).label.toList = '@' :: key.toList := String.toList_append
  have parsed := @parse_labelled _ _ _ (.attr key) raw isKey ends isWord fun offset =>
    congrArg FilterShape.leaf (readAttributeFilter_of_ne notEmpty key (.attr key) sign offset)
  rwa [isLabel, List.cons_append] at parsed

/-- A test as tests are read is read back from the form in which it is shown. -/
theorem parse_write (readable : leaf.IsReadable)
    (shown : ∀ char ∈ leaf.quoted, escapeChar char = [char] ∨ char = '"' ∨ char = '\\') :
    Expr.parse (String.ofList leaf.write) = .ok (.leaf leaf) := by
  match leaf, readable, shown with
  | .text needle, readable, shown =>
      have isLower : lowerChars needle.toList = needle.toList := readable
      have isForm : quoteChars needle.toList = inQuotes '"' needle.toList :=
        quoteChars_eq_inQuotes shown
      have parsed := @parse_inQuotes '"' (by decide) needle.toList
      rw [isLower, String.ofList_toList, ← isForm] at parsed
      exact parsed
  | .depth sign count, fits, _ =>
      have isForm : (Leaf.depth sign count).write = FilterSubject.depth.label.toList ++
          (sign.spelling.toList ++ Numeral.digits count) := List.append_assoc ..
      rw [isForm]
      exact parse_count trivial (fun _ _ => rfl) fits
  | .children sign count, fits, _ =>
      have isForm : (Leaf.children sign count).write = FilterSubject.children.label.toList ++
          (sign.spelling.toList ++ Numeral.digits count) := List.append_assoc ..
      rw [isForm]
      exact parse_count trivial (fun _ _ => rfl) fits
  | .attr key none, ⟨notEmpty, isKey⟩, _ =>
      have parsed := parse_key notEmpty isKey
      rw [String.ofList_toList] at parsed
      exact parsed
  | .attr key (some (.text sign value)), ⟨isKey, notEmpty, noDay⟩, shown =>
      have isForm : quoteChars value.toList = inQuotes '"' value.toList :=
        quoteChars_eq_inQuotes shown
      have ends : sign.EndsBefore (inQuotes '"' value.toList) :=
        Comparison.split_spelling sign _ (by simp [inQuotes])
      have isText : ValueTest.ofText sign value = .text sign value := by
        unfold ValueTest.ofText
        rw [noDay]
      have parsed := parse_attribute isKey ends
        (fun offset => ⟨_, readWord_inQuotes (by decide) value.toList offset⟩)
        (by simpa using notEmpty)
      rw [String.ofList_toList, isText, ← isForm] at parsed
      exact parsed
  | .attr key (some (.day test)), ⟨isKey, hasForm⟩, _ =>
      have isDay : ValueTest.ofText test.sign (String.ofList test.day.write) = .day test := by
        unfold ValueTest.ofText
        rw [String.toList_ofList, hasForm.read_write]
      have parsed := parse_attribute isKey (endsBefore_day hasForm test.sign)
        (fun offset => ⟨_, readWord_plain (isPlain_day hasForm) true offset⟩) (write_ne_nil hasForm)
      rw [isDay] at parsed
      exact parsed
  | .time .created test, hasForm, _ =>
      have isForm : (Leaf.time .created test).write = FilterSubject.created.label.toList ++
          (test.sign.spelling.toList ++ test.day.write) := rfl
      rw [isForm]
      exact parse_day trivial (fun _ _ => rfl) hasForm
  | .time .modified test, hasForm, _ =>
      have isForm : (Leaf.time .modified test).write = FilterSubject.modified.label.toList ++
          (test.sign.spelling.toList ++ test.day.write) := rfl
      rw [isForm]
      exact parse_day trivial (fun _ _ => rfl) hasForm

/-- Every test of a node in the expression of a query is shown as a query for that test, if the
text in it, where it has one, needs no other escapes than those of quotation marks and
backslashes. -/
theorem parse_shown_leaf {text : String} (parsed : Expr.parse text = .ok expr)
    (within : (Expr.leaf leaf).Within expr)
    (shown : ∀ char ∈ leaf.quoted, escapeChar char = [char] ∨ char = '"' ∨ char = '\\') :
    Expr.parse (Expr.leaf leaf).toText = .ok (.leaf leaf) :=
  parse_write (isReadable_of_within parsed within) shown

/-- A key with an apostrophe, an exclamation mark and a colon, in front of a text with quotation
marks and a backslash that does not read as a day because of the blank in it. -/
theorem parse_shown_leaf_quoted :
    let text := "p:-@d'k:!<\"+3 d \\\"É\\\" \\\\\""
    let leaf : Leaf := .attr "d'k:!" (some (.text .less "+3 d \"É\" \\"))
    ∃ expr, Expr.parse text = .ok expr ∧ (Expr.leaf leaf).Within expr ∧
      (∀ char ∈ leaf.quoted, escapeChar char = [char] ∨ char = '"' ∨ char = '\\') ∧
      Expr.parse (Expr.leaf leaf).toText = .ok (.leaf leaf) := by
  intro text leaf
  have isLeaf : (match Expr.parse text with
      | .ok (.parent (.not (.leaf found))) => decide (found = leaf)
      | _ => false) = true := by decide +kernel
  have allShown : leaf.quoted.all (fun char =>
      decide (escapeChar char = [char] ∨ char = '"' ∨ char = '\\')) = true := by decide +kernel
  have shown (char : Char) (member : char ∈ leaf.quoted) :
      escapeChar char = [char] ∨ char = '"' ∨ char = '\\' :=
    of_decide_eq_true (List.all_eq_true.mp allShown char member)
  split at isLeaf
  · rename_i found parsed
    obtain rfl := of_decide_eq_true isLeaf
    have within : (Expr.leaf leaf).Within (.parent (.not (.leaf leaf))) :=
      .deeper List.mem_cons_self (.deeper List.mem_cons_self (.self _))
    exact ⟨_, parsed, within, shown, parse_shown_leaf parsed within shown⟩
  · cases isLeaf

end Outliner.Query
