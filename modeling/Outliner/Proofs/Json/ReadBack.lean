import Mathlib.Data.List.Basic
import Outliner.Json.Read
import Outliner.Json.Write

/-!
Contract: JSON values that are written are read back.

Owns: what each reader takes, as an equation without the bound on the rest; that a text is read
back with its escapes; and that a value made of texts, arrays and objects is read back whatever
stands behind it.

Main statement: `read_write`.

Does not own: values that hold numbers, and texts that no string can hold.
-/

namespace Outliner.Json

/-- The value that was taken and the rest of the text, without the bound. -/
def Front.parts {α : Type} {text : List Char} (front : Front α text) : α × List Char :=
  (front.value, front.rest)

/-! ## Texts -/

/-- A character is read back from its spelling inside a text. -/
theorem readUnits_escape (char : Char) (rest : List Char) :
    readUnits (escape char ++ rest) =
      (readUnits rest).map fun (units, rest) => (char.toNat :: units, rest) := by
  unfold escape
  split
  -- The short escapes.
  iterate 7 rfl
  · rename_i notQuote notBackslash _ _ _ _ _
    split
    · rename_i isControl
      have fits : char.toNat < Nat.pow 16 4 := Nat.lt_trans isControl (by decide)
      have read := Numeral.ofHex?_hexDigits fits
      obtain ⟨a, b, c, d, isNumeral⟩ :=
        List.length_eq_four.mp (Numeral.length_hexDigits 4 char.toNat)
      rw [isNumeral] at read ⊢
      simp only [List.cons_append, List.nil_append, readUnits, read, Option.bind_some]
    · rename_i notControl
      rw [List.singleton_append, readUnits, if_neg notControl]
      · exact notQuote
      · exact fun _ _ _ _ _ isBackslash _ => notBackslash isBackslash
      · exact fun _ _ isBackslash _ => notBackslash isBackslash

/-- Escaped characters are read back up to the closing quote. -/
theorem readUnits_flatMap_escape (chars rest : List Char) :
    readUnits (chars.flatMap escape ++ '"' :: rest) = some (chars.map Char.toNat, rest) := by
  induction chars with
  | nil => rfl
  | cons char chars inductionHypothesis =>
      rw [List.flatMap_cons, List.append_assoc, readUnits_escape, inductionHypothesis]
      rfl

theorem isHighHalf_toNat (char : Char) : isHighHalf char.toNat = false := by
  have valid := char.valid
  simp only [isHighHalf, Bool.and_eq_false_iff, decide_eq_false_iff_not]
  simp only [UInt32.isValidChar, Nat.isValidChar] at valid
  simp only [Char.toNat]
  omega

theorem isLowHalf_toNat (char : Char) : isLowHalf char.toNat = false := by
  have valid := char.valid
  simp only [isLowHalf, Bool.and_eq_false_iff, decide_eq_false_iff_not]
  simp only [UInt32.isValidChar, Nat.isValidChar] at valid
  simp only [Char.toNat]
  omega

/-- No character is half of a surrogate pair, so nothing is joined. -/
theorem joinHalves_map_toNat (chars : List Char) :
    joinHalves (chars.map Char.toNat) = some chars := by
  induction chars with
  | nil => rfl
  | cons char chars inductionHypothesis =>
      cases chars with
      | nil => simp [joinHalves, isHighHalf_toNat, isLowHalf_toNat]
      | cons next rest =>
          rw [List.map_cons] at inductionHypothesis
          simp [joinHalves, isHighHalf_toNat, isLowHalf_toNat, inductionHypothesis]

theorem parts_readText (text : List Char) :
    (readText text).map Front.parts =
      (readUnits text).map fun (units, rest) => ((joinHalves units).map String.ofList, rest) := by
  unfold readText
  split <;> rename_i read <;> simp only [read] <;> rfl

/-- A text is read back up to its closing quote. -/
theorem parts_readText_escape (content : String) (rest : List Char) :
    (readText (content.toList.flatMap escape ++ '"' :: rest)).map Front.parts =
      some (some content, rest) := by
  rw [parts_readText, readUnits_flatMap_escape]
  simp only [Option.map_some, joinHalves_map_toNat, String.ofList_toList]

/-! ## Values -/

theorem parts_readValue_quote (rest : List Char) :
    (readValue ('"' :: rest)).map Front.parts =
      ((readText rest).map Front.parts).map fun (content, rest) => (.text content, rest) := by
  rw [readValue, Option.map_map, Option.map_map]
  rfl

theorem parts_readValue_bracket (rest : List Char) :
    (readValue ('[' :: rest)).map Front.parts =
      match skipGap rest with
      | ']' :: after => some (.array [], after)
      | items => ((readItems items).map Front.parts).map fun (items, rest) =>
          (.array items, rest) := by
  rw [readValue]
  split <;> rename_i gap
  · simp only [gap]
    rfl
  · split
    · rename_i closes
      exact absurd closes (gap _)
    · rw [Option.map_map, Option.map_map]
      rfl

theorem parts_readValue_brace (rest : List Char) :
    (readValue ('\x7b' :: rest)).map Front.parts =
      match skipGap rest with
      | '\x7d' :: after => some (.object [], after)
      | members => ((readMembers members).map Front.parts).map fun (members, rest) =>
          (.object members, rest) := by
  rw [readValue]
  split <;> rename_i gap
  · simp only [gap]
    rfl
  · split
    · rename_i closes
      exact absurd closes (gap _)
    · rw [Option.map_map, Option.map_map]
      rfl

/-- Items are read one by one: a comma asks for another one, a bracket ends them. -/
theorem parts_readItems (text : List Char) :
    (readItems text).map Front.parts =
      ((readValue text).map Front.parts).bind fun (first, rest) =>
        match skipGap rest with
        | ']' :: after => some ([first], after)
        | ',' :: after => ((readItems (skipGap after)).map Front.parts).map fun (more, rest) =>
            (first :: more, rest)
        | _ => none := by
  rw [readItems]
  cases readValue text with
  | none => rfl
  | some first =>
      simp only [Option.map_some, Option.bind_some, Front.parts]
      split
      · rename_i gap
        simp only [gap]
        rfl
      · rename_i gap
        simp only [gap, Option.map_map]
        rfl
      · rename_i notClosed notContinued
        split
        · exact absurd ‹_› (notClosed _)
        · exact absurd ‹_› (notContinued _)
        · rfl

/-- Members are read one by one: a key, a colon and a value, then a comma or a brace. -/
theorem parts_readMembers (text : List Char) :
    (readMembers ('"' :: text)).map Front.parts =
      ((readText text).map Front.parts).bind fun (key, rest) =>
        match skipGap rest with
        | ':' :: value =>
          ((readValue (skipGap value)).map Front.parts).bind fun (first, rest) =>
            match skipGap rest with
            | '\x7d' :: after => some ([(key, first)], after)
            | ',' :: after =>
              ((readMembers (skipGap after)).map Front.parts).map fun (more, rest) =>
                ((key, first) :: more, rest)
            | _ => none
        | _ => none := by
  rw [readMembers]
  cases readText text with
  | none => rfl
  | some key =>
      simp only [Option.map_some, Option.bind_some, Front.parts]
      split
      · rename_i value keyGap
        simp only [keyGap]
        cases readValue (skipGap value) with
        | none => rfl
        | some first =>
            simp only [Option.map_some, Option.bind_some, Front.parts]
            split
            · rename_i gap
              simp only [gap]
              rfl
            · rename_i gap
              simp only [gap, Option.map_map]
              rfl
            · rename_i notClosed notContinued
              split
              · exact absurd ‹_› (notClosed _)
              · exact absurd ‹_› (notContinued _)
              · rfl
      · rename_i noColon
        split
        · exact absurd ‹_› (noColon _)
        · rfl

/-! ## Written values -/

/-- A value made of texts, arrays and objects, where every text is a string. -/
inductive IsTextual : Json → Prop where
  | text (content : String) : IsTextual (.text (some content))
  | array {items : List Json} (textual : ∀ item ∈ items, IsTextual item) :
      IsTextual (.array items)
  | object {members : List (Option String × Json)}
      (named : ∀ member ∈ members, member.1.isSome)
      (textual : ∀ member ∈ members, IsTextual member.2) : IsTextual (.object members)

/-- Whether a value is read back behind any blanks and up to whatever stands behind it. -/
def IsReadBack (json : Json) : Prop :=
  ∀ rest, (readValue (skipGap (write json ++ rest))).map Front.parts = some (json, rest)

variable {json first : Json} {items : List Json} {members : List (Option String × Json)}
  {key : Option String} {text value after : List Char}

theorem skipGap_cons {char : Char} (noGap : isGap char = false) (rest : List Char) :
    skipGap (char :: rest) = char :: rest := by
  rw [skipGap, List.dropWhile_cons_of_neg (by simp [noGap])]

theorem writeText_append (content : String) (rest : List Char) :
    writeText (some content) ++ rest = '"' :: (content.toList.flatMap escape ++ '"' :: rest) := by
  rw [writeText, Option.getD_some, List.cons_append, List.cons_append, List.append_assoc,
    List.singleton_append]

/-- Texts are read back. -/
theorem isReadBack_text (content : String) : IsReadBack (.text (some content)) := by
  intro rest
  rw [write, writeText_append, skipGap_cons rfl, parts_readValue_quote, parts_readText_escape]
  rfl

/-! ### Arrays -/

/-- A written value starts with the mark of its kind. -/
theorem IsTextual.write_eq (textual : IsTextual json) :
    ∃ mark more, write json = mark :: more ∧ mark ∈ ['"', '[', '\x7b'] := by
  cases textual with
  | text content => exact ⟨'"', _, rfl, by decide⟩
  | @array items =>
      cases items with
      | nil => exact ⟨'[', _, by rw [write], by decide⟩
      | cons first rest => exact ⟨'[', _, by rw [write]; rfl, by decide⟩
  | @object members =>
      cases members with
      | nil => exact ⟨'\x7b', _, by rw [write], by decide⟩
      | cons first rest => exact ⟨'\x7b', _, by rw [write]; rfl, by decide⟩

/-- A written value does not look like the end of an array. -/
theorem IsTextual.skipGap_write_ne (textual : IsTextual json) (rest after : List Char) :
    skipGap (write json ++ rest) ≠ ']' :: after := by
  obtain ⟨mark, more, isWritten, isMark⟩ := textual.write_eq
  simp only [List.mem_cons, List.not_mem_nil, or_false] at isMark
  rw [isWritten, List.cons_append]
  rcases isMark with rfl | rfl | rfl <;> rw [skipGap_cons rfl] <;> simp

theorem parts_readItems_last
    (read : (readValue text).map Front.parts = some (first, ']' :: after)) :
    (readItems text).map Front.parts = some ([first], after) := by
  rw [parts_readItems, read]
  rfl

theorem parts_readItems_more
    (read : (readValue text).map Front.parts = some (first, ',' :: after)) :
    (readItems text).map Front.parts =
      ((readItems (skipGap after)).map Front.parts).map fun (more, rest) =>
        (first :: more, rest) := by
  rw [parts_readItems, read]
  rfl

/-- Items are read back one after another. -/
theorem parts_readItems_write (firstBack : IsReadBack first)
    (back : ∀ item ∈ items, IsReadBack item) (rest : List Char) :
    (readItems (skipGap (write first ++ (writeItems items ++ ']' :: rest)))).map Front.parts =
      some (first :: items, rest) := by
  induction items generalizing first with
  | nil => rw [writeItems, List.nil_append, parts_readItems_last (firstBack _)]
  | cons item items inductionHypothesis =>
      obtain ⟨itemBack, back⟩ := List.forall_mem_cons.mp back
      rw [writeItems, List.cons_append, List.cons_append, List.append_assoc,
        parts_readItems_more (firstBack _), inductionHypothesis itemBack back]
      rfl

/-- Arrays of values that are read back are read back. -/
theorem isReadBack_array (textual : ∀ item ∈ items, IsTextual item)
    (back : ∀ item ∈ items, IsReadBack item) : IsReadBack (.array items) := by
  intro rest
  cases items with
  | nil =>
      rw [write, List.cons_append, skipGap_cons rfl, parts_readValue_bracket]
      rfl
  | cons first items =>
      obtain ⟨firstTextual, -⟩ := List.forall_mem_cons.mp textual
      obtain ⟨firstBack, back⟩ := List.forall_mem_cons.mp back
      rw [write, List.cons_append, List.cons_append, List.cons_append, List.append_assoc,
        List.append_assoc, List.singleton_append, skipGap_cons rfl, parts_readValue_bracket]
      split
      · exact absurd ‹_› (firstTextual.skipGap_write_ne _ _)
      · rw [parts_readItems_write firstBack back]
        rfl

/-! ### Objects -/

theorem writeMember_append (key : String) (json : Json) (rest : List Char) :
    writeMember (some key, json) ++ rest =
      '"' :: (key.toList.flatMap escape ++ '"' :: ':' :: (write json ++ rest)) := by
  rw [writeMember, List.append_assoc, List.append_assoc, writeText_append, List.singleton_append]

theorem parts_readMembers_last
    (readKey : (readText text).map Front.parts = some (key, ':' :: value))
    (read : (readValue (skipGap value)).map Front.parts = some (first, '\x7d' :: after)) :
    (readMembers ('"' :: text)).map Front.parts = some ([(key, first)], after) := by
  rw [parts_readMembers, readKey]
  change ((readValue (skipGap value)).map Front.parts).bind _ = _
  rw [read]
  rfl

theorem parts_readMembers_more
    (readKey : (readText text).map Front.parts = some (key, ':' :: value))
    (read : (readValue (skipGap value)).map Front.parts = some (first, ',' :: after)) :
    (readMembers ('"' :: text)).map Front.parts =
      ((readMembers (skipGap after)).map Front.parts).map fun (more, rest) =>
        ((key, first) :: more, rest) := by
  rw [parts_readMembers, readKey]
  change ((readValue (skipGap value)).map Front.parts).bind _ = _
  rw [read]
  rfl

/-- Members are read back one after another. -/
theorem parts_readMembers_write (name : String) (firstBack : IsReadBack first)
    (named : ∀ member ∈ members, member.1.isSome)
    (back : ∀ member ∈ members, IsReadBack member.2) (rest : List Char) :
    (readMembers (writeMember (some name, first) ++ (writeMembers members ++ '\x7d' :: rest))).map
      Front.parts = some ((some name, first) :: members, rest) := by
  induction members generalizing name first with
  | nil =>
      rw [writeMembers, List.nil_append, writeMember_append,
        parts_readMembers_last (parts_readText_escape name _) (firstBack _)]
  | cons member members inductionHypothesis =>
      obtain ⟨key, next⟩ := member
      obtain ⟨isNamed, restNamed⟩ := List.forall_mem_cons.mp named
      obtain ⟨nextBack, restBack⟩ := List.forall_mem_cons.mp back
      obtain ⟨nextName, rfl : key = some nextName⟩ := Option.isSome_iff_exists.mp isNamed
      have more := inductionHypothesis nextName nextBack restNamed restBack
      rw [writeMembers, List.cons_append, List.cons_append, List.append_assoc, writeMember_append,
        parts_readMembers_more (parts_readText_escape name _) (firstBack _), writeMember_append,
        skipGap_cons rfl, ← writeMember_append, more]
      rfl

/-- Objects of values that are read back are read back. -/
theorem isReadBack_object (named : ∀ member ∈ members, member.1.isSome)
    (back : ∀ member ∈ members, IsReadBack member.2) : IsReadBack (.object members) := by
  intro rest
  cases members with
  | nil =>
      rw [write, List.cons_append, skipGap_cons rfl, parts_readValue_brace]
      rfl
  | cons member members =>
      obtain ⟨key, first⟩ := member
      obtain ⟨isNamed, restNamed⟩ := List.forall_mem_cons.mp named
      obtain ⟨firstBack, restBack⟩ := List.forall_mem_cons.mp back
      obtain ⟨name, rfl : key = some name⟩ := Option.isSome_iff_exists.mp isNamed
      have read := parts_readMembers_write name firstBack restNamed restBack rest
      rw [write, List.cons_append, List.cons_append, List.cons_append, List.append_assoc,
        List.append_assoc, List.singleton_append, skipGap_cons rfl, parts_readValue_brace]
      -- A member starts with a quote, which is no blank and does not end the object.
      rw [writeMember_append] at read ⊢
      rw [skipGap_cons rfl]
      change ((readMembers _).map Front.parts).map _ = _
      rw [read]
      rfl

/-! ### Whole texts -/

/-- Values made of texts are read back, whatever is around them. -/
theorem IsTextual.isReadBack (textual : IsTextual json) : IsReadBack json := by
  induction textual with
  | text content => exact isReadBack_text content
  | array textual back => exact isReadBack_array textual back
  | object named _ back => exact isReadBack_object named back

theorem read_eq (text : List Char) :
    read text = ((readValue (skipGap text)).map Front.parts).bind fun (value, rest) =>
      if (skipGap rest).isEmpty then some value else none := by
  unfold read
  cases readValue (skipGap text) <;> rfl

/-- A whole text that was written is read as the value it was written from. -/
theorem read_write (textual : IsTextual json) : read (write json) = some json := by
  have back := textual.isReadBack []
  rw [List.append_nil] at back
  rw [read_eq, back]
  rfl

end Outliner.Json
