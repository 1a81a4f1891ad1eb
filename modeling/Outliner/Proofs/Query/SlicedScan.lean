import Mathlib.Data.Nat.PSub
import Outliner.Proofs.Query.Places

/-!
Contract: the scan for tokens by byte offsets alone.

Owns: readers that know a byte offset instead of the characters to come, and look at the
text through slices of it; a counter of open groups that goes up and down; and that they
read the same as the readers that carry the characters along.

A result is `none` where the readers would break down: at a slice that is out of range or
starts or ends inside a character, at a counter below zero, and at a loop that stands still.

Main statements: `Sliced.skipGroup_eq` and `Sliced.scanFrom_eq`. No reader ever breaks down.

Does not own: which places the readers stop at (`Proofs.Query.Places`) and the counter of
the grammar (`Proofs.Query.CountedParse`).
-/

namespace Outliner.Query

open Outliner.Text Cursor

/-- What a reader comes to that may break down. -/
abbrev Checked (α : Type) := Option (Except QueryError α)

namespace Checked

variable {α β : Type}

def map (change : α → β) (result : Checked α) : Checked β :=
  Option.map (Except.map change) result

def bind (result : Checked α) (next : α → Checked β) : Checked β :=
  match result with
  | none => none
  | some (.error error) => some (.error error)
  | some (.ok value) => next value

end Checked

/-! ## Slices -/

/-- The text from a byte offset on. There is one exactly if there is a text up to there. -/
def sliceFrom? (text : List Char) (offset : Nat) : Option (List Char) :=
  if offset = 0 then some text
  else match text with
    | [] => none
    | char :: rest =>
      if char.utf8Size ≤ offset then sliceFrom? rest (offset - char.utf8Size) else none

def sliceBetween? (text : List Char) (start stop : Nat) : Option (List Char) :=
  if stop < start then none
  else (sliceFrom? text start).bind fun rest =>
    (sliceFrom? text stop).map fun behind => rest.take (rest.length - behind.length)

variable {text : List Char} {offset : Nat} {cursor later stop : Cursor}

theorem byteLength_of_sliceFrom? {rest : List Char} (slice : sliceFrom? text offset = some rest) :
    byteLength text = offset + byteLength rest := by
  fun_induction sliceFrom? text offset with
  | case1 =>
      obtain rfl := Option.some.inj slice
      exact (Nat.zero_add _).symm
  | case2 => cases slice
  | case3 offset _ char tail within inductionHypothesis =>
      have tailLength := inductionHypothesis slice
      rw [byteLength]
      omega
  | case4 => cases slice

theorem lt_byteLength_of_sliceFrom? {char : Char} {rest : List Char}
    (slice : sliceFrom? text offset = some (char :: rest)) : offset < byteLength text := by
  have length := byteLength_of_sliceFrom? slice
  have positive := char.utf8Size_pos
  rw [byteLength] at length
  omega

theorem sliceFrom?_append (passed rest : List Char) :
    sliceFrom? (passed ++ rest) (byteLength passed) = some rest := by
  induction passed with
  | nil =>
      unfold sliceFrom?
      exact if_pos rfl
  | cons char passed inductionHypothesis =>
      have positive := char.utf8Size_pos
      unfold sliceFrom?
      rw [byteLength, if_neg (by omega), List.cons_append]
      dsimp only
      rw [if_pos (Nat.le_add_right _ _), Nat.add_sub_cancel_left, inductionHypothesis]

/-- The slice at the offset of a cursor exists and is what the cursor has left. -/
theorem Cursor.LeadsTo.slice (leads : LeadsTo ⟨0, text⟩ cursor) :
    sliceFrom? text cursor.offset = some cursor.rest := by
  obtain ⟨passed, isText, isOffset⟩ := leads
  dsimp only at isText isOffset
  rw [isText, isOffset, Nat.zero_add]
  exact sliceFrom?_append passed cursor.rest

theorem Cursor.LeadsTo.offset_le (leads : cursor.LeadsTo later) : cursor.offset ≤ later.offset := by
  obtain ⟨passed, -, isOffset⟩ := leads
  rw [isOffset]
  exact Nat.le_add_right _ _

/-- The slice between two cursors exists and is the text between them. -/
theorem Cursor.LeadsTo.sliceBetween (leads : LeadsTo ⟨0, text⟩ cursor)
    (further : cursor.LeadsTo later) :
    sliceBetween? text cursor.offset later.offset = some (cursor.textUntil later) := by
  unfold sliceBetween?
  rw [if_neg (Nat.not_lt.mpr further.offset_le), leads.slice, (leads.trans further).slice]
  rfl

/-- A reader that takes a character comes to a higher offset. -/
theorem Cursor.LeadsTo.offset_lt (leads : cursor.LeadsTo later)
    (shorter : later.rest.length < cursor.rest.length) : cursor.offset < later.offset := by
  obtain ⟨passed, isRest, isOffset⟩ := leads
  cases passed with
  | nil =>
      rw [isRest] at shorter
      exact absurd shorter (Nat.lt_irrefl _)
  | cons char passed =>
      have positive := char.utf8Size_pos
      rw [isOffset, byteLength]
      omega

namespace Sliced

/-! ## Phrases and words -/

/-- Reads the content of the phrase that starts at `start` up to its closing mark.
`escaped` says whether the character before is a backslash that hides this one. -/
def readPhrase (text : List Char) (mark : Char) (start : Nat) (escaped : Bool) (offset : Nat) :
    Checked (List Char × Nat) :=
  match slice : sliceFrom? text offset with
  | none => none
  | some [] => some (.error ⟨start, .unclosedQuote⟩)
  | some (char :: _) =>
    -- What is left behind this offset shrinks, which is why this loop ends, and the others.
    have := lt_byteLength_of_sliceFrom? slice
    have := char.utf8Size_pos
    if escaped then
      (readPhrase text mark start false (offset + char.utf8Size)).map fun (content, stop) =>
        (unescape mark char ++ content, stop)
    else if char = '\\' then readPhrase text mark start true (offset + char.utf8Size)
    else if char = mark then some (.ok ([], offset + char.utf8Size))
    else (readPhrase text mark start false (offset + char.utf8Size)).map fun (content, stop) =>
      (char :: content, stop)
termination_by byteLength text - offset

def readWord (text : List Char) (afterMark : Bool) (offset : Nat) : Checked (List Char × Nat) :=
  match slice : sliceFrom? text offset with
  | none => none
  | some [] => some (.ok ([], offset))
  | some (char :: _) =>
    have := lt_byteLength_of_sliceFrom? slice
    have := char.utf8Size_pos
    if endsWord char then some (.ok ([], offset))
    else if afterMark && isQuotationMark char then
      -- The offset at which a phrase ends is not known to be further on: that is checked.
      (readPhrase text char offset false (offset + char.utf8Size)).bind fun (content, stop) =>
        if offset < stop then
          (readWord text false stop).map fun (word, stop) => (content ++ word, stop)
        else none
    else
      (readWord text (isValueMark char) (offset + char.utf8Size)).map fun (word, stop) =>
        (char :: word, stop)
termination_by byteLength text - offset

/-! ## Filters -/

def readComparison (text : List Char) (subject : FilterSubject) (offset : Nat) :
    Checked (TokenKind × Nat) :=
  (sliceFrom? text offset).bind fun rest =>
    let (sign, value) := Comparison.split rest
    let valueOffset := byteLength text - byteLength value
    (readWord text true valueOffset).map fun (word, stop) =>
      (.filter ⟨subject, sign, String.ofList word, valueOffset⟩, stop)

def readTextWord (text : List Char) (offset : Nat) : Checked (TokenKind × Nat) :=
  (readWord text false offset).map fun (word, stop) => (.text (String.ofList word), stop)

/-- Where the attribute key that starts or goes on at an offset ends. -/
def keyEnd (text : List Char) (offset : Nat) : Option Nat :=
  match slice : sliceFrom? text offset with
  | none => none
  | some [] => some offset
  | some (char :: rest) =>
    have := lt_byteLength_of_sliceFrom? slice
    have := char.utf8Size_pos
    if endsWord char || char == '<' || char == '>' || char == '=' ||
        "!=".toList.isPrefixOf (char :: rest) then some offset
    else keyEnd text (offset + char.utf8Size)
termination_by byteLength text - offset

def readPlainWord (text : List Char) (offset : Nat) : Checked (TokenKind × Nat) :=
  (sliceFrom? text offset).bind fun rest =>
    if rest.head? = some '@' then
      (keyEnd text (offset + 1)).bind fun stop =>
        if stop = offset + 1 then readTextWord text offset
        else (sliceBetween? text (offset + 1) stop).bind fun key =>
          readComparison text (.attr (String.ofList key)) stop
    else readTextWord text offset

/-! ## Arguments of sub-filters -/

/-- Where the group that starts at `start` ends, with a counter of the open groups. -/
def skipGroup (text : List Char) (start depth : Nat) (opens : Bool) (offset : Nat) : Checked Nat :=
  match slice : sliceFrom? text offset with
  | none => none
  | some [] => some (.error ⟨start, .unclosedGroup⟩)
  | some (char :: _) =>
    have := lt_byteLength_of_sliceFrom? slice
    have := char.utf8Size_pos
    if char == '(' then skipGroup text start (depth + 1) true (offset + 1)
    else if char == ')' then
      depth.ppred.bind fun depth =>
        if depth = 0 then some (.ok (offset + 1))
        else skipGroup text start depth true (offset + 1)
    else if opens && isQuotationMark char then
      (readPhrase text char offset false (offset + char.utf8Size)).bind fun (_, stop) =>
        if offset < stop then skipGroup text start depth false stop else none
    else skipGroup text start depth (opensPhrase char) (offset + char.utf8Size)
termination_by byteLength text - offset

def skipArgument (text : List Char) (word : Nat → Checked (TokenKind × Nat)) (offset : Nat) :
    Checked Nat :=
  (sliceFrom? text offset).bind fun rest =>
    let operand := byteLength text - byteLength (rest.dropWhile (· == '-'))
    (sliceFrom? text operand).bind fun
      | [] => some (.ok operand)
      | char :: _ =>
        if char == '(' then skipGroup text operand 0 true operand
        else if isQuotationMark char then
          (readPhrase text char operand false (operand + char.utf8Size)).map Prod.snd
        else if endsWord char then some (.ok operand)
        else (word operand).map Prod.snd

/-- Reads a word so many sub-filters down: a filter or a text. -/
def readWordToken (text : List Char) (depth offset : Nat) : Checked (TokenKind × Nat) :=
  (sliceFrom? text offset).bind fun rest =>
    match filterWord? rest with
    | none => readPlainWord text offset
    | some (word, subject) =>
      let valueOffset := offset + word.utf8ByteSize
      if subject == .parent || subject == .ancestor then
        if maxNesting ≤ depth then some (.error ⟨offset, .nestedTooDeep⟩)
        else (skipArgument text (readWordToken text (depth + 1)) valueOffset).bind fun stop =>
          (sliceBetween? text valueOffset stop).map fun value =>
            .ok (.filter ⟨subject, none, String.ofList value, valueOffset⟩, stop)
      else readComparison text subject valueOffset
termination_by maxNesting - depth

/-! ## Tokens -/

def readLexeme (text : List Char) (depth offset : Nat) (char : Char) :
    Checked (TokenKind × Nat) :=
  match signTokens.lookup char with
  | some kind => some (.ok (kind, offset + char.utf8Size))
  | none =>
    if isQuotationMark char then
      (readPhrase text char offset false (offset + char.utf8Size)).map fun (content, stop) =>
        (.quoted (String.ofList content), stop)
    else readWordToken text depth offset

/-- The tokens from an offset on, in a text that is so many sub-filters down. -/
def scanFrom (text : List Char) (depth offset : Nat) : Checked (List Token) :=
  match slice : sliceFrom? text offset with
  | none => none
  | some [] => some (.ok [])
  | some (char :: _) =>
    have := lt_byteLength_of_sliceFrom? slice
    have := char.utf8Size_pos
    if isBlank char then scanFrom text depth (offset + char.utf8Size)
    else (readLexeme text depth offset char).bind fun (kind, stop) =>
      if offset < stop then (scanFrom text depth stop).map (⟨kind, offset, stop⟩ :: ·) else none
termination_by byteLength text - offset

/-! ## The same readings -/

def byOffset {α : Type} (read : Except QueryError (α × Cursor)) : Except QueryError (α × Nat) :=
  read.map fun (value, stop) => (value, stop.offset)

/-- The phrase that starts at an offset has to have a closing mark. -/
def closed (start : Nat) (phrase : Option (List Char × Cursor)) :
    Except QueryError (List Char × Cursor) :=
  phrase.elim (.error ⟨start, .unclosedQuote⟩) .ok

def behindBackslash (mark : Char) (offset : Nat) : List Char → Option (List Char × Cursor)
  | [] => none
  | char :: rest =>
    (Query.readPhrase mark (offset + char.utf8Size) rest).map fun (content, stop) =>
      (unescape mark char ++ content, stop)

variable {rest : List Char} {mark char : Char} {start : Nat}

theorem rest_of_slice {tail : List Char} (leads : LeadsTo ⟨0, text⟩ ⟨offset, rest⟩)
    (slice : sliceFrom? text offset = some tail) : rest = tail :=
  Option.some.inj (leads.slice.symm.trans slice)

theorem byOffset_map {α β : Type} (change : α → β) (read : Except QueryError (α × Cursor)) :
    (byOffset read).map (fun (value, stop) => (change value, stop)) =
      byOffset (read.map fun (value, stop) => (change value, stop)) := by
  cases read <;> rfl

theorem closed_map (change : List Char → List Char) (start : Nat)
    (phrase : Option (List Char × Cursor)) :
    (byOffset (closed start phrase)).map (fun (content, stop) => (change content, stop)) =
      byOffset (closed start (phrase.map fun (content, stop) => (change content, stop))) := by
  cases phrase <;> rfl

theorem bind_closed {β : Type} (start : Nat) (content : List Char) (stop : Cursor)
    (next : List Char × Nat → Checked β) :
    Checked.bind (some (byOffset (closed start (some (content, stop))))) next =
      next (content, stop.offset) :=
  rfl

/-- By slices a phrase is read as from its characters. -/
theorem readPhrase_eq (leads : LeadsTo ⟨0, text⟩ ⟨offset, rest⟩) (escaped : Bool) :
    readPhrase text mark start escaped offset = some (byOffset (closed start
      (if escaped then behindBackslash mark offset rest
        else Query.readPhrase mark offset rest))) := by
  fun_induction readPhrase text mark start escaped offset generalizing rest with
  | case1 escaped offset broken =>
      rw [leads.slice] at broken
      cases broken
  | case2 escaped offset slice =>
      obtain rfl := rest_of_slice leads slice
      cases escaped <;> rfl
  | case3 offset char tail slice _ _ inductionHypothesis =>
      obtain rfl := rest_of_slice leads slice
      rw [inductionHypothesis (leads.trans (leadsTo_next offset char tail))]
      exact congrArg some (closed_map (unescape mark char ++ ·) start _)
  | case4 escaped offset tail notEscaped slice _ _ inductionHypothesis =>
      obtain rfl := rest_of_slice leads slice
      rw [inductionHypothesis (leads.trans (leadsTo_next offset '\\' tail)), if_neg notEscaped]
      cases tail <;> rfl
  | case5 escaped offset tail notEscaped slice _ _ notBackslash =>
      obtain rfl := rest_of_slice leads slice
      rw [if_neg notEscaped, readPhrase_cons notBackslash, if_pos rfl]
      rfl
  | case6 escaped offset char tail slice _ _ notEscaped notBackslash notMark
      inductionHypothesis =>
      obtain rfl := rest_of_slice leads slice
      rw [inductionHypothesis (leads.trans (leadsTo_next offset char tail)), if_neg notEscaped,
        readPhrase_cons notBackslash, if_neg notMark]
      exact congrArg some (closed_map (char :: ·) start _)

theorem readPhrase_at (leads : LeadsTo ⟨0, text⟩ ⟨offset, char :: rest⟩) :
    readPhrase text char offset false (offset + char.utf8Size) =
      some (byOffset (closed offset (Query.readPhrase char (offset + char.utf8Size) rest))) :=
  readPhrase_eq (leads.trans (leadsTo_next offset char rest)) false

/-- A phrase that is closed leads further into the text. -/
theorem readPhrase_further {content : List Char} (leads : LeadsTo ⟨0, text⟩ ⟨offset, char :: rest⟩)
    (phrase : Query.readPhrase mark (offset + char.utf8Size) rest = some (content, stop)) :
    LeadsTo ⟨0, text⟩ stop ∧ offset < stop.offset := by
  have further := (leadsTo_next offset char rest).trans (readPhrase_leads phrase)
  exact ⟨leads.trans further, further.offset_lt (Nat.lt_succ_of_lt (readPhrase_shorter phrase))⟩

/-- By slices a word is read as from its characters. -/
theorem readWord_eq (leads : LeadsTo ⟨0, text⟩ ⟨offset, rest⟩) (afterMark : Bool) :
    readWord text afterMark offset = some (byOffset (Query.readWord afterMark offset rest)) := by
  fun_induction readWord text afterMark offset generalizing rest with
  | case1 _ offset broken =>
      rw [leads.slice] at broken
      cases broken
  | case2 afterMark offset slice =>
      obtain rfl := rest_of_slice leads slice
      rw [readWord_of_stop stopsWord_nil]
      rfl
  | case3 afterMark offset char tail slice _ _ isBreak =>
      obtain rfl := rest_of_slice leads slice
      rw [readWord_of_break isBreak]
      rfl
  | case4 afterMark offset char tail slice _ _ noBreak opens inductionHypothesis =>
      obtain rfl := rest_of_slice leads slice
      rw [readPhrase_at leads]
      cases phrase : Query.readPhrase char (offset + char.utf8Size) tail with
      | none =>
          rw [readWord_of_open_phrase noBreak opens phrase]
          rfl
      | some result =>
          obtain ⟨content, stop⟩ := result
          obtain ⟨further, advances⟩ := readPhrase_further leads phrase
          rw [bind_closed, readWord_of_phrase noBreak opens phrase]
          dsimp only
          rw [if_pos advances, inductionHypothesis stop.offset advances further]
          exact congrArg some (byOffset_map (content ++ ·) _)
  | case5 afterMark offset char tail slice _ _ noBreak noPhrase inductionHypothesis =>
      obtain rfl := rest_of_slice leads slice
      rw [inductionHypothesis (leads.trans (leadsTo_next offset char tail)),
        readWord_of_char noBreak noPhrase]
      exact congrArg some (byOffset_map (char :: ·) _)

theorem offset_of_rest (leads : LeadsTo ⟨0, text⟩ cursor) :
    byteLength text - byteLength cursor.rest = cursor.offset := by
  obtain ⟨passed, isText, isOffset⟩ := leads
  dsimp only at isText isOffset
  rw [isText, isOffset, byteLength_append, Nat.add_sub_cancel, Nat.zero_add]

/-- By slices the value of a filter is read as from its characters. -/
theorem readComparison_eq (leads : LeadsTo ⟨0, text⟩ cursor) (subject : FilterSubject) :
    readComparison text subject cursor.offset =
      some (byOffset (Query.readComparison subject cursor)) := by
  have isValue := skip_to_value (split_text cursor.rest)
  have further := leads.trans
    (cursor.leadsTo_skip (cursor.rest.length - (Comparison.split cursor.rest).2.length))
  unfold readComparison Query.readComparison
  rw [leads.slice]
  dsimp only [Option.bind]
  generalize cursor.skip (cursor.rest.length - (Comparison.split cursor.rest).2.length) = value
    at isValue further ⊢
  rw [← isValue, offset_of_rest further, readWord_eq further]
  cases Query.readWord true value.offset value.rest <;> rfl

theorem readTextWord_eq (leads : LeadsTo ⟨0, text⟩ cursor) :
    readTextWord text cursor.offset = some (byOffset (Query.readTextWord cursor)) := by
  unfold readTextWord Query.readTextWord
  rw [readWord_eq leads]
  cases Query.readWord false cursor.offset cursor.rest <;> rfl

theorem attributeKey_of_end (ends : (endsWord char || char == '<' || char == '>' || char == '=' ||
    "!=".toList.isPrefixOf (char :: rest)) = true) : attributeKey (char :: rest) = [] := by
  by_cases isPair : ∃ more, char :: rest = '!' :: '=' :: more
  · obtain ⟨more, isPair⟩ := isPair
    rw [isPair]
    rfl
  · rw [Bool.or_eq_true, List.isPrefixOf_iff_prefix] at ends
    have notPrefix : ¬ "!=".toList <+: char :: rest := fun ⟨more, isText⟩ =>
      isPair ⟨more, isText.symm⟩
    rw [attributeKey_cons (not_exists.mp isPair), if_pos (ends.resolve_right notPrefix)]

/-- The end of a key, counted in bytes, is behind the characters of the key. -/
theorem keyEnd_eq (leads : LeadsTo ⟨0, text⟩ ⟨offset, rest⟩) :
    keyEnd text offset = some (offset + byteLength (attributeKey rest)) := by
  fun_induction keyEnd text offset generalizing rest with
  | case1 offset broken =>
      rw [leads.slice] at broken
      cases broken
  | case2 offset slice =>
      obtain rfl := rest_of_slice leads slice
      rfl
  | case3 offset char tail slice _ _ ends =>
      obtain rfl := rest_of_slice leads slice
      rw [attributeKey_of_end ends]
      rfl
  | case4 offset char tail slice _ _ notEnd inductionHypothesis =>
      obtain rfl := rest_of_slice leads slice
      obtain ⟨notEnd, noPair⟩ := not_or.mp (mt Bool.or_eq_true_iff.mpr notEnd)
      rw [inductionHypothesis (leads.trans (leadsTo_next offset char tail)),
        attributeKey_cons fun more isPair => noPair (by rw [isPair]; rfl), if_neg notEnd, byteLength,
        Nat.add_assoc]

/-- A depth that starts at one and the number of inner groups that are open find the same end.
-/
theorem skipGroup_eq {depth inner : Nat} {opens : Bool} (isDepth : depth = inner + 1)
    (leads : LeadsTo ⟨0, text⟩ ⟨offset, rest⟩) :
    skipGroup text start depth opens offset =
      some ((Query.skipGroup start inner opens offset rest).map Cursor.offset) := by
  fun_induction skipGroup text start depth opens offset generalizing inner rest with
  | case1 depth opens offset broken =>
      rw [leads.slice] at broken
      cases broken
  | case2 depth opens offset slice =>
      obtain rfl := rest_of_slice leads slice
      unfold Query.skipGroup
      rfl
  | case3 depth opens offset char tail slice _ _ isOpen inductionHypothesis =>
      obtain rfl := rest_of_slice leads slice
      obtain rfl := beq_iff_eq.mp isOpen
      rw [skipGroup_of_open, inductionHypothesis (congrArg (· + 1) isDepth)
        (leads.trans (leadsTo_next offset '(' tail))]
  | case4 depth opens offset char tail slice _ _ _ isClose inductionHypothesis =>
      obtain rfl := rest_of_slice leads slice
      obtain rfl := beq_iff_eq.mp isClose
      obtain rfl := isDepth
      rw [skipGroup_of_close, Nat.ppred_succ]
      cases inner with
      | zero => rfl
      | succ inner =>
          exact inductionHypothesis (inner + 1) rfl (leads.trans (leadsTo_next offset ')' tail))
  | case5 depth opens offset char tail slice _ _ notOpen notClose isPhrase inductionHypothesis =>
      obtain rfl := rest_of_slice leads slice
      rw [readPhrase_at leads]
      cases phrase : Query.readPhrase char (offset + char.utf8Size) tail with
      | none =>
          rw [skipGroup_of_open_phrase notOpen notClose isPhrase phrase]
          rfl
      | some result =>
          obtain ⟨content, stop⟩ := result
          obtain ⟨further, advances⟩ := readPhrase_further leads phrase
          rw [bind_closed, skipGroup_of_phrase notOpen notClose isPhrase phrase]
          dsimp only
          rw [if_pos advances, inductionHypothesis stop.offset advances isDepth further]
  | case6 depth opens offset char tail slice _ _ notOpen notClose noPhrase inductionHypothesis =>
      obtain rfl := rest_of_slice leads slice
      rw [inductionHypothesis isDepth (leads.trans (leadsTo_next offset char tail)),
        skipGroup_of_char notOpen notClose noPhrase]

/-- The place behind the key of an attribute. -/
theorem skip_key (offset : Nat) (rest : List Char) :
    Cursor.skip ⟨offset, '@' :: rest⟩ ((attributeKey rest).length + 1) =
      ⟨offset + 1 + byteLength (attributeKey rest), rest.drop (attributeKey rest).length⟩ := by
  have isKey := List.prefix_iff_eq_take.mp (attributeKey_isFront rest)
  unfold Cursor.skip
  rw [List.take_succ_cons, List.drop_succ_cons, ← isKey, byteLength, ← Nat.add_assoc]
  rfl

theorem readPlainWord_eq (leads : LeadsTo ⟨0, text⟩ cursor) :
    readPlainWord text cursor.offset = some (byOffset (Query.readPlainWord cursor)) := by
  obtain ⟨offset, rest⟩ := cursor
  unfold readPlainWord
  rw [leads.slice, Option.bind_some]
  by_cases isAt : rest.head? = some '@'
  · obtain ⟨tail, rfl⟩ := List.head?_eq_some_iff.mp isAt
    have key : LeadsTo ⟨0, text⟩ ⟨offset + 1, tail⟩ := leads.trans (leadsTo_next offset '@' tail)
    have isText := List.prefix_iff_eq_append.mp (attributeKey_isFront tail)
    have value : Cursor.LeadsTo ⟨offset + 1, tail⟩
        ⟨offset + 1 + byteLength (attributeKey tail), tail.drop (attributeKey tail).length⟩ :=
      ⟨attributeKey tail, isText.symm, rfl⟩
    rw [if_pos isAt, keyEnd_eq key, Option.bind_some, readPlainWord_of_at rfl, skip_key]
    by_cases isEmpty : attributeKey tail = []
    · rw [isEmpty]
      exact (if_pos rfl).trans (readTextWord_eq leads)
    · have further : offset + 1 + byteLength (attributeKey tail) ≠ offset + 1 :=
        mt Nat.add_eq_left.mp (mt byteLength_eq_zero.mp isEmpty)
      rw [if_neg further, key.sliceBetween value, textUntil_of_append isText.symm,
        if_neg (by rwa [List.isEmpty_iff])]
      exact readComparison_eq (key.trans value) _
  · rw [if_neg isAt, readPlainWord_of_text isAt]
    exact readTextWord_eq leads

theorem skipGroup_at (leads : LeadsTo ⟨0, text⟩ ⟨offset, '(' :: rest⟩) :
    skipGroup text offset 0 true offset =
      some ((Query.skipGroup offset 0 true (offset + 1) rest).map Cursor.offset) := by
  have inside : LeadsTo ⟨0, text⟩ ⟨offset + 1, rest⟩ := leads.trans (leadsTo_next offset '(' rest)
  rw [← skipGroup_eq rfl inside]
  conv => lhs; unfold skipGroup
  split
  · rename_i broken
    rw [leads.slice] at broken
    cases broken
  · rename_i slice
    cases rest_of_slice leads slice
  · rename_i slice
    obtain ⟨rfl, -⟩ := List.cons.inj (rest_of_slice leads slice)
    rfl

/-- The ends of arguments agree if the readers of their words do. -/
theorem skipArgument_eq {word : Nat → Checked (TokenKind × Nat)}
    {plain : Cursor → Except QueryError (TokenKind × Cursor)}
    (same : ∀ cursor, LeadsTo ⟨0, text⟩ cursor → word cursor.offset = some (byOffset (plain cursor)))
    (leads : LeadsTo ⟨0, text⟩ cursor) :
    skipArgument text word cursor.offset =
      some ((Query.skipArgument plain cursor).map Cursor.offset) := by
  unfold skipArgument Query.skipArgument
  rw [leads.slice, Option.bind_some]
  have further := leads.trans (cursor.leadsTo_skip (cursor.rest.takeWhile (· == '-')).length)
  have isOperand : cursor.rest.dropWhile (· == '-') =
      (cursor.skip (cursor.rest.takeWhile (· == '-')).length).rest := by
    have isPrefix : cursor.rest.takeWhile (· == '-') <+: cursor.rest := List.takeWhile_prefix _
    have isRest := List.prefix_iff_eq_append.mp isPrefix
    exact List.append_cancel_left (List.takeWhile_append_dropWhile.trans isRest.symm)
  rw [isOperand]
  generalize cursor.skip (cursor.rest.takeWhile (· == '-')).length = operand at further ⊢
  obtain ⟨offset, rest⟩ := operand
  dsimp only
  rw [offset_of_rest further, further.slice, Option.bind_some]
  cases rest with
  | nil => rfl
  | cons char rest =>
      dsimp only
      split
      · rename_i isOpen
        obtain rfl := beq_iff_eq.mp isOpen
        exact skipGroup_at further
      split
      · rw [readPhrase_at further]
        cases Query.readPhrase char (offset + char.utf8Size) rest <;> rfl
      split
      · rfl
      · rw [same _ further]
        cases plain ⟨offset, char :: rest⟩ <;> rfl

/-- In either letter case, a filter word has the same length in bytes. -/
theorem offset_skip_word {word : String} {subject : FilterSubject}
    (isWord : filterWord? cursor.rest = some (word, subject)) :
    (cursor.skip word.length).offset = cursor.offset + word.utf8ByteSize := by
  have isHead := List.find?_some isWord
  dsimp only at isHead
  have length : byteLength (cursor.rest.take word.length) = word.utf8ByteSize := by
    rw [← byteLength_move isRelettering_toLower, beq_iff_eq.mp isHead, ← utf8ByteSize_ofList,
      String.ofList_toList]
  exact congrArg (cursor.offset + ·) length

/-- A depth that counts up to the limit and levels that count down to zero read the same words.
-/
theorem readWordToken_eq {depth levels : Nat} (isDepth : depth + levels = maxNesting)
    (leads : LeadsTo ⟨0, text⟩ cursor) :
    readWordToken text depth cursor.offset =
      some (byOffset (Query.readWordToken levels cursor)) := by
  induction levels using Nat.strongRecOn generalizing depth cursor with
  | ind levels inductionHypothesis =>
      unfold readWordToken
      rw [leads.slice, Option.bind_some]
      cases isWord : filterWord? cursor.rest with
      | none =>
          rw [readWordToken_of_none isWord]
          exact readPlainWord_eq leads
      | some found =>
          obtain ⟨word, subject⟩ := found
          have value := leads.trans (cursor.leadsTo_skip word.length)
          dsimp only
          rw [readWordToken_of_word isWord, ← offset_skip_word isWord]
          split
          · cases levels with
            | zero => exact if_pos (Nat.le_of_eq isDepth.symm)
            | succ levels =>
                have isDeeper : depth + 1 + levels = maxNesting := by omega
                have notDeepest : ¬ maxNesting ≤ depth := by omega
                have argument := skipArgument_eq (fun cursor => inductionHypothesis levels
                  (Nat.lt_succ_self levels) isDeeper) value
                rw [if_neg notDeepest, argument]
                dsimp only
                cases found : Query.skipArgument (Query.readWordToken levels)
                    (cursor.skip word.length) with
                | error error => rfl
                | ok stop =>
                    dsimp only [Checked.bind, Except.map]
                    rw [value.sliceBetween (leads_of_skipArgument found)]
                    rfl
          · exact readComparison_eq value subject

theorem readLexeme_eq {depth levels : Nat} (isDepth : depth + levels = maxNesting)
    (leads : LeadsTo ⟨0, text⟩ ⟨offset, char :: rest⟩) :
    readLexeme text depth offset char =
      some (byOffset (Query.readLexeme levels offset char rest)) := by
  unfold readLexeme
  by_cases isSign : ∃ sign, (char, sign) ∈ signTokens
  · obtain ⟨sign, isSign⟩ := isSign
    have isEntry : signTokens.lookup char = some sign := by
      rcases mem_signTokens.mp isSign with
        ⟨rfl, rfl⟩ | ⟨rfl, rfl⟩ | ⟨rfl, rfl⟩ | ⟨rfl, rfl⟩ | ⟨rfl, rfl⟩ <;> rfl
    rw [isEntry, readLexeme_of_sign isSign]
    rfl
  · have noEntry : signTokens.lookup char = none := by
      rw [List.lookup_eq_none_iff]
      rintro ⟨sign, kind⟩ isEntry
      rw [bne_iff_ne]
      rintro rfl
      exact isSign ⟨kind, isEntry⟩
    rw [noEntry]
    dsimp only
    split
    · rename_i isMark
      rw [readPhrase_at leads]
      cases phrase : Query.readPhrase char (offset + char.utf8Size) rest with
      | none =>
          rw [readLexeme_of_open_phrase isMark phrase]
          rfl
      | some result =>
          rw [readLexeme_of_phrase isMark phrase]
          rfl
    · rename_i noMark
      rw [readLexeme_of_word (not_exists.mp isSign) noMark]
      exact readWordToken_eq isDepth leads

/-- No slice of the scan is refused, and the tokens are those of the plain scan. -/
theorem scanFrom_eq {depth levels : Nat} (isDepth : depth + levels = maxNesting)
    (leads : LeadsTo ⟨0, text⟩ ⟨offset, rest⟩) :
    scanFrom text depth offset = some (Token.scanFrom levels offset rest) := by
  fun_induction scanFrom text depth offset generalizing rest with
  | case1 offset broken =>
      rw [leads.slice] at broken
      cases broken
  | case2 offset slice =>
      obtain rfl := rest_of_slice leads slice
      unfold Token.scanFrom
      rfl
  | case3 offset char tail slice _ _ isBlank inductionHypothesis =>
      obtain rfl := rest_of_slice leads slice
      rw [scanFrom_of_blank isBlank]
      exact inductionHypothesis (leads.trans (leadsTo_next offset char tail))
  | case4 offset char tail slice _ _ notBlank inductionHypothesis =>
      obtain rfl := rest_of_slice leads slice
      rw [readLexeme_eq isDepth leads]
      have points := readLexeme_points levels offset char tail
      cases read : Query.readLexeme levels offset char tail with
      | error error =>
          rw [scanFrom_of_error notBlank read]
          rfl
      | ok result =>
          obtain ⟨kind, stop⟩ := result
          rw [read] at points
          have advances := points.1.offset_lt
            (readLexeme_shorter (Bool.eq_false_iff.mpr notBlank) read)
          rw [scanFrom_of_token notBlank read]
          refine (if_pos advances).trans ?_
          rw [inductionHypothesis stop.offset advances (leads.trans points.1)]
          rfl

end Sliced

end Outliner.Query
