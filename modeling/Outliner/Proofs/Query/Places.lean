import Outliner.Proofs.Query.GroupScan

/-!
Contract: the places in a text that the scan for tokens comes to.

Owns: the relation `LeadsTo` between two places in one text, and that all places that
readers return or complain about are ahead of where they start: no offset is past the
end or inside a character, and the characters to come are the ones behind the offset.

Main statements: `readWordToken_points` and `scanFrom_points`. They also say that the value
of a sub-filter is the text from the place of the value to the end of the token.

Does not own: where the errors of the grammar are (`Proofs.Query.ErrorPlaces`).
-/

namespace Outliner.Query

open Outliner.Text

/-- Byte lengths add up over a split. -/
theorem byteLength_append (front back : List Char) :
    byteLength (front ++ back) = byteLength front + byteLength back := by
  induction front with
  | nil => exact (Nat.zero_add _).symm
  | cons char front inductionHypothesis =>
      rw [List.cons_append, byteLength, byteLength, inductionHypothesis, Nat.add_assoc]

theorem byteLength_eq_zero {text : List Char} : byteLength text = 0 ↔ text = [] := by
  cases text with
  | nil => exact iff_of_true rfl rfl
  | cons char rest =>
      have positive := char.utf8Size_pos
      rw [byteLength]
      exact iff_of_false (by omega) (List.cons_ne_nil char rest)

theorem utf8ByteSize_ofList (text : List Char) :
    (String.ofList text).utf8ByteSize = byteLength text := by
  induction text with
  | nil => rfl
  | cons char rest inductionHypothesis =>
      rw [String.ofList_cons, String.utf8ByteSize_append, String.utf8ByteSize_singleton,
        inductionHypothesis, byteLength]

namespace Cursor

/-- A place is the other one, or further on in the same text. -/
def LeadsTo (cursor later : Cursor) : Prop :=
  ∃ passed, cursor.rest = passed ++ later.rest ∧
    later.offset = cursor.offset + byteLength passed

/-- A byte offset is that of a place ahead. -/
def HasPlace (cursor : Cursor) (position : Nat) : Prop :=
  ∃ rest, cursor.LeadsTo ⟨position, rest⟩

/-- What is read is good, or the error is at a place ahead. -/
def Points {α : Type} (cursor : Cursor) (good : α → Prop) : Except QueryError α → Prop
  | .ok value => good value
  | .error error => cursor.HasPlace error.position

variable {cursor later last : Cursor} {α β : Type} {result : Except QueryError α}

theorem LeadsTo.refl (cursor : Cursor) : cursor.LeadsTo cursor :=
  ⟨[], rfl, rfl⟩

/-- Passed characters add up, and their bytes with them. -/
theorem LeadsTo.trans (first : cursor.LeadsTo later) (second : later.LeadsTo last) :
    cursor.LeadsTo last := by
  obtain ⟨passed, isRest, isOffset⟩ := first
  obtain ⟨further, isLater, isFurther⟩ := second
  refine ⟨passed ++ further, ?_, ?_⟩
  · rw [isRest, isLater, List.append_assoc]
  · rw [isFurther, isOffset, byteLength_append, Nat.add_assoc]

theorem leadsTo_next (offset : Nat) (char : Char) (rest : List Char) :
    LeadsTo ⟨offset, char :: rest⟩ ⟨offset + char.utf8Size, rest⟩ :=
  ⟨[char], rfl, rfl⟩

theorem leadsTo_skip (cursor : Cursor) (count : Nat) : cursor.LeadsTo (cursor.skip count) :=
  ⟨cursor.rest.take count, (List.take_append_drop count cursor.rest).symm, rfl⟩

theorem textUntil_of_append {passed : List Char} (isRest : cursor.rest = passed ++ later.rest) :
    cursor.textUntil later = passed := by
  unfold Cursor.textUntil
  rw [isRest, List.length_append, Nat.add_sub_cancel]
  exact List.take_left

/-- What is passed on the way from one place to another one. -/
theorem LeadsTo.textUntil (leads : cursor.LeadsTo later) :
    cursor.rest = cursor.textUntil later ++ later.rest ∧
      later.offset = cursor.offset + byteLength (cursor.textUntil later) := by
  obtain ⟨passed, isRest, isOffset⟩ := leads
  rw [textUntil_of_append isRest]
  exact ⟨isRest, isOffset⟩

/-- A place ahead of a later cursor is ahead of an earlier one. -/
theorem LeadsTo.hasPlace (leads : cursor.LeadsTo later) {position : Nat}
    (place : later.HasPlace position) : cursor.HasPlace position := by
  obtain ⟨rest, isPlace⟩ := place
  exact ⟨rest, leads.trans isPlace⟩

theorem LeadsTo.place (leads : cursor.LeadsTo later) : cursor.HasPlace later.offset :=
  ⟨later.rest, leads⟩

theorem Points.map {change : α → β} {good : β → Prop}
    (points : cursor.Points (fun value => good (change value)) result) :
    cursor.Points good (result.map change) := by
  cases result with
  | ok value => exact points
  | error error => exact points

/-- What is read further on has its errors ahead of here as well. -/
theorem Points.mono {good better : α → Prop} (points : later.Points better result)
    (leads : cursor.LeadsTo later) (isGood : ∀ value, better value → good value) :
    cursor.Points good result := by
  cases result with
  | ok value => exact isGood value points
  | error error => exact leads.hasPlace points

/-- A reader that starts further on stops ahead of the first place, too. -/
theorem LeadsTo.points {stop : α → Cursor} (leads : cursor.LeadsTo later)
    (points : later.Points (fun value => later.LeadsTo (stop value)) result) :
    cursor.Points (fun value => cursor.LeadsTo (stop value)) result :=
  points.mono leads fun _ => leads.trans

end Cursor

open Cursor

variable {mark char : Char} {text content : List Char} {offset : Nat} {cursor stop : Cursor}

/-! ## Phrases and words -/

/-- A phrase ends ahead of its first character. -/
theorem readPhrase_leads (read : readPhrase mark offset text = some (content, stop)) :
    LeadsTo ⟨offset, text⟩ stop := by
  fun_induction readPhrase mark offset text generalizing content with
  | case1 => cases read
  | case2 => cases read
  | case3 offset char rest inductionHypothesis =>
      obtain ⟨⟨inner, innerStop⟩, readInner, equal⟩ := Option.map_eq_some_iff.mp read
      obtain ⟨-, rfl⟩ := Prod.mk.inj equal
      have backslash := leadsTo_next offset '\\' (char :: rest)
      exact (backslash.trans (leadsTo_next _ char rest)).trans (inductionHypothesis readInner)
  | case4 offset rest =>
      obtain ⟨-, rfl⟩ := Prod.mk.inj (Option.some.inj read)
      exact leadsTo_next offset mark rest
  | case5 offset char rest _ _ _ inductionHypothesis =>
      obtain ⟨⟨inner, innerStop⟩, readInner, equal⟩ := Option.map_eq_some_iff.mp read
      obtain ⟨-, rfl⟩ := Prod.mk.inj equal
      exact (leadsTo_next offset char rest).trans (inductionHypothesis readInner)

/-- A word ends ahead, and a quote that stays open in it is reported at a place ahead. -/
theorem readWord_points (afterMark : Bool) (offset : Nat) (text : List Char) :
    Points ⟨offset, text⟩ (fun read => LeadsTo ⟨offset, text⟩ read.2)
      (readWord afterMark offset text) := by
  fun_induction readWord afterMark offset text with
  | case1 => exact .refl _
  | case2 => exact .refl _
  | case3 => exact (LeadsTo.refl _).place
  | case4 afterMark offset char rest _ _ content phraseStop phrase _ inductionHypothesis =>
      have leads := (leadsTo_next offset char rest).trans (readPhrase_leads phrase)
      apply Points.map
      exact leads.points inductionHypothesis
  | case5 afterMark offset char rest _ _ inductionHypothesis =>
      apply Points.map
      exact (leadsTo_next offset char rest).points inductionHypothesis

/-! ## Filters -/

/-- In a text, a filter whose token is over at `stop` says where its value is. The value of
a sub-filter is the text from there to the end of the token. -/
structure WrittenFilter.PlacedAt (written : WrittenFilter) (cursor stop : Cursor)
    (value : List Char) : Prop where
  leads : cursor.LeadsTo ⟨written.valueOffset, value⟩
  stops : LeadsTo ⟨written.valueOffset, value⟩ stop
  slice : written.subject = .parent ∨ written.subject = .ancestor →
    value = written.value.toList ++ stop.rest

/-- A token that is over at `stop` is placed if it is no filter, or a filter that says
where its value is. -/
def TokenKind.Placed (cursor stop : Cursor) : TokenKind → Prop
  | .filter written => ∃ value, written.PlacedAt cursor stop value
  | _ => True

/-- What a reader of tokens is to return: where it stops is ahead, and the token is placed. -/
def Cursor.Reads (cursor : Cursor) (read : TokenKind × Cursor) : Prop :=
  cursor.LeadsTo read.2 ∧ read.1.Placed cursor read.2

theorem TokenKind.Placed.mono {kind : TokenKind} {later : Cursor} (placed : kind.Placed later stop)
    (leads : cursor.LeadsTo later) : kind.Placed cursor stop := by
  cases kind with
  | filter written =>
      obtain ⟨value, isPlaced⟩ := placed
      exact ⟨value, leads.trans isPlaced.leads, isPlaced.stops, isPlaced.slice⟩
  | _ => exact trivial

theorem Cursor.LeadsTo.reads {later : Cursor} {result : Except QueryError (TokenKind × Cursor)}
    (leads : cursor.LeadsTo later) (points : later.Points later.Reads result) :
    cursor.Points cursor.Reads result :=
  points.mono leads fun _ reads => ⟨leads.trans reads.1, reads.2.mono leads⟩

theorem readComparison_points {subject : FilterSubject}
    (notAbove : ¬ (subject = .parent ∨ subject = .ancestor)) (cursor : Cursor) :
    cursor.Points cursor.Reads (readComparison subject cursor) := by
  unfold readComparison
  dsimp only
  have leads := cursor.leadsTo_skip
    (cursor.rest.length - (Comparison.split cursor.rest).2.length)
  generalize cursor.skip (cursor.rest.length - (Comparison.split cursor.rest).2.length) = value
    at leads ⊢
  apply Points.map
  apply (readWord_points true value.offset value.rest).mono leads
  intro read stops
  exact ⟨leads.trans stops, value.rest, leads, stops, fun isAbove => absurd isAbove notAbove⟩

theorem readTextWord_points (cursor : Cursor) :
    cursor.Points cursor.Reads (readTextWord cursor) := by
  apply Points.map
  apply (readWord_points false cursor.offset cursor.rest).mono (.refl cursor)
  intro read stops
  exact ⟨stops, trivial⟩

theorem readPlainWord_points (cursor : Cursor) :
    cursor.Points cursor.Reads (readPlainWord cursor) := by
  unfold readPlainWord
  split
  · split
    · exact readTextWord_points cursor
    · exact (cursor.leadsTo_skip _).reads (readComparison_points (by simp) _)
  · exact readTextWord_points cursor

/-! ## Arguments of sub-filters -/

/-- The search for the closing parenthesis ends ahead. Its error is at the parenthesis it
started from, so that place has to be ahead as well. -/
theorem skipGroup_points {start inner : Nat} {opens : Bool} (isStart : cursor.HasPlace start)
    (leads : cursor.LeadsTo ⟨offset, text⟩) :
    cursor.Points cursor.LeadsTo (skipGroup start inner opens offset text) := by
  fun_induction skipGroup start inner opens offset text with
  | case1 => exact isStart
  | case2 inner opens offset char rest isOpen inductionHypothesis =>
      obtain rfl := beq_iff_eq.mp isOpen
      exact inductionHypothesis (leads.trans (leadsTo_next offset '(' rest))
  | case3 opens offset char rest _ isClose =>
      obtain rfl := beq_iff_eq.mp isClose
      exact leads.trans (leadsTo_next offset ')' rest)
  | case4 opens offset char rest _ isClose inner inductionHypothesis =>
      obtain rfl := beq_iff_eq.mp isClose
      exact inductionHypothesis (leads.trans (leadsTo_next offset ')' rest))
  | case5 => exact leads.place
  | case6 inner opens offset char rest _ _ _ content phraseStop phrase _ inductionHypothesis =>
      have further := (leadsTo_next offset char rest).trans (readPhrase_leads phrase)
      exact inductionHypothesis (leads.trans further)
  | case7 inner opens offset char rest _ _ _ inductionHypothesis =>
      exact inductionHypothesis (leads.trans (leadsTo_next offset char rest))

/-- An argument ends ahead if the reader of its words ends ahead. -/
theorem skipArgument_points {word : Cursor → Except QueryError (TokenKind × Cursor)}
    (wordPoints : ∀ cursor, Points cursor cursor.Reads (word cursor)) (cursor : Cursor) :
    cursor.Points cursor.LeadsTo (skipArgument word cursor) := by
  unfold skipArgument
  dsimp only
  have leads := cursor.leadsTo_skip (cursor.rest.takeWhile (· == '-')).length
  generalize cursor.skip (cursor.rest.takeWhile (· == '-')).length = operand at leads ⊢
  obtain ⟨offset, text⟩ := operand
  cases text with
  | nil => exact leads
  | cons char rest =>
      have further := leads.trans (leadsTo_next offset char rest)
      dsimp only
      split
      · rename_i isOpen
        obtain rfl := beq_iff_eq.mp isOpen
        exact skipGroup_points leads.place further
      split
      · split
        · exact leads.place
        · rename_i phraseStop phrase
          exact further.trans (readPhrase_leads phrase)
      split
      · exact leads
      · apply Points.map
        exact (wordPoints _).mono leads fun _ reads => leads.trans reads.1

theorem placed_slice {subject : FilterSubject} (leads : cursor.LeadsTo stop) (value : Cursor)
    (isValue : cursor.LeadsTo value) (stops : value.LeadsTo stop) :
    cursor.Reads (.filter ⟨subject, none, String.ofList (value.textUntil stop), value.offset⟩,
      stop) := by
  refine ⟨leads, value.rest, isValue, stops, fun _ => ?_⟩
  rw [String.toList_ofList]
  exact stops.textUntil.1

/-- A word is read up to a place ahead, or refused at one. -/
theorem readWordToken_points (levels : Nat) (cursor : Cursor) :
    cursor.Points cursor.Reads (readWordToken levels cursor) := by
  induction levels using Nat.strongRecOn generalizing cursor with
  | ind levels inductionHypothesis =>
      cases isWord : filterWord? cursor.rest with
      | none =>
          rw [readWordToken_of_none isWord]
          exact readPlainWord_points cursor
      | some entry =>
          obtain ⟨word, subject⟩ := entry
          have leads := cursor.leadsTo_skip word.length
          rw [readWordToken_of_word isWord]
          split
          · cases levels with
            | zero => exact (LeadsTo.refl cursor).place
            | succ levels =>
                have stops := skipArgument_points
                  (inductionHypothesis levels (Nat.lt_succ_self levels)) (cursor.skip word.length)
                apply Points.map
                apply stops.mono leads
                intro stop stops
                exact placed_slice (leads.trans stops) _ leads stops
          · rename_i notAbove
            rw [Bool.or_eq_true, beq_iff_eq, beq_iff_eq] at notAbove
            exact leads.reads (readComparison_points notAbove _)

/-- An argument ends at a place ahead. -/
theorem leads_of_skipArgument {levels : Nat}
    (found : skipArgument (readWordToken levels) cursor = .ok stop) : cursor.LeadsTo stop := by
  have leads := skipArgument_points (readWordToken_points levels) cursor
  rwa [found] at leads

/-! ## Tokens -/

/-- A token starts at a place ahead, and is over at a place ahead of that one. -/
def Token.Placed (token : Token) (cursor : Cursor) : Prop :=
  ∃ text behind, cursor.LeadsTo ⟨token.position, text⟩ ∧
    Cursor.Reads ⟨token.position, text⟩ (token.kind, ⟨token.stop, behind⟩)

theorem Token.Placed.mono {token : Token} {later : Cursor} (placed : token.Placed later)
    (leads : cursor.LeadsTo later) : token.Placed cursor := by
  obtain ⟨text, behind, isPlace, reads⟩ := placed
  exact ⟨text, behind, leads.trans isPlace, reads⟩

/-- Whatever token is read ends ahead, with its value in front of its end. -/
theorem readLexeme_points (levels offset : Nat) (char : Char) (rest : List Char) :
    Points ⟨offset, char :: rest⟩ (Cursor.Reads ⟨offset, char :: rest⟩)
      (readLexeme levels offset char rest) := by
  have next := leadsTo_next offset char rest
  by_cases isSign : ∃ sign, (char, sign) ∈ signTokens
  · obtain ⟨sign, isSign⟩ := isSign
    rw [readLexeme_of_sign isSign]
    rcases mem_signTokens.mp isSign with
      ⟨-, rfl⟩ | ⟨-, rfl⟩ | ⟨-, rfl⟩ | ⟨-, rfl⟩ | ⟨-, rfl⟩ <;> exact ⟨next, trivial⟩
  · by_cases isMark : isQuotationMark char = true
    · cases phrase : readPhrase char (offset + char.utf8Size) rest with
      | none =>
          rw [readLexeme_of_open_phrase isMark phrase]
          exact (LeadsTo.refl _).place
      | some result =>
          rw [readLexeme_of_phrase isMark phrase]
          exact ⟨next.trans (readPhrase_leads phrase), trivial⟩
    · rw [readLexeme_of_word (not_exists.mp isSign) isMark]
      exact readWordToken_points levels _

/-- A text gives tokens that are placed in it, or an error at one of its places. -/
theorem scanFrom_points (levels offset : Nat) (text : List Char) :
    Points ⟨offset, text⟩ (fun tokens => ∀ token ∈ tokens, token.Placed ⟨offset, text⟩)
      (Token.scanFrom levels offset text) := by
  fun_induction Token.scanFrom levels offset text with
  | case1 => exact fun _ member => absurd member List.not_mem_nil
  | case2 offset char rest _ inductionHypothesis =>
      have leads := leadsTo_next offset char rest
      exact inductionHypothesis.mono leads fun _ placed token member =>
        (placed token member).mono leads
  | case3 offset char rest _ error failed =>
      have points := readLexeme_points levels offset char rest
      rw [failed] at points
      exact points
  | case4 offset char rest _ kind stop read _ inductionHypothesis =>
      have reads := readLexeme_points levels offset char rest
      rw [read] at reads
      apply Points.map
      apply inductionHypothesis.mono reads.1
      intro more placed token member
      rcases List.mem_cons.mp member with rfl | isMore
      · exact ⟨char :: rest, stop.rest, .refl _, reads⟩
      · exact (placed token isMore).mono reads.1

end Outliner.Query
