import Outliner.Proofs.Query.Safety

/-!
Contract: what the tokens of a text leave out of it.

Owns: the turns of the scan as steps from one place of a text to another one, that every turn
gets further and so the scan ends, and that the tokens cover the text but for its white space,
without overlapping; and which words stand for themselves.

Main statements: `exists_turns`, `Turns.split`, `readWord_verbatim`, `Token.scan_covers`.

Does not own: what the tokens mean.
-/

namespace Outliner.Query

open Outliner.Text Cursor

/-! ## Turns of the scan -/

/-- One turn of the scan: past a blank, or past a token. -/
inductive Turn (levels : Nat) : Cursor → List Token → Cursor → Prop where
  | blank {offset : Nat} {char : Char} {rest : List Char} :
      isBlank char = true →
      Turn levels ⟨offset, char :: rest⟩ [] ⟨offset + char.utf8Size, rest⟩
  | token {offset : Nat} {char : Char} {rest : List Char} {kind : TokenKind} {stop : Cursor} :
      isBlank char = false → readLexeme levels offset char rest = .ok (kind, stop) →
      Turn levels ⟨offset, char :: rest⟩ [⟨kind, offset, stop.offset⟩] stop

/-- Turns of the scan one after another, with all the tokens that they read. -/
inductive Turns (levels : Nat) : Cursor → List Token → Cursor → Prop where
  | none (cursor : Cursor) : Turns levels cursor [] cursor
  | more {cursor next last : Cursor} {read tokens : List Token} :
      Turn levels cursor read next → Turns levels next tokens last →
      Turns levels cursor (read ++ tokens) last

/-- At a place where a token has to start, none can be read. -/
def Cursor.Refuses (levels : Nat) (cursor : Cursor) (error : QueryError) : Prop :=
  ∃ char rest, cursor.rest = char :: rest ∧ isBlank char = false ∧
    readLexeme levels cursor.offset char rest = .error error

variable {levels offset : Nat} {text : List Char} {cursor later last : Cursor}
  {tokens read : List Token} {token : Token}

theorem Turn.leads (turn : Turn levels cursor read later) : cursor.LeadsTo later := by
  cases turn with
  | blank => exact leadsTo_next _ _ _
  | @token offset char rest kind stop notBlank isRead =>
      have points := readLexeme_points levels offset char rest
      rw [isRead] at points
      exact points.1

/-- Every turn leaves less to scan. -/
theorem Turn.shorter (turn : Turn levels cursor read later) :
    later.rest.length < cursor.rest.length := by
  cases turn with
  | blank => simp
  | token notBlank isRead => simpa using readLexeme_shorter notBlank isRead

/-- Every turn gets to a higher byte offset. -/
theorem Turn.advances (turn : Turn levels cursor read later) : cursor.offset < later.offset :=
  turn.leads.offset_lt turn.shorter

/-- No run of turns goes on for ever. -/
theorem turn_wellFounded (levels : Nat) :
    WellFounded fun later cursor => ∃ read, Turn levels cursor read later := by
  apply Subrelation.wf _ (measure fun cursor : Cursor => cursor.rest.length).wf
  rintro later cursor ⟨read, turn⟩
  exact turn.shorter

theorem Turns.leads (turns : Turns levels cursor tokens last) : cursor.LeadsTo last := by
  induction turns with
  | none => exact .refl _
  | more turn _ inductionHypothesis => exact turn.leads.trans inductionHypothesis

/-- What the scan gives is what its turns read, up to the end of the text or up to a place
where no token can be read. -/
theorem exists_turns (levels offset : Nat) (text : List Char) :
    ∃ tokens last, Turns levels ⟨offset, text⟩ tokens last ∧
      (last.rest = [] ∧ Token.scanFrom levels offset text = .ok tokens ∨
        ∃ error, last.Refuses levels error ∧
          Token.scanFrom levels offset text = .error error) := by
  fun_induction Token.scanFrom levels offset text with
  | case1 offset => exact ⟨[], ⟨offset, []⟩, .none _, .inl ⟨rfl, rfl⟩⟩
  | case2 offset char rest blank inductionHypothesis =>
      obtain ⟨tokens, last, turns, outcome⟩ := inductionHypothesis
      exact ⟨tokens, last, .more (.blank blank) turns, outcome⟩
  | case3 offset char rest notBlank error failed =>
      refine ⟨[], ⟨offset, char :: rest⟩, .none _, .inr ⟨error, ?_, rfl⟩⟩
      exact ⟨char, rest, rfl, Bool.eq_false_iff.mpr notBlank, failed⟩
  | case4 offset char rest notBlank kind stop isRead _ inductionHypothesis =>
      obtain ⟨tokens, last, turns, outcome⟩ := inductionHypothesis
      have turn := Turn.token (Bool.eq_false_iff.mpr notBlank) isRead
      refine ⟨⟨kind, offset, stop.offset⟩ :: tokens, last, .more turn turns, ?_⟩
      rcases outcome with ⟨isEnd, scanned⟩ | ⟨error, refuses, failed⟩
      · rw [scanned]
        exact .inl ⟨isEnd, rfl⟩
      · rw [failed]
        exact .inr ⟨error, refuses, rfl⟩

/-- Tokens that are scanned come from turns up to the end of the text. -/
theorem Turns.of_scanFrom (scanned : Token.scanFrom levels offset text = .ok tokens) :
    ∃ stop, Turns levels ⟨offset, text⟩ tokens ⟨stop, []⟩ := by
  obtain ⟨read, ⟨stop, rest⟩, turns, ⟨isEnd, isRead⟩ | ⟨error, -, failed⟩⟩ :=
    exists_turns levels offset text
  · obtain rfl := Except.ok.inj (scanned.symm.trans isRead)
    dsimp only at isEnd
    subst isEnd
    exact ⟨stop, turns⟩
  · rw [scanned] at failed
    cases failed

/-- Tokens of turns up to the end of the text are those that are scanned. -/
theorem Turns.scanFrom (turns : Turns levels cursor tokens last) (isEnd : last.rest = []) :
    Token.scanFrom levels cursor.offset cursor.rest = .ok tokens := by
  induction turns with
  | none cursor => rw [isEnd, scanFrom_nil]
  | more turn _ inductionHypothesis =>
      cases turn with
      | blank blank => exact (scanFrom_of_blank blank _ _).trans (inductionHypothesis isEnd)
      | token notBlank isRead =>
          dsimp only
          rw [scanFrom_of_token (Bool.eq_false_iff.mp notBlank) isRead, inductionHypothesis isEnd]
          rfl

/-- Turns can be cut in front of each token that they read. -/
theorem Turns.split {front back : List Token}
    (turns : Turns levels cursor (front ++ token :: back) last) :
    ∃ char rest stop, Turns levels cursor front ⟨token.position, char :: rest⟩ ∧
      isBlank char = false ∧
      readLexeme levels token.position char rest = .ok (token.kind, stop) ∧
      token.stop = stop.offset ∧ Turns levels stop back last := by
  generalize areTokens : front ++ token :: back = tokens at turns
  induction turns generalizing front with
  | none => simp at areTokens
  | more turn turns inductionHypothesis =>
      cases turn with
      | blank blank =>
          obtain ⟨char, rest, stop, before, isToken⟩ := inductionHypothesis areTokens
          exact ⟨char, rest, stop, .more (.blank blank) before, isToken⟩
      | token notBlank isRead =>
          rw [List.singleton_append] at areTokens
          cases front with
          | nil =>
              obtain ⟨rfl, rfl⟩ := List.cons.inj areTokens
              exact ⟨_, _, _, .none _, notBlank, isRead, rfl, turns⟩
          | cons first front =>
              rw [List.cons_append] at areTokens
              obtain ⟨rfl, areMore⟩ := List.cons.inj areTokens
              obtain ⟨char, rest, stop, before, isToken⟩ := inductionHypothesis areMore
              exact ⟨char, rest, stop, .more (.token notBlank isRead) before, isToken⟩

/-- Turns go on with turns. -/
theorem Turns.append {more : List Token} (turns : Turns levels cursor tokens later)
    (further : Turns levels later more last) : Turns levels cursor (tokens ++ more) last := by
  induction turns with
  | none => exact further
  | more turn _ inductionHypothesis =>
      rw [List.append_assoc]
      exact .more turn (inductionHypothesis further)

/-- The turns up to the end of one of the tokens that are read. -/
theorem Turns.through {front back : List Token}
    (turns : Turns levels cursor (front ++ token :: back) last) :
    ∃ stop, Turns levels cursor (front ++ [token]) stop := by
  obtain ⟨char, rest, stop, before, notBlank, isRead, isStop, -⟩ := turns.split
  have isToken : token = ⟨token.kind, token.position, stop.offset⟩ := by rw [← isStop]
  rw [isToken]
  exact ⟨stop, before.append (.more (.token notBlank isRead) (.none stop))⟩

/-- Every token of a text is read at a place of the text. -/
theorem mem_of_scanFrom (scanned : Token.scanFrom levels offset text = .ok tokens)
    (member : token ∈ tokens) : ∃ char rest stop,
      LeadsTo ⟨offset, text⟩ ⟨token.position, char :: rest⟩ ∧ isBlank char = false ∧
      readLexeme levels token.position char rest = .ok (token.kind, stop) ∧
      token.stop = stop.offset := by
  obtain ⟨front, back, rfl⟩ := List.append_of_mem member
  obtain ⟨place, turns⟩ := Turns.of_scanFrom scanned
  obtain ⟨char, rest, stop, before, notBlank, isRead, isStop, -⟩ := turns.split
  exact ⟨char, rest, stop, before.leads, notBlank, isRead, isStop⟩

/-! ## Order -/

/-- Tokens are ahead of where the turns start, and each one is over where the next one starts. -/
theorem Turns.ordered (turns : Turns levels cursor tokens last) :
    (∀ token ∈ tokens, cursor.offset ≤ token.position) ∧
      tokens.Pairwise fun earlier later => earlier.stop ≤ later.position := by
  induction turns with
  | none => simp
  | more turn _ inductionHypothesis =>
      obtain ⟨ahead, ordered⟩ := inductionHypothesis
      have advances := Nat.le_of_lt turn.advances
      cases turn with
      | blank => exact ⟨fun token member => advances.trans (ahead token member), ordered⟩
      | token =>
          rw [List.singleton_append]
          refine ⟨?_, List.pairwise_cons.mpr ⟨ahead, ordered⟩⟩
          rw [List.forall_mem_cons]
          exact ⟨Nat.le_refl _, fun token member => advances.trans (ahead token member)⟩

/-- A character of two texts in a row is in one of them. -/
theorem split_at_char {first second front back : List Char} {char : Char}
    (isText : first ++ second = front ++ char :: back) :
    (∃ inside, first = front ++ char :: inside) ∨
      ∃ further, front = first ++ further ∧ second = further ++ char :: back := by
  rcases List.append_eq_append_iff.mp isText with
    ⟨further, isFront, isSecond⟩ | ⟨inside, isFirst, isBehind⟩
  · exact .inr ⟨further, isFront, isSecond⟩
  · cases inside with
    | nil => exact .inr ⟨[], by simp [isFirst], isBehind.symm⟩
    | cons next inside =>
        obtain ⟨rfl, -⟩ := List.cons.inj isBehind
        exact .inl ⟨inside, isFirst⟩

/-- A character that the turns pass is blank or lies in a token. -/
theorem Turns.blank_of_outside {front back : List Char} {char : Char}
    (turns : Turns levels cursor tokens last) (isRest : cursor.rest = front ++ char :: back)
    (isEnd : last.rest = [])
    (outside : ∀ token ∈ tokens, ¬ (token.position ≤ cursor.offset + byteLength front ∧
      cursor.offset + byteLength front < token.stop)) : isBlank char = true := by
  induction turns generalizing front with
  | none => simp [isRest] at isEnd
  | @more cursor next last read tokens turn _ inductionHypothesis =>
      obtain ⟨passed, isPassed, isNext⟩ := turn.leads
      rcases split_at_char (isPassed.symm.trans isRest) with
        ⟨inside, rfl⟩ | ⟨further, rfl, isBehind⟩
      · -- the turn itself passes the character
        cases turn with
        | blank blank =>
            have single := congrArg List.length isPassed
            simp only [List.length_cons, List.length_append] at single
            obtain rfl : front = [] := List.length_eq_zero_iff.mp (by omega)
            rwa [(List.cons.inj isRest).1] at blank
        | @token offset first rest kind stop notBlank isRead =>
            have positive := char.utf8Size_pos
            have within : offset + byteLength front < next.offset := by
              rw [isNext, byteLength_append, byteLength]
              dsimp only
              omega
            have outsideToken := outside _ (List.mem_append_left tokens List.mem_cons_self)
            exact absurd ⟨Nat.le_add_right _ _, within⟩ outsideToken
      · apply inductionHypothesis isBehind isEnd
        intro token member
        have outsideToken := outside token (List.mem_append_right read member)
        rwa [byteLength_append, ← Nat.add_assoc, ← isNext] at outsideToken

/-! ## Words that stand for themselves -/

/-- A text has a quoted section: a quotation mark directly after a character that opens one. -/
def HoldsSection (text : List Char) : Prop :=
  ∃ mark quote, isValueMark mark = true ∧ isQuotationMark quote = true ∧ [mark, quote] <:+: text

/-- A part of a word has a quoted section, where a quotation mark at its start may open one. -/
def IsSectioned (afterMark : Bool) (text : List Char) : Prop :=
  (afterMark = true ∧ ∃ quote ∈ text.head?, isQuotationMark quote = true) ∨ HoldsSection text

theorem not_sectioned_nil (afterMark : Bool) : ¬ IsSectioned afterMark [] := by
  simp [IsSectioned, HoldsSection]

theorem sectioned_of_quote {quote : Char} (isQuote : isQuotationMark quote = true)
    (rest : List Char) : IsSectioned true (quote :: rest) :=
  .inl ⟨rfl, quote, rfl, isQuote⟩

/-- What a character opens depends on whether it is one after which a quote opens a phrase. -/
theorem sectioned_cons {afterMark : Bool} {char : Char} {rest : List Char}
    (noPhrase : ¬ (afterMark && isQuotationMark char) = true) :
    IsSectioned afterMark (char :: rest) ↔ IsSectioned (isValueMark char) rest := by
  have notAtStart : ¬ (afterMark = true ∧ ∃ quote ∈ (char :: rest).head?,
      isQuotationMark quote = true) := by
    simpa using noPhrase
  unfold IsSectioned
  rw [or_iff_right notAtStart]
  unfold HoldsSection
  constructor
  · rintro ⟨mark, quote, isMark, isQuote, within⟩
    rcases List.infix_cons_iff.mp within with atStart | within
    · rw [List.cons_prefix_cons] at atStart
      obtain ⟨rfl, behind, rfl⟩ := atStart
      exact .inl ⟨isMark, quote, rfl, isQuote⟩
    · exact .inr ⟨mark, quote, isMark, isQuote, within⟩
  · rintro (⟨isMark, quote, isHead, isQuote⟩ | ⟨mark, quote, isMark, isQuote, within⟩)
    · obtain ⟨behind, rfl⟩ := List.head?_eq_some_iff.mp isHead
      exact ⟨char, quote, isMark, isQuote, [], behind, rfl⟩
    · exact ⟨mark, quote, isMark, isQuote, List.infix_cons within⟩

/-- A phrase is longer than its content. -/
theorem readPhrase_content_lt {mark : Char} {content : List Char} {stop : Cursor}
    (read : readPhrase mark offset text = some (content, stop)) :
    ∃ passed, text = passed ++ stop.rest ∧ content.length < passed.length := by
  fun_induction readPhrase mark offset text generalizing content with
  | case1 => cases read
  | case2 => cases read
  | case3 offset char rest inductionHypothesis =>
      obtain ⟨⟨inner, innerStop⟩, readInner, equal⟩ := Option.map_eq_some_iff.mp read
      obtain ⟨rfl, rfl⟩ := Prod.mk.inj equal
      obtain ⟨passed, rfl, shorter⟩ := inductionHypothesis readInner
      refine ⟨'\\' :: char :: passed, rfl, ?_⟩
      have atMostTwo : (unescape mark char).length ≤ 2 := by
        unfold unescape
        split <;> simp
      simp only [List.length_append, List.length_cons]
      omega
  | case4 offset rest =>
      obtain ⟨rfl, rfl⟩ := Prod.mk.inj (Option.some.inj read)
      exact ⟨[mark], rfl, by simp⟩
  | case5 offset char rest _ _ _ inductionHypothesis =>
      obtain ⟨⟨inner, innerStop⟩, readInner, equal⟩ := Option.map_eq_some_iff.mp read
      obtain ⟨rfl, rfl⟩ := Prod.mk.inj equal
      obtain ⟨passed, rfl, shorter⟩ := inductionHypothesis readInner
      exact ⟨char :: passed, rfl, Nat.succ_lt_succ shorter⟩

/-- A word without quoted sections stands for itself, one with them for something shorter. -/
theorem readWord_verbatim {afterMark : Bool} {word : List Char} {stop : Cursor}
    (read : readWord afterMark offset text = .ok (word, stop)) :
    ∃ passed, text = passed ++ stop.rest ∧
      (¬ IsSectioned afterMark passed → word = passed) ∧
      (IsSectioned afterMark passed → word.length < passed.length) := by
  fun_induction readWord afterMark offset text generalizing word stop with
  | case1 =>
      obtain ⟨rfl, rfl⟩ := Prod.mk.inj (Except.ok.inj read)
      exact ⟨[], rfl, fun _ => rfl, fun isSectioned => absurd isSectioned (not_sectioned_nil _)⟩
  | case2 =>
      obtain ⟨rfl, rfl⟩ := Prod.mk.inj (Except.ok.inj read)
      exact ⟨[], rfl, fun _ => rfl, fun isSectioned => absurd isSectioned (not_sectioned_nil _)⟩
  | case3 => cases read
  | case4 afterMark offset char rest noBreak opens content phraseStop phrase _
      inductionHypothesis =>
      obtain ⟨⟨inner, last⟩, readInner, equal⟩ := exists_of_map_eq_ok read
      obtain ⟨rfl, rfl⟩ := Prod.mk.inj equal
      obtain ⟨passed, isInner, same, shorter⟩ := inductionHypothesis readInner
      obtain ⟨phrasePart, rfl, phraseShorter⟩ := readPhrase_content_lt phrase
      rw [Bool.and_eq_true] at opens
      obtain ⟨rfl, isMark⟩ := opens
      have atMost : inner.length ≤ passed.length := by
        by_cases isSectioned : IsSectioned false passed
        · exact Nat.le_of_lt (shorter isSectioned)
        · rw [same isSectioned]
      refine ⟨char :: phrasePart ++ passed, by simp [isInner], ?_, fun _ => ?_⟩
      · exact fun notSectioned => absurd (sectioned_of_quote isMark _) notSectioned
      · simp only [List.length_append, List.length_cons]
        omega
  | case5 afterMark offset char rest noBreak noPhrase inductionHypothesis =>
      obtain ⟨⟨inner, last⟩, readInner, equal⟩ := exists_of_map_eq_ok read
      obtain ⟨rfl, rfl⟩ := Prod.mk.inj equal
      obtain ⟨passed, isRest, same, shorter⟩ := inductionHypothesis readInner
      refine ⟨char :: passed, congrArg (char :: ·) isRest, ?_, ?_⟩
      · rw [sectioned_cons noPhrase]
        exact fun notSectioned => congrArg (char :: ·) (same notSectioned)
      · rw [sectioned_cons noPhrase]
        exact fun isSectioned => Nat.succ_lt_succ (shorter isSectioned)

theorem subject_of_readComparison {subject : FilterSubject} {kind : TokenKind} {stop : Cursor}
    (isRead : readComparison subject cursor = .ok (kind, stop)) :
    ∃ written, kind = .filter written ∧ written.subject = subject := by
  obtain ⟨read, -, equal⟩ := exists_of_map_eq_ok isRead
  obtain ⟨rfl, -⟩ := Prod.mk.inj equal
  exact ⟨_, rfl, rfl⟩

/-- A word is read as a text, or as a filter whose key is not empty if it has one. -/
theorem readWordToken_cases {kind : TokenKind} {stop : Cursor}
    (isRead : readWordToken levels cursor = .ok (kind, stop)) :
    readTextWord cursor = .ok (kind, stop) ∨
      ∃ written, kind = .filter written ∧ written.subject ≠ .attr "" := by
  cases isWord : filterWord? cursor.rest with
  | none =>
      rw [readWordToken_of_none isWord, readPlainWord] at isRead
      split at isRead
      · rename_i rest isRest
        split at isRead
        · exact .inl isRead
        · rename_i hasKey
          obtain ⟨written, isFilter, isSubject⟩ := subject_of_readComparison isRead
          refine .inr ⟨written, isFilter, ?_⟩
          rw [isSubject]
          intro isEmpty
          have noKey := congrArg String.toList (FilterSubject.attr.inj isEmpty)
          rw [String.toList_ofList] at noKey
          exact hasKey (List.isEmpty_iff.mpr noKey)
      · exact .inl isRead
  | some found =>
      obtain ⟨word, subject⟩ := found
      have notAttribute : subject ≠ .attr "" := noKey_of_filterWord isWord ""
      rw [readWordToken_of_word isWord] at isRead
      split at isRead
      · cases levels with
        | zero => cases isRead
        | succ levels =>
            obtain ⟨last, -, equal⟩ := exists_of_map_eq_ok isRead
            obtain ⟨rfl, -⟩ := Prod.mk.inj equal
            exact .inr ⟨_, rfl, notAttribute⟩
      · obtain ⟨written, isFilter, rfl⟩ := subject_of_readComparison isRead
        exact .inr ⟨written, isFilter, notAttribute⟩

/-- A text token is one word, which does not start with a quotation mark. -/
theorem readWord_of_text {char : Char} {rest : List Char} {value : String} {stop : Cursor}
    (notBlank : isBlank char = false)
    (isRead : readLexeme levels offset char rest = .ok (.text value, stop)) :
    ¬ endsWord char = true ∧ readWord false offset (char :: rest) = .ok (value.toList, stop) := by
  rcases readLexeme_cases isRead with
    ⟨isSign, -⟩ | ⟨-, content, isQuoted, -⟩ | ⟨notSign, -, isWord⟩
  · simp [mem_signTokens] at isSign
  · cases isQuoted
  · constructor
    · have noSign (sign : TokenKind) := mt mem_signTokens.mpr (notSign sign)
      have noLeft := noSign .leftParen
      have noRight := noSign .rightParen
      have noBar := noSign .bar
      simp at noLeft noRight noBar
      simp [endsWord, notBlank, noLeft, noRight, noBar]
    · rcases readWordToken_cases isWord with isText | ⟨written, isFilter, -⟩
      · obtain ⟨⟨word, last⟩, readWhole, equal⟩ := exists_of_map_eq_ok isText
        obtain ⟨isValue, rfl⟩ := Prod.mk.inj equal
        obtain rfl := TokenKind.text.inj isValue
        rw [String.toList_ofList]
        exact readWhole
      · cases isFilter

theorem text_ne_empty {char : Char} {rest : List Char} {value : String} {stop : Cursor}
    (notBlank : isBlank char = false)
    (isRead : readLexeme levels offset char rest = .ok (.text value, stop)) : value ≠ "" := by
  obtain ⟨noBreak, isWord⟩ := readWord_of_text notBlank isRead
  rw [readWord_of_char noBreak (by simp)] at isWord
  obtain ⟨⟨inner, last⟩, -, equal⟩ := exists_of_map_eq_ok isWord
  rintro rfl
  exact absurd (Prod.mk.inj equal).1 (by simp)

/-! ## What the tokens cover -/

/-- Texts as long as each other, at the start of the same text, are the same. -/
theorem eq_of_byteLength {front other behind rest : List Char}
    (isText : front ++ behind = other ++ rest) (sameLength : byteLength front = byteLength other) :
    front = other := by
  have slice := sliceFrom?_append front behind
  rw [isText, sameLength, sliceFrom?_append] at slice
  obtain rfl := Option.some.inj slice
  exact List.append_cancel_right isText

theorem utf8ByteSize_eq (text : String) : text.utf8ByteSize = byteLength text.toList := by
  rw [← utf8ByteSize_ofList, String.ofList_toList]

theorem Spans.leads {text part : String} {start stop : Nat}
    (spans : Spans text offset part start stop) : ∃ rest,
      LeadsTo ⟨offset, text.toList⟩ ⟨start, part.toList ++ rest⟩ ∧
        stop = start + byteLength part.toList := by
  obtain ⟨front, back, rfl, isStart, isStop⟩ := spans
  rw [utf8ByteSize_eq] at isStart isStop
  exact ⟨back.toList, ⟨front.toList, by simp, isStart⟩, isStop⟩

/-- A part of a text is what lies between two places of it. -/
theorem Spans.eq_of_leads {text part : String} {passed rest : List Char} {start stop : Nat}
    (spans : Spans text offset part start stop)
    (leads : LeadsTo ⟨offset, text.toList⟩ ⟨start, passed ++ rest⟩)
    (isStop : stop = start + byteLength passed) : part.toList = passed := by
  obtain ⟨behind, ⟨front, isText, isStart⟩, isPartStop⟩ := spans.leads
  obtain ⟨before, alsoText, alsoStart⟩ := leads
  dsimp only at isText isStart alsoText alsoStart
  obtain rfl := eq_of_byteLength (isText.symm.trans alsoText) (by omega)
  have isRest := List.append_cancel_left (isText.symm.trans alsoText)
  exact eq_of_byteLength isRest (by omega)

/-- The tokens of a text that starts at a byte offset, as parts of it. -/
structure Covers (offset : Nat) (text : String) (tokens : List Token) : Prop where
  spans : ∀ token ∈ tokens, token.position < token.stop ∧
    ∃ part, Spans text offset part token.position token.stop
  ordered : tokens.Pairwise fun earlier later => earlier.stop ≤ later.position
  blank : ∀ front char back, text = front ++ String.singleton char ++ back →
    (∀ token ∈ tokens, ¬ (token.position ≤ offset + front.utf8ByteSize ∧
      offset + front.utf8ByteSize < token.stop)) → isBlank char = true
  texts : ∀ token ∈ tokens, ∀ value, token.kind = .text value → value ≠ "" ∧
    ∀ part, Spans text offset part token.position token.stop →
      (value = part ↔ ¬ HoldsSection part.toList)

variable {source : String}

/-- Every token spans a part of its text that is not empty. -/
theorem spans_of_scanFrom (scanned : Token.scanFrom levels offset source.toList = .ok tokens)
    (member : token ∈ tokens) : token.position < token.stop ∧
      ∃ part, Spans source offset part token.position token.stop := by
  have placed := scanFrom_points levels offset source.toList
  rw [scanned] at placed
  refine ⟨?_, (placed token member).spans⟩
  obtain ⟨char, rest, stop, -, notBlank, isRead, isStop⟩ := mem_of_scanFrom scanned member
  rw [isStop]
  exact (Turn.token notBlank isRead).advances

/-- A text token stands for the part of the text that it is, unless that has a quoted section. -/
theorem text_eq_part_iff (scanned : Token.scanFrom levels offset source.toList = .ok tokens)
    (member : token ∈ tokens) {value part : String} (isText : token.kind = .text value)
    (spans : Spans source offset part token.position token.stop) :
    value = part ↔ ¬ HoldsSection part.toList := by
  obtain ⟨char, rest, stop, leads, notBlank, isRead, isStop⟩ := mem_of_scanFrom scanned member
  rw [isText] at isRead
  obtain ⟨-, isWord⟩ := readWord_of_text notBlank isRead
  obtain ⟨passed, isPassed, same, shorter⟩ := readWord_verbatim isWord
  have stops := (Turn.token notBlank isRead).leads
  obtain ⟨alsoPassed, isRest, isOffset⟩ := stops
  obtain rfl := List.append_cancel_right (isRest.symm.trans isPassed)
  rw [isPassed] at leads
  have isPart := spans.eq_of_leads leads (isStop.trans isOffset)
  have noneAtStart : IsSectioned false alsoPassed ↔ HoldsSection alsoPassed := by
    simp [IsSectioned]
  rw [noneAtStart] at same shorter
  rw [← String.toList_inj, isPart]
  constructor
  · intro isSame isSectioned
    have lengths := shorter isSectioned
    rw [isSame] at lengths
    exact absurd lengths (Nat.lt_irrefl _)
  · exact same

/-- The scan leaves out nothing but white space. -/
theorem covers_of_scanFrom (scanned : Token.scanFrom levels offset source.toList = .ok tokens) :
    Covers offset source tokens := by
  obtain ⟨stop, turns⟩ := Turns.of_scanFrom scanned
  refine ⟨fun token => spans_of_scanFrom scanned, turns.ordered.2, ?_, ?_⟩
  · rintro front char back rfl outside
    have isText : (front ++ String.singleton char ++ back).toList =
        front.toList ++ char :: back.toList := by simp
    rw [utf8ByteSize_eq] at outside
    exact turns.blank_of_outside isText rfl outside
  · intro token member value isText
    refine ⟨?_, fun part => text_eq_part_iff scanned member isText⟩
    obtain ⟨char, rest, stop, -, notBlank, isRead, -⟩ := mem_of_scanFrom scanned member
    rw [isText] at isRead
    exact text_ne_empty notBlank isRead

/-- However many sub-filters may nest and wherever a text starts, each turn of the scan gets
further, so there is no endless run of them. The scan gives the tokens that its turns read up
to the end of the text, or the error at the place where a turn is refused. The tokens are
parts of the text one after another, none of them empty, with only white space around them;
and a text token stands for its part but for the quoted sections. -/
theorem Token.scan_covers (levels offset : Nat) (text : String) :
    (∀ cursor read later, Turn levels cursor read later →
      cursor.offset < later.offset ∧ cursor.LeadsTo later) ∧
    (WellFounded fun later cursor => ∃ read, Turn levels cursor read later) ∧
    (∃ read last, Turns levels ⟨offset, text.toList⟩ read last ∧
      (last.rest = [] ∧ Token.scanFrom levels offset text.toList = .ok read ∨
        ∃ error, last.Refuses levels error ∧
          Token.scanFrom levels offset text.toList = .error error)) ∧
    ∀ tokens, Token.scanFrom levels offset text.toList = .ok tokens →
      Covers offset text tokens :=
  ⟨fun _ _ _ turn => ⟨turn.advances, turn.leads⟩, turn_wellFounded levels,
    exists_turns levels offset text.toList, fun _ => covers_of_scanFrom⟩

/-- An em space, a quoted section in a word, and filters with nothing in them. -/
theorem scan_covers_unusual :
    let text := "é\u2003k:\"x y\"z|@k=\"\" p: -p:-(ß)"
    let tokens : List Token := [⟨.text "é", 0, 2⟩, ⟨.text "k:x yz", 5, 13⟩, ⟨.bar, 13, 14⟩,
      ⟨.filter ⟨.attr "k", some .equal, "", 17⟩, 14, 19⟩, ⟨.filter ⟨.parent, none, "", 22⟩, 20, 22⟩,
      ⟨.minus, 23, 24⟩, ⟨.filter ⟨.parent, none, "-(ß)", 26⟩, 24, 31⟩]
    Turn maxNesting ⟨2, text.toList.drop 1⟩ [] ⟨5, text.toList.drop 2⟩ ∧ 2 < 5 ∧
      Token.scan text = .ok tokens ∧ Covers 0 text tokens := by
  intro text tokens
  have isBlankNext : text.toList.drop 1 = '\u2003' :: text.toList.drop 2 := by decide +kernel
  have turn : Turn maxNesting ⟨2, text.toList.drop 1⟩ [] ⟨5, text.toList.drop 2⟩ := by
    rw [isBlankNext]
    exact .blank (by decide)
  have scanned : Token.scanFrom maxNesting 0 text.toList = .ok tokens := by decide +kernel
  obtain ⟨advances, -, -, covers⟩ := Token.scan_covers maxNesting 0 text
  exact ⟨turn, (advances _ _ _ turn).1, scanned, covers tokens scanned⟩

end Outliner.Query
