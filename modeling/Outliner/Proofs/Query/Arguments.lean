import Outliner.Proofs.Query.Openings

/-!
Contract: sub-filters with a single operand as their argument, as it is written.

Owns: which texts are minus signs and one text, phrase or filter; that the scan for the end of
an argument stops behind such a text, where the scan for tokens stops; and that a minus sign or
the word of a sub-filter in front of one makes another one, about what it is read as.

Two scans have to agree. The end of an argument is looked for where the argument stands, with
one level less than its surroundings have; the part that this cuts out is scanned for tokens on
its own, with the levels that are left there. Whatever one scan reads the other one reads too,
as long as it has the levels for it: so the only other outcome is a complaint about nesting.

Main statements: `skipArgument_eq_readLexeme`, `WrittenOperand.parseFrom_leads`,
`parse_sub_filter`.

Does not own: groups as arguments (`Proofs.Query.Wrapping`).
-/

namespace Outliner.Query

open Outliner.Text

variable {levels more offset place : Nat} {char : Char} {rest text : List Char} {kind : TokenKind}
  {cursor stop : Cursor} {token : Token} {tokens : List Token} {expr : Expr}

/-! ## More levels -/

theorem skipArgument_mono {word other : Cursor → Except QueryError (TokenKind × Cursor)}
    (agrees : ∀ cursor read, word cursor = .ok read → other cursor = .ok read)
    (found : skipArgument word cursor = .ok stop) : skipArgument other cursor = .ok stop := by
  unfold skipArgument at found ⊢
  dsimp only at found ⊢
  generalize cursor.skip (cursor.rest.takeWhile (· == '-')).length = operand at found ⊢
  obtain ⟨offset, text⟩ := operand
  cases text with
  | nil => exact found
  | cons char rest =>
      dsimp only at found ⊢
      split at found
      · rename_i isOpen
        rwa [if_pos isOpen]
      rename_i notOpen
      rw [if_neg notOpen]
      split at found
      · rename_i isMark
        rwa [if_pos isMark]
      rename_i noMark
      rw [if_neg noMark]
      split at found
      · rename_i isBreak
        rwa [if_pos isBreak]
      · rename_i noBreak
        obtain ⟨read, isRead, rfl⟩ := exists_of_map_eq_ok found
        rw [if_neg noBreak, agrees _ read isRead]
        rfl

/-- What is read with so many levels is read with more of them. -/
theorem readWordToken_mono {read : TokenKind × Cursor}
    (isRead : readWordToken levels cursor = .ok read) (atMost : levels ≤ more) :
    readWordToken more cursor = .ok read := by
  induction levels using Nat.strongRecOn generalizing more cursor read with
  | ind levels inductionHypothesis =>
      cases isWord : filterWord? cursor.rest with
      | none => rwa [readWordToken_of_none isWord] at isRead ⊢
      | some found =>
          obtain ⟨word, subject⟩ := found
          rw [readWordToken_of_word isWord] at isRead ⊢
          split at isRead
          · rename_i isAbove
            rw [if_pos isAbove]
            cases levels with
            | zero => cases isRead
            | succ levels =>
                cases more with
                | zero => cases atMost
                | succ more =>
                    obtain ⟨stop, found, rfl⟩ := exists_of_map_eq_ok isRead
                    have foundAgain := skipArgument_mono (fun _ _ isRead =>
                      inductionHypothesis levels (Nat.lt_succ_self levels) isRead
                        (Nat.le_of_succ_le_succ atMost)) found
                    dsimp only
                    rw [foundAgain]
                    rfl
          · rename_i notAbove
            rwa [if_neg notAbove]

theorem readLexeme_mono (isRead : readLexeme levels offset char rest = .ok (kind, stop))
    (atMost : levels ≤ more) : readLexeme more offset char rest = .ok (kind, stop) := by
  rcases readLexeme_cases isRead with
    ⟨isSign, rfl⟩ | ⟨isMark, content, rfl, phrase⟩ | ⟨notSign, noMark, isWord⟩
  · exact readLexeme_of_sign isSign more offset rest
  · exact readLexeme_of_phrase isMark phrase more
  · rw [readLexeme_of_word notSign noMark]
    exact readWordToken_mono isWord atMost

/-- What is scanned with so many levels is scanned with more. -/
theorem scanFrom_mono (scanned : Token.scanFrom levels offset text = .ok tokens)
    (atMost : levels ≤ more) : Token.scanFrom more offset text = .ok tokens := by
  fun_induction Token.scanFrom levels offset text generalizing tokens with
  | case1 => rwa [scanFrom_nil]
  | case2 offset char rest blank inductionHypothesis =>
      rw [scanFrom_of_blank blank]
      exact inductionHypothesis scanned
  | case3 => cases scanned
  | case4 offset char rest notBlank kind stop isRead _ inductionHypothesis =>
      obtain ⟨behind, scannedBehind, rfl⟩ := exists_of_map_eq_ok scanned
      rw [scanFrom_of_token notBlank (readLexeme_mono isRead atMost),
        inductionHypothesis scannedBehind]
      rfl

/-! ## Where arguments end -/

/-- Behind the minus signs, the first character says what the argument is. -/
theorem skipArgument_of_no_minus (word : Cursor → Except QueryError (TokenKind × Cursor))
    (noMinus : ¬ (char == '-') = true) (offset : Nat) (rest : List Char) :
    skipArgument word ⟨offset, char :: rest⟩ =
      if char == '(' then skipGroup offset 0 true (offset + 1) rest
      else if isQuotationMark char then
        match readPhrase char (offset + char.utf8Size) rest with
        | none => .error ⟨offset, .unclosedQuote⟩
        | some (_, stop) => .ok stop
      else if endsWord char then .ok ⟨offset, char :: rest⟩
      else (word ⟨offset, char :: rest⟩).map Prod.snd := by
  unfold skipArgument
  dsimp only
  rw [List.takeWhile_cons, if_neg noMinus]
  rfl

/-- In front of anything but white space and signs, the scan for the end of an argument stops
where the scan for tokens does. -/
theorem skipArgument_eq_readLexeme (notBlank : ¬ isBlank char = true)
    (notSign : ∀ sign, (char, sign) ∉ signTokens) (levels offset : Nat) (rest : List Char) :
    skipArgument (readWordToken levels) ⟨offset, char :: rest⟩ =
      (readLexeme levels offset char rest).map Prod.snd := by
  have differs (sign : Char) (kind : TokenKind) (isSign : (sign, kind) ∈ signTokens) :
      char ≠ sign := by
    rintro rfl
    exact notSign kind isSign
  have noLeft := differs '(' .leftParen (by simp [mem_signTokens])
  have noRight := differs ')' .rightParen (by simp [mem_signTokens])
  have noBar := differs '|' .bar (by simp [mem_signTokens])
  have noMinus := differs '-' .minus (by simp [mem_signTokens])
  rw [skipArgument_of_no_minus _ (by simpa using noMinus), if_neg (by simpa using noLeft)]
  by_cases isMark : isQuotationMark char = true
  · rw [if_pos isMark]
    cases phrase : readPhrase char (offset + char.utf8Size) rest with
    | none =>
        rw [readLexeme_of_open_phrase isMark phrase]
        rfl
    | some read =>
        rw [readLexeme_of_phrase isMark phrase]
        rfl
  · have noBreak : ¬ endsWord char = true := by
      simp [endsWord, notBlank, noLeft, noRight, noBar]
    rw [if_neg isMark, if_neg noBreak, readLexeme_of_word notSign isMark]

/-! ## Single operands -/

/-- The kinds of tokens that are operands by themselves. -/
def TokenKind.standsAlone : TokenKind → Bool
  | .text _ | .quoted _ | .filter _ => true
  | _ => false

/-- From one byte offset to another one there are minus signs and a text, a phrase or a filter
behind them, each right behind the one before. -/
inductive OneOperand : Nat → List Token → Nat → Prop where
  | operand {token : Token} :
      token.kind.standsAlone = true → OneOperand token.position [token] token.stop
  | minus {token : Token} {rest : List Token} {stop : Nat} :
      token.kind = .minus → OneOperand token.stop rest stop →
      OneOperand token.position (token :: rest) stop

/-- A text is minus signs and a text, a phrase or a filter, as it is written. -/
inductive WrittenOperand (levels : Nat) : List Char → Prop where
  | operand {offset place : Nat} {char : Char} {rest : List Char} {kind : TokenKind} :
      isBlank char = false → kind.standsAlone = true →
      readLexeme levels offset char rest = .ok (kind, ⟨place, []⟩) →
      WrittenOperand levels (char :: rest)
  | minus {rest : List Char} : WrittenOperand levels rest → WrittenOperand levels ('-' :: rest)

theorem WrittenOperand.mono (written : WrittenOperand levels text) (atMost : levels ≤ more) :
    WrittenOperand more text := by
  induction written with
  | operand notBlank standsAlone isRead =>
      exact .operand notBlank standsAlone (readLexeme_mono isRead atMost)
  | minus _ inductionHypothesis => exact .minus inductionHypothesis

theorem standsAlone_shift (distance : Nat) (kind : TokenKind) :
    (kind.shift distance).standsAlone = kind.standsAlone := by
  cases kind <;> rfl

/-- A token that is read at one place is read at every place, with more levels as well. -/
theorem readLexeme_anywhere (isRead : readLexeme levels offset char rest = .ok (kind, ⟨place, []⟩))
    (atMost : levels ≤ more) (again : Nat) : ∃ same behind,
      readLexeme more again char rest = .ok (same, ⟨behind, []⟩) ∧
        same.standsAlone = kind.standsAlone := by
  have moved := readLexeme_shift offset more 0 char rest
  have movedAgain := readLexeme_shift again more 0 char rest
  rw [Nat.zero_add] at moved movedAgain
  rw [readLexeme_mono isRead atMost] at moved
  cases isFirst : readLexeme more 0 char rest with
  | error error =>
      rw [isFirst] at moved
      cases moved
  | ok first =>
      obtain ⟨first, last, behind⟩ := first
      rw [isFirst] at moved movedAgain
      obtain ⟨rfl, isStop⟩ := Prod.mk.inj (Except.ok.inj moved)
      obtain ⟨-, rfl⟩ := Cursor.mk.inj isStop
      refine ⟨first.shift again, last + again, movedAgain, ?_⟩
      rw [standsAlone_shift, standsAlone_shift]

/-- A token at the very start of a text is read there. -/
theorem exists_first_token (scanned : Token.scanFrom levels offset text = .ok (token :: tokens))
    (isStart : token.position = offset) : ∃ char rest stop, text = char :: rest ∧
      isBlank char = false ∧ readLexeme levels offset char rest = .ok (token.kind, stop) ∧
      token.stop = stop.offset ∧ Token.scanFrom levels stop.offset stop.rest = .ok tokens := by
  obtain ⟨place, turns⟩ := Turns.of_scanFrom scanned
  rw [← List.nil_append (token :: tokens)] at turns
  obtain ⟨char, rest, stop, before, notBlank, isRead, isStop, after⟩ := turns.split
  obtain ⟨passed, isText, isOffset⟩ := before.leads
  dsimp only at isText isOffset
  have none : passed = [] := byteLength_eq_zero.mp (by omega)
  subst none
  rw [isStart] at isRead
  exact ⟨char, rest, stop, isText, notBlank, isRead, isStop, after.scanFrom rfl⟩

theorem char_of_minus (isRead : readLexeme levels offset char rest = .ok (.minus, stop)) :
    char = '-' ∧ stop = ⟨offset + 1, rest⟩ := by
  rcases readLexeme_cases isRead with
    ⟨isSign, rfl⟩ | ⟨-, content, isQuoted, -⟩ | ⟨-, -, isWord⟩
  · have isMinus : char = '-' := by simpa [mem_signTokens] using isSign
    rw [isMinus]
    exact ⟨rfl, rfl⟩
  · cases isQuoted
  · rcases readWordToken_cases isWord with isText | ⟨written, isFilter, -⟩
    · obtain ⟨word, -, equal⟩ := exists_of_map_eq_ok isText
      cases equal
    · cases isFilter

/-- A text that is scanned as one operand is written as one. -/
theorem WrittenOperand.of_scanFrom {stop : Nat}
    (scanned : Token.scanFrom levels offset text = .ok tokens) (one : OneOperand offset tokens stop)
    (isStop : stop = offset + byteLength text) : WrittenOperand levels text := by
  induction one generalizing text with
  | @operand token standsAlone =>
      obtain ⟨char, rest, ⟨place, behind⟩, rfl, notBlank, isRead, isEnd, -⟩ :=
        exists_first_token scanned rfl
      obtain ⟨passed, isText, isPlace⟩ := (Turn.token notBlank isRead).leads
      dsimp only at isText isPlace isEnd
      rw [isText, byteLength_append] at isStop
      have none : behind = [] := byteLength_eq_zero.mp (by omega)
      subst none
      exact .operand notBlank standsAlone isRead
  | @minus token more stop isMinus _ inductionHypothesis =>
      obtain ⟨char, rest, next, rfl, -, isRead, isEnd, scannedMore⟩ :=
        exists_first_token scanned rfl
      rw [isMinus] at isRead
      obtain ⟨rfl, rfl⟩ := char_of_minus isRead
      rw [← isEnd] at scannedMore
      refine .minus (inductionHypothesis scannedMore ?_)
      dsimp only at isEnd
      have isOne : '-'.utf8Size = 1 := rfl
      rw [byteLength, isOne] at isStop
      omega

/-- Such a text is scanned as such tokens, wherever it starts and with more levels as well. -/
theorem WrittenOperand.exists_tokens (written : WrittenOperand levels text)
    (atMost : levels ≤ more) (offset : Nat) : ∃ tokens stop,
      Token.scanFrom more offset text = .ok tokens ∧ OneOperand offset tokens stop := by
  induction written generalizing offset with
  | operand notBlank standsAlone isRead =>
      obtain ⟨kind, place, isAgain, isKind⟩ := readLexeme_anywhere isRead atMost offset
      have scanned := scanFrom_of_token (Bool.eq_false_iff.mp notBlank) isAgain
      rw [scanFrom_nil] at scanned
      refine ⟨[⟨kind, offset, place⟩], place, scanned, ?_⟩
      have isOne : (⟨kind, offset, place⟩ : Token).kind.standsAlone = true :=
        isKind.trans standsAlone
      exact .operand isOne
  | @minus rest _ inductionHypothesis =>
      obtain ⟨tokens, stop, scanned, one⟩ := inductionHypothesis (offset + 1)
      have scannedMinus := scanFrom_of_token (by decide) (readLexeme_minus more offset rest)
      dsimp only at scannedMinus
      rw [scanned] at scannedMinus
      refine ⟨⟨.minus, offset, offset + 1⟩ :: tokens, stop, scannedMinus, ?_⟩
      have isOne : (⟨.minus, offset, offset + 1⟩ : Token).kind = .minus := rfl
      exact .minus isOne one

/-- The scan for the end of an argument takes all of such a text, unless words in it nest too
deep. -/
theorem WrittenOperand.skipArgument_all (written : WrittenOperand levels text)
    (lower offset : Nat) :
    (∃ place, skipArgument (readWordToken lower) ⟨offset, text⟩ = .ok ⟨place, []⟩) ∨
      lower < levels ∧ TooDeep (skipArgument (readWordToken lower) ⟨offset, text⟩) := by
  induction written generalizing offset with
  | @operand start place char rest kind notBlank standsAlone isRead =>
      have notSign : ∀ sign, (char, sign) ∉ signTokens := by
        intro sign isSign
        rw [readLexeme_of_sign isSign] at isRead
        obtain ⟨rfl, -⟩ := Prod.mk.inj (Except.ok.inj isRead)
        rcases mem_signTokens.mp isSign with
          ⟨-, rfl⟩ | ⟨-, rfl⟩ | ⟨-, rfl⟩ | ⟨-, rfl⟩ | ⟨-, rfl⟩ <;> cases standsAlone
      rw [skipArgument_eq_readLexeme (Bool.eq_false_iff.mp notBlank) notSign]
      -- Fewer levels than it was read with may be too few for the words in the token, but
      -- what is read with them is the same.
      by_cases atMost : levels ≤ lower
      · obtain ⟨same, behind, isAgain, -⟩ := readLexeme_anywhere isRead atMost offset
        rw [isAgain]
        exact .inl ⟨behind, rfl⟩
      · have again := readLexeme_again isRead (.inl rfl) lower offset
        rw [List.append_nil] at again
        rcases again with deep | ⟨same, behind, isAgain, -⟩
        · exact .inr ⟨Nat.not_le.mp atMost, deep.map _⟩
        · rw [isAgain]
          exact .inl ⟨behind, rfl⟩
  | minus _ inductionHypothesis =>
      rw [skipArgument_minus]
      exact inductionHypothesis (offset + 1)

/-- An argument that is written as one operand ends where its text does. -/
theorem WrittenOperand.exists_skipArgument (written : WrittenOperand levels text)
    (offset : Nat) : ∃ place,
      skipArgument (readWordToken levels) ⟨offset, text⟩ = .ok ⟨place, []⟩ := by
  rcases written.skipArgument_all levels offset with found | ⟨isLess, -⟩
  · exact found
  · exact absurd isLess (Nat.lt_irrefl levels)

/-! ## What such texts are read as -/

theorem OneOperand.startsOperand {start stop : Nat} (one : OneOperand start tokens stop) :
    startsOperand tokens = true := by
  cases one with
  | @operand token standsAlone =>
      unfold Query.startsOperand
      cases isKind : token.kind <;> simp_all [TokenKind.standsAlone, TokenKind.startsOperand]
  | minus isMinus _ =>
      unfold Query.startsOperand
      dsimp only
      rw [isMinus]
      rfl

/-- The reader of operands leaves none of such tokens. -/
theorem OneOperand.rest_eq_nil {start last : Nat} (one : OneOperand start tokens last)
    {taken : Taken Expr tokens} {stop : Nat}
    (isRead : readOperand levels stop tokens = .ok taken) : taken.rest = [] := by
  induction one generalizing levels with
  | operand => exact taken.rest_of_single
  | minus isMinus one inductionHypothesis =>
      rw [readOperand_minus isMinus one.startsOperand] at isRead
      cases levels with
      | zero => cases isRead
      | succ levels =>
          obtain ⟨inner, isInner, rfl⟩ := exists_of_map_eq_ok isRead
          exact inductionHypothesis isInner

theorem OneOperand.readWhole {start last : Nat} (one : OneOperand start tokens last)
    (levels stop : Nat) : readWhole (readOperand levels stop) stop tokens =
      (readOperand levels stop tokens).map Taken.value :=
  readWhole_of_operand one.startsOperand (fun _ => one.rest_eq_nil) stop

theorem WrittenOperand.notBlank (written : WrittenOperand levels text) :
    (trim text).isEmpty = false := by
  rw [← Bool.not_eq_true]
  intro isEmpty
  have blank := isBlank_of_trim isEmpty
  cases written with
  | operand notBlank =>
      rw [blank _ List.mem_cons_self] at notBlank
      cases notBlank
  | minus => exact absurd (blank '-' List.mem_cons_self) (by decide)

/-- A sub-filter whose argument is found to be all of a text is about what the text is
read as. -/
theorem parseFrom_subFilter {filter : SubFilter} {letter : Char}
    (isLetter : letter ∈ filter.letters) (notBlank : (trim text).isEmpty = false)
    (found : skipArgument (readWordToken levels) ⟨offset + 2, text⟩ = .ok ⟨place, []⟩) :
    Expr.parseFrom (levels + 1) offset (letter :: ':' :: text) =
      (Expr.parseFrom levels (offset + 2) text).map filter.relation := by
  obtain ⟨isMark, isWord⟩ := readLexeme_subFilter isLetter (levels + 1) offset text
  rw [readWordToken_subFilter isLetter] at isWord
  dsimp only at isWord
  rw [found] at isWord
  have isArgument : Cursor.textUntil ⟨offset + 2, text⟩ ⟨place, []⟩ = text := List.take_length
  conv => lhs; unfold Expr.parseFrom
  dsimp only
  rw [scanFrom_of_token isMark isWord, scanFrom_nil]
  refine (readWhole_filter rfl _ _).trans ?_
  have isShape (value : String) (valueOffset : Nat) :
      (⟨filter.subject, none, value, valueOffset⟩ : WrittenFilter).shape =
        .above filter.relation := by
    cases filter <;> rfl
  rw [readFilter, isShape, isArgument]
  dsimp only
  rw [String.toList_ofList, notBlank]
  rfl

/-- A minus sign in front of a single operand negates what that is read as. -/
theorem parseFrom_minus (written : WrittenOperand levels text)
    (parsed : Expr.parseFrom levels (offset + 1) text = .ok expr) :
    Expr.parseFrom (levels + 1) offset ('-' :: text) = .ok (.not expr) := by
  obtain ⟨tokens, last, scanned, one⟩ := written.exists_tokens (Nat.le_refl levels) (offset + 1)
  unfold Expr.parseFrom at parsed ⊢
  dsimp only at parsed ⊢
  have isStop : offset + byteLength ('-' :: text) = offset + 1 + byteLength text :=
    (Nat.add_assoc offset 1 (byteLength text)).symm
  have isOne : (⟨.minus, offset, offset + 1⟩ : Token).kind = .minus := rfl
  rw [scanned] at parsed
  obtain ⟨taken, isTaken, rfl⟩ := exists_of_map_eq_ok ((one.readWhole _ _).symm.trans parsed)
  rw [scanFrom_of_token (by decide) (readLexeme_minus (levels + 1) offset text),
    scanFrom_mono scanned (Nat.le_succ levels), isStop]
  refine ((OneOperand.minus isOne one).readWhole _ _).trans ?_
  rw [readOperand_minus isOne one.startsOperand]
  dsimp only
  rw [isTaken]
  rfl

/-- With one level less for its argument than the argument takes, a sub-filter is still read as
being about it, unless something in it nests too deep. -/
theorem WrittenOperand.parseFrom_subFilter_or {filter : SubFilter} {letter : Char}
    (written : WrittenOperand (levels + 1) text) (isLetter : letter ∈ filter.letters)
    (parsed : Expr.parseFrom (levels + 1) offset text = .ok expr) :
    Expr.parseFrom (levels + 1) offset (letter :: ':' :: text) = .ok (filter.relation expr) ∨
      TooDeep (Expr.parseFrom (levels + 1) offset (letter :: ':' :: text)) := by
  rcases written.skipArgument_all levels (offset + 2) with ⟨place, found⟩ | ⟨-, deep⟩
  · rw [parseFrom_subFilter isLetter written.notBlank found]
    rcases (readOperand_complete levels).parseFrom parsed (offset + 2) with isRead | deep
    · rw [isRead]
      exact .inl rfl
    · exact .inr (deep.map _)
  · obtain ⟨notBlank, isWord⟩ := readLexeme_subFilter isLetter (levels + 1) offset text
    rw [readWordToken_subFilter isLetter] at isWord
    obtain ⟨position, failed⟩ := deep.map (fun stop =>
      (TokenKind.filter ⟨filter.subject, none,
        String.ofList (Cursor.textUntil ⟨offset + 2, text⟩ stop), offset + 2⟩, stop))
    dsimp only at isWord
    rw [failed] at isWord
    refine .inr ⟨position, ?_⟩
    unfold Expr.parseFrom
    dsimp only
    rw [scanFrom_of_error notBlank isWord]
    rfl

/-! ## What stands in front -/

/-- What can stand in front of an operand. -/
inductive Lead where
  | minus
  | filter (name : SubFilter)

def Lead.spelling : Lead → String
  | .minus => "-"
  | .filter name => name.name

def Lead.wrap : Lead → Expr → Expr
  | .minus => .not
  | .filter name => name.relation

theorem exists_name_letter (filter : SubFilter) :
    ∃ letter ∈ filter.letters, filter.name.toList = [letter, ':'] := by
  cases filter
  · exact ⟨'p', by decide, rfl⟩
  · exact ⟨'a', by decide, rfl⟩

/-- In front of a single operand there is another one. -/
theorem WrittenOperand.lead (written : WrittenOperand levels text) (lead : Lead) :
    WrittenOperand (levels + 1) (lead.spelling.toList ++ text) := by
  cases lead with
  | minus => exact .minus (written.mono (Nat.le_succ levels))
  | filter name =>
      obtain ⟨letter, isLetter, isName⟩ := exists_name_letter name
      rw [Lead.spelling, isName]
      obtain ⟨notBlank, isWord⟩ := readLexeme_subFilter isLetter (levels + 1) 0 text
      rw [readWordToken_subFilter isLetter] at isWord
      obtain ⟨place, found⟩ := written.exists_skipArgument (0 + 2)
      dsimp only at isWord
      rw [found] at isWord
      exact .operand (Bool.eq_false_iff.mpr notBlank) rfl isWord

theorem parseFrom_of_zero (parsed : Expr.parseFrom levels 0 text = .ok expr) (offset : Nat) :
    Expr.parseFrom levels offset text = .ok expr := by
  have moved := parseFrom_shift levels offset 0 text
  rwa [Nat.zero_add, parsed] at moved

/-- What can stand in front of an operand is read with it, one level further up. -/
theorem WrittenOperand.parseFrom_lead (written : WrittenOperand levels text)
    (parsed : Expr.parseFrom levels 0 text = .ok expr) (lead : Lead) :
    Expr.parseFrom (levels + 1) 0 (lead.spelling.toList ++ text) = .ok (lead.wrap expr) := by
  cases lead with
  | minus => exact parseFrom_minus written (parseFrom_of_zero parsed _)
  | filter name =>
      obtain ⟨letter, isLetter, isName⟩ := exists_name_letter name
      rw [Lead.spelling, isName]
      obtain ⟨place, found⟩ := written.exists_skipArgument (0 + 2)
      refine (parseFrom_subFilter isLetter written.notBlank found).trans ?_
      rw [parseFrom_of_zero parsed]
      rfl

/-- Whatever stands in front of a single operand takes one level each. -/
theorem WrittenOperand.parseFrom_leads {text : String} (written : WrittenOperand levels text.toList)
    (parsed : Expr.parseFrom levels 0 text.toList = .ok expr) (leads : List Lead) :
    let whole := leads.foldr (fun lead rest => lead.spelling ++ rest) text
    WrittenOperand (levels + leads.length) whole.toList ∧
      Expr.parseFrom (levels + leads.length) 0 whole.toList = .ok (leads.foldr Lead.wrap expr) := by
  induction leads with
  | nil => exact ⟨written, parsed⟩
  | cons lead leads inductionHypothesis =>
      obtain ⟨wholeWritten, wholeParsed⟩ := inductionHypothesis
      dsimp only [List.foldr_cons, List.length_cons]
      rw [String.toList_append]
      exact ⟨wholeWritten.lead lead, wholeWritten.parseFrom_lead wholeParsed lead⟩

/-- A text that is read with so many levels is read as the same with more of them. -/
theorem parseFrom_mono (parsed : Expr.parseFrom levels offset text = .ok expr)
    (atMost : levels ≤ more) (again : Nat) : Expr.parseFrom more again text = .ok expr := by
  rcases (readOperand_complete more).parseFrom parsed again with isRead | deep
  · exact isRead
  · obtain ⟨count, isMore, isOpen⟩ := exists_openAtOnce deep
    have bound := readsWithin levels offset text expr count parsed isOpen
    omega

theorem writtenOperand_of_scan {text : String} (scanned : Token.scan text = .ok tokens)
    (one : OneOperand 0 tokens text.utf8ByteSize) (atMost : levels ≤ maxNesting)
    (parsed : Expr.parseFrom levels 0 text.toList = .ok expr) :
    WrittenOperand levels text.toList := by
  obtain ⟨same, scannedSame, -⟩ := exists_of_bind_eq_ok parsed
  obtain rfl := Except.ok.inj ((scanFrom_mono scannedSame atMost).symm.trans scanned)
  apply WrittenOperand.of_scanFrom scannedSame one
  rw [utf8ByteSize_eq, Nat.zero_add]

/-- The word of a sub-filter takes a text that is a single operand, as it is written, and asks
for what the text is read as, unless that nests too deep. Minus signs and words of sub-filters
can be put in front of such a text as long as there are levels for them. -/
theorem parse_sub_filter {text : String} {expr : Expr} {tokens : List Token}
    (scanned : Token.scan text = .ok tokens) (one : OneOperand 0 tokens text.utf8ByteSize)
    (parsed : Expr.parse text = .ok expr) :
    (∀ filter : SubFilter, Expr.parse (filter.name ++ text) = .ok (filter.relation expr) ∨
      TooDeep (Expr.parse (filter.name ++ text))) ∧
    ∀ (leads : List Lead) (levels : Nat), levels + leads.length ≤ 256 →
      Expr.parseFrom levels 0 text.toList = .ok expr →
      Expr.parse (leads.foldr (fun lead rest => lead.spelling ++ rest) text) =
        .ok (leads.foldr Lead.wrap expr) := by
  constructor
  · intro filter
    have written := writtenOperand_of_scan scanned one (Nat.le_refl _) parsed
    obtain ⟨letter, isLetter, isName⟩ := exists_name_letter filter
    have isText : (filter.name ++ text).toList = letter :: ':' :: text.toList := by
      rw [String.toList_append, isName]
      rfl
    unfold Expr.parse
    rw [isText]
    exact written.parseFrom_subFilter_or isLetter parsed
  · intro leads levels atMost parsedWithin
    have written := writtenOperand_of_scan scanned one (by unfold maxNesting; omega) parsedWithin
    exact parseFrom_mono (written.parseFrom_leads parsedWithin leads).2 atMost 0

/-- A minus sign in front of a filter with a quoted value takes one level, and the 255 that are
left are taken by sub-filters. -/
theorem parse_sub_filter_chain :
    let text := "-@k=\"x y\""
    let tokens : List Token :=
      [⟨.minus, 0, 1⟩, ⟨.filter ⟨.attr "k", some .equal, "x y", 4⟩, 1, 9⟩]
    let expr : Expr := .not (.leaf (.attr "k" (some (.text .equal "x y"))))
    let leads := List.replicate 254 (.filter .parent) ++ [.filter .ancestor]
    Token.scan text = .ok tokens ∧ OneOperand 0 tokens text.utf8ByteSize ∧
      Expr.parse text = .ok expr ∧ Expr.parse ("p:" ++ text) = .ok (.parent expr) ∧
      Expr.parse (leads.foldr (fun lead rest => Lead.spelling lead ++ rest) text) =
        .ok (leads.foldr Lead.wrap expr) := by
  intro text tokens expr leads
  have scanned : Token.scan text = .ok tokens := by decide +kernel
  have scannedInner : Token.scanFrom 0 1 (text.toList.drop 1) = .ok [tokens[1]] := by decide +kernel
  have last : OneOperand 1 [tokens[1]] 9 := @OneOperand.operand tokens[1] rfl
  have one : OneOperand 0 tokens text.utf8ByteSize := @OneOperand.minus tokens[0] _ _ rfl last
  have parsedInner : Expr.parseFrom 0 1 (text.toList.drop 1) =
      .ok (.leaf (.attr "k" (some (.text .equal "x y")))) := by
    unfold Expr.parseFrom
    dsimp only
    rw [scannedInner]
    exact (readWhole_filter rfl _ _).trans rfl
  have written := WrittenOperand.of_scanFrom scannedInner last (by decide +kernel)
  have isText : text.toList = '-' :: text.toList.drop 1 := by decide +kernel
  have parsedWithin : Expr.parseFrom 1 0 text.toList = .ok expr := by
    rw [isText]
    exact parseFrom_minus written parsedInner
  have parsed : Expr.parse text = .ok expr := parseFrom_mono parsedWithin (by decide) 0
  have enough : 1 + leads.length ≤ 256 := by
    rw [List.length_append, List.length_replicate]
    decide
  obtain ⟨-, chains⟩ := parse_sub_filter scanned one parsed
  exact ⟨scanned, one, parsed, chains [.filter .parent] 1 (by decide) parsedWithin,
    chains leads 1 enough parsedWithin⟩

end Outliner.Query
