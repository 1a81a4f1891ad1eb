import Outliner.Proofs.Query.Depth

/-!
Contract: how deep the text of a query is nested.

Owns: how many groups, minus signs and sub-filters are open at a place of a text, where the
argument of a sub-filter is a text of its own; and that just this decides whether the
readers complain about nesting.

The readers count levels down, texts are measured by counting up what is open. The two agree
also where no level is left.

Main statements: `exists_openAtOnce`, `readsWithin`, `parse_nests_within`.

Does not own: how deep expressions are nested (`Proofs.Query.Depth`).
-/

namespace Outliner.Query

open Outliner.Text

/-! ## What is open at a place -/

/-- What is open at a place between tokens: how much in front of the next operand, in front
of the operands of the innermost open group, and in front of those of the groups around it. -/
structure Openings where
  here : Nat
  base : Nat
  outer : List Nat

/-- What is open behind a token. A minus sign is open up to the end of its operand, a
parenthesis up to the one that closes it. -/
def Openings.after (openings : Openings) : TokenKind → Openings
  | .minus => { openings with here := openings.here + 1 }
  | .leftParen => ⟨openings.here + 1, openings.here + 1, openings.base :: openings.outer⟩
  | .rightParen =>
    match openings.outer with
    | [] => { openings with here := openings.base }
    | base :: outer => ⟨base, base, outer⟩
  | _ => { openings with here := openings.base }

def Openings.behind (openings : Openings) (tokens : List Token) : Openings :=
  tokens.foldl (fun openings token => openings.after token.kind) openings

def openings (tokens : List Token) : Openings :=
  Openings.behind ⟨0, 0, []⟩ tokens

def opened (tokens : List Token) : Nat :=
  (openings tokens).here

/-- The letters in front of the colon of a sub-filter, as its word may be written. -/
def SubFilter.letters : SubFilter → List Char
  | parent => ['p', 'P']
  | ancestor => ['a', 'A']

/-- A text starts with so many minus signs and words of sub-filters, each one right in front of
the operand or the argument in which the next one stands. -/
inductive Stacked : List Char → Nat → Prop where
  | none (text : List Char) : Stacked text 0
  | minus {rest : List Char} {count : Nat} : Stacked rest count → Stacked ('-' :: rest) (count + 1)
  | word {filter : SubFilter} {letter : Char} {rest : List Char} {count : Nat} :
      letter ∈ filter.letters → Stacked rest count → Stacked (letter :: ':' :: rest) (count + 1)

/-- So many groups, minus signs and sub-filters are open at once at some point of a text: at the
start of an operand, or at a point inside the argument of a sub-filter. -/
inductive OpenAtOnce : List Char → Nat → Prop where
  | operand {levels offset place count : Nat} {text rest : List Char} {front : List Token} :
      Turns levels ⟨offset, text⟩ front ⟨place, rest⟩ → Stacked rest count →
      OpenAtOnce text (opened front + count)
  | argument {levels offset count : Nat} {text : List Char} {front : List Token} {token : Token}
      {last : Cursor} {written : WrittenFilter} :
      Turns levels ⟨offset, text⟩ (front ++ [token]) last → token.kind = .filter written →
      written.subject = .parent ∨ written.subject = .ancestor →
      OpenAtOnce written.value.toList count → OpenAtOnce text (opened front + 1 + count)

variable {expr : Expr} {levels stop offset count : Nat} {text : List Char}
  {tokens front rest : List Token} {token : Token}
  {cursor : Cursor} {error : QueryError}

/-! ## Levels that are left -/

/-- The levels that are left where so many are there in all and so much is open. -/
def Openings.leaving (levels : Nat) (openings : Openings) : Nesting :=
  ⟨levels - openings.here, levels - openings.base, openings.outer.map (levels - ·)⟩

/-- Levels that are left and levels that are open are two ways of counting. -/
theorem leaving_after (levels : Nat) (openings : Openings) (kind : TokenKind) :
    (openings.after kind).leaving levels = (openings.leaving levels).after kind := by
  obtain ⟨here, base, outer⟩ := openings
  cases kind with
  | minus => simp [Openings.after, Openings.leaving, Nesting.after, Nat.sub_add_eq]
  | leftParen => simp [Openings.after, Openings.leaving, Nesting.after, Nat.sub_add_eq]
  | rightParen => cases outer <;> simp [Openings.after, Openings.leaving, Nesting.after]
  | _ => simp [Openings.after, Openings.leaving, Nesting.after]

theorem openings_append (front : List Token) (token : Token) :
    openings (front ++ [token]) = (openings front).after token.kind := by
  rw [openings, Openings.behind, List.foldl_append]
  rfl

theorem standing_after (levels : Nat) (start : Openings) (front rest : List Token) :
    standing (start.leaving levels) (front ++ rest) = standing (start.leaving levels) front ++
      standing ((start.behind front).leaving levels) rest := by
  induction front generalizing start with
  | nil => rfl
  | cons first front inductionHypothesis =>
      have areStanding := inductionHypothesis (start.after first.kind)
      rw [leaving_after] at areStanding
      exact congrArg ((first, levels - start.here) :: ·) areStanding

/-- The levels that are left behind some tokens are those that what is open there leaves. -/
theorem standing_append (levels : Nat) (front rest : List Token) :
    standing (.top levels) (front ++ rest) =
      standing (.top levels) front ++ standing ((openings front).leaving levels) rest :=
  standing_after levels ⟨0, 0, []⟩ front rest

/-- A token that fits finds a level for what is open in front of it. -/
theorem AllFit.fits (fit : AllFit (.top levels) (front ++ token :: rest)) :
    Fits token (levels - opened front) := by
  unfold AllFit at fit
  rw [standing_append] at fit
  exact fit (token, _) (List.mem_append_right _ List.mem_cons_self)

theorem AllFit.append (fit : AllFit (.top levels) front)
    (fits : Fits token (levels - opened front)) :
    AllFit (.top levels) (front ++ [token]) := by
  unfold AllFit
  rw [standing_append, List.forall_mem_append]
  exact ⟨fit, List.forall_mem_singleton.mpr fits⟩

/-- A token asks for a level where none is left, or is a filter that nests too deep. -/
def Stuck (token : Token) (left : Nat) : Prop :=
  (token.kind = .minus ∨ token.kind = .leftParen) ∧ left = 0 ∨
    ∃ written, token.kind = .filter written ∧ TooDeep (readFilter left token.position written)

/-- Wherever the readers are in some tokens, the levels that are left are those that what is
open behind the tokens so far leaves, and these tokens fit. A complaint about nesting is about
a token that is stuck. -/
theorem opening_laws (levels stop : Nat) (tokens : List Token) :
    OperandLaws levels stop
      (fun nesting rest => ∃ front, tokens = front ++ rest ∧
        nesting = (openings front).leaving levels ∧ AllFit (.top levels) front)
      (fun error => error.fault = .nestedTooDeep → ∃ front token back,
        tokens = front ++ token :: back ∧ Stuck token (levels - opened front))
      (fun _ _ => True) (fun _ _ => True) fun _ _ => True where
  next := by
    rintro nesting token rest ⟨front, rfl, rfl, fit⟩ fits
    refine ⟨front ++ [token], by simp, ?_, fit.append fits⟩
    rw [openings_append, leaving_after]
  blame _ _ _ _ notNesting _ isNesting := absurd isNesting notNesting
  blameEnd _ notNesting isNesting := absurd isNesting notNesting
  deep := by
    rintro nesting token rest isZero nests ⟨front, areTokens, rfl, -⟩ -
    exact ⟨front, token, rest, areTokens, .inl ⟨nests, isZero⟩⟩
  text _ _ _ _ _ _ := trivial
  filter := by
    rintro nesting token rest written - isFilter ⟨front, areTokens, rfl, -⟩
    dsimp only [Openings.leaving]
    cases isRead : readFilter (levels - (openings front).here) token.position written with
    | ok expr => trivial
    | error error =>
        intro isNesting
        refine ⟨front, token, rest, areTokens, .inr ⟨written, isFilter, error.position, ?_⟩⟩
        rw [opened, isRead, ← isNesting]
  not _ _ _ := trivial
  group _ _ _ := trivial
  joining _ := ⟨fun _ => id, fun _ _ _ _ => trivial, fun _ => id, fun _ _ _ _ => trivial⟩

/-- Where tokens nest too deep, there is one that asks for a level which is not left. -/
theorem exists_stuck (nonempty : tokens ≠ [])
    (deep : TooDeep (readWhole (readOperand levels stop) stop tokens)) : ∃ front token back,
      tokens = front ++ token :: back ∧ Stuck token (levels - opened front) := by
  obtain ⟨position, failed⟩ := deep
  have outcome := (opening_laws levels stop tokens).readWhole nonempty ⟨[], rfl, rfl, nofun⟩
  rw [failed] at outcome
  exact outcome rfl

/-- Where tokens are read, all of them fit. -/
theorem allFit_of_readWhole (nonempty : tokens ≠ [])
    (read : readWhole (readOperand levels stop) stop tokens = .ok expr) :
    AllFit (.top levels) tokens := by
  have outcome := (opening_laws levels stop tokens).readWhole nonempty ⟨[], rfl, rfl, nofun⟩
  rw [read] at outcome
  obtain ⟨-, front, areTokens, -, fit⟩ := outcome
  rw [areTokens, List.append_nil]
  exact fit

/-! ## Complaints about nesting -/

section Complaints

variable {α β : Type} {result : Except QueryError α}

theorem TooDeep.of_map {change : α → β} (deep : TooDeep (result.map change)) : TooDeep result := by
  obtain ⟨position, failed⟩ := deep
  cases result with
  | ok value => cases failed
  | error error => exact ⟨position, congrArg Except.error (Except.error.inj failed)⟩

theorem not_tooDeep_error {position : Nat} {fault : Fault} (notNesting : fault ≠ .nestedTooDeep) :
    ¬ TooDeep (Except.error ⟨position, fault⟩ : Except QueryError α) := by
  rintro ⟨place, failed⟩
  exact notNesting (QueryError.mk.inj (Except.error.inj failed)).2

theorem not_tooDeep_ok (value : α) : ¬ TooDeep (Except.ok value : Except QueryError α) := by
  rintro ⟨place, failed⟩
  cases failed

theorem not_tooDeep_bind {next : α → Except QueryError β} (notDeep : ¬ TooDeep result)
    (nextNotDeep : ∀ value, ¬ TooDeep (next value)) : ¬ TooDeep (result.bind next) := by
  cases result with
  | ok value => exact nextNotDeep value
  | error error =>
      rintro ⟨position, failed⟩
      exact notDeep ⟨position, congrArg Except.error (Except.error.inj failed)⟩

theorem not_tooDeep_readWord (afterMark : Bool) (offset : Nat) (text : List Char) :
    ¬ TooDeep (readWord afterMark offset text) := by
  fun_induction readWord afterMark offset text with
  | case1 => exact not_tooDeep_ok _
  | case2 => exact not_tooDeep_ok _
  | case3 => exact not_tooDeep_error (by simp)
  | case4 _ _ _ _ _ _ _ _ _ _ inductionHypothesis => exact mt TooDeep.of_map inductionHypothesis
  | case5 _ _ _ _ _ _ inductionHypothesis => exact mt TooDeep.of_map inductionHypothesis

theorem not_tooDeep_readPlainWord (cursor : Cursor) : ¬ TooDeep (readPlainWord cursor) := by
  unfold readPlainWord
  split
  · split
    · exact mt TooDeep.of_map (not_tooDeep_readWord _ _ _)
    · exact mt TooDeep.of_map (not_tooDeep_readWord _ _ _)
  · exact mt TooDeep.of_map (not_tooDeep_readWord _ _ _)

theorem not_tooDeep_skipGroup (start inner : Nat) (opens : Bool) (offset : Nat)
    (text : List Char) : ¬ TooDeep (skipGroup start inner opens offset text) := by
  fun_induction skipGroup start inner opens offset text with
  | case1 => exact not_tooDeep_error (by simp)
  | case2 _ _ _ _ _ _ inductionHypothesis => exact inductionHypothesis
  | case3 => exact not_tooDeep_ok _
  | case4 _ _ _ _ _ _ _ inductionHypothesis => exact inductionHypothesis
  | case5 => exact not_tooDeep_error (by simp)
  | case6 _ _ _ _ _ _ _ _ _ _ _ _ inductionHypothesis => exact inductionHypothesis
  | case7 _ _ _ _ _ _ _ _ inductionHypothesis => exact inductionHypothesis

/-- Only a word inside an argument can make it nest too deep. -/
theorem TooDeep.of_skipArgument {word : Cursor → Except QueryError (TokenKind × Cursor)}
    (deep : TooDeep (skipArgument word cursor)) :
    TooDeep (word (cursor.skip (cursor.rest.takeWhile (· == '-')).length)) := by
  unfold skipArgument at deep
  dsimp only at deep
  split at deep
  · exact absurd deep (not_tooDeep_ok _)
  · split at deep
    · exact absurd deep (not_tooDeep_skipGroup _ _ _ _ _)
    split at deep
    · split at deep
      · exact absurd deep (not_tooDeep_error (by simp))
      · exact absurd deep (not_tooDeep_ok _)
    split at deep
    · exact absurd deep (not_tooDeep_ok _)
    · exact deep.of_map

theorem TooDeep.of_readLexeme {char : Char} {behind : List Char}
    (deep : TooDeep (readLexeme levels offset char behind)) :
    TooDeep (readWordToken levels ⟨offset, char :: behind⟩) := by
  by_cases isSign : ∃ sign, (char, sign) ∈ signTokens
  · obtain ⟨sign, isSign⟩ := isSign
    rw [readLexeme_of_sign isSign] at deep
    exact absurd deep (not_tooDeep_ok _)
  · by_cases isMark : isQuotationMark char = true
    · cases phrase : readPhrase char (offset + char.utf8Size) behind with
      | none =>
          rw [readLexeme_of_open_phrase isMark phrase] at deep
          exact absurd deep (not_tooDeep_error (by simp))
      | some read =>
          rw [readLexeme_of_phrase isMark phrase] at deep
          exact absurd deep (not_tooDeep_ok _)
    · rwa [readLexeme_of_word (not_exists.mp isSign) isMark] at deep

theorem not_tooDeep_givenValue (written : WrittenFilter) : ¬ TooDeep (givenValue written) := by
  unfold givenValue
  split
  · exact not_tooDeep_error (by simp)
  · exact not_tooDeep_ok _

/-- What is wrong with a filter's own value is not how deep it nests. -/
theorem not_tooDeep_shape {written : WrittenFilter} {result : Except QueryError Leaf}
    (isLeaf : written.shape = .leaf result) : ¬ TooDeep result := by
  have onCount (leaf : Comparison → Nat → Leaf) : ¬ TooDeep (readCountFilter leaf written) := by
    refine not_tooDeep_bind (not_tooDeep_givenValue written) fun value => ?_
    split
    · exact not_tooDeep_ok _
    · exact not_tooDeep_error (by simp)
  have onTime (field : TimeField) : ¬ TooDeep (readTimeFilter field written) := by
    refine not_tooDeep_bind (not_tooDeep_givenValue written) fun value => ?_
    split
    · exact not_tooDeep_ok _
    · exact not_tooDeep_error (by simp)
  have onAttribute (key : String) : ¬ TooDeep (readAttributeFilter key written) := by
    unfold readAttributeFilter
    split
    · exact not_tooDeep_ok _
    · exact mt TooDeep.of_map (not_tooDeep_givenValue written)
  unfold WrittenFilter.shape at isLeaf
  split at isLeaf
  all_goals
    cases isLeaf
  · exact onCount .depth
  · exact onCount .children
  · exact onTime .created
  · exact onTime .modified
  · exact onAttribute _

end Complaints

/-! ## Words of sub-filters -/

theorem forall_letters {motive : SubFilter → Char → Prop} (lowerP : motive .parent 'p')
    (upperP : motive .parent 'P') (lowerA : motive .ancestor 'a') (upperA : motive .ancestor 'A')
    {filter : SubFilter} {letter : Char} (isLetter : letter ∈ filter.letters) :
    motive filter letter := by
  cases filter with
  | parent =>
      have isCase : letter = 'p' ∨ letter = 'P' := by simpa [SubFilter.letters] using isLetter
      rcases isCase with rfl | rfl
      · exact lowerP
      · exact upperP
  | ancestor =>
      have isCase : letter = 'a' ∨ letter = 'A' := by simpa [SubFilter.letters] using isLetter
      rcases isCase with rfl | rfl
      · exact lowerA
      · exact upperA

theorem filterWord?_subFilter {filter : SubFilter} {letter : Char}
    (isLetter : letter ∈ filter.letters) (rest : List Char) :
    filterWord? (letter :: ':' :: rest) = some (filter.name, filter.subject) :=
  forall_letters (motive := fun filter letter =>
    filterWord? (letter :: ':' :: rest) = some (filter.name, filter.subject))
    rfl rfl rfl rfl isLetter

/-- The letters are those that are the one of the name in lower case. -/
theorem mem_letters {filter : SubFilter} {letter : Char}
    (isLower : [letter.toLower, ':'] = filter.name.toList) : letter ∈ filter.letters := by
  have shape : ∃ lower upper, filter.name.toList = [lower, ':'] ∧ filter.letters = [lower, upper] ∧
      upper.val + 32 = lower.val := by
    cases filter <;> exact ⟨_, _, rfl, rfl, rfl⟩
  obtain ⟨lower, upper, isName, areLetters, isUpper⟩ := shape
  rw [isName] at isLower
  have isLower := (List.cons.inj isLower).1
  rw [areLetters, List.mem_cons, List.mem_singleton]
  unfold Char.toLower at isLower
  split at isLower
  · have isSum := congrArg Char.val isLower
    exact .inr (Char.ext (UInt32.add_left_inj 32 |>.mp (isSum.trans isUpper.symm)))
  · exact .inl isLower

theorem entry_of_above {word : String} {subject : FilterSubject}
    (isEntry : (word, subject) ∈ FilterSubject.words)
    (isAbove : subject = .parent ∨ subject = .ancestor) :
    ∃ filter : SubFilter, word = filter.name ∧ subject = filter.subject := by
  rcases isAbove with rfl | rfl
  · have isWord : word = "p:" := by simpa [FilterSubject.words] using isEntry
    exact ⟨.parent, isWord, rfl⟩
  · have isWord : word = "a:" := by simpa [FilterSubject.words] using isEntry
    exact ⟨.ancestor, isWord, rfl⟩

/-- The word of a sub-filter is a letter and a colon. -/
theorem exists_letter {text : List Char} {word : String} {subject : FilterSubject}
    (isWord : filterWord? text = some (word, subject))
    (isAbove : subject = .parent ∨ subject = .ancestor) : ∃ filter : SubFilter, ∃ letter rest,
      letter ∈ filter.letters ∧ text = letter :: ':' :: rest := by
  obtain ⟨filter, rfl, rfl⟩ := entry_of_above (List.mem_of_find?_eq_some isWord) isAbove
  have isHead := List.find?_some isWord
  dsimp only at isHead
  have isLength : filter.name.length = 2 := by cases filter <;> rfl
  have isName : ∃ letter, filter.name.toList = [letter, ':'] := by cases filter <;> exact ⟨_, rfl⟩
  obtain ⟨lower, isName⟩ := isName
  rw [beq_iff_eq, isLength] at isHead
  match text, isHead with
  | [], isHead => simp [isName] at isHead
  | [one], isHead => simp [isName] at isHead
  | letter :: colon :: rest, isHead =>
    have isHead : [letter.toLower, colon.toLower] = filter.name.toList := isHead
    have isColon := isHead.trans isName
    obtain rfl := (isRelettering_toLower.eq_iff rfl).mp (List.cons.inj (List.cons.inj isColon).2).1
    exact ⟨filter, letter, rest, mem_letters isHead, rfl⟩

theorem readWordToken_subFilter {filter : SubFilter} {letter : Char}
    (isLetter : letter ∈ filter.letters) (levels offset : Nat) (rest : List Char) :
    readWordToken levels ⟨offset, letter :: ':' :: rest⟩ =
      match levels with
      | 0 => .error ⟨offset, .nestedTooDeep⟩
      | levels + 1 =>
        (skipArgument (readWordToken levels) ⟨offset + 2, rest⟩).map fun stop =>
          (.filter ⟨filter.subject, none,
            String.ofList (Cursor.textUntil ⟨offset + 2, rest⟩ stop), offset + 2⟩, stop) := by
  have isValue : Cursor.skip ⟨offset, letter :: ':' :: rest⟩ 2 = ⟨offset + 2, rest⟩ :=
    forall_letters (motive := fun _ letter =>
      Cursor.skip ⟨offset, letter :: ':' :: rest⟩ 2 = ⟨offset + 2, rest⟩) rfl rfl rfl rfl isLetter
  have isLength : filter.name.length = 2 := by cases filter <;> rfl
  have isAbove : (filter.subject == .parent || filter.subject == .ancestor) = true := by
    cases filter <;> rfl
  have isWord := @readWordToken_of_word ⟨offset, _⟩ _ _
    (filterWord?_subFilter isLetter rest) levels
  rw [if_pos isAbove, isLength, isValue] at isWord
  refine isWord.trans ?_
  cases levels <;> rfl

theorem readLexeme_subFilter {filter : SubFilter} {letter : Char}
    (isLetter : letter ∈ filter.letters) (levels offset : Nat) (rest : List Char) :
    ¬ isBlank letter = true ∧ readLexeme levels offset letter (':' :: rest) =
      readWordToken levels ⟨offset, letter :: ':' :: rest⟩ :=
  forall_letters (motive := fun _ letter => ¬ isBlank letter = true ∧
    readLexeme levels offset letter (':' :: rest) =
      readWordToken levels ⟨offset, letter :: ':' :: rest⟩)
    ⟨by decide, rfl⟩ ⟨by decide, rfl⟩ ⟨by decide, rfl⟩ ⟨by decide, rfl⟩ isLetter

theorem Stacked.of_signs {text : List Char}
    (stacked : Stacked (text.drop (text.takeWhile (· == '-')).length) count) :
    ∃ more, count ≤ more ∧ Stacked text more := by
  induction text with
  | nil => exact ⟨count, Nat.le_refl _, stacked⟩
  | cons char rest inductionHypothesis =>
      by_cases isMinus : (char == '-') = true
      · rw [List.takeWhile_cons, if_pos isMinus] at stacked
        obtain ⟨more, isMore, stackedRest⟩ := inductionHypothesis stacked
        obtain rfl := beq_iff_eq.mp isMinus
        exact ⟨more + 1, Nat.le_succ_of_le isMore, .minus stackedRest⟩
      · rw [List.takeWhile_cons, if_neg isMinus] at stacked
        exact ⟨count, Nat.le_refl _, stacked⟩

/-- A word that nests too deep starts with more words of sub-filters than there are levels. -/
theorem exists_stacked (deep : TooDeep (readWordToken levels cursor)) :
    ∃ count, levels < count ∧ Stacked cursor.rest count := by
  induction levels using Nat.strongRecOn generalizing cursor with
  | ind levels inductionHypothesis =>
      cases isWord : filterWord? cursor.rest with
      | none =>
          rw [readWordToken_of_none isWord] at deep
          exact absurd deep (not_tooDeep_readPlainWord cursor)
      | some found =>
          obtain ⟨word, subject⟩ := found
          by_cases isAbove : subject = .parent ∨ subject = .ancestor
          · obtain ⟨filter, letter, rest, isLetter, isRest⟩ := exists_letter isWord isAbove
            obtain ⟨offset, text⟩ := cursor
            dsimp only at isRest
            subst isRest
            rw [readWordToken_subFilter isLetter] at deep
            cases levels with
            | zero => exact ⟨1, Nat.one_pos, .word isLetter (.none rest)⟩
            | succ levels =>
                obtain ⟨count, isMore, stacked⟩ := inductionHypothesis levels
                  (Nat.lt_succ_self levels) deep.of_map.of_skipArgument
                obtain ⟨more, isCount, stacked⟩ := stacked.of_signs
                exact ⟨more + 1, by omega, .word isLetter stacked⟩
          · rw [readWordToken_of_word isWord, if_neg (by simpa using isAbove)] at deep
            exact absurd deep.of_map (not_tooDeep_readWord _ _ _)

/-- Where the scan complains about nesting, more is open at once than there are levels. -/
theorem exists_openAtOnce_of_scanFrom (deep : TooDeep (Token.scanFrom levels offset text)) :
    ∃ count, levels < count ∧ OpenAtOnce text count := by
  obtain ⟨position, failed⟩ := deep
  obtain ⟨front, ⟨place, rest⟩, turns, ⟨-, scanned⟩ | ⟨error, refuses, isError⟩⟩ :=
    exists_turns levels offset text
  · rw [failed] at scanned
    cases scanned
  · obtain rfl := Except.error.inj (failed.symm.trans isError)
    obtain ⟨char, behind, rfl, notBlank, isRead⟩ := refuses
    have deep : TooDeep (readLexeme levels place char behind) := ⟨position, isRead⟩
    obtain ⟨count, isMore, stacked⟩ := exists_stacked deep.of_readLexeme
    exact ⟨opened front + count, by omega, .operand turns stacked⟩

/-- A complaint about nesting is about a sub-filter where no level is left, or about its
argument. -/
theorem TooDeep.of_readFilter {written : WrittenFilter} {position left : Nat}
    (deep : TooDeep (readFilter left position written)) :
    (written.subject = .parent ∨ written.subject = .ancestor) ∧
      (left = 0 ∨ ∃ lower, left = lower + 1 ∧
        TooDeep (Expr.parseFrom lower written.valueOffset written.value.toList)) := by
  unfold readFilter at deep
  split at deep
  · rename_i result isLeaf
    exact absurd deep.of_map (not_tooDeep_shape isLeaf)
  · rename_i relation isAbove
    refine ⟨(shape_above isAbove).imp And.left And.left, ?_⟩
    split at deep
    · exact absurd deep (not_tooDeep_error (by simp))
    · cases left with
      | zero => exact .inl rfl
      | succ lower => exact .inr ⟨lower, rfl, deep.of_map⟩

/-- What is stacked at the start of a text is open at once. -/
theorem Stacked.openAtOnce (stacked : Stacked text count) : OpenAtOnce text count := by
  have turns : Turns 0 ⟨0, text⟩ [] ⟨0, text⟩ := .none _
  have isOpen := OpenAtOnce.operand turns stacked
  rwa [opened, openings, Openings.behind, List.foldl_nil, Nat.zero_add] at isOpen

/-- A minus sign or a parenthesis that opens is open behind it. -/
theorem opened_of_nesting (front : List Token)
    (nests : token.kind = .minus ∨ token.kind = .leftParen) :
    opened (front ++ [token]) = opened front + 1 := by
  rw [opened, openings_append]
  rcases nests with isMinus | isLeft
  · rw [isMinus]
    rfl
  · rw [isLeft]
    rfl

/-- A text that nests too deep for so many levels has more than these open at once. -/
theorem exists_openAtOnce (deep : TooDeep (Expr.parseFrom levels offset text)) :
    ∃ count, levels < count ∧ OpenAtOnce text count := by
  induction levels using Nat.strongRecOn generalizing offset text with
  | ind levels inductionHypothesis =>
      unfold Expr.parseFrom at deep
      cases scanned : Token.scanFrom levels offset text with
      | error error =>
          rw [scanned] at deep
          obtain ⟨position, failed⟩ := deep
          have deep : TooDeep (Token.scanFrom levels offset text) :=
            ⟨position, scanned.trans (congrArg Except.error (Except.error.inj failed))⟩
          exact exists_openAtOnce_of_scanFrom deep
      | ok tokens =>
          rw [scanned] at deep
          have nonempty : tokens ≠ [] := by
            rintro rfl
            exact not_tooDeep_ok _ deep
          obtain ⟨front, token, back, rfl, stuck⟩ := exists_stuck nonempty deep
          obtain ⟨stop, turns⟩ := Turns.of_scanFrom scanned
          obtain ⟨last, turns⟩ := turns.through
          rcases stuck with ⟨nests, isZero⟩ | ⟨written, isFilter, deep⟩
          · have more := opened_of_nesting front nests
            exact ⟨opened (front ++ [token]) + 0, by omega, .operand turns (.none _)⟩
          · obtain ⟨isAbove, isZero | ⟨lower, isLeft, deep⟩⟩ := deep.of_readFilter
            · exact ⟨_, by omega, .argument turns isFilter isAbove (Stacked.none _).openAtOnce⟩
            · obtain ⟨count, isMore, openInside⟩ := inductionHypothesis lower (by omega) deep
              exact ⟨_, by omega, .argument turns isFilter isAbove openInside⟩

/-! ## Texts that are read -/

/-- Turns with any levels read the first tokens of a text, up to where they are. -/
theorem Turns.again {before : Nat} {later : Cursor} (turns : Turns before cursor front later)
    (scanned : Token.scanFrom levels offset cursor.rest = .ok tokens) :
    ∃ same back again, tokens = same ++ back ∧
      same.map Token.symbol = front.map Token.symbol ∧
      Token.scanFrom levels again later.rest = .ok back := by
  induction turns generalizing offset tokens with
  | none => exact ⟨[], tokens, offset, rfl, rfl, scanned⟩
  | more turn _ inductionHypothesis =>
      cases turn with
      | blank blank =>
          dsimp only at scanned
          rw [scanFrom_of_blank blank] at scanned
          exact inductionHypothesis scanned
      | @token place char rest kind stop notBlank isRead =>
          have isMark := Bool.eq_false_iff.mp notBlank
          rcases readLexeme_again isRead (.inl rfl) levels offset with
            ⟨position, failed⟩ | ⟨sameKind, again, isAgain, isSame⟩
          · rw [List.append_nil] at failed
            dsimp only at scanned
            rw [scanFrom_of_error isMark failed] at scanned
            cases scanned
          · rw [List.append_nil, List.append_nil] at isAgain
            dsimp only at scanned
            rw [scanFrom_of_token isMark isAgain] at scanned
            obtain ⟨more, scannedMore, rfl⟩ := exists_of_map_eq_ok scanned
            obtain ⟨same, back, place, rfl, areSame, scannedBack⟩ := inductionHypothesis scannedMore
            refine ⟨⟨sameKind, offset, again⟩ :: same, back, place, rfl, ?_, scannedBack⟩
            rw [List.map_cons, areSame]
            exact congrArg (· :: _) isSame

/-- What is open does not depend on where the values of filters are. -/
theorem after_placeless (openings : Openings) (kind : TokenKind) :
    openings.after kind.placeless = openings.after kind := by
  cases kind <;> rfl

theorem opened_of_symbols {same : List Token}
    (areSame : same.map Token.symbol = front.map Token.symbol) : opened same = opened front := by
  have bySymbols (tokens : List Token) : openings tokens =
      (tokens.map Token.symbol).foldl Openings.after ⟨0, 0, []⟩ := by
    rw [List.foldl_map, openings, Openings.behind]
    simp only [Token.symbol, after_placeless]
  rw [opened, opened, bySymbols, bySymbols, areSame]

/-- There are at most so many open, also behind parentheses that close. -/
structure Openings.AtMost (levels : Nat) (openings : Openings) : Prop where
  here : openings.here ≤ levels
  base : openings.base ≤ levels
  outer : ∀ base ∈ openings.outer, base ≤ levels

theorem Openings.AtMost.after {openings : Openings} (atMost : openings.AtMost levels)
    (fits : Fits token (levels - openings.here)) : (openings.after token.kind).AtMost levels := by
  obtain ⟨here, base, outer⟩ := openings
  obtain ⟨isHere, isBase, isOuter⟩ := atMost
  dsimp only at isHere isBase isOuter fits
  cases isKind : token.kind with
  | minus =>
      have isLeft := fits.1 (.inl isKind)
      exact ⟨by simp only [Openings.after]; omega, isBase, isOuter⟩
  | leftParen =>
      have isLeft := fits.1 (.inr isKind)
      have isMore : here + 1 ≤ levels := by omega
      exact ⟨isMore, isMore, List.forall_mem_cons.mpr ⟨isBase, isOuter⟩⟩
  | rightParen =>
      cases outer with
      | nil => exact ⟨isBase, isBase, isOuter⟩
      | cons first outer =>
          obtain ⟨isFirst, isOuter⟩ := List.forall_mem_cons.mp isOuter
          exact ⟨isFirst, isFirst, isOuter⟩
  | _ => exact ⟨isBase, isBase, isOuter⟩

theorem Openings.AtMost.behind {start : Openings} (atMost : start.AtMost levels)
    (fit : AllFit (start.leaving levels) front) : (start.behind front).AtMost levels := by
  induction front generalizing start with
  | nil => exact atMost
  | cons token front inductionHypothesis =>
      obtain ⟨fits, fit⟩ := allFit_cons.mp fit
      rw [← leaving_after] at fit
      exact inductionHypothesis (atMost.after fits) fit

/-- Behind tokens that fit there are no more open than there are levels. -/
theorem AllFit.opened_le (fit : AllFit (.top levels) front) : opened front ≤ levels := by
  have atMost : Openings.AtMost levels ⟨0, 0, []⟩ := ⟨Nat.zero_le _, Nat.zero_le _, nofun⟩
  exact (atMost.behind fit).here

theorem AllFit.of_append (fit : AllFit (.top levels) (front ++ rest)) :
    AllFit (.top levels) front := by
  unfold AllFit at fit
  rw [standing_append] at fit
  exact (List.forall_mem_append.mp fit).1

/-! ## Words of sub-filters in arguments -/

theorem readLexeme_minus (levels offset : Nat) (rest : List Char) :
    readLexeme levels offset '-' rest = .ok (.minus, ⟨offset + 1, rest⟩) :=
  rfl

theorem skipArgument_minus (word : Cursor → Except QueryError (TokenKind × Cursor))
    (offset : Nat) (rest : List Char) :
    skipArgument word ⟨offset, '-' :: rest⟩ = skipArgument word ⟨offset + 1, rest⟩ := by
  have sameOperand : Cursor.skip ⟨offset, '-' :: rest⟩ ((rest.takeWhile (· == '-')).length + 1) =
      Cursor.skip ⟨offset + 1, rest⟩ (rest.takeWhile (· == '-')).length := by
    unfold Cursor.skip
    rw [List.take_succ_cons, List.drop_succ_cons, byteLength, Nat.add_assoc]
    rfl
  have isMinus : ('-' == '-') = true := by decide
  unfold skipArgument
  dsimp only
  rw [List.takeWhile_cons, if_pos isMinus, List.length_cons, sameOperand]

/-- An argument that starts with a sub-filter is the word that starts there. -/
theorem skipArgument_subFilter {filter : SubFilter} {letter : Char}
    (isLetter : letter ∈ filter.letters)
    (word : Cursor → Except QueryError (TokenKind × Cursor)) (offset : Nat) (rest : List Char) :
    skipArgument word ⟨offset, letter :: ':' :: rest⟩ =
      (word ⟨offset, letter :: ':' :: rest⟩).map Prod.snd :=
  forall_letters (motive := fun _ letter => skipArgument word ⟨offset, letter :: ':' :: rest⟩ =
    (word ⟨offset, letter :: ':' :: rest⟩).map Prod.snd) rfl rfl rfl rfl isLetter

/-- What is stacked at the start of an argument is so in the part that is cut out for it. -/
theorem Stacked.cut {part : List Char} (stacked : Stacked text count)
    (found : skipArgument (readWordToken levels) ⟨offset, text⟩ = .ok cursor)
    (isText : text = part ++ cursor.rest) : Stacked part count := by
  induction stacked generalizing levels offset part with
  | none => exact .none part
  | @minus rest count _ inductionHypothesis =>
      rw [skipArgument_minus] at found
      obtain ⟨passed, isRest, -⟩ := leads_of_skipArgument found
      dsimp only at isRest
      rw [isRest, ← List.cons_append] at isText
      obtain rfl := List.append_cancel_right isText
      exact .minus (inductionHypothesis found isRest)
  | @word filter letter rest count isLetter _ inductionHypothesis =>
      rw [skipArgument_subFilter isLetter] at found
      obtain ⟨⟨kind, stop⟩, isRead, rfl⟩ := exists_of_map_eq_ok found
      rw [readWordToken_subFilter isLetter] at isRead
      cases levels with
      | zero => cases isRead
      | succ levels =>
          obtain ⟨last, foundInside, equal⟩ := exists_of_map_eq_ok isRead
          obtain ⟨-, rfl⟩ := Prod.mk.inj equal
          obtain ⟨passed, isRest, -⟩ := leads_of_skipArgument foundInside
          dsimp only at isRest isText
          rw [isRest, ← List.cons_append, ← List.cons_append] at isText
          obtain rfl := List.append_cancel_right isText
          exact .word isLetter (inductionHypothesis foundInside isRest)

/-! ## Texts that are read -/

/-- The tokens of a text that is read all fit. -/
theorem allFit_of_parseFrom (parsed : Expr.parseFrom levels offset text = .ok expr) :
    ∃ tokens, Token.scanFrom levels offset text = .ok tokens ∧ AllFit (.top levels) tokens := by
  obtain ⟨tokens, scanned, isRead⟩ := exists_of_bind_eq_ok parsed
  refine ⟨tokens, scanned, ?_⟩
  by_cases noTokens : tokens = []
  · subst noTokens
    exact nofun
  · exact allFit_of_readWhole noTokens isRead

/-- Where a sub-filter fits, its argument is read with fewer levels. -/
theorem argument_of_fits {written : WrittenFilter} {left : Nat} (fits : Fits token left)
    (isFilter : token.kind = .filter written)
    (isAbove : written.subject = .parent ∨ written.subject = .ancestor) :
    ∃ lower inner, left = lower + 1 ∧
      Expr.parseFrom lower written.valueOffset written.value.toList = .ok inner := by
  obtain ⟨expr, isRead⟩ := fits.2 written isFilter
  obtain ⟨relation, isShape⟩ := above_iff.mpr isAbove
  rw [readFilter, isShape] at isRead
  dsimp only at isRead
  split at isRead
  · cases isRead
  · cases left with
    | zero => cases isRead
    | succ lower =>
        obtain ⟨inner, parsed, -⟩ := exists_of_map_eq_ok isRead
        exact ⟨lower, inner, rfl, parsed⟩

/-- In a text that is read with so many levels, no more are open at once. -/
def ReadsWithin (levels : Nat) : Prop :=
  ∀ offset text expr count, Expr.parseFrom levels offset text = .ok expr →
    OpenAtOnce text count → count ≤ levels

/-- The tokens of a text that starts with a sub-filter start with its token. -/
theorem exists_subFilter_token {filter : SubFilter} {letter : Char} {rest : List Char}
    (isLetter : letter ∈ filter.letters)
    (scanned : Token.scanFrom levels offset (letter :: ':' :: rest) = .ok tokens) :
    ∃ lower stop token more, tokens = token :: more ∧
      skipArgument (readWordToken lower) ⟨offset + 2, rest⟩ = .ok stop ∧
      token.kind = .filter ⟨filter.subject, none,
        String.ofList (Cursor.textUntil ⟨offset + 2, rest⟩ stop), offset + 2⟩ := by
  obtain ⟨notBlank, isWord⟩ := readLexeme_subFilter isLetter levels offset rest
  rw [readWordToken_subFilter isLetter] at isWord
  cases levels with
  | zero =>
      rw [scanFrom_of_error notBlank isWord] at scanned
      cases scanned
  | succ lower =>
      dsimp only at isWord
      cases found : skipArgument (readWordToken lower) ⟨offset + 2, rest⟩ with
      | error error =>
          rw [found] at isWord
          rw [scanFrom_of_error notBlank isWord] at scanned
          cases scanned
      | ok stop =>
          rw [found] at isWord
          rw [scanFrom_of_token notBlank isWord] at scanned
          obtain ⟨more, -, rfl⟩ := exists_of_map_eq_ok scanned
          exact ⟨lower, stop, _, more, rfl, found, rfl⟩

theorem stacked_le {front : List Token} {before place : Nat} {start : Cursor} {rest : List Char}
    (inner : ∀ lower < levels, ReadsWithin lower)
    (scanned : Token.scanFrom levels offset start.rest = .ok tokens)
    (fit : AllFit (.top levels) tokens) (turns : Turns before start front ⟨place, rest⟩)
    (stacked : Stacked rest count) : opened front + count ≤ levels := by
  induction stacked generalizing front place with
  | none =>
      obtain ⟨same, back, again, rfl, areSame, -⟩ := turns.again scanned
      rw [← opened_of_symbols areSame]
      exact fit.of_append.opened_le
  | @minus rest count _ inductionHypothesis =>
      have isMinus := readLexeme_minus before place rest
      have further := turns.append (.more (.token (by decide) isMinus) (.none _))
      have atMost := inductionHypothesis further
      rw [List.append_nil, opened_of_nesting front (.inl rfl)] at atMost
      omega
  | @word filter letter rest count isLetter stacked _ =>
      obtain ⟨same, back, again, rfl, areSame, scannedBack⟩ := turns.again scanned
      obtain ⟨inside, stop, token, more, rfl, found, isFilter⟩ :=
        exists_subFilter_token isLetter scannedBack
      have isAbove : filter.subject = .parent ∨ filter.subject = .ancestor := by
        cases filter <;> simp [SubFilter.subject]
      obtain ⟨lower, argument, isLower, parsed⟩ := argument_of_fits fit.fits isFilter isAbove
      dsimp only at parsed
      rw [String.toList_ofList] at parsed
      have stackedInside := stacked.cut found (leads_of_skipArgument found).textUntil.1
      have atMost := inner lower (by omega) _ _ _ _ parsed stackedInside.openAtOnce
      rw [opened_of_symbols areSame] at isLower
      omega

/-- In a text that is read, no more is open at once than there are levels. -/
theorem readsWithin (levels : Nat) : ReadsWithin levels := by
  induction levels using Nat.strongRecOn with
  | ind levels inductionHypothesis =>
      intro offset text expr count parsed isOpen
      obtain ⟨tokens, scanned, fit⟩ := allFit_of_parseFrom parsed
      cases isOpen with
      | operand turns stacked => exact stacked_le inductionHypothesis scanned fit turns stacked
      | @argument _ _ count _ front token _ written turns isFilter isAbove isOpen =>
          obtain ⟨same, back, again, rfl, areSame, -⟩ := turns.again scanned
          rw [List.map_append, List.map_singleton] at areSame
          obtain ⟨sameFront, last, rfl, areFront, isLast⟩ := List.map_eq_append_iff.mp areSame
          obtain ⟨sameToken, none, rfl, isToken, areNone⟩ := List.map_eq_cons_iff.mp isLast
          obtain rfl := List.map_eq_nil_iff.mp areNone
          rw [List.append_assoc, List.singleton_append] at fit
          rw [symbol_of_kind isFilter] at isToken
          obtain ⟨own, isOwn, isMoved⟩ := filter_of_symbol isToken
          obtain ⟨isSubject, -, isValue, -⟩ := WrittenFilter.mk.inj isMoved
          rw [← isSubject] at isAbove
          obtain ⟨lower, argument, isLower, parsed⟩ := argument_of_fits fit.fits isOwn isAbove
          rw [isValue] at parsed
          have atMost := inductionHypothesis lower (by omega) _ _ _ _ parsed isOpen
          rw [opened_of_symbols areFront] at isLower
          omega

/-- On every way down in the expression of a query, into sub-filters as well, there are at
most 256 negations and sub-filters and at most 514 conjunctions and alternatives, and nowhere
in its text are more than 256 groups, minus signs and sub-filters open at once. In a text with
a complaint about nesting there are more. -/
theorem parse_nests_within (text : String) :
    (∀ expr, Expr.parse text = .ok expr →
      (∀ nodes, expr.Path nodes →
        nodes.countP Expr.isNested ≤ 256 ∧ nodes.countP Expr.isJoined ≤ 514) ∧
      ∀ count, OpenAtOnce text.toList count → count ≤ 256) ∧
    (TooDeep (Expr.parse text) → ∃ count, 256 < count ∧ OpenAtOnce text.toList count) := by
  refine ⟨fun expr parsed => ⟨bounded_of_parseFrom parsed, fun count => ?_⟩, exists_openAtOnce⟩
  exact readsWithin maxNesting 0 text.toList expr count parsed

/-- A minus sign, a sub-filter and a group are within the limit, 257 minus signs are not. -/
theorem parse_nests_within_limits :
    let text := "-p:-(a | b)"
    let deep := String.ofList (List.replicate 257 '-' ++ ['x'])
    (∃ expr, Expr.parse text = .ok expr ∧ (∀ nodes, expr.Path nodes →
      nodes.countP Expr.isNested ≤ 256 ∧ nodes.countP Expr.isJoined ≤ 514)) ∧
    TooDeep (Expr.parse deep) ∧ ∃ count, 256 < count ∧ OpenAtOnce deep.toList count := by
  intro text deep
  obtain ⟨expr, parsed⟩ : ∃ expr, Expr.parse text = .ok expr := exists_of_isOk (by decide +kernel)
  have failed : Expr.parse deep = .error ⟨256, .nestedTooDeep⟩ := by
    rw [Expr.parse, String.toList_ofList]
    exact eq_error_of_map (by decide +kernel)
  have tooDeep : TooDeep (Expr.parse deep) := ⟨256, failed⟩
  exact ⟨⟨expr, parsed, ((parse_nests_within text).1 expr parsed).1⟩, tooDeep,
    (parse_nests_within deep).2 tooDeep⟩

end Outliner.Query
