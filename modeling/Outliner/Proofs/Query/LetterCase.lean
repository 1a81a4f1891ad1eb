import Outliner.Proofs.Query.LikeTokens
import Outliner.Proofs.Query.Moving
import Outliner.Proofs.Query.SingleFilter

/-!
Contract: queries in capital letters.

Owns: that texts in lower case, counts and days do not depend on the case of ASCII letters, and so
that a query without attributes is the same one in other letters, with its texts in which a
capital sigma stands beside such letters, and with the arguments of its sub-filters.

The arguments are read again from their own texts, so the claim about a text rests on the one
about shorter texts.

Main statements: `parseFrom_reletter`, `parse_toUpper`.

Does not own: the tokens of a text in other letters (`Proofs.Query.Moving`).
-/

namespace Outliner.Query

open Outliner.Calendar Outliner.Text

variable {letter : Char → Char} {text : List Char} {written : WrittenFilter} {levels : Nat}

/-! ## What is seen of letters -/

/-- What the lower-case mapping sees of ASCII letters. -/
theorem lowered_of_isAlpha {char : Char} (isAlpha : char.isAlpha = true) :
    isCased char = true ∧ isCaseIgnorable char = false ∧ (char == 'Σ') = false ∧
      lowerChar char = [char.toLower] := by
  have isAscii := toNat_lt_of_isAlpha isAlpha
  have noMark : "'.:^\x60".toList.any Char.isAlpha = false := by decide
  refine ⟨?_, ?_, ?_, ?_⟩
  · rw [isCased, if_pos isAscii, isAlpha]
  · rw [isCaseIgnorable, if_pos isAscii, String.contains_char_eq, decide_eq_false_iff_not]
    exact fun isMark => List.any_eq_false.mp noMark char isMark isAlpha
  · rw [beq_eq_false_iff_ne]
    rintro rfl
    cases isAlpha
  · rw [lowerChar, if_pos isAscii]

theorem notAlpha_of_isDigit {char : Char} (isDigit : char.isDigit = true) :
    char.isAlpha = false := by
  have noDigit : ∀ code < 128, (Char.ofNat code).isAlpha = true →
      (Char.ofNat code).isDigit = false := by decide +kernel
  rw [Bool.eq_false_iff]
  intro isAlpha
  obtain ⟨code, isAscii, rfl⟩ := exists_code_of_isAlpha isAlpha
  rw [noDigit code isAscii isAlpha] at isDigit
  cases isDigit

theorem notAlpha_of_isDigits (areDigits : Numeral.isDigits text = true) :
    ∀ char ∈ text, char.isAlpha = false := by
  rw [Numeral.isDigits, Bool.and_eq_true, List.all_eq_true] at areDigits
  exact fun char member => notAlpha_of_isDigit (areDigits.2 char member)

theorem noLetters_of_spells {year : Int} {month day : Nat}
    (spells : SpellsDay text year month day) : ∀ char ∈ text, char.isAlpha = false := by
  cases spells with
  | fields _ _ _ areDigits =>
      intro char member
      simp only [List.mem_append, List.mem_cons] at member areDigits
      rcases member with isYear | rfl | isMonth | rfl | isDay
      · exact notAlpha_of_isDigit (areDigits char (.inl (.inl isYear)))
      · rfl
      · exact notAlpha_of_isDigit (areDigits char (.inl (.inr isMonth)))
      · rfl
      · exact notAlpha_of_isDigit (areDigits char (.inr isDay))

/-! ## Filters without at signs -/

/-- A filter names no attribute, and if it is a sub-filter, its argument is a shorter part of a
text. -/
structure WrittenFilter.IsKeyless (written : WrittenFilter) (text : List Char) : Prop where
  noKey : ∀ key, written.subject ≠ .attr key
  argument : written.subject = .parent ∨ written.subject = .ancestor →
    written.value.toList <:+: text ∧ written.value.toList.length < text.length

theorem isKeyless_of_readWordToken {cursor stop : Cursor} (noAt : '@' ∉ cursor.rest)
    (isRead : readWordToken levels cursor = .ok (.filter written, stop)) :
    written.IsKeyless cursor.rest := by
  cases isWord : filterWord? cursor.rest with
  | none =>
      have noKey : readPlainWord cursor = readTextWord cursor :=
        readPlainWord_of_text fun isAt => noAt (List.mem_of_mem_head? isAt)
      rw [readWordToken_of_none isWord, noKey] at isRead
      obtain ⟨word, -, equal⟩ := exists_of_map_eq_ok isRead
      cases equal
  | some found =>
      obtain ⟨word, subject⟩ := found
      have noKey := noKey_of_filterWord isWord
      rw [readWordToken_of_word isWord] at isRead
      split at isRead
      · cases levels with
        | zero => cases isRead
        | succ levels =>
            obtain ⟨last, -, equal⟩ := exists_of_map_eq_ok isRead
            obtain ⟨isFilter, -⟩ := Prod.mk.inj equal
            obtain rfl := TokenKind.filter.inj isFilter
            refine ⟨noKey, fun _ => ?_⟩
            dsimp only
            rw [String.toList_ofList]
            have isPart :
                (cursor.skip word.length).textUntil last <:+: cursor.rest.drop word.length :=
              (List.take_prefix _ _).isInfix
            refine ⟨isPart.trans (List.drop_suffix _ _).isInfix, ?_⟩
            have shorter := isPart.length_le
            have positive := filterWord?_length_pos isWord
            have within := filterWord?_length_le isWord
            rw [List.length_drop] at shorter
            omega
      · rename_i notAbove
        obtain ⟨other, isFilter, rfl⟩ := subject_of_readComparison isRead
        obtain rfl := TokenKind.filter.inj isFilter
        exact ⟨noKey, fun isAbove => absurd isAbove (by simpa using notAbove)⟩

/-- In a text without at signs all filters are without keys. -/
theorem isKeyless_of_scanFrom {offset : Nat} {tokens : List Token} {token : Token}
    (noAt : '@' ∉ text) (scanned : Token.scanFrom levels offset text = .ok tokens)
    (member : token ∈ tokens) (isFilter : token.kind = .filter written) :
    written.IsKeyless text := by
  obtain ⟨char, rest, stop, ⟨passed, isText, -⟩, -, isRead, -⟩ := mem_of_scanFrom scanned member
  have isEnd : char :: rest <:+ text := ⟨passed, isText.symm⟩
  rw [isFilter] at isRead
  rcases readLexeme_cases isRead with
    ⟨isSign, -⟩ | ⟨-, content, isQuoted, -⟩ | ⟨-, -, isWord⟩
  · simp [mem_signTokens] at isSign
  · cases isQuoted
  · have keyless := isKeyless_of_readWordToken (fun isAt => noAt (isEnd.subset isAt)) isWord
    refine ⟨keyless.noKey, fun isAbove => ?_⟩
    obtain ⟨isPart, shorter⟩ := keyless.argument isAbove
    exact ⟨isPart.trans isEnd.isInfix, Nat.lt_of_lt_of_le shorter isEnd.length_le⟩

section Reletter

variable (relettering : IsRelettering letter)

include relettering

/-! ## Lower case -/

theorem IsRelettering.lowerChar (char : Char) :
    Text.lowerChar (letter char) = Text.lowerChar char := by
  rcases relettering char with same | ⟨isAlpha, stillAlpha, sameLower⟩
  · rw [same]
  · rw [(lowered_of_isAlpha isAlpha).2.2.2, (lowered_of_isAlpha stillAlpha).2.2.2, sameLower]

theorem startsCased_reletter (text : List Char) :
    startsCased (text.map letter) = startsCased text := by
  induction text with
  | nil => rfl
  | cons char rest inductionHypothesis =>
      rw [List.map_cons, startsCased, startsCased, inductionHypothesis,
        relettering.look fun _ isAlpha => (lowered_of_isAlpha isAlpha).2.1,
        relettering.look fun _ isAlpha => (lowered_of_isAlpha isAlpha).1]

theorem lowerFrom_reletter (inWord : Bool) (text : List Char) :
    lowerFrom inWord (text.map letter) = lowerFrom inWord text := by
  induction text generalizing inWord with
  | nil => rfl
  | cons char rest inductionHypothesis =>
      have sameSigma : (letter char == 'Σ') = (char == 'Σ') :=
        relettering.look (fun _ isAlpha => (lowered_of_isAlpha isAlpha).2.2.1) char
      rw [List.map_cons, lowerFrom, lowerFrom, inductionHypothesis, sameSigma,
        startsCased_reletter relettering, relettering.lowerChar,
        relettering.look fun _ isAlpha => (lowered_of_isAlpha isAlpha).2.1,
        relettering.look fun _ isAlpha => (lowered_of_isAlpha isAlpha).1]

/-- A text in other letters has the same lower case. -/
theorem lowercase_reletter (value : String) :
    lowercase (reletter letter value) = lowercase value := by
  rw [lowercase, reletter, String.toList_ofList, lowerChars, lowerFrom_reletter relettering]
  rfl

/-! ## Counts and days -/

theorem map_of_noLetters (noLetters : ∀ char ∈ text, char.isAlpha = false) :
    text.map letter = text :=
  (map_eq_iff relettering noLetters).mpr rfl

/-- A reader that takes no letters reads the same in other letters. -/
theorem read_of_noLetters {α : Type} {read : List Char → Option α}
    (noLetters : ∀ text value, read text = some value → ∀ char ∈ text, char.isAlpha = false)
    (text : List Char) : read (text.map letter) = read text := by
  apply Option.ext
  intro value
  constructor
  · intro isRead
    have same : text = text.map letter :=
      (map_eq_iff relettering (noLetters _ value isRead)).mp rfl
    rwa [← same] at isRead
  · intro isRead
    rwa [map_of_noLetters relettering (noLetters text value isRead)]

theorem readCount_reletter (text : List Char) :
    Numeral.readCount (text.map letter) = Numeral.readCount text := by
  refine read_of_noLetters relettering (fun text count isRead => ?_) text
  obtain ⟨isCount, -⟩ := Option.ite_none_right_eq_some.mp isRead
  obtain ⟨areDigits, -⟩ := Bool.and_eq_true_iff.mp isCount
  have noLetters := notAlpha_of_isDigits areDigits
  split at noLetters
  · exact List.forall_mem_cons.mpr ⟨rfl, noLetters⟩
  · exact noLetters

theorem readDay_reletter (text : List Char) : readDay (text.map letter) = readDay text :=
  read_of_noLetters relettering
    (fun _ _ isRead => noLetters_of_spells (spells_of_readDay isRead)) text

theorem isDigits_reletter (text : List Char) :
    Numeral.isDigits (text.map letter) = Numeral.isDigits text := by
  have sameDigit : Char.isDigit ∘ letter = Char.isDigit := by
    have noDigit (char : Char) (isAlpha : char.isAlpha = true) : char.isDigit = false := by
      rw [Bool.eq_false_iff]
      intro isDigit
      rw [notAlpha_of_isDigit isDigit] at isAlpha
      cases isAlpha
    exact funext (relettering.look noDigit)
  rw [Numeral.isDigits, Numeral.isDigits, List.isEmpty_map, List.all_map, sameDigit]

theorem isLetterD_reletter (char : Char) :
    (letter char == 'd' || letter char == 'D') = (char == 'd' || char == 'D') := by
  have byLower : ∀ code < 128, (Char.ofNat code == 'd' || Char.ofNat code == 'D') =
      ((Char.ofNat code).toLower == 'd') := by decide +kernel
  have ofAlpha {char : Char} (isAlpha : char.isAlpha = true) :
      (char == 'd' || char == 'D') = (char.toLower == 'd') := by
    obtain ⟨code, isAscii, rfl⟩ := exists_code_of_isAlpha isAlpha
    exact byLower code isAscii
  rcases relettering char with same | ⟨isAlpha, stillAlpha, sameLower⟩
  · rw [same]
  · rw [ofAlpha isAlpha, ofAlpha stillAlpha, sameLower]

theorem readDistance_reletter (text : List Char) :
    DayRef.readDistance (text.map letter) = DayRef.readDistance text := by
  cases text with
  | nil => rfl
  | cons sign rest =>
      have sameLast : ((rest.map letter).getLast? == some 'd' ||
          (rest.map letter).getLast? == some 'D') =
            (rest.getLast? == some 'd' || rest.getLast? == some 'D') := by
        rw [List.getLast?_map]
        cases rest.getLast? with
        | none => rfl
        | some char => exact isLetterD_reletter relettering char
      rw [List.map_cons, DayRef.readDistance, DayRef.readDistance]
      dsimp only
      rw [sameLast, ← List.map_dropLast, isDigits_reletter relettering,
        relettering.beq_eq (show '+'.isAlpha = false from rfl),
        relettering.beq_eq (show '-'.isAlpha = false from rfl)]
      by_cases areDigits : Numeral.isDigits rest.dropLast = true
      · rw [map_of_noLetters relettering (notAlpha_of_isDigits areDigits)]
      · simp [areDigits]

theorem trim_reletter (text : List Char) : trim (text.map letter) = (trim text).map letter := by
  have sameBlank : isBlank ∘ letter = isBlank := funext relettering.isBlank
  rw [trim, trim, trimStart, trimStart, trimEnd, trimEnd, List.dropWhile_map, sameBlank,
    ← List.map_reverse, List.dropWhile_map, sameBlank, List.map_reverse]

/-- Days and distances are read alike in other letters. -/
theorem readDayRef_reletter (text : List Char) :
    DayRef.read (text.map letter) = DayRef.read text := by
  unfold DayRef.read
  dsimp only
  rw [trim_reletter relettering, readDistance_reletter relettering, readDay_reletter relettering]

/-! ## Filters -/

theorem readCountFilter_reletter (leaf : Comparison → Nat → Leaf) (written : WrittenFilter) :
    SucceedAlike (readCountFilter leaf written)
      (readCountFilter leaf (written.move 0 letter)) := by
  intro result
  rw [readCountFilter_eq_ok_iff, readCountFilter_eq_ok_iff, WrittenFilter.move]
  dsimp only
  rw [toList_reletter, readCount_reletter relettering]

theorem readTimeFilter_reletter (field : TimeField) (written : WrittenFilter) :
    SucceedAlike (readTimeFilter field written) (readTimeFilter field (written.move 0 letter)) := by
  intro result
  rw [readTimeFilter_eq_ok_iff, readTimeFilter_eq_ok_iff, WrittenFilter.move]
  dsimp only
  rw [toList_reletter, readDayRef_reletter relettering]

/-- In other letters the argument of a sub-filter is read as the same expression. -/
def WrittenFilter.ArgumentAlike (letter : Char → Char) (written : WrittenFilter) : Prop :=
  ∀ levels offset, SucceedAlike (Expr.parseFrom levels offset written.value.toList)
    (Expr.parseFrom levels offset (written.value.toList.map letter))

/-- Filters without keys are read alike in other letters, if their arguments are. -/
theorem readFilter_reletter (noKey : ∀ key, written.subject ≠ .attr key)
    (argument : written.subject = .parent ∨ written.subject = .ancestor →
      written.ArgumentAlike letter) (levels position : Nat) :
    SucceedAlike (readFilter levels position written)
      (readFilter levels position (written.move 0 letter)) := by
  have above (relation : Expr → Expr) (isAbove : written.shape = .above relation)
      (stillAbove : (written.move 0 letter).shape = .above relation) :
      SucceedAlike (readFilter levels position written)
        (readFilter levels position (written.move 0 letter)) := by
    have sameValue : (written.move 0 letter).value.toList = written.value.toList.map letter :=
      toList_reletter letter written.value
    unfold readFilter
    rw [isAbove, stillAbove, sameValue]
    dsimp only
    rw [trim_reletter relettering, List.isEmpty_map]
    split
    · exact succeedAlike_error _ _
    · cases levels with
      | zero => exact succeedAlike_error _ _
      | succ levels =>
          have isSubject := (shape_above isAbove).imp And.left And.left
          exact (argument isSubject levels written.valueOffset).map relation
  obtain ⟨subject, sign, value, offset⟩ := written
  cases subject with
  | depth => exact (readCountFilter_reletter relettering .depth _).map Expr.leaf
  | children => exact (readCountFilter_reletter relettering .children _).map Expr.leaf
  | created => exact (readTimeFilter_reletter relettering .created _).map Expr.leaf
  | modified => exact (readTimeFilter_reletter relettering .modified _).map Expr.leaf
  | attr key => exact absurd rfl (noKey key)
  | parent => exact above _ rfl rfl
  | ancestor => exact above _ rfl rfl

/-! ## Queries -/

/-- A token in other letters is like the token. -/
theorem isLike_reletter {token : Token}
    (filters : ∀ written, token.kind = .filter written → (∀ key, written.subject ≠ .attr key) ∧
      (written.subject = .parent ∨ written.subject = .ancestor → written.ArgumentAlike letter)) :
    token.IsLike (token.move 0 letter) := by
  refine ⟨rfl, ?_⟩
  have isKind : (token.move 0 letter).kind = token.kind.move 0 letter := rfl
  rw [isKind]
  cases kind : token.kind with
  | text value => exact .text (lowercase_reletter relettering value).symm
  | quoted value => exact .quoted (lowercase_reletter relettering value).symm
  | filter written =>
      obtain ⟨noKey, argument⟩ := filters written kind
      refine .filter ⟨rfl, fun levels position offset => ?_⟩
      exact @readFilter_reletter _ { written with valueOffset := offset } relettering noKey
        argument levels position
  | _ => exact .same _

/-- Without at signs, a text is read as the same expression in other letters. -/
theorem parseFrom_reletter (noAt : '@' ∉ text) (levels offset : Nat) :
    SucceedAlike (Expr.parseFrom levels offset text)
      (Expr.parseFrom levels offset (text.map letter)) := by
  induction isLength : text.length using Nat.strongRecOn generalizing text levels offset with
  | ind length inductionHypothesis =>
      have moved := scanFrom_move relettering 0 levels offset text
      rw [Nat.add_zero] at moved
      unfold Expr.parseFrom
      dsimp only
      rw [moved, byteLength_move relettering]
      cases scanned : Token.scanFrom levels offset text with
      | error error => exact succeedAlike_error _ _
      | ok tokens =>
          refine readWhole_succeedAlike ?_
          rw [List.forall₂_map_right_iff, List.forall₂_same]
          intro token member
          refine isLike_reletter relettering fun written isFilter => ?_
          have keyless := isKeyless_of_scanFrom noAt scanned member isFilter
          refine ⟨keyless.noKey, fun isAbove levels offset => ?_⟩
          obtain ⟨isPart, shorter⟩ := keyless.argument isAbove
          exact inductionHypothesis _ (isLength ▸ shorter)
            (fun isAt => noAt (isPart.subset isAt)) levels offset rfl

end Reletter

/-- Capital letters for the small letters of ASCII make no other query of a text without at signs,
and none of what is no query. -/
theorem parse_toUpper {text : String} (noAt : '@' ∉ text.toList) (expr : Expr) :
    Expr.parse text.toUpper = .ok expr ↔ Expr.parse text = .ok expr := by
  unfold Expr.parse
  rw [String.toUpper, String.toList_map]
  exact (parseFrom_reletter isRelettering_toUpper noAt maxNesting 0 expr).symm

/-- A sub-filter with a day that ends in a letter, and a phrase with a sigma in front of a letter
that changes its case. -/
theorem parse_toUpper_sigma :
    let text := "a:(m:>-7d|\"Σo p:\") -children:<+2"
    text.toUpper = "A:(M:>-7D|\"ΣO P:\") -CHILDREN:<+2" ∧ '@' ∉ text.toList ∧
      ∃ expr, expr.toText = "(ANCESTOR((m:>-7d OR \"σo p:\")) AND NOT children:<2)" ∧
        Expr.parse text = .ok expr ∧ Expr.parse text.toUpper = .ok expr := by
  intro text
  have isUpper : text.toUpper = "A:(M:>-7D|\"ΣO P:\") -CHILDREN:<+2" := by decide +kernel
  have noAt : '@' ∉ text.toList := by decide +kernel
  have isShown : (match Expr.parse text with
      | .ok expr => decide (expr.toText = "(ANCESTOR((m:>-7d OR \"σo p:\")) AND NOT children:<2)")
      | .error _ => false) = true := by decide +kernel
  split at isShown
  · rename_i expr parsed
    exact ⟨isUpper, noAt, expr, of_decide_eq_true isShown, parsed,
      (parse_toUpper noAt expr).mpr parsed⟩
  · cases isShown

end Outliner.Query
