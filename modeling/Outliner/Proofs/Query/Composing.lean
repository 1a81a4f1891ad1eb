import Outliner.Proofs.Query.Completeness

/-!
Contract: what is read of queries that are put together from others.

Owns: texts that give the same tokens wherever they stand, that such texts can be put one
behind another, and that a query in parentheses is one of them. What the parts are read as
then follows from the grammar alone.

Main statements: `Spells.standsFor`, `exists_group`, `parse_composed`.

Does not own: what is inside a sub-filter (`Proofs.Query.Wrapping`).
-/

namespace Outliner.Query

open Outliner.Text

variable {levels offset : Nat} {text left right : List Char} {expr : Expr}
  {symbols more : List TokenKind} {char : Char} {kind : TokenKind}

/-! ## Texts that are scanned alike wherever they stand -/

/-- In front of what is asked for behind it and with any levels, a text gives tokens with
these symbols, or the complaint that it nests too deep. -/
def Spells (isBehind : List Char → Prop) (text : List Char) (symbols : List TokenKind) : Prop :=
  ∀ levels offset behind, isBehind behind →
    TooDeep (Token.scanFrom levels offset (text ++ behind)) ∨
    ∃ tokens place, tokens.map Token.symbol = symbols ∧
      Token.scanFrom levels offset (text ++ behind) =
        (Token.scanFrom levels place behind).map (tokens ++ ·)

def Anything : List Char → Prop :=
  fun _ => True

/-- Two texts spell their symbols one after the other, if the second can stand behind the
first. -/
theorem Spells.append {isBehind further : List Char → Prop} (first : Spells isBehind left symbols)
    (second : Spells further right more)
    (fits : ∀ behind, further behind → isBehind (right ++ behind)) :
    Spells further (left ++ right) (symbols ++ more) := by
  intro levels offset behind isFurther
  rw [List.append_assoc]
  rcases first levels offset (right ++ behind) (fits behind isFurther) with
    deep | ⟨front, middle, areFront, scanned⟩
  · exact .inl deep
  · rw [scanned]
    rcases second levels middle behind isFurther with deep | ⟨back, place, areBack, scannedBack⟩
    · exact .inl (deep.map _)
    · refine .inr ⟨front ++ back, place, ?_, ?_⟩
      · rw [List.map_append, areFront, areBack]
      · rw [scannedBack]
        cases Token.scanFrom levels place behind with
        | error error => rfl
        | ok tokens => exact congrArg Except.ok (List.append_assoc front back tokens).symm

/-- The tokens of a text by itself are those in front of a closing parenthesis. -/
theorem spells_of_scan {tokens : List Token}
    (scanned : Token.scanFrom levels offset text = .ok tokens) :
    Spells Closes text (tokens.map Token.symbol) :=
  fun newLevels again _ closes => scanFrom_again scanned closes newLevels again

theorem spells_blank (blank : isBlank char = true) : Spells Anything [char] [] := by
  intro levels offset behind _
  refine .inr ⟨[], offset + char.utf8Size, rfl, ?_⟩
  rw [List.singleton_append, scanFrom_of_blank blank]
  cases Token.scanFrom levels (offset + char.utf8Size) behind <;> rfl

theorem spells_sign (isSign : (char, kind) ∈ signTokens) : Spells Anything [char] [kind] := by
  have plain : isBlank char = false ∧ kind.placeless = kind := by
    rcases mem_signTokens.mp isSign with
      ⟨rfl, rfl⟩ | ⟨rfl, rfl⟩ | ⟨rfl, rfl⟩ | ⟨rfl, rfl⟩ | ⟨rfl, rfl⟩ <;> exact ⟨by decide, rfl⟩
  intro levels offset behind _
  refine .inr ⟨[⟨kind, offset, offset + char.utf8Size⟩], offset + char.utf8Size, ?_, ?_⟩
  · exact congrArg (fun symbol => [symbol]) plain.2
  · rw [List.singleton_append, scanFrom_of_token (Bool.eq_false_iff.mp plain.1)
      (readLexeme_of_sign isSign levels offset behind)]
    rfl

/-! ## What such texts are read as -/

/-- What derives from the tokens of a text is what the text is read as, unless it nests too
deep. It can do so only where its tokens nest too deep or one of its filters does not pass. -/
theorem Spells.parseFrom {isBehind : List Char → Prop} (spells : Spells isBehind text symbols)
    (ends : isBehind []) (derives : Derives symbols expr) (levels offset : Nat) :
    (Expr.parseFrom levels offset text = .ok expr ∨
      TooDeep (Expr.parseFrom levels offset text)) ∧
    ∀ tokens, Token.scanFrom levels offset text = .ok tokens →
      NestsWithin levels tokens → FiltersPass levels tokens →
        Expr.parseFrom levels offset text = .ok expr := by
  have scanned := spells levels offset [] ends
  rw [List.append_nil] at scanned
  rcases scanned with ⟨position, deep⟩ | ⟨tokens, place, areSymbols, scanned⟩
  · have parsed : Expr.parseFrom levels offset text = .error ⟨position, .nestedTooDeep⟩ := by
      unfold Expr.parseFrom
      rw [deep]
      rfl
    refine ⟨.inr ⟨position, parsed⟩, fun tokens isScan => ?_⟩
    rw [deep] at isScan
    cases isScan
  · have isScan : Token.scanFrom levels offset text = .ok tokens := by
      rw [scanned, scanFrom_nil]
      exact congrArg Except.ok (List.append_nil tokens)
    have parsed : Expr.parseFrom levels offset text =
        readWhole (readOperand levels (offset + byteLength text)) (offset + byteLength text)
          tokens := by
      unfold Expr.parseFrom
      rw [isScan]
      rfl
    rw [← areSymbols] at derives
    have reads := (readOperand_complete levels).readWhole derives (offset + byteLength text)
    rw [← parsed] at reads
    rcases reads with ⟨taken, isTaken, rfl, -⟩ | ⟨deep, unfit⟩
    · exact ⟨.inl isTaken, fun _ _ _ _ => isTaken⟩
    · refine ⟨.inr deep, fun others isOther nests pass => ?_⟩
      obtain rfl := Except.ok.inj (isScan.symm.trans isOther)
      exact absurd (allFit_of_passes nests pass) unfit

/-- A query text stands for an expression, unless it nests too deep. It cannot do so if its
groups and minus signs nest within the limit and its filters pass. -/
structure StandsFor (text : String) (expr : Expr) : Prop where
  or_tooDeep : Expr.parse text = .ok expr ∨ TooDeep (Expr.parse text)
  of_fits : ∀ tokens, Token.scan text = .ok tokens → NestsWithin maxNesting tokens →
    FiltersPass maxNesting tokens → Expr.parse text = .ok expr

/-- What spells the symbols of a query stands for it. -/
theorem Spells.standsFor {query : String} (spells : Spells Anything query.toList symbols)
    (derives : Derives symbols expr) : StandsFor query expr :=
  have parsed := spells.parseFrom trivial derives maxNesting 0
  ⟨parsed.1, parsed.2⟩

/-- One operand is a query. -/
theorem derives_of_negation (negation : Negation symbols expr) : Derives symbols expr := by
  have conjuncts : Conjuncts Negation symbols [expr] := by
    rw [← List.append_nil symbols]
    exact .adjacent negation .none
  rw [← List.append_nil symbols]
  exact .parts (.parts conjuncts) .none

/-- A query in parentheses is scanned alike everywhere, and is an operand. -/
theorem exists_group (parsed : Expr.parseFrom levels offset text = .ok expr)
    (notBlank : ∃ char ∈ text, isBlank char = false) :
    ∃ symbols, Negation symbols expr ∧ Spells Anything ('(' :: text ++ [')']) symbols := by
  obtain ⟨tokens, scanned, read⟩ := exists_of_bind_eq_ok parsed
  have nonempty : tokens ≠ [] := by
    rintro rfl
    obtain ⟨char, member, notBlank⟩ := notBlank
    rw [scanFrom_eq_nil_iff.mp scanned char member] at notBlank
    cases notBlank
  have derives := readWhole_sound nonempty read
  have opening : Spells Anything ['('] [.leftParen] :=
    spells_sign (mem_signTokens.mpr (.inl ⟨rfl, rfl⟩))
  have closing : Spells Anything [')'] [.rightParen] :=
    spells_sign (mem_signTokens.mpr (.inr (.inl ⟨rfl, rfl⟩)))
  have inside := (opening.append (spells_of_scan scanned) fun _ _ => trivial).append closing
    fun behind _ => .inr ⟨behind, rfl⟩
  exact ⟨_, .atom (.group derives), inside⟩

/-! ## Groups side by side -/

def grouped (text : String) : String :=
  "(" ++ text ++ ")"

theorem toList_grouped (text : String) :
    (grouped text).toList = '(' :: text.toList ++ [')'] := by
  unfold grouped
  rw [String.toList_append, String.toList_append]
  rfl

/-- What stands between two groups that are both asked for. -/
def Adjoins (joint : List Char) : Prop :=
  ∃ sign, Spells Anything joint sign ∧ (sign = [] ∨ sign = [.plus])

/-- Blanks, nothing and a plus sign adjoin groups. -/
theorem adjoins_cases {joint : String} (isJoint : joint ∈ [" ", "", "+"]) :
    Adjoins joint.toList := by
  have nothing : Spells Anything [] [] := by
    intro levels offset behind _
    refine .inr ⟨[], offset, rfl, ?_⟩
    rw [List.nil_append]
    cases Token.scanFrom levels offset behind <;> rfl
  simp only [List.mem_cons, List.not_mem_nil, or_false] at isJoint
  rcases isJoint with rfl | rfl | rfl
  · exact ⟨[], spells_blank (by decide), .inl rfl⟩
  · exact ⟨[], nothing, .inl rfl⟩
  · exact ⟨[.plus], spells_sign (mem_signTokens.mpr (by decide)), .inr rfl⟩

variable {first second : Expr}

theorem derives_conjunction (leftNegation : Negation symbols first)
    (rightNegation : Negation more second) {sign : List TokenKind}
    (isSign : sign = [] ∨ sign = [.plus]) :
    Derives (symbols ++ sign ++ more) (.all [first, second]) := by
  have behind : Conjuncts Negation (sign ++ more) [second] := by
    rcases isSign with rfl | rfl
    · have adjacent : Conjuncts Negation (more ++ []) [second] := .adjacent rightNegation .none
      rw [List.append_nil] at adjacent
      exact adjacent
    · have plus : Conjuncts Negation (.plus :: more ++ []) [second] := .plus rightNegation .none
      rw [List.append_nil] at plus
      exact plus
  have conjunction : Conjunction Negation (symbols ++ (sign ++ more)) (.all [first, second]) :=
    .parts (.adjacent leftNegation behind)
  rw [← List.append_nil (symbols ++ sign ++ more), List.append_assoc symbols]
  exact .parts conjunction .none

theorem derives_alternation (leftNegation : Negation symbols first)
    (rightNegation : Negation more second) :
    Derives (symbols ++ [.bar] ++ more) (.any [first, second]) := by
  have single : ∀ {symbols : List TokenKind} {expr : Expr}, Negation symbols expr →
      Conjunction Negation symbols expr := by
    intro symbols expr negation
    have conjuncts : Conjuncts Negation (symbols ++ []) [expr] := .adjacent negation .none
    rw [List.append_nil] at conjuncts
    exact .parts conjuncts
  have behind : Alternatives Negation (.bar :: more ++ []) [second] :=
    .bar (single rightNegation) .none
  rw [List.append_nil] at behind
  rw [List.append_assoc]
  exact .parts (single leftNegation) behind

/-- A query in parentheses stands for what it stands for by itself, and a minus sign in front
of it for the opposite. Two queries in parentheses stand for their conjunction, side by side
or with a blank or a plus sign between them, and for their alternative with a bar. All this
is so unless the composed query nests too deep. -/
theorem parse_composed {text left right : String}
    (notBlank : ∃ char ∈ text.toList, isBlank char = false) (parsed : Expr.parse text = .ok expr)
    (leftNotBlank : ∃ char ∈ left.toList, isBlank char = false)
    (leftParsed : Expr.parse left = .ok first)
    (rightNotBlank : ∃ char ∈ right.toList, isBlank char = false)
    (rightParsed : Expr.parse right = .ok second) :
    StandsFor (grouped text) expr ∧ StandsFor ("-" ++ grouped text) (.not expr) ∧
    (∀ joint ∈ [" ", "", "+"],
      StandsFor (grouped left ++ joint ++ grouped right) (.all [first, second])) ∧
    StandsFor (grouped left ++ "|" ++ grouped right) (.any [first, second]) := by
  obtain ⟨symbols, negation, spells⟩ := exists_group parsed notBlank
  obtain ⟨front, leftNegation, leftSpells⟩ := exists_group leftParsed leftNotBlank
  obtain ⟨back, rightNegation, rightSpells⟩ := exists_group rightParsed rightNotBlank
  rw [← toList_grouped] at spells leftSpells rightSpells
  have minus : Spells Anything "-".toList [.minus] := spells_sign (mem_signTokens.mpr (by decide))
  have bar : Spells Anything "|".toList [.bar] := spells_sign (mem_signTokens.mpr (by decide))
  refine ⟨spells.standsFor (derives_of_negation negation), ?_, ?_, ?_⟩
  · have opposite := minus.append spells fun _ _ => trivial
    rw [← String.toList_append] at opposite
    exact opposite.standsFor (derives_of_negation (.minus negation))
  · intro joint isJoint
    obtain ⟨sign, joins, isSign⟩ := adjoins_cases isJoint
    have both := (leftSpells.append joins fun _ _ => trivial).append rightSpells fun _ _ => trivial
    rw [← String.toList_append, ← String.toList_append] at both
    exact both.standsFor (derives_conjunction leftNegation rightNegation isSign)
  · have both := (leftSpells.append bar fun _ _ => trivial).append rightSpells fun _ _ => trivial
    rw [← String.toList_append, ← String.toList_append] at both
    exact both.standsFor (derives_alternation leftNegation rightNegation)

/-- Quotes behind a sign, alternatives, a sub-filter and a quote inside a word: each query is
the same one in parentheses, and the composed queries are what their parts make. -/
theorem parse_composed_alternatives :
    let text := "@k=\"a b\" | -c"
    let left := "d'e|f"
    let right := "p:-x d:>2"
    (∃ char ∈ text.toList, isBlank char = false) ∧ (∃ char ∈ left.toList, isBlank char = false) ∧
      (∃ char ∈ right.toList, isBlank char = false) ∧
      ∃ expr first second, Expr.parse text = .ok expr ∧ Expr.parse left = .ok first ∧
        Expr.parse right = .ok second ∧ Expr.parse (grouped text) = .ok expr ∧
        Expr.parse ("-" ++ grouped text) = .ok (.not expr) ∧
        (∀ joint ∈ [" ", "", "+"], Expr.parse (grouped left ++ joint ++ grouped right) =
          .ok (.all [first, second])) ∧
        Expr.parse (grouped left ++ "|" ++ grouped right) = .ok (.any [first, second]) := by
  intro text left right
  have notBlank : ∃ char ∈ text.toList, isBlank char = false := ⟨'@', by decide, by decide⟩
  have leftNotBlank : ∃ char ∈ left.toList, isBlank char = false := ⟨'d', by decide, by decide⟩
  have rightNotBlank : ∃ char ∈ right.toList, isBlank char = false := ⟨'p', by decide, by decide⟩
  have isOk : ∀ query expr, StandsFor query expr → (Expr.parse query).isOk = true →
      Expr.parse query = .ok expr := by
    intro query expr stands isOk
    rcases stands.or_tooDeep with isExpr | ⟨position, deep⟩
    · exact isExpr
    · rw [deep] at isOk
      cases isOk
  obtain ⟨expr, parsed⟩ : ∃ expr, Expr.parse text = .ok expr :=
    exists_of_isOk (by decide +kernel)
  obtain ⟨first, leftParsed⟩ : ∃ first, Expr.parse left = .ok first :=
    exists_of_isOk (by decide +kernel)
  obtain ⟨second, rightParsed⟩ : ∃ second, Expr.parse right = .ok second :=
    exists_of_isOk (by decide +kernel)
  obtain ⟨same, opposite, both, either⟩ :=
    parse_composed notBlank parsed leftNotBlank leftParsed rightNotBlank rightParsed
  refine ⟨notBlank, leftNotBlank, rightNotBlank, expr, first, second, parsed, leftParsed,
    rightParsed, isOk _ _ same (by decide +kernel), isOk _ _ opposite (by decide +kernel), ?_,
    isOk _ _ either (by decide +kernel)⟩
  intro joint isJoint
  apply isOk _ _ (both joint isJoint)
  revert joint
  decide +kernel

end Outliner.Query
