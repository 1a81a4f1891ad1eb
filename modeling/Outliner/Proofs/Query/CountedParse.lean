import Outliner.Proofs.Query.Shifting
import Outliner.Proofs.Query.SlicedScan

/-!
Contract: the grammar with one counter of nesting levels that is counted up and down.

Owns: readers that add to a counter where a group, a minus sign or a sub-filter starts and
take away where it is over, also after an error; sub-filters that are read as texts of their
own, with their errors moved to where they start; and that all this reads the same as the
readers that are told how many levels are left.

A result is `none` where the readers would break down: at a counter below zero, at calls
that nest deeper than a bound, and at what breaks the scan for tokens.

Main statements: `operandsWithin_keeps` and `countedParse_eq`.

Does not own: the scan for tokens (`Proofs.Query.SlicedScan`).
-/

namespace Outliner.Query

open Outliner.Text

/-! ## Readers with a counter -/

/-- A reader that starts with a counter and ends with one, whatever it reads. -/
def Counted (α : Type) := Nat → Option (Except QueryError α × Nat)

namespace Counted

variable {α β : Type}

def result (result : Except QueryError α) : Counted α := fun depth => some (result, depth)

def map (change : α → β) (counted : Counted α) : Counted β := fun depth =>
  (counted depth).map fun (result, depth) => (result.map change, depth)

def bind (counted : Counted α) (next : α → Counted β) : Counted β := fun depth =>
  match counted depth with
  | none => none
  | some (.error error, depth) => some (.error error, depth)
  | some (.ok value, depth) => next value depth

/-- Goes one level down for the token at a position, and up again whatever is read. -/
def nested (position : Nat) (inner : Counted α) : Counted α := fun depth =>
  if maxNesting ≤ depth then some (.error ⟨position, .nestedTooDeep⟩, depth)
  else (inner (depth + 1)).bind fun (result, depth) => depth.ppred.map (result, ·)

/-- Reads a text of its own one level down, for the token at a position. -/
def apart (position : Nat) (read : Nat → Checked α) : Counted α := fun depth =>
  if maxNesting ≤ depth then some (.error ⟨position, .nestedTooDeep⟩, depth)
  else Option.map (·, depth) (read (depth + 1))

end Counted

/-! ## Putting together what is taken -/

section Taking

variable {α β : Type} {tokens rest : List Token}

theorem tail_lt (token : Token) (rest : List Token) : rest.length < (token :: rest).length :=
  Nat.lt_succ_self _

theorem Taken.rest_lt {token : Token} (taken : Taken α (token :: rest)) :
    taken.rest.length < (token :: rest).length :=
  taken.shorter

theorem Taken.more_lt (first : Taken α tokens) (more : TakenAll α first.rest) :
    more.rest.length < tokens.length := by
  have shorter := first.shorter
  have counted := more.counted
  omega

theorem Taken.counted_cons (first : Taken α tokens) (more : TakenAll α first.rest) :
    more.rest.length + (first.value :: more.values).length ≤ tokens.length := by
  have shorter := first.shorter
  have counted := more.counted
  rw [List.length_cons]
  omega

theorem lt_of_counted {first : α} {more : List α}
    (counted : rest.length + (first :: more).length ≤ tokens.length) :
    rest.length < tokens.length := by
  rw [List.length_cons] at counted
  omega

theorem after_lt {close : Token} {after : List Token} (token : Token)
    (shorter : (close :: after).length < rest.length) : after.length < (token :: rest).length :=
  Nat.lt_succ_of_lt (Nat.lt_of_succ_lt shorter)

def Taken.alone (value : α) (token : Token) (rest : List Token) : Taken α (token :: rest) :=
  ⟨value, rest, tail_lt token rest⟩

def Taken.behind (token : Token) (change : α → β) (taken : Taken α rest) :
    Taken β (token :: rest) :=
  ⟨change taken.value, taken.rest, Nat.lt_succ_of_lt taken.shorter⟩

def TakenAll.none (tokens : List Token) : TakenAll α tokens :=
  ⟨[], tokens, Nat.le_refl _⟩

def TakenAll.behind (token : Token) (more : TakenAll α rest) : TakenAll α (token :: rest) :=
  ⟨more.values, more.rest, Nat.le_succ_of_le more.counted⟩

def Taken.followedBy (first : Taken α tokens) (more : TakenAll α first.rest) : TakenAll α tokens :=
  ⟨first.value :: more.values, more.rest, first.counted_cons more⟩

def Taken.joined (join : List Expr → Expr) (first : Taken Expr tokens)
    (more : TakenAll Expr first.rest) : Taken Expr tokens :=
  ⟨joinParts join first.value more.values, more.rest, first.more_lt more⟩

end Taking

/-! ## Conjunctions and alternatives -/

abbrev CountedReader := (tokens : List Token) → Counted (Taken Expr tokens)

def countConjuncts (operand : CountedReader) (tokens : List Token) :
    Counted (TakenAll Expr tokens) :=
  match tokens with
  | [] => .result (.ok (.none []))
  | token :: rest =>
    if token.kind = .plus then
      if startsOperand rest then (countConjuncts operand rest).map (TakenAll.behind token)
      else .result (.error ⟨token.position, .danglingPlus⟩)
    else if token.kind.startsOperand then
      (operand (token :: rest)).bind fun first =>
        (countConjuncts operand first.rest).map first.followedBy
    else .result (.ok (.none (token :: rest)))
termination_by tokens.length
decreasing_by
  · exact tail_lt token rest
  · exact first.rest_lt

def countConjunction (operand : CountedReader) (stop : Nat) (tokens : List Token) :
    Counted (Taken Expr tokens) :=
  (countConjuncts operand tokens).bind fun
    | ⟨[], rest, _⟩ => .result (.error (missingTerm stop rest))
    | ⟨first :: more, rest, counted⟩ =>
      .result (.ok ⟨joinParts .all first more, rest, lt_of_counted counted⟩)

def countAlternatives (operand : CountedReader) (stop : Nat) (tokens : List Token) :
    Counted (TakenAll Expr tokens) :=
  match tokens with
  | [] => .result (.ok (.none []))
  | token :: rest =>
    if token.kind = .bar then
      if startsConjunct rest then
        (countConjunction operand stop rest).bind fun first =>
          (countAlternatives operand stop first.rest).map fun more =>
            (first.followedBy more).behind token
      else .result (.error ⟨token.position, .danglingBar⟩)
    else .result (.ok (.none (token :: rest)))
termination_by tokens.length
decreasing_by exact (first.behind token id).rest_lt

def countExpr (operand : CountedReader) (stop : Nat) (tokens : List Token) :
    Counted (Taken Expr tokens) :=
  (countConjunction operand stop tokens).bind fun first =>
    (countAlternatives operand stop first.rest).map (first.joined .any)

def countWhole (operand : CountedReader) (stop : Nat) (tokens : List Token) : Counted Expr :=
  if tokens.isEmpty then .result (.ok (.all []))
  else (countExpr operand stop tokens).bind fun
    | ⟨expr, [], _⟩ => .result (.ok expr)
    | ⟨_, token :: _, _⟩ => .result (.error ⟨token.position, .unexpected token.kind⟩)

/-! ## Filters and operands -/

/-- Reads a text of its own that is so many sub-filters down. -/
def countText (operand : Nat → CountedReader) (text : List Char) (depth : Nat) : Checked Expr :=
  (Sliced.scanFrom text depth 0).bind fun tokens =>
    (countWhole (operand (byteLength text)) (byteLength text) tokens depth).map Prod.fst

/-- What a filter asks for. The argument of a sub-filter has a counter of its own. -/
def countFilter (operand : Nat → CountedReader) (position : Nat) (written : WrittenFilter) :
    Counted Expr :=
  match written.shape with
  | .leaf result => .result (result.map .leaf)
  | .above relation =>
    if (trim written.value.toList).isEmpty then
      .result (.error ⟨position, .missingInner written.subject⟩)
    else .apart position fun depth =>
      Option.map (shifted written.valueOffset relation)
        (countText operand written.value.toList depth)

/-- Reads the operand at the front, in a text that ends at `stop`. What is nested in it is
read by `lower`. -/
def countOperand (lower : Nat → CountedReader) (stop : Nat) (tokens : List Token) :
    Counted (Taken Expr tokens) :=
  match tokens with
  | [] => .result (.error (missingTerm stop []))
  | token :: rest =>
    match token.kind with
    | .text value | .quoted value =>
      .result (.ok (.alone (.leaf (.text (lowercase value))) token rest))
    | .filter written =>
      (countFilter lower token.position written).map fun expr => .alone expr token rest
    | .minus =>
      if startsOperand rest then
        (Counted.nested token.position (lower stop rest)).map (Taken.behind token .not)
      else .result (.error ⟨token.position, .danglingMinus⟩)
    | .leftParen =>
      if rest.head?.map Token.kind = some .rightParen then
        .result (.error ⟨token.position, .emptyGroup⟩)
      else (Counted.nested token.position (countExpr (lower stop) stop rest)).bind fun
        | ⟨expr, close :: after, shorter⟩ =>
          if close.kind = .rightParen then .result (.ok ⟨expr, after, after_lt token shorter⟩)
          else .result (.error ⟨token.position, .unclosedGroup⟩)
        | ⟨_, [], _⟩ => .result (.error ⟨token.position, .unclosedGroup⟩)
    | .rightParen | .plus | .bar => .result (.error (missingTerm stop (token :: rest)))

/-- The reader of operands where calls nest at most so deep. -/
def operandsWithin : Nat → Nat → CountedReader
  | 0, _ => fun _ _ => none
  | calls + 1, stop => countOperand (operandsWithin calls) stop

/-- The expression that a query text stands for, read with byte offsets and counters. -/
def Expr.countedParse (text : String) : Checked Expr :=
  countText (operandsWithin (maxNesting + 1)) text.toList 0

/-! ## The counter is as it was -/

/-- A reader that is started at a depth reads what another one reads, and ends there. -/
def Counted.Keeps {α : Type} (counted : Counted α) (depth : Nat) (plain : Except QueryError α) :
    Prop :=
  counted depth = some (plain, depth)

/-- The same of a reader of operands, whatever tokens there are. -/
def CountedReader.Keeps (counted : CountedReader) (depth : Nat) (operand : OperandReader) : Prop :=
  ∀ tokens, (counted tokens).Keeps depth (operand tokens)

variable {α β : Type} {counted : Counted α} {plain : Except QueryError α} {depth levels stop : Nat}
  {reader : CountedReader} {operand : OperandReader} {tokens : List Token}

theorem Counted.Keeps.map (keeps : counted.Keeps depth plain) (change : α → β) :
    (counted.map change).Keeps depth (plain.map change) := by
  unfold Counted.Keeps Counted.map
  rw [keeps]
  rfl

theorem Counted.Keeps.bind {next : α → Counted β} {plainNext : α → Except QueryError β}
    (keeps : counted.Keeps depth plain)
    (nextKeeps : ∀ value, (next value).Keeps depth (plainNext value)) :
    (counted.bind next).Keeps depth (plain.bind plainNext) := by
  unfold Counted.Keeps Counted.bind
  rw [keeps]
  cases plain with
  | error error => rfl
  | ok value => exact nextKeeps value

/-- One level down and up again, the counter is what it was. -/
theorem Counted.Keeps.nested {position : Nat} (keeps : counted.Keeps (depth + 1) plain)
    (notDeepest : depth < maxNesting) :
    (Counted.nested position counted).Keeps depth plain := by
  unfold Counted.Keeps Counted.nested
  rw [if_neg (Nat.not_le.mpr notDeepest), keeps]
  rfl

/-- Below the deepest level there is nothing but the complaint. -/
theorem nested_keeps_deepest {position : Nat} (isDeepest : maxNesting ≤ depth) :
    (Counted.nested position counted).Keeps depth (.error ⟨position, .nestedTooDeep⟩) :=
  if_pos isDeepest

theorem countConjuncts_keeps (keeps : reader.Keeps depth operand) (tokens : List Token) :
    (countConjuncts reader tokens).Keeps depth (readConjuncts operand tokens) := by
  fun_induction countConjuncts reader tokens with
  | case1 =>
      rw [readConjuncts_of_end rfl]
      rfl
  | case2 token rest isPlus starts inductionHypothesis =>
      rw [readConjuncts_of_plus isPlus starts]
      exact inductionHypothesis.map _
  | case3 token rest isPlus notStart =>
      rw [readConjuncts_of_dangling_plus isPlus notStart]
      rfl
  | case4 token rest _ starts inductionHypothesis =>
      rw [readConjuncts_of_operand starts]
      exact (keeps (token :: rest)).bind fun first => (inductionHypothesis first).map _
  | case5 token rest notPlus notStart =>
      rw [readConjuncts_of_end (by simp [startsConjunct, notPlus, notStart])]
      rfl

theorem countConjunction_keeps (keeps : reader.Keeps depth operand) (stop : Nat)
    (tokens : List Token) :
    (countConjunction reader stop tokens).Keeps depth (readConjunction operand stop tokens) := by
  unfold Counted.Keeps countConjunction readConjunction Counted.bind
  rw [countConjuncts_keeps keeps tokens]
  rcases readConjuncts operand tokens with error | ⟨_ | ⟨first, more⟩, rest, counted⟩ <;> rfl

theorem countAlternatives_keeps (keeps : reader.Keeps depth operand) (stop : Nat)
    (tokens : List Token) :
    (countAlternatives reader stop tokens).Keeps depth (readAlternatives operand stop tokens) := by
  fun_induction countAlternatives reader stop tokens with
  | case1 =>
      rw [readAlternatives_of_end (by intro _ isHead; cases isHead)]
      rfl
  | case2 token rest isBar starts inductionHypothesis =>
      rw [readAlternatives_of_bar isBar starts]
      exact (countConjunction_keeps keeps stop rest).bind fun first =>
        (inductionHypothesis first).map _
  | case3 token rest isBar notStart =>
      rw [readAlternatives_of_dangling_bar isBar notStart]
      rfl
  | case4 token rest notBar =>
      rw [readAlternatives_of_no_bar notBar]
      rfl

theorem countExpr_keeps (keeps : reader.Keeps depth operand) (stop : Nat) (tokens : List Token) :
    (countExpr reader stop tokens).Keeps depth (readExpr operand stop tokens) := by
  unfold Counted.Keeps countExpr readExpr Counted.bind
  rw [countConjunction_keeps keeps stop tokens]
  cases readConjunction operand stop tokens with
  | error error => rfl
  | ok first => exact (countAlternatives_keeps keeps stop first.rest).map _

/-- A whole text is read with a counter as it is read with levels. -/
theorem countWhole_keeps (keeps : reader.Keeps depth operand) (stop : Nat) (tokens : List Token) :
    (countWhole reader stop tokens).Keeps depth (readWhole operand stop tokens) := by
  unfold countWhole readWhole
  split
  · rfl
  · unfold Counted.Keeps Counted.bind
    rw [countExpr_keeps keeps stop tokens]
    rcases readExpr operand stop tokens with error | ⟨expr, _ | ⟨token, rest⟩, shorter⟩ <;> rfl

/-! ## Operands -/

/-- Started at a depth, operands are read as where so many levels are left. -/
def KeepsAt (lower : Nat → CountedReader) (depth levels : Nat) : Prop :=
  ∀ stop, (lower stop).Keeps depth (readOperand levels stop)

variable {lower : Nat → CountedReader}

/-- Counter and levels together are the limit, wherever a text of its own starts. -/
theorem countText_eq (isDepth : depth + levels = maxNesting) (keeps : KeepsAt lower depth levels)
    (text : List Char) : countText lower text depth = some (Expr.parseFrom levels 0 text) := by
  unfold countText Expr.parseFrom
  dsimp only
  rw [Sliced.scanFrom_eq isDepth (.refl _), Nat.zero_add]
  cases Token.scanFrom levels 0 text with
  | error error => rfl
  | ok tokens =>
      dsimp only [Checked.bind, Except.bind]
      rw [countWhole_keeps (keeps (byteLength text))]
      rfl

/-- A sub-filter's errors are those of its argument, moved to where that starts. -/
theorem parseFrom_argument (levels valueOffset : Nat) (text : List Char) (relation : Expr → Expr) :
    (Expr.parseFrom levels valueOffset text).map relation =
      shifted valueOffset relation (Expr.parseFrom levels 0 text) := by
  have moved := parseFrom_shift levels valueOffset 0 text
  rw [Nat.zero_add] at moved
  rw [moved]
  cases Expr.parseFrom levels 0 text <;> rfl

theorem countFilter_keeps (isDepth : depth + levels = maxNesting)
    (keeps : ∀ least, levels = least + 1 → KeepsAt lower (depth + 1) least)
    (position : Nat) (written : WrittenFilter) :
    (countFilter lower position written).Keeps depth (readFilter levels position written) := by
  unfold countFilter readFilter
  cases written.shape with
  | leaf result => rfl
  | above relation =>
      dsimp only
      by_cases isBlank : (trim written.value.toList).isEmpty = true
      · rw [if_pos isBlank, if_pos isBlank]
        rfl
      · rw [if_neg isBlank, if_neg isBlank]
        cases levels with
        | zero => exact if_pos (Nat.le_of_eq isDepth.symm)
        | succ levels =>
            have isDeeper : depth + 1 + levels = maxNesting := by omega
            have notDeepest : ¬ maxNesting ≤ depth := by omega
            refine (if_neg notDeepest).trans ?_
            dsimp only
            rw [countText_eq isDeeper (keeps levels rfl), parseFrom_argument]
            rfl

theorem countOperand_keeps (isDepth : depth + levels = maxNesting)
    (keeps : ∀ least, levels = least + 1 → KeepsAt lower (depth + 1) least) :
    KeepsAt (countOperand lower) depth levels := by
  intro stop tokens
  cases tokens with
  | nil =>
      unfold readOperand
      rfl
  | cons token rest =>
      unfold countOperand
      dsimp only
      split
      · rename_i value isText
        rw [readOperand_text (.inl isText)]
        rfl
      · rename_i value isQuoted
        rw [readOperand_text (.inr isQuoted)]
        rfl
      · rename_i written isFilter
        rw [readOperand_filter isFilter]
        exact (countFilter_keeps isDepth keeps token.position written).map _
      · rename_i isMinus
        split
        · rename_i starts
          rw [readOperand_minus isMinus starts]
          cases levels with
          | zero => exact (nested_keeps_deepest (Nat.le_of_eq isDepth.symm)).map _
          | succ levels =>
              have notDeepest : depth < maxNesting := by omega
              exact ((keeps levels rfl stop rest).nested notDeepest).map _
        · rename_i notStart
          rw [readOperand_dangling_minus isMinus notStart]
          rfl
      · rename_i isLeft
        split
        · rename_i isEmpty
          rw [readOperand_empty_group isLeft isEmpty]
          rfl
        · rename_i notEmpty
          rw [readOperand_group isLeft notEmpty]
          unfold Counted.Keeps Counted.bind
          cases levels with
          | zero =>
              have isDeepest : maxNesting ≤ depth := Nat.le_of_eq isDepth.symm
              rw [nested_keeps_deepest isDeepest]
          | succ levels =>
              have notDeepest : depth < maxNesting := by omega
              have group := countExpr_keeps (keeps levels rfl stop) stop rest
              rw [group.nested notDeepest]
              dsimp only
              rcases readExpr (readOperand levels stop) stop rest with
                error | ⟨expr, _ | ⟨close, after⟩, shorter⟩
              · rfl
              · rfl
              · dsimp only
                split <;> rfl
      all_goals
        rename_i noOperand
        rw [readOperand_no_operand (by rw [noOperand]; rfl)]
        rfl

/-- With calls enough for the levels that are left, operands are read as with levels. -/
theorem operandsWithin_keeps (calls : Nat) (isDepth : depth + levels = maxNesting)
    (enough : levels < calls) : KeepsAt (operandsWithin calls) depth levels := by
  induction calls generalizing depth levels with
  | zero => exact absurd enough (Nat.not_lt_zero levels)
  | succ calls inductionHypothesis =>
      refine countOperand_keeps isDepth fun least isLeast => inductionHypothesis ?_ ?_
      · omega
      · omega

/-- Reading with offsets and counters never breaks down, and gives what reading gives. -/
theorem countedParse_eq (text : String) : Expr.countedParse text = some (Expr.parse text) :=
  countText_eq (Nat.zero_add _)
    (operandsWithin_keeps _ (Nat.zero_add _) (Nat.lt_succ_self _)) text.toList

end Outliner.Query
