import Outliner.Proofs.Query.Operands
import Outliner.Proofs.Query.Places

/-!
Contract: the places that the errors of the grammar name.

Owns: that every reader of tokens that are placed in a text only complains about places of
that text, also about what is wrong inside the arguments of sub-filters, however deep.

Main statements: `parseFrom_points`.

Does not own: the places of tokens (`Proofs.Query.Places`).
-/

namespace Outliner.Query

open Outliner.Text Cursor

/-! ## Texts inside texts -/

variable {cursor later : Cursor} {offset position levels stop : Nat} {text tail : List Char}
  {tokens rest : List Token} {token : Token}

theorem Cursor.LeadsTo.append (leads : LeadsTo ⟨offset, text⟩ later) (tail : List Char) :
    LeadsTo ⟨offset, text ++ tail⟩ ⟨later.offset, later.rest ++ tail⟩ := by
  obtain ⟨passed, isRest, isOffset⟩ := leads
  refine ⟨passed, ?_, isOffset⟩
  rw [← List.append_assoc]
  exact congrArg (· ++ tail) isRest

/-- The places of a text are places of a longer one. -/
theorem Cursor.Points.append {α : Type} {good : α → Prop} {result : Except QueryError α}
    (points : Points ⟨offset, text⟩ good result) (tail : List Char) :
    Points ⟨offset, text ++ tail⟩ good result := by
  cases result with
  | ok value => exact points
  | error error =>
      obtain ⟨rest, leads⟩ := points
      exact ⟨rest ++ tail, leads.append tail⟩

theorem hasPlace_end (offset : Nat) (text : List Char) :
    HasPlace ⟨offset, text⟩ (offset + byteLength text) :=
  ⟨[], text, (List.append_nil text).symm, rfl⟩

/-- The argument of a sub-filter is part of the text. -/
theorem Token.Placed.points_argument {α : Type} {good : α → Prop} {result : Except QueryError α}
    {written : WrittenFilter} (placed : token.Placed cursor) (isFilter : token.kind = .filter written)
    (isAbove : written.subject = .parent ∨ written.subject = .ancestor)
    (points : Points ⟨written.valueOffset, written.value.toList⟩ good result) :
    cursor.Points good result := by
  obtain ⟨text, behind, leads, -, isPlaced⟩ := placed
  rw [isFilter] at isPlaced
  obtain ⟨value, isValue⟩ := isPlaced
  have further := leads.trans isValue.leads
  rw [isValue.slice isAbove] at further
  exact (points.append behind).mono further fun _ => id

theorem Token.Placed.hasPlace (placed : token.Placed cursor) : cursor.HasPlace token.position := by
  obtain ⟨text, behind, leads, -⟩ := placed
  exact ⟨text, leads⟩

/-! ## Filters -/

/-- What a filter complains about is its value. -/
def WrittenFilter.BlamesValue {α : Type} (written : WrittenFilter) (result : Except QueryError α) :
    Prop :=
  ∀ error, result = .error error → error.position = written.valueOffset

theorem givenValue_blames (written : WrittenFilter) : written.BlamesValue (givenValue written) := by
  intro error failed
  unfold givenValue at failed
  split at failed
  · obtain rfl := Except.error.inj failed
    rfl
  · cases failed

/-- A reading that goes on with another one blames the value if both do. -/
theorem WrittenFilter.BlamesValue.bind {α β : Type} {written : WrittenFilter}
    {result : Except QueryError α} {next : α → Except QueryError β}
    (blames : written.BlamesValue result) (nextBlames : ∀ value, written.BlamesValue (next value)) :
    written.BlamesValue (result.bind next) := by
  intro error failed
  cases result with
  | error first =>
      obtain rfl := Except.error.inj failed
      exact blames first rfl
  | ok value => exact nextBlames value error failed

theorem readCountFilter_blames (leaf : Comparison → Nat → Leaf) (written : WrittenFilter) :
    written.BlamesValue (readCountFilter leaf written) := by
  refine (givenValue_blames written).bind fun value error failed => ?_
  split at failed
  · cases failed
  · obtain rfl := Except.error.inj failed
    rfl

theorem readTimeFilter_blames (field : TimeField) (written : WrittenFilter) :
    written.BlamesValue (readTimeFilter field written) := by
  refine (givenValue_blames written).bind fun value error failed => ?_
  split at failed
  · cases failed
  · obtain rfl := Except.error.inj failed
    rfl

theorem readAttributeFilter_blames (key : String) (written : WrittenFilter) :
    written.BlamesValue (readAttributeFilter key written) := by
  intro error failed
  unfold readAttributeFilter at failed
  split at failed
  · cases failed
  · cases given : givenValue written with
    | error first =>
        rw [given] at failed
        obtain rfl := Except.error.inj failed
        exact givenValue_blames written first given
    | ok value =>
        rw [given] at failed
        cases failed

/-- What is wrong with a test of one node is its value. -/
theorem leaf_blames {written : WrittenFilter} {result : Except QueryError Leaf}
    (isLeaf : written.shape = .leaf result) : written.BlamesValue result := by
  unfold WrittenFilter.shape at isLeaf
  split at isLeaf
  all_goals
    cases isLeaf
  · exact readCountFilter_blames .depth written
  · exact readCountFilter_blames .children written
  · exact readTimeFilter_blames .created written
  · exact readTimeFilter_blames .modified written
  · exact readAttributeFilter_blames _ written

/-- Sub-filters are the filters whose value is read as a query. -/
theorem above_iff {written : WrittenFilter} :
    (∃ relation, written.shape = .above relation) ↔
      written.subject = .parent ∨ written.subject = .ancestor := by
  unfold WrittenFilter.shape
  cases written.subject <;> simp

/-- With so many levels, the errors of every text are at places of it. -/
def ParsesInto (levels : Nat) : Prop :=
  ∀ offset text, Points ⟨offset, text⟩ (fun _ => True) (Expr.parseFrom levels offset text)

theorem readFilter_points {written : WrittenFilter} (placed : token.Placed cursor)
    (isFilter : token.kind = .filter written) (inner : ∀ lower < levels, ParsesInto lower) :
    cursor.Points (fun _ => True) (readFilter levels token.position written) := by
  unfold readFilter
  split
  · rename_i result isLeaf
    cases result with
    | ok leaf => exact trivial
    | error error =>
        obtain ⟨text, behind, leads, -, isPlaced⟩ := placed
        rw [isFilter] at isPlaced
        obtain ⟨value, isValue⟩ := isPlaced
        refine ⟨value, ?_⟩
        rw [leaf_blames isLeaf error rfl]
        exact leads.trans isValue.leads
  · rename_i relation isAbove
    split
    · exact placed.hasPlace
    · cases levels with
      | zero => exact placed.hasPlace
      | succ levels =>
          apply Points.map
          exact placed.points_argument isFilter (above_iff.mp ⟨relation, isAbove⟩)
            (inner levels (Nat.lt_succ_self levels) _ _)

/-- Whatever operand is read, every complaint is about a place. -/
theorem pointed_laws (inner : ∀ lower < levels, ParsesInto lower) (isStop : cursor.HasPlace stop) :
    OperandLaws levels stop (fun _ tokens => ∀ token ∈ tokens, token.Placed cursor)
      (fun error => cursor.HasPlace error.position) (fun _ _ => True) (fun _ _ => True)
      fun _ _ => True where
  next _ _ _ placed _ := (List.forall_mem_cons.mp placed).2
  blame _ _ _ _ _ placed := (List.forall_mem_cons.mp placed).1.hasPlace
  blameEnd _ _ := isStop
  deep _ _ _ _ _ placed := (List.forall_mem_cons.mp placed).1.hasPlace
  text _ _ _ _ _ _ := trivial
  filter nesting token rest written atMost isFilter placed := by
    have points := readFilter_points (List.forall_mem_cons.mp placed).1 isFilter
      fun lower isLower => inner lower (Nat.lt_of_lt_of_le isLower atMost)
    revert points
    cases readFilter nesting.left token.position written with
    | error error => exact id
    | ok expr => exact fun _ => trivial
  not _ _ _ := trivial
  group _ _ _ := trivial
  joining _ := ⟨fun _ => id, fun _ _ _ _ => trivial, fun _ => id, fun _ _ _ _ => trivial⟩

/-- The errors of a text are at places of it, if those of the arguments in it are. -/
theorem readWhole_points (inner : ∀ lower < levels, ParsesInto lower)
    (isStop : cursor.HasPlace stop) (placed : ∀ token ∈ tokens, token.Placed cursor) :
    cursor.Points (fun _ => True) (readWhole (readOperand levels stop) stop tokens) := by
  by_cases noTokens : tokens = []
  · subst noTokens
    trivial
  · have outcome := (pointed_laws inner isStop).readWhole noTokens placed
    cases read : readWhole (readOperand levels stop) stop tokens with
    | error error =>
        rw [read] at outcome
        exact outcome
    | ok expr => trivial

/-- Every error is at a place of the text. -/
theorem parseFrom_points (levels : Nat) : ParsesInto levels := by
  induction levels using Nat.strongRecOn with
  | ind levels inductionHypothesis =>
      intro offset text
      unfold Expr.parseFrom
      have scanned := scanFrom_points levels offset text
      cases isScanned : Token.scanFrom levels offset text with
      | error error =>
          rw [isScanned] at scanned
          exact scanned
      | ok tokens =>
          rw [isScanned] at scanned
          exact readWhole_points inductionHypothesis (hasPlace_end offset text) scanned

end Outliner.Query
