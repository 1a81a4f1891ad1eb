import Outliner.Proofs.Query.Covering
import Outliner.Proofs.Query.Reading
import Outliner.Query.CompiledQuery
import Outliner.Query.Expr.Write

/-!
Contract: the normal form of the expressions that queries are read as.

Owns: the expressions inside an expression, and that joined parts are several, texts are
lower-cased texts of the query, keys are there, and values that read as days are days.

Main statements: `allNormal_iff`, `builds_normal`, `parse_normal`.

Does not own: how deep the expressions are nested (`Proofs.Query.Depth`).
-/

namespace Outliner.Query

open Outliner.Calendar Outliner.Text

def Expr.parts : Expr → List Expr
  | .leaf _ => []
  | .parent inner | .ancestor inner | .not inner => [inner]
  | .all parts | .any parts => parts

/-- An expression is another one or anywhere inside it. -/
inductive Expr.Within : Expr → Expr → Prop where
  | self (expr : Expr) : Within expr expr
  | deeper {node part expr : Expr} : part ∈ expr.parts → node.Within part → node.Within expr

/-- A node of an expression is as it is read from a text: there are several joined parts, a
text to search for is a lower-cased text of the source, an attribute has a key, and it is
compared with a day if the written value reads as one, else with the value itself. -/
structure Expr.IsNormal (source : List Char) (node : Expr) : Prop where
  joined : ∀ parts, node = .all parts ∨ node = .any parts → 2 ≤ parts.length
  needle : ∀ needle, node = .leaf (.text needle) → ∃ value, needle = lowercase value ∧
    ((TokenKind.text value).OccursIn source ∨ (TokenKind.quoted value).OccursIn source)
  key : ∀ key test, node = .leaf (.attr key test) → key ≠ ""
  value : ∀ key test, node = .leaf (.attr key (some test)) → ∃ written : WrittenFilter,
    (TokenKind.filter written).OccursIn source ∧ written.subject = .attr key ∧
    ((∃ day, test = .day day) ↔ (DayRef.read written.value.toList).isSome = true) ∧
    (∀ day, test = .day day → DayRef.read written.value.toList = some day.day) ∧
    ∀ sign value, test = .text sign value → value = written.value

def Expr.AllNormal (source : List Char) (expr : Expr) : Prop :=
  ∀ node : Expr, node.Within expr → node.IsNormal source

variable {source text : List Char} {expr node : Expr} {written : WrittenFilter}

/-- An expression is normal throughout if it is normal itself and its parts are so throughout.
-/
theorem allNormal_iff : expr.AllNormal source ↔
    expr.IsNormal source ∧ ∀ part ∈ expr.parts, part.AllNormal source := by
  constructor
  · intro normal
    exact ⟨normal expr (.self expr), fun part isPart node within =>
      normal node (.deeper isPart within)⟩
  · rintro ⟨isNormal, partsNormal⟩ node within
    cases within with
    | self => exact isNormal
    | deeper isPart within => exact partsNormal _ isPart node within

/-- A node that is neither joined nor a test is normal. -/
theorem isNormal_of_one_part
    (isOne : node = .not expr ∨ node = .parent expr ∨ node = .ancestor expr) :
    node.IsNormal source := by
  rcases isOne with rfl | rfl | rfl <;> exact ⟨by simp, by simp, by simp, by simp⟩

theorem isNormal_of_several {first second : Expr} {rest : List Expr}
    (isJoined : node = .all (first :: second :: rest) ∨ node = .any (first :: second :: rest)) :
    node.IsNormal source := by
  rcases isJoined with rfl | rfl <;> exact ⟨by simp, by simp, by simp, by simp⟩

/-- A filter of an attribute that occurs in a text has a key. -/
theorem subject_of_occursIn (occurs : (TokenKind.filter written).OccursIn source) :
    written.subject ≠ .attr "" := by
  generalize isKind : TokenKind.filter written = kind at occurs
  induction occurs with
  | token scanned member =>
      obtain ⟨char, rest, stop, -, -, isRead, -⟩ := mem_of_scanFrom scanned member
      rw [← isKind] at isRead
      rcases readLexeme_cases isRead with
        ⟨isSign, -⟩ | ⟨-, content, isQuoted, -⟩ | ⟨-, -, isWord⟩
      · simp [mem_signTokens] at isSign
      · cases isQuoted
      · rcases readWordToken_cases isWord with isText | ⟨other, isFilter, notEmpty⟩
        · obtain ⟨word, -, equal⟩ := exists_of_map_eq_ok isText
          cases equal
        · obtain rfl := TokenKind.filter.inj isFilter
          exact notEmpty
  | argument _ _ _ _ inductionHypothesis => exact inductionHypothesis isKind

/-- A value is compared as a day exactly if it reads as one. -/
theorem ofText_day_iff (sign : Comparison) (value : String) :
    (∃ day, ValueTest.ofText sign value = .day day) ↔ (DayRef.read value.toList).isSome = true := by
  unfold ValueTest.ofText
  cases DayRef.read value.toList <;> simp

theorem read_of_ofText_day {sign : Comparison} {value : String} {day : DayTest}
    (isDay : ValueTest.ofText sign value = .day day) :
    DayRef.read value.toList = some day.day := by
  unfold ValueTest.ofText at isDay
  split at isDay
  · rename_i isRead
    obtain rfl := ValueTest.day.inj isDay
    exact isRead
  · cases isDay

theorem eq_of_ofText_text {sign other : Comparison} {value text : String}
    (isText : ValueTest.ofText sign value = .text other text) : text = value := by
  unfold ValueTest.ofText at isText
  split at isText
  · cases isText
  · exact (ValueTest.text.inj isText).2.symm

/-- An attribute's filter asks that the attribute is there, or compares it with its value. -/
theorem readAttributeFilter_cases {key : String} {leaf : Leaf}
    (isRead : readAttributeFilter key written = .ok leaf) :
    leaf = .attr key none ∨
      leaf = .attr key (some (ValueTest.ofText (written.sign.getD .equal) written.value)) := by
  unfold readAttributeFilter at isRead
  split at isRead
  · exact .inl (Except.ok.inj isRead).symm
  · obtain ⟨value, isGiven, rfl⟩ := exists_of_map_eq_ok isRead
    unfold givenValue at isGiven
    split at isGiven
    · cases isGiven
    · obtain rfl := Except.ok.inj isGiven
      exact .inr rfl

theorem isNormal_of_attribute {key : String} {test : Option ValueTest}
    (occurs : (TokenKind.filter written).OccursIn source) (isKey : written.subject = .attr key)
    (isTest : test = none ∨
      test = some (ValueTest.ofText (written.sign.getD .equal) written.value)) :
    (Expr.leaf (.attr key test)).IsNormal source where
  joined := by simp
  needle := by simp
  key other otherTest isLeaf := by
    obtain ⟨rfl, -⟩ := Leaf.attr.inj (Expr.leaf.inj isLeaf)
    rintro rfl
    exact subject_of_occursIn occurs isKey
  value other otherTest isLeaf := by
    obtain ⟨rfl, rfl⟩ := Leaf.attr.inj (Expr.leaf.inj isLeaf)
    rcases isTest with isNone | isSome
    · cases isNone
    · obtain rfl := Option.some.inj isSome
      exact ⟨written, occurs, isKey, ofText_day_iff _ _, fun _ => read_of_ofText_day,
        fun _ _ => eq_of_ofText_text⟩

theorem leaf_of_readCountFilter {toLeaf : Comparison → Nat → Leaf} {leaf : Leaf}
    (isRead : readCountFilter toLeaf written = .ok leaf) :
    ∃ sign count, leaf = toLeaf sign count := by
  obtain ⟨value, -, isLeaf⟩ := exists_of_bind_eq_ok isRead
  split at isLeaf
  · rename_i count _
    exact ⟨_, count, (Except.ok.inj isLeaf).symm⟩
  · cases isLeaf

theorem leaf_of_readTimeFilter {field : TimeField} {leaf : Leaf}
    (isRead : readTimeFilter field written = .ok leaf) : ∃ test, leaf = .time field test := by
  obtain ⟨value, -, isLeaf⟩ := exists_of_bind_eq_ok isRead
  split at isLeaf
  · rename_i day _
    exact ⟨⟨_, day⟩, (Except.ok.inj isLeaf).symm⟩
  · cases isLeaf

/-- What a filter that is no sub-filter stands for is normal. -/
theorem isNormal_of_filter {leaf : Leaf} (occurs : (TokenKind.filter written).OccursIn source)
    (isLeaf : written.shape = .leaf (.ok leaf)) : (Expr.leaf leaf).IsNormal source := by
  unfold WrittenFilter.shape at isLeaf
  split at isLeaf
  · obtain ⟨sign, count, rfl⟩ := leaf_of_readCountFilter (FilterShape.leaf.inj isLeaf)
    exact ⟨by simp, by simp, by simp, by simp⟩
  · obtain ⟨sign, count, rfl⟩ := leaf_of_readCountFilter (FilterShape.leaf.inj isLeaf)
    exact ⟨by simp, by simp, by simp, by simp⟩
  · obtain ⟨test, rfl⟩ := leaf_of_readTimeFilter (FilterShape.leaf.inj isLeaf)
    exact ⟨by simp, by simp, by simp, by simp⟩
  · obtain ⟨test, rfl⟩ := leaf_of_readTimeFilter (FilterShape.leaf.inj isLeaf)
    exact ⟨by simp, by simp, by simp, by simp⟩
  · rename_i key isKey
    rcases readAttributeFilter_cases (FilterShape.leaf.inj isLeaf) with rfl | rfl
    · exact isNormal_of_attribute occurs isKey (.inl rfl)
    · exact isNormal_of_attribute occurs isKey (.inr rfl)
  · cases isLeaf
  · cases isLeaf

/-- One part below keeps an expression normal, and so do several joined ones. -/
theorem builds_normal (source : List Char) :
    Builds source (fun _ => Expr.AllNormal source) (fun _ => Expr.AllNormal source)
      fun _ => Expr.AllNormal source where
  text _ value occurs := by
    refine allNormal_iff.mpr ⟨⟨by simp, ?_, by simp, by simp⟩, by simp [Expr.parts]⟩
    intro needle isNeedle
    obtain rfl := Leaf.text.inj (Expr.leaf.inj isNeedle)
    exact ⟨value, rfl, occurs⟩
  filter _ _ _ occurs isLeaf :=
    allNormal_iff.mpr ⟨isNormal_of_filter occurs isLeaf, by simp [Expr.parts]⟩
  parent _ inner normal := by
    refine allNormal_iff.mpr ⟨isNormal_of_one_part (.inr (.inl rfl)), ?_⟩
    simpa [Expr.parts] using normal
  ancestor _ inner normal := by
    refine allNormal_iff.mpr ⟨isNormal_of_one_part (.inr (.inr rfl)), ?_⟩
    simpa [Expr.parts] using normal
  not _ inner normal := by
    refine allNormal_iff.mpr ⟨isNormal_of_one_part (.inl rfl), ?_⟩
    simpa [Expr.parts] using normal
  group _ _ := id
  joining _ := {
    single := fun _ => id
    all := fun _ _ _ normal => allNormal_iff.mpr ⟨isNormal_of_several (.inl rfl), normal⟩
    alone := fun _ => id
    any := fun _ _ _ normal => allNormal_iff.mpr ⟨isNormal_of_several (.inr rfl), normal⟩ }

theorem isBlank_iff : expr.isBlank = true ↔ expr = .all [] := by
  unfold Expr.isBlank
  split <;> simp_all

/-- A query is read as the empty conjunction, and its matcher is blank, exactly if its text is
white space. Otherwise every node of the expression is normal, those in sub-filters included. -/
theorem parse_normal {text : String} {expr : Expr} (parsed : Expr.parse text = .ok expr) :
    (expr = .all [] ↔ ∀ char ∈ text.toList, isBlank char = true) ∧
    (∃ query, CompiledQuery.ofText text = .ok query ∧
      (query.isBlank = true ↔ ∀ char ∈ text.toList, isBlank char = true)) ∧
    ((¬ ∀ char ∈ text.toList, isBlank char = true) →
      ∀ node : Expr, node.Within expr → node.IsNormal text.toList) := by
  refine ⟨?_, ⟨⟨text, expr⟩, ?_, isBlank_of_parse parsed⟩, ?_⟩
  · rw [← isBlank_of_parse parsed]
    exact isBlank_iff.symm
  · rw [CompiledQuery.ofText, parsed]
    rfl
  · intro notBlank
    exact (builds_normal text.toList).readsAll maxNesting 0 text.toList expr (fun _ => id) notBlank
      parsed

/-- A group behind a sign, an empty phrase, and a day and another text as values in a
sub-filter. -/
theorem parse_normal_nested :
    let text := "+(\"\" | Ä) a:(@due<2024-02-30 @k>+3d)"
    ∃ expr, Expr.parse text = .ok expr ∧
      expr.toText = "((\"\" OR \"ä\") AND ANCESTOR((@due<\"2024-02-30\" AND @k>+3d)))" ∧
      expr ≠ .all [] ∧ ∀ node : Expr, node.Within expr → node.IsNormal text.toList := by
  intro text
  have isText : (Expr.parse text).map Expr.toText =
      .ok "((\"\" OR \"ä\") AND ANCESTOR((@due<\"2024-02-30\" AND @k>+3d)))" := by decide +kernel
  have isSign : '+' ∈ text.toList := by decide +kernel
  have notBlank : ¬ ∀ char ∈ text.toList, isBlank char = true :=
    fun blank => absurd (blank '+' isSign) (by decide)
  obtain ⟨expr, parsed, isExpr⟩ := exists_of_map_eq_ok isText
  obtain ⟨isBlank, -, normal⟩ := parse_normal parsed
  exact ⟨expr, parsed, isExpr, mt isBlank.mp notBlank, normal notBlank⟩

end Outliner.Query
