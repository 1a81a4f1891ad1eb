import Mathlib.Data.List.DropRight
import Outliner.Proofs.History
import Outliner.Proofs.Query.ShownLeaves
import Outliner.Proofs.Text.Collected

/-!
Contract: which terms are marked, and that matching nodes have them.

Owns: the texts that an expression asks for itself, those of them that it requires, that the
marked terms are these texts and no others, and which of them stand in the text of a node that
matches.

Main statements: `mem_markedTerms`, `isInfix_of_requires`, `exists_asked_text`,
`marked_terms_stand_in_text`.

Does not own: which nodes match (`Search.Match`).
-/

namespace Outliner.Query

open Outliner.Text

/-- An expression asks for a text itself: the text is reached through joined parts only, and
through no negation and no filter. -/
inductive Expr.AsksFor (needle : String) : Expr → Prop where
  | text : AsksFor needle (.leaf (.text needle))
  | all {part : Expr} {parts : List Expr} (isPart : part ∈ parts) (asks : AsksFor needle part) :
      AsksFor needle (.all parts)
  | any {part : Expr} {parts : List Expr} (isPart : part ∈ parts) (asks : AsksFor needle part) :
      AsksFor needle (.any parts)

/-- An expression requires a text: the text is reached through conjunctions only. -/
inductive Expr.Requires (needle : String) : Expr → Prop where
  | text : Requires needle (.leaf (.text needle))
  | all {part : Expr} {parts : List Expr} (isPart : part ∈ parts) (required : Requires needle part) :
      Requires needle (.all parts)

/-- An expression is joined of texts, each with a character that is no white space. -/
inductive Expr.IsTextual : Expr → Prop where
  | text {needle : String} (notBlank : ¬ ∀ char ∈ needle.toList, Text.isBlank char = true) :
      IsTextual (.leaf (.text needle))
  | all {parts : List Expr} (textual : ∀ part ∈ parts, IsTextual part) : IsTextual (.all parts)
  | any {parts : List Expr} (textual : ∀ part ∈ parts, IsTextual part) : IsTextual (.any parts)

variable {expr : Expr} {needle term : String} {source : List Char}

/-! ## The marked terms -/

mutual

/-- The texts that are collected are those the expression asks for, and none from below a
negation or a filter. -/
theorem mem_ownTexts : (expr : Expr) → (needle ∈ expr.ownTexts ↔ expr.AsksFor needle)
  | .leaf (.text other) => by
      rw [Expr.ownTexts, List.mem_singleton]
      constructor
      · rintro rfl
        exact .text
      · rintro ⟨⟩
        rfl
  | .leaf (.depth ..) | .leaf (.children ..) | .leaf (.attr ..) | .leaf (.time ..) => by
      rw [Expr.ownTexts]
      · exact ⟨nofun, nofun⟩
      · nofun
  | .parent _ | .ancestor _ | .not _ => by
      rw [Expr.ownTexts]
      exact ⟨nofun, nofun⟩
  | .all parts => by
      rw [Expr.ownTexts, mem_ownTextsOfParts parts]
      constructor
      · rintro ⟨part, isPart, asks⟩
        exact .all isPart asks
      · rintro ⟨⟩
        exact ⟨_, ‹_›, ‹_›⟩
  | .any parts => by
      rw [Expr.ownTexts, mem_ownTextsOfParts parts]
      constructor
      · rintro ⟨part, isPart, asks⟩
        exact .any isPart asks
      · rintro ⟨⟩
        exact ⟨_, ‹_›, ‹_›⟩

theorem mem_ownTextsOfParts : (parts : List Expr) →
    (needle ∈ Expr.ownTextsOfParts parts ↔ ∃ part ∈ parts, part.AsksFor needle)
  | [] => by
      rw [Expr.ownTextsOfParts]
      simp
  | part :: rest => by
      rw [Expr.ownTextsOfParts, List.mem_append, mem_ownTexts part, mem_ownTextsOfParts rest]
      simp

end

/-- The marked terms come in ascending order, each once. -/
theorem markedTerms_ascending (expr : Expr) : expr.markedTerms.Pairwise (· < ·) :=
  foldl_insertText_ascending _ .nil

/-- The marked terms are the texts that the expression asks for, as they are marked, but for those
of which nothing is left. -/
theorem mem_markedTerms : term ∈ expr.markedTerms ↔
    term ≠ "" ∧ ∃ needle, expr.AsksFor needle ∧ markedForm needle = term := by
  unfold Expr.markedTerms
  rw [mem_foldl_insertText, List.mem_filter, List.mem_map, decide_eq_true_iff, and_comm]
  simp only [mem_ownTexts, List.not_mem_nil, or_false]

/-! ## Texts as they are marked -/

/-- What is left of a text without blanks at its ends stands in the text. -/
theorem trim_isInfix (text : List Char) : trim text <:+: text := by
  have atEnd : trimEnd (trimStart text) <+: trimStart text := List.rdropWhile_prefix isBlank _
  exact atEnd.isInfix.trans (List.dropWhile_suffix isBlank).isInfix

/-- A text in lower case is marked as it is, without blanks at its ends. -/
theorem markedForm_of_lower (isLower : lowerChars needle.toList = needle.toList) :
    markedForm needle = String.ofList (trim needle.toList) := by
  have small : ∀ char ∈ trim needle.toList, IsSmall char := fun char member =>
    isSmall_of_mem_lowerFrom (isLower ▸ (trim_isInfix needle.toList).subset member)
  rw [markedForm, lowerChars, lowerFrom_of_isSmall small]

/-- What is marked of a text in lower case stands in that text. -/
theorem markedForm_isInfix (isLower : lowerChars needle.toList = needle.toList) :
    (markedForm needle).toList <:+: needle.toList := by
  rw [markedForm_of_lower isLower, String.toList_ofList]
  exact trim_isInfix needle.toList

theorem markedForm_ne_empty (isLower : lowerChars needle.toList = needle.toList)
    (notBlank : ¬ ∀ char ∈ needle.toList, isBlank char = true) : markedForm needle ≠ "" := by
  rw [markedForm_of_lower isLower]
  intro isEmpty
  rw [String.ofList_eq_empty_iff] at isEmpty
  exact notBlank (isBlank_of_trim (List.isEmpty_iff.mpr isEmpty))

/-- A text that an expression asks for is a node of the expression. -/
theorem Expr.AsksFor.within (asks : expr.AsksFor needle) :
    (Expr.leaf (.text needle)).Within expr := by
  induction asks with
  | text => exact .self _
  | all isPart _ inductionHypothesis => exact .deeper isPart inductionHypothesis
  | any isPart _ inductionHypothesis => exact .deeper isPart inductionHypothesis

/-- A required text is asked for: conjunctions are among what is collected through. -/
theorem Expr.Requires.asksFor (required : expr.Requires needle) : expr.AsksFor needle := by
  induction required with
  | text => exact .text
  | all isPart _ inductionHypothesis => exact .all isPart inductionHypothesis

end Outliner.Query

namespace Outliner.Search

open Outliner.Query Outliner.Text

variable {scene : Scene} {slot : Nat} {node : Node} {expr : Expr} {needle : String}
  {source : List Char}

/-! ## Matching nodes -/

theorem allHold_iff (scene : Scene) (parts : List Expr) (slot : Nat) (node : Node) :
    allHold scene parts slot node = true ↔ ∀ part ∈ parts, exprHolds scene part slot node = true := by
  induction parts with
  | nil => simp [allHold]
  | cons part rest inductionHypothesis => simp [allHold, inductionHypothesis]

theorem anyHolds_iff (scene : Scene) (parts : List Expr) (slot : Nat) (node : Node) :
    anyHolds scene parts slot node = true ↔ ∃ part ∈ parts, exprHolds scene part slot node = true := by
  induction parts with
  | nil => simp [anyHolds]
  | cons part rest inductionHypothesis => simp [anyHolds, inductionHypothesis]

/-- A text is matched only by a node whose lowercase text has it as a part. -/
theorem isInfix_of_exprHolds (matched : exprHolds scene (.leaf (.text needle)) slot node = true) :
    needle.toList <:+: (lowercase node.text).toList := by
  rw [exprHolds] at matched
  exact (contains_iff _ _).mp matched

/-- A node that matches has every text in it that the expression requires. -/
theorem isInfix_of_requires (required : expr.Requires needle)
    (matched : exprHolds scene expr slot node = true) :
    needle.toList <:+: (lowercase node.text).toList := by
  induction required with
  | text => exact isInfix_of_exprHolds matched
  | all isPart _ inductionHypothesis =>
      rw [exprHolds, allHold_iff] at matched
      exact inductionHypothesis (matched _ isPart)

/-- A node that matches an expression joined of texts has one of the texts in it. A conjunction
needs a part for that, which normal ones have. -/
theorem exists_asked_text (textual : expr.IsTextual) (normal : expr.AllNormal source)
    (matched : exprHolds scene expr slot node = true) :
    ∃ needle, expr.AsksFor needle ∧ (¬ ∀ char ∈ needle.toList, isBlank char = true) ∧
      needle.toList <:+: (lowercase node.text).toList := by
  induction textual with
  | text notBlank => exact ⟨_, .text, notBlank, isInfix_of_exprHolds matched⟩
  | @all parts textual inductionHypothesis =>
      obtain ⟨isNormal, partsNormal⟩ := allNormal_iff.mp normal
      obtain ⟨first, isFirst⟩ : ∃ first, first ∈ parts :=
        List.exists_mem_of_length_pos (Nat.lt_of_lt_of_le Nat.two_pos
          (isNormal.joined parts (.inl rfl)))
      rw [exprHolds, allHold_iff] at matched
      obtain ⟨needle, asks, rest⟩ :=
        inductionHypothesis first isFirst (partsNormal first isFirst) (matched first isFirst)
      exact ⟨needle, .all isFirst asks, rest⟩
  | @any parts textual inductionHypothesis =>
      rw [exprHolds, anyHolds_iff] at matched
      obtain ⟨part, isPart, matched⟩ := matched
      obtain ⟨needle, asks, rest⟩ :=
        inductionHypothesis part isPart ((allNormal_iff.mp normal).2 part isPart) matched
      exact ⟨needle, .any isPart asks, rest⟩

/-- The marked terms ascend, and are the texts that the expression asks for itself, trimmed and in
lower case, but for empty ones. If the expression is read from a query, a node that matches has
each text in it that the expression requires, as it is and as it is marked. If the query is not
blank and is joined of texts that are not, one of the marked terms is in the node's text. -/
theorem marked_terms_stand_in_text (expr : Expr) :
    expr.markedTerms.Pairwise (· < ·) ∧
    (∀ term, term ∈ expr.markedTerms ↔ term ≠ "" ∧ ∃ needle, expr.AsksFor needle ∧
      lowercase (String.ofList (trim needle.toList)) = term) ∧
    ∀ query, Expr.parse query = .ok expr → ∀ scene slot node,
      scene.document.node? slot = some node → matchesSlot scene expr slot = true →
        (∀ needle, expr.Requires needle →
          needle.toList <:+: (lowercase node.text).toList ∧
          (lowercase (String.ofList (trim needle.toList))).toList <:+:
            (lowercase node.text).toList) ∧
        ((¬ ∀ char ∈ query.toList, isBlank char = true) → expr.IsTextual →
          ∃ term ∈ expr.markedTerms, term.toList <:+: (lowercase node.text).toList) := by
  have isForm : ∀ needle, lowercase (String.ofList (trim needle.toList)) = markedForm needle := by
    intro needle
    rw [lowercase, String.toList_ofList, markedForm]
  simp only [isForm]
  refine ⟨markedTerms_ascending expr, fun term => mem_markedTerms, ?_⟩
  intro query parsed scene slot node found matched
  have matched : exprHolds scene expr slot node = true := by
    rwa [matchesSlot, found, Option.any_some] at matched
  have isLower : ∀ needle, expr.AsksFor needle → lowerChars needle.toList = needle.toList :=
    fun needle asks => isReadable_of_within parsed asks.within
  constructor
  · intro needle required
    have stands := isInfix_of_requires required matched
    exact ⟨stands, (markedForm_isInfix (isLower needle required.asksFor)).trans stands⟩
  · intro notBlank textual
    obtain ⟨needle, asks, needleNotBlank, stands⟩ :=
      exists_asked_text textual ((parse_normal parsed).2.2 notBlank) matched
    have lower := isLower needle asks
    exact ⟨markedForm needle,
      mem_markedTerms.mpr ⟨markedForm_ne_empty lower needleNotBlank, needle, asks, rfl⟩,
      (markedForm_isInfix lower).trans stands⟩

/-- A phrase with blanks at its ends, where the sigma at the end of its word becomes final. -/
theorem marked_terms_stand_in_text_trimmed :
    let query := "\" ΟΔΟΣ\u00a0\""
    let document := Operation.run [.addRoot (Record.plain (.ofNat 1) "x ΟΔΟΣ\u00a0y" .last .last)]
    let scene := Scene.ofNow document .universal .last
    ∃ expr node, Expr.parse query = .ok expr ∧ scene.document.node? 0 = some node ∧
      lowercase node.text = "x οδος\u00a0y" ∧ matchesSlot scene expr 0 = true ∧
      expr.markedTerms = ["οδος"] ∧ expr.Requires " οδος\u00a0" ∧
      " οδος\u00a0".toList <:+: (lowercase node.text).toList ∧
      "οδος".toList <:+: (lowercase node.text).toList ∧ expr.IsTextual ∧
      ∃ term ∈ expr.markedTerms, term.toList <:+: (lowercase node.text).toList := by
  intro query document scene
  have isLower : lowercase " ΟΔΟΣ\u00a0" = " οδος\u00a0" := by decide +kernel
  have parsed : Expr.parse query = .ok (.leaf (.text " οδος\u00a0")) := by
    have isPhrase := parse_inQuotes (show isQuotationMark '"' = true by decide)
      " ΟΔΟΣ\u00a0".toList
    rw [← isLower]
    exact isPhrase
  have found : scene.document.node? 0 =
      some ((Record.plain (.ofNat 1) "x ΟΔΟΣ\u00a0y" .last .last).toNode none) := by decide +kernel
  have matched : matchesSlot scene (.leaf (.text " οδος\u00a0")) 0 = true := by decide +kernel
  have notBlank : ∀ text ∈ [" οδος\u00a0", query],
      ¬ ∀ char ∈ text.toList, isBlank char = true := by
    simp only [← List.all_eq_true]
    decide +kernel
  have textual : Expr.IsTextual (.leaf (.text " οδος\u00a0")) := .text (notBlank _ (by decide))
  obtain ⟨required, marked⟩ :=
    (marked_terms_stand_in_text _).2.2 query parsed scene 0 _ found matched
  obtain ⟨stands, standsMarked⟩ := required " οδος\u00a0" .text
  have isForm : lowercase (String.ofList (trim " οδος\u00a0".toList)) = "οδος" := by
    decide +kernel
  rw [isForm] at standsMarked
  exact ⟨_, _, parsed, found, by decide +kernel, matched, by decide +kernel, .text, stands,
    standsMarked, textual, marked (notBlank _ (by decide)) textual⟩

end Outliner.Search
