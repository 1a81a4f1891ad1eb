import Outliner.Proofs.History
import Outliner.Proofs.Query.Quoting
import Outliner.Proofs.Text.Lowering
import Outliner.Search.Match

/-!
Contract: which nodes a part of their text finds.

Owns: that a query which is a part of a node's text in quotes finds the node, if the part reads
the same in lower case alone and in the text.

Main statement: `substring_found`.

Does not own: which parts read the same (`Proofs.Text.Lowering`), and what quotes hide
(`Proofs.Query.Quoting`).
-/

namespace Outliner.Search

open Outliner.Calendar Outliner.Query Outliner.Text

variable {scene : Scene} {slot : Nat} {node : Node} {before part behind : List Char}

/-- A text is found by what its lower case has. -/
theorem matchesSlot_text (found : scene.document.node? slot = some node) (needle : List Char) :
    matchesSlot scene (.leaf (.text (String.ofList needle))) slot =
      occursIn needle (lowerChars node.text.toList) := by
  rw [matchesSlot_leaf found, leafHolds, contains, lowercase, String.toList_ofList,
    String.toList_ofList]

/-- Each part of the text of a node, in quotes, is a query. It finds the node if each capital
sigma of the part ends a word of the part exactly if it ends a word of the text. -/
theorem substring_found (found : scene.document.node? slot = some node)
    (isText : node.text.toList = before ++ part ++ behind) :
    ∃ expr, Expr.parse (String.ofList (inQuotes '"' part)) = .ok expr ∧
      (SigmasAgree before part behind → matchesSlot scene expr slot = true) := by
  refine ⟨_, parse_inQuotes (by decide) part, fun agree => ?_⟩
  rw [matchesSlot_text found, isText]
  exact occursIn_lowerChars agree

/-- A part with a backslash, a quotation mark and a word that ends in a capital sigma is found. -/
theorem substring_found_hidden :
    let document := Operation.run [.addRoot (Record.plain (.ofNat 1) "a\\\"ΟΔΟΣ» b" .last .last)]
    let scene := Scene.ofNow document .universal .last
    ∃ expr, Expr.parse "\"\\\\\\\"ΟΔΟΣ\"" = .ok expr ∧ matchesSlot scene expr 0 = true := by
  intro document scene
  obtain ⟨node, found⟩ : ∃ node, scene.document.node? 0 = some node :=
    Option.isSome_iff_exists.mp (by decide +kernel)
  have isText : node.text.toList = "a".toList ++ "\\\"ΟΔΟΣ".toList ++ "» b".toList := by
    have text : ((scene.document.node? 0).map (·.text.toList)) =
        some ("a".toList ++ "\\\"ΟΔΟΣ".toList ++ "» b".toList) := by decide +kernel
    rw [found] at text
    exact Option.some.inj text
  obtain ⟨expr, parsed, matched⟩ := substring_found found isText
  exact ⟨expr, parsed, matched (by decide +kernel)⟩

/-- A capital sigma is not found in the word that it ends: there it becomes the final small
sigma, alone the other one. -/
theorem substring_lost_at_word_end :
    let document := Operation.run [.addRoot (Record.plain (.ofNat 1) "ΑΣ" .last .last)]
    let scene := Scene.ofNow document .universal .last
    (document.node? 0).map (·.text) = some "ΑΣ" ∧ "ΑΣ".toList = ['Α'] ++ ['Σ'] ++ [] ∧
      ∃ expr, Expr.parse (String.ofList (inQuotes '"' ['Σ'])) = .ok expr ∧
        ¬ matchesSlot scene expr 0 = true := by
  intro document scene
  exact ⟨by decide +kernel, by decide +kernel, _, parse_inQuotes (by decide) ['Σ'],
    by decide +kernel⟩

end Outliner.Search
