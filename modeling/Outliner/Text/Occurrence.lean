/-!
Contract: whether one text occurs inside another.

Owns: the search for a contiguous occurrence, and that it finds the infixes and nothing else.

Does not own: letter case.
-/

namespace Outliner.Text

/-- Whether `needle` stands somewhere in the text without a gap. -/
def occursIn (needle : List Char) : List Char → Bool
  | [] => needle.isEmpty
  | text@(_ :: rest) => needle.isPrefixOf text || occursIn needle rest

/-- The search finds a text exactly if it is a contiguous part. -/
theorem occursIn_iff (needle text : List Char) : occursIn needle text = true ↔ needle <:+: text := by
  induction text with
  | nil => rw [occursIn, List.isEmpty_iff, List.infix_nil]
  | cons head rest inductionHypothesis =>
      rw [occursIn, Bool.or_eq_true, List.isPrefixOf_iff_prefix, inductionHypothesis,
        List.infix_cons_iff]

def contains (text needle : String) : Bool :=
  occursIn needle.toList text.toList

/-- A text contains another exactly if its characters are a contiguous part. -/
theorem contains_iff (text needle : String) :
    contains text needle = true ↔ needle.toList <:+: text.toList :=
  occursIn_iff needle.toList text.toList

end Outliner.Text
