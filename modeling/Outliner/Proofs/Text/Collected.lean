import Outliner.Text.Ascending

/-!
Contract: what becomes of texts that are collected one after another.

Owns: the members of a list that texts are inserted into, that it stays ascending, and that a set
or a map is collected again from its own entries.

Main statements: `mem_foldl_insertText`, `TextSet.ofList_texts`, `TextMap.ofList_entries`.

Does not own: a single insertion (`Text.Ascending`).
-/

namespace Outliner.Text

variable {texts front rest : List String} {text candidate : String}

/-- Inserting texts into a list adds them and nothing else. -/
theorem mem_foldl_insertText (texts front : List String) :
    candidate ∈ texts.foldl (fun kept text => insertText text kept) front ↔
      candidate ∈ texts ∨ candidate ∈ front := by
  induction texts generalizing front with
  | nil => simp
  | cons text rest inductionHypothesis =>
      rw [List.foldl_cons, inductionHypothesis, mem_insertText, List.mem_cons, or_left_comm,
        or_assoc]

theorem foldl_insertText_ascending (texts : List String) (ascending : front.Pairwise (· < ·)) :
    (texts.foldl (fun kept text => insertText text kept) front).Pairwise (· < ·) := by
  induction texts generalizing front with
  | nil => exact ascending
  | cons text rest inductionHypothesis => exact inductionHypothesis (insertText_ascending ascending)

/-! ## Sets from their texts -/

theorem insertText_last (isLast : ∀ other ∈ texts, other < text) :
    insertText text texts = texts ++ [text] := by
  induction texts with
  | nil => rfl
  | cons head rest inductionHypothesis =>
      obtain ⟨isBehind, isLast⟩ := List.forall_mem_cons.mp isLast
      have different : text ≠ head := by
        rintro rfl
        exact String.lt_irrefl _ isBehind
      rw [insertText, if_neg (String.lt_asymm isBehind), if_neg different,
        inductionHypothesis isLast, List.cons_append]

/-- An ascending list is collected into itself. -/
theorem foldl_insertText_self (ascending : (front ++ rest).Pairwise (· < ·)) :
    rest.foldl (fun kept text => insertText text kept) front = front ++ rest := by
  induction rest generalizing front with
  | nil => exact (List.append_nil front).symm
  | cons text rest inductionHypothesis =>
      have isLast : ∀ other ∈ front, other < text := fun other member =>
        (List.pairwise_append.mp ascending).2.2 other member text List.mem_cons_self
      rw [List.append_cons] at ascending ⊢
      rw [List.foldl_cons, insertText_last isLast, inductionHypothesis ascending]

theorem TextSet.texts_foldl_insert (texts : List String) (set : TextSet) :
    (texts.foldl TextSet.insert set).texts =
      texts.foldl (fun kept text => insertText text kept) set.texts := by
  induction texts generalizing set with
  | nil => rfl
  | cons text rest inductionHypothesis => exact inductionHypothesis (set.insert text)

theorem TextSet.eq_of_texts {left right : TextSet} (same : left.texts = right.texts) :
    left = right := by
  cases left
  cases right
  cases same
  rfl

/-- A set is the set of the texts that it lists. -/
theorem TextSet.ofList_texts (set : TextSet) : TextSet.ofList set.texts = set := by
  apply TextSet.eq_of_texts
  rw [TextSet.ofList, TextSet.texts_foldl_insert]
  exact @foldl_insertText_self [] set.texts set.ascending

/-! ## Maps from their entries -/

variable {entries firstEntries restEntries : List (String × String)} {key value : String}

theorem bindKey_last (isLast : ∀ entry ∈ entries, entry.1 < key) :
    bindKey key value entries = entries ++ [(key, value)] := by
  induction entries with
  | nil => rfl
  | cons head rest inductionHypothesis =>
      obtain ⟨isBehind, isLast⟩ := List.forall_mem_cons.mp isLast
      have different : key ≠ head.1 := by
        rintro rfl
        exact String.lt_irrefl _ isBehind
      rw [bindKey, if_neg (String.lt_asymm isBehind), if_neg different,
        inductionHypothesis isLast, List.cons_append]

/-- Entries with ascending keys are collected into themselves. -/
theorem foldl_bindKey_self
    (ascending : ((firstEntries ++ restEntries).map Prod.fst).Pairwise (· < ·)) :
    restEntries.foldl (fun kept entry => bindKey entry.1 entry.2 kept) firstEntries =
      firstEntries ++ restEntries := by
  induction restEntries generalizing firstEntries with
  | nil => exact (List.append_nil firstEntries).symm
  | cons entry rest inductionHypothesis =>
      have isLast : ∀ other ∈ firstEntries, other.1 < entry.1 := by
        rw [List.map_append, List.pairwise_append] at ascending
        exact fun other member => ascending.2.2 other.1 (List.mem_map_of_mem member) entry.1
          (List.mem_map_of_mem List.mem_cons_self)
      rw [List.append_cons] at ascending ⊢
      rw [List.foldl_cons, bindKey_last isLast, inductionHypothesis ascending]

theorem TextMap.entries_foldl_insert (entries : List (String × String)) (map : TextMap) :
    (entries.foldl (fun map entry => map.insert entry.1 entry.2) map).entries =
      entries.foldl (fun kept entry => bindKey entry.1 entry.2 kept) map.entries := by
  induction entries generalizing map with
  | nil => rfl
  | cons entry rest inductionHypothesis => exact inductionHypothesis (map.insert entry.1 entry.2)

theorem TextMap.eq_of_entries {left right : TextMap} (same : left.entries = right.entries) :
    left = right := by
  cases left
  cases right
  cases same
  rfl

/-- A map is the map of the bindings that it lists. -/
theorem TextMap.ofList_entries (map : TextMap) : TextMap.ofList map.entries = map := by
  apply TextMap.eq_of_entries
  rw [TextMap.ofList, TextMap.entries_foldl_insert]
  exact @foldl_bindKey_self [] map.entries map.ascending

end Outliner.Text
