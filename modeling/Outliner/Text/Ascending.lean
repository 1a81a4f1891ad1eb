/-!
Contract: finite sets and maps of texts, kept in ascending order.

Owns: insertion and removal on ascending lists, and the types `TextSet` and
`TextMap` whose entries are always strictly ascending by code points. Equal
contents are therefore equal values.

Does not own: what the texts mean (tags, attributes, search terms).
-/

namespace Outliner.Text

theorem lt_of_not_lt_of_ne {left right : String} (notLess : ¬ left < right)
    (different : left ≠ right) : right < left := by
  rcases Decidable.em (right < left) with less | notGreater
  · exact less
  · exact absurd (String.le_antisymm (String.not_lt.mp notGreater)
      (String.not_lt.mp notLess)) different

/-- Inserts a text into an ascending list, unless it is there. -/
def insertText (text : String) : List String → List String
  | [] => [text]
  | head :: rest =>
    if text < head then text :: head :: rest
    else if text = head then head :: rest
    else head :: insertText text rest

theorem mem_insertText {text candidate : String} {texts : List String} :
    candidate ∈ insertText text texts ↔ candidate = text ∨ candidate ∈ texts := by
  induction texts with
  | nil => simp [insertText]
  | cons head rest inductionHypothesis =>
      simp only [insertText]
      split
      · simp
      · split
        · rename_i equal
          subst equal
          simp
        · simp only [List.mem_cons, inductionHypothesis]
          exact or_left_comm

theorem insertText_ascending {text : String} {texts : List String}
    (ascending : texts.Pairwise (· < ·)) : (insertText text texts).Pairwise (· < ·) := by
  induction texts with
  | nil => simp [insertText]
  | cons head rest inductionHypothesis =>
      rw [List.pairwise_cons] at ascending
      simp only [insertText]
      split
      · rename_i less
        refine List.pairwise_cons.mpr ⟨?_, List.pairwise_cons.mpr ascending⟩
        intro other member
        rcases List.mem_cons.mp member with rfl | inRest
        · exact less
        · exact String.lt_trans less (ascending.1 other inRest)
      · split
        · exact List.pairwise_cons.mpr ascending
        · rename_i notLess different
          refine List.pairwise_cons.mpr ⟨?_, inductionHypothesis ascending.2⟩
          intro other member
          rcases mem_insertText.mp member with rfl | inRest
          · exact lt_of_not_lt_of_ne notLess different
          · exact ascending.1 other inRest

structure TextSet where
  texts : List String
  ascending : texts.Pairwise (· < ·)
deriving DecidableEq

namespace TextSet

def empty : TextSet := ⟨[], .nil⟩

def contains (set : TextSet) (text : String) : Bool :=
  set.texts.contains text

def insert (set : TextSet) (text : String) : TextSet :=
  ⟨insertText text set.texts, insertText_ascending set.ascending⟩

def ofList (texts : List String) : TextSet :=
  texts.foldl TextSet.insert empty

/-- An inserted text is contained, and every other text as before. -/
theorem contains_insert (set : TextSet) (text candidate : String) :
    (set.insert text).contains candidate = (candidate == text || set.contains candidate) := by
  rw [Bool.eq_iff_iff]
  simp [contains, insert, mem_insertText]

end TextSet

/-- Binds a key in a list of bindings with ascending keys. -/
def bindKey (key value : String) : List (String × String) → List (String × String)
  | [] => [(key, value)]
  | head :: rest =>
    if key < head.1 then (key, value) :: head :: rest
    else if key = head.1 then (key, value) :: rest
    else head :: bindKey key value rest

theorem mem_keys_bindKey {key value candidate : String} {entries : List (String × String)} :
    candidate ∈ (bindKey key value entries).map Prod.fst ↔
      candidate = key ∨ candidate ∈ entries.map Prod.fst := by
  induction entries with
  | nil => simp [bindKey]
  | cons head rest inductionHypothesis =>
      simp only [bindKey]
      split
      · simp
      · split
        · rename_i equal
          simp [equal]
        · simp only [List.map_cons, List.mem_cons, inductionHypothesis]
          exact or_left_comm

theorem bindKey_ascending {key value : String} {entries : List (String × String)}
    (ascending : (entries.map Prod.fst).Pairwise (· < ·)) :
    ((bindKey key value entries).map Prod.fst).Pairwise (· < ·) := by
  induction entries with
  | nil => simp [bindKey]
  | cons head rest inductionHypothesis =>
      rw [List.map_cons, List.pairwise_cons] at ascending
      simp only [bindKey]
      split
      · rename_i less
        refine List.pairwise_cons.mpr ⟨?_, List.pairwise_cons.mpr ascending⟩
        intro other member
        rcases List.mem_cons.mp member with rfl | inRest
        · exact less
        · exact String.lt_trans less (ascending.1 other inRest)
      · split
        · rename_i equal
          exact List.pairwise_cons.mpr ⟨fun other member =>
            by simpa [equal] using ascending.1 other member, ascending.2⟩
        · rename_i notLess different
          refine List.pairwise_cons.mpr ⟨?_, inductionHypothesis ascending.2⟩
          intro other member
          rcases mem_keys_bindKey.mp member with rfl | inRest
          · exact lt_of_not_lt_of_ne notLess different
          · exact ascending.1 other inRest

structure TextMap where
  entries : List (String × String)
  ascending : (entries.map Prod.fst).Pairwise (· < ·)
deriving DecidableEq

namespace TextMap

def empty : TextMap := ⟨[], .nil⟩

def get? (map : TextMap) (key : String) : Option String :=
  map.entries.lookup key

/-- The map with a key bound to a value, whatever it was bound to before. -/
def insert (map : TextMap) (key value : String) : TextMap :=
  ⟨bindKey key value map.entries, bindKey_ascending map.ascending⟩

def erase (map : TextMap) (key : String) : TextMap :=
  ⟨map.entries.filter fun entry => entry.1 != key,
    map.ascending.sublist (List.filter_sublist.map Prod.fst)⟩

/-- The map of a list of bindings, where a later binding of a key wins. -/
def ofList (entries : List (String × String)) : TextMap :=
  entries.foldl (fun map entry => map.insert entry.1 entry.2) empty

/-- A key is bound to the value inserted last. -/
theorem get?_insert_self (map : TextMap) (key value : String) :
    (map.insert key value).get? key = some value := by
  obtain ⟨entries, ascending⟩ := map
  simp only [get?, insert]
  clear ascending
  induction entries with
  | nil => simp [bindKey]
  | cons head rest inductionHypothesis =>
      simp only [bindKey]
      split
      · simp
      · split
        · simp
        · rename_i different
          rw [List.lookup_cons, beq_eq_false_iff_ne.mpr different]
          exact inductionHypothesis

theorem get?_insert_of_ne (map : TextMap) {key other : String} (value : String)
    (different : other ≠ key) : (map.insert key value).get? other = map.get? other := by
  obtain ⟨entries, ascending⟩ := map
  simp only [get?, insert]
  clear ascending
  have unequal : (other == key) = false := beq_eq_false_iff_ne.mpr different
  induction entries with
  | nil => simp [bindKey, List.lookup_cons, unequal]
  | cons head rest inductionHypothesis =>
      simp only [bindKey]
      split
      · rw [List.lookup_cons, unequal]
      · split
        · rename_i equal
          rw [List.lookup_cons, List.lookup_cons, unequal, ← equal, unequal]
        · rw [List.lookup_cons, List.lookup_cons, inductionHypothesis]

end TextMap

end Outliner.Text
