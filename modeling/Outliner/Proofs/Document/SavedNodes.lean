import Outliner.Document.Saved
import Outliner.Proofs.Calendar.WrittenInstants
import Outliner.Proofs.Json.ReadBack
import Outliner.Proofs.Text.Collected

/-!
Contract: nodes that are saved are read back.

Owns: that identifiers, metadata and records are read back from their JSON form, that this form is
made of texts only, and what becomes of a node that is saved and read back.

A record has one saved form, whatever the form it was read from; so saving is stable after it was
done once.

Main statement: `Node.saving_round_trips`.

Does not own: the text of JSON (`Proofs.Json.ReadBack`).
-/

namespace Outliner

open Outliner.Calendar Outliner.Text Outliner.Numeral

/-! ## Lists and objects of saved values -/

/-- A list is restored if each of its values is. -/
theorem mapM_map_of_inverse {α β : Type} {save : α → β} {restore : β → Option α}
    (inverse : ∀ value, restore (save value) = some value) (values : List α) :
    (values.map save).mapM restore = some values := by
  induction values with
  | nil => rfl
  | cons value values inductionHypothesis =>
      rw [List.map_cons, List.mapM_cons, inverse, inductionHypothesis]
      rfl

namespace Json

def named (fields : List (String × Json)) : List (Option String × Json) :=
  fields.map fun (name, value) => (some name, value)

variable {fields : List (String × Json)} {name : String} {value : Json}

theorem valuesOf_named_cons (name : String) (field : String × Json)
    (fields : List (String × Json)) :
    valuesOf name (named (field :: fields)) =
      if field.1 = name then field.2 :: valuesOf name (named fields)
      else valuesOf name (named fields) := by
  by_cases same : field.1 = name <;> simp [valuesOf, named, same]

theorem valuesOf_of_not_mem (missing : name ∉ fields.map Prod.fst) :
    valuesOf name (named fields) = [] := by
  induction fields with
  | nil => rfl
  | cons field fields inductionHypothesis =>
      rw [List.map_cons, List.mem_cons, not_or] at missing
      rw [valuesOf_named_cons, if_neg (Ne.symm missing.1), inductionHypothesis missing.2]

/-- Where names are distinct, each field has its own value and no other. -/
theorem valuesOf_of_mem (distinct : (fields.map Prod.fst).Nodup)
    (member : (name, value) ∈ fields) :
    valuesOf name (named fields) = [value] := by
  induction fields with
  | nil => cases member
  | cons field fields inductionHypothesis =>
      obtain ⟨isNew, distinct⟩ := List.nodup_cons.mp distinct
      rw [valuesOf_named_cons]
      rcases List.mem_cons.mp member with rfl | inRest
      · rw [if_pos rfl, valuesOf_of_not_mem isNew]
      · have different : field.1 ≠ name := fun same =>
          isNew (same ▸ List.mem_map_of_mem (f := Prod.fst) inRest)
        rw [if_neg different, inductionHypothesis distinct inRest]

/-- An object with the fields of a record, each once, is read as this record. -/
theorem fields?_named (distinct : (fields.map Prod.fst).Nodup) :
    (Json.object (named fields)).fields? (fields.map Prod.fst) =
      some (fields.map fun (_, value) => some value) := by
  have areNamed : ((named fields).all (·.1.isSome)) = true := by
    unfold named
    rw [List.all_map, List.all_eq_true]
    exact fun _ _ => rfl
  have areSingle : ((fields.map Prod.fst).all fun name =>
      decide ((valuesOf name (named fields)).length ≤ 1)) = true := by
    rw [List.all_map, List.all_eq_true]
    intro field member
    exact decide_eq_true (by rw [valuesOf_of_mem distinct member, List.length_singleton])
  unfold fields?
  dsimp only
  rw [areNamed, areSingle, Bool.and_self, if_pos rfl, List.map_map]
  congr 1
  apply List.map_congr_left
  intro field member
  exact congrArg List.head? (valuesOf_of_mem distinct member)

end Json

/-! ## Identifiers -/

namespace NodeId

theorem unhyphenate?_groups {first second third fourth last : List Char}
    (firstLength : first.length = 8) (secondLength : second.length = 4)
    (thirdLength : third.length = 4) (fourthLength : fourth.length = 4)
    (lastLength : last.length = 12) :
    unhyphenate? (first ++ '-' :: (second ++ '-' :: (third ++ '-' :: (fourth ++ '-' :: last)))) =
      some (first ++ (second ++ (third ++ (fourth ++ last)))) := by
  unfold unhyphenate?
  rw [if_pos (by simp [firstLength, secondLength, thirdLength, fourthLength, lastLength])]
  simp (disch := omega) [List.drop_append, List.drop_eq_nil_of_le, firstLength, secondLength,
    thirdLength, fourthLength]

theorem join_groups (digits : List Char) :
    digits.take 8 ++ ((digits.drop 8).take 4 ++ ((digits.drop 12).take 4 ++
      ((digits.drop 16).take 4 ++ digits.drop 20))) = digits := by
  have join (place count : Nat) :
      (digits.drop place).take count ++ digits.drop (place + count) = digits.drop place := by
    rw [← List.drop_drop, List.take_append_drop]
  rw [join 16 4, join 12 4, join 8 4, List.take_append_drop]

/-- Hyphens that were put in are taken out again. -/
theorem unhyphenate?_hyphenate {digits : List Char} (length : digits.length = 32) :
    unhyphenate? (hyphenate digits) = some digits := by
  have groups := @unhyphenate?_groups (digits.take 8) ((digits.drop 8).take 4)
    ((digits.drop 12).take 4) ((digits.drop 16).take 4) (digits.drop 20) (by simp [length])
    (by simp [length]) (by simp [length]) (by simp [length]) (by simp [length])
  rw [join_groups] at groups
  rw [← groups, hyphenate]
  simp only [List.append_assoc, List.cons_append, List.nil_append]

theorem length_hyphenate {digits : List Char} (length : digits.length = 32) :
    (hyphenate digits).length = 36 := by
  simp [hyphenate, length]

/-- Identifiers are read back from the form in which they are written. -/
theorem ofSpelling?_write (id : NodeId) : ofSpelling? id.write = some id := by
  have length := length_hexDigits 32 id.toNat
  have isWritten := length_hyphenate length
  have fits : id.toNat < Nat.pow 16 32 := id.bits.isLt
  have isDigits : digitsOf? id.write = some (hexDigits 32 id.toNat) := by
    unfold digitsOf? write
    rw [isWritten, if_neg (by decide), if_pos rfl, unhyphenate?_hyphenate length]
  have isId : ofNat id.toNat = id := by
    unfold ofNat toNat
    rw [BitVec.ofNat_toNat, BitVec.setWidth_eq]
  rw [ofSpelling?, isDigits, Option.bind_some, ofHex?_hexDigits fits, Option.map_some, isId]

theorem ofJson?_toJson (id : NodeId) : ofJson? id.toJson = some id := by
  unfold ofJson? toJson
  rw [Json.asText?, Option.bind_some, String.toList_ofList, ofSpelling?_write]

theorem isTextual_toJson (id : NodeId) : id.toJson.IsTextual :=
  .text _

end NodeId

/-! ## Metadata -/

namespace Metadata

/-- Instants are read back from JSON. -/
theorem instantOfJson?_instantToJson (instant : Instant) :
    instantOfJson? (instantToJson instant) = some instant := by
  unfold instantOfJson? instantToJson
  rw [Json.asText?, Option.bind_some, String.toList_ofList, readInstant_write]

theorem asTexts?_texts (texts : List String) :
    (Json.array (texts.map fun text => .text (some text))).asTexts? = some texts :=
  @mapM_map_of_inverse _ _ (fun text => Json.text (some text)) Json.asText? (fun _ => rfl) texts

theorem asBindings?_entries (entries : List (String × String)) :
    (Json.object (entries.map fun (key, value) => (some key, .text (some value)))).asBindings? =
      some entries := by
  unfold Json.asBindings?
  dsimp only
  apply mapM_map_of_inverse
  exact fun _ => rfl

theorem fields?_toJson (metadata : Metadata) :
    metadata.toJson.fields? fieldNames =
      some [some (.array (metadata.tags.texts.map fun tag => .text (some tag))),
        some (.object (metadata.attributes.entries.map fun (key, value) =>
          (some key, .text (some value)))),
        some (instantToJson metadata.created), some (instantToJson metadata.modified)] :=
  @Json.fields?_named [("tags", _), ("attributes", _), ("created", _), ("modified", _)]
    (show fieldNames.Nodup by decide)

/-- Metadata is read back from its JSON form: the sets and maps are listed in their order. -/
theorem ofJson?_toJson (metadata : Metadata) : ofJson? metadata.toJson = some metadata := by
  unfold ofJson?
  simp only [fields?_toJson, asTexts?_texts, asBindings?_entries, Option.map_some,
    TextSet.ofList_texts, TextMap.ofList_entries, instantOfJson?_instantToJson, Option.bind_eq_bind,
    Option.bind_some]

theorem isTextual_toJson (metadata : Metadata) : metadata.toJson.IsTextual := by
  unfold toJson
  apply Json.IsTextual.object
  · simp
  · simp only [List.forall_mem_cons, List.not_mem_nil, false_imp_iff, implies_true, and_true]
    refine ⟨.array ?_, .object ?_ ?_, .text _, .text _⟩
    · simp only [List.forall_mem_map]
      exact fun tag _ => .text tag
    · simp only [List.forall_mem_map]
      exact fun _ _ => rfl
    · simp only [List.forall_mem_map]
      exact fun entry _ => .text entry.2

end Metadata

/-! ## Records -/

namespace Record

theorem fields?_toJson (record : Record) :
    record.toJson.fields? fieldNames =
      some [some record.id.toJson, some (.text (some record.text)), some record.metadata.toJson,
        some (.array (record.references.map NodeId.toJson))] :=
  @Json.fields?_named [("id", _), ("text", _), ("metadata", _), ("virtual_refs", _)]
    (show fieldNames.Nodup by decide)

/-- Records are read back from JSON. -/
theorem ofJson?_toJson (record : Record) : ofJson? record.toJson = some record := by
  have references := mapM_map_of_inverse NodeId.ofJson?_toJson record.references
  unfold ofJson?
  simp only [fields?_toJson, NodeId.ofJson?_toJson, Json.asText?, Metadata.ofJson?_toJson,
    Json.asArray?, references, Option.bind_eq_bind, Option.bind_some]

theorem isTextual_toJson (record : Record) : record.toJson.IsTextual := by
  unfold toJson
  apply Json.IsTextual.object
  · simp
  · simp only [List.forall_mem_cons, List.not_mem_nil, false_imp_iff, implies_true, and_true]
    refine ⟨record.id.isTextual_toJson, .text _, record.metadata.isTextual_toJson, .array ?_⟩
    simp only [List.forall_mem_map]
    exact fun id _ => id.isTextual_toJson

/-- Records are read back from their text. -/
theorem ofText?_toText (record : Record) : ofText? record.toText = some record := by
  unfold ofText? toText
  rw [String.toList_ofList, Json.read_write record.isTextual_toJson, Option.bind_some,
    ofJson?_toJson]

end Record

/-! ## Nodes -/

namespace Node

/-- What a document adds to a node is not saved. -/
theorem ofText?_toText (node : Node) :
    ofText? node.toText =
      some { node with parent := none, children := [], links := [], collapsed := [] } := by
  unfold ofText? toText
  rw [Record.ofText?_toText, Option.map_some]
  rfl

/-- A saved node is read back with all that is saved and without what a document added, and what
was read from any accepted text is saved, read and saved again as the same text. -/
theorem saving_round_trips :
    (∀ node : Node, ofText? node.toText =
      some { node with parent := none, children := [], links := [], collapsed := [] }) ∧
    ∀ text node, ofText? text = some node →
      (ofText? node.toText).map toText = some node.toText := by
  refine ⟨ofText?_toText, fun text node _ => ?_⟩
  rw [ofText?_toText, Option.map_some]
  rfl

/-- Arrays in place of objects, an identifier in braces, a repeated tag and a repeated key, a leap
second before the year 0, a year of five digits and no references. -/
theorem saving_round_trips_spellings :
    let json : Json := .array [
      .text (some "\x7b01020304-0506-0708-090A-0B0C0D0E0F10\x7d"), .text (some "a\n\"😀\""),
      .array [.array [.text (some "b"), .text (some "a"), .text (some "b")],
        .object [(some "k", .text (some "1")), (some "k", .text (some "2"))],
        .text (some "-44-3-15t 8:59:60.25 utc"), .text (some "+12345-1-2 0:0:0Z")]]
    let record : Record := ⟨.ofNat 0x0102030405060708090A0B0C0D0E0F10, "a\n\"😀\"",
      ⟨.ofList ["a", "b"], .ofList [("k", "2")], ⟨-63549327601, 1250000000, by decide⟩,
        ⟨327403468800, 0, by decide⟩⟩, []⟩
    let node := record.toNode none
    ofText? (String.ofList json.write) = some node ∧
      (ofText? node.toText).map toText = some node.toText := by
  intro json record node
  have isRecord : Record.ofJson? json = some record := by decide +kernel
  have textual : json.IsTextual := by
    refine .array ?_
    simp only [List.forall_mem_cons, List.not_mem_nil, false_imp_iff, implies_true, and_true]
    refine ⟨.text _, .text _, .array ?_⟩
    simp only [List.forall_mem_cons, List.not_mem_nil, false_imp_iff, implies_true, and_true]
    refine ⟨.array ?_, .object ?_ ?_, .text _, .text _⟩ <;> simp [Json.IsTextual.text]
  have isRead : ofText? (String.ofList json.write) = some node := by
    unfold ofText? Record.ofText?
    rw [String.toList_ofList, Json.read_write textual, Option.bind_some, isRecord, Option.map_some]
  exact ⟨isRead, saving_round_trips.2 _ node isRead⟩

end Node

end Outliner
