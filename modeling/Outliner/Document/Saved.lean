import Outliner.Calendar.Reading
import Outliner.Document.Node
import Outliner.Json.Read
import Outliner.Json.Write

/-!
Contract: nodes as they are saved.

Owns: the JSON form of a record in both directions. What a document adds to a
node (its place in the forest, its links, what is shown closed) is not saved.

Tags, attributes and references may be left out; identifiers and instants may be
spelled in any form that reads as one, and are saved in one form.

Does not own: the text of JSON.
-/

namespace Outliner

open Outliner.Calendar Outliner.Text

namespace NodeId

def toJson (id : NodeId) : Json :=
  .text (some (String.ofList id.write))

def ofJson? (json : Json) : Option NodeId :=
  json.asText?.bind fun text => ofSpelling? text.toList

end NodeId

namespace Metadata

def fieldNames : List String := ["tags", "attributes", "created", "modified"]

def instantToJson (instant : Instant) : Json :=
  .text (some (String.ofList instant.write))

def instantOfJson? (json : Json) : Option Instant :=
  json.asText?.bind fun text => readInstant text.toList

def toJson (metadata : Metadata) : Json :=
  .object [
    (some "tags", .array (metadata.tags.texts.map fun tag => .text (some tag))),
    (some "attributes",
      .object (metadata.attributes.entries.map fun (key, value) =>
        (some key, .text (some value)))),
    (some "created", instantToJson metadata.created),
    (some "modified", instantToJson metadata.modified)]

def ofJson? (json : Json) : Option Metadata :=
  match json.fields? fieldNames with
  | some [tags, attributes, some created, some modified] => do
    let tags ← match tags with
      | some tags => tags.asTexts?.map TextSet.ofList
      | none => some .empty
    let attributes ← match attributes with
      | some attributes => attributes.asBindings?.map TextMap.ofList
      | none => some .empty
    let created ← instantOfJson? created
    let modified ← instantOfJson? modified
    some ⟨tags, attributes, created, modified⟩
  | _ => none

end Metadata

namespace Record

def fieldNames : List String := ["id", "text", "metadata", "virtual_refs"]

def toJson (record : Record) : Json :=
  .object [
    (some "id", record.id.toJson),
    (some "text", .text (some record.text)),
    (some "metadata", record.metadata.toJson),
    (some "virtual_refs", .array (record.references.map NodeId.toJson))]

def ofJson? (json : Json) : Option Record :=
  match json.fields? fieldNames with
  | some [some id, some text, some metadata, references] => do
    let id ← NodeId.ofJson? id
    let text ← text.asText?
    let metadata ← Metadata.ofJson? metadata
    let references ← match references with
      | some references => references.asArray?.bind fun items => items.mapM NodeId.ofJson?
      | none => some []
    some ⟨id, text, metadata, references⟩
  | _ => none

def ofText? (text : String) : Option Record :=
  (Json.read text.toList).bind ofJson?

def toText (record : Record) : String :=
  String.ofList (Json.write record.toJson)

end Record

namespace Node

def toText (node : Node) : String :=
  node.toRecord.toText

/-- The node that a saved text spells, before a document takes it in. -/
def ofText? (text : String) : Option Node :=
  (Record.ofText? text).map (·.toNode none)

end Node

end Outliner
