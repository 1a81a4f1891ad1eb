import Outliner.Json.Read
import Outliner.Search.Settings

/-!
Contract: the settings of search nodes as a file.

Owns: reading the settings from JSON, where what is left out is standard, and
what becomes of a file that is absent or no text.

Does not own: the access to files.
-/

namespace Outliner.Search

namespace SearchSettings

def fieldNames : List String := ["type_attribute", "search_type", "query_attribute"]

/-- A field that is standard when it is left out. -/
def textOr (standard : String) : Option Json → Option String
  | some json => json.asText?
  | none => some standard

def ofJson? (json : Json) : Option SearchSettings :=
  match json.fields? fieldNames with
  | some [typeAttribute, searchType, queryAttribute] => do
    let typeAttribute ← textOr standard.typeAttribute typeAttribute
    let searchType ← textOr standard.searchType searchType
    let queryAttribute ← textOr standard.queryAttribute queryAttribute
    some ⟨typeAttribute, searchType, queryAttribute⟩
  | _ => none

def ofText (text : String) : Except Failure SearchSettings :=
  match (Json.read text.toList).bind ofJson? with
  | some settings => .ok settings
  | none => .error .settings

end SearchSettings

inductive FileContent where
  | absent
  | directory
  | bytes (content : ByteArray)

/-- The settings from a file. They are standard if there is none. -/
def SearchSettings.load : FileContent → Except Failure SearchSettings
  | .absent => .ok .standard
  | .directory => .error .unreadable
  | .bytes content =>
    match String.fromUTF8? content with
    | some text => SearchSettings.ofText text
    | none => .error .unreadable

end Outliner.Search
