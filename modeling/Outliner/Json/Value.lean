/-!
Contract: JSON values as far as settings and saved nodes need them.

Owns: the type of values, where members keep their order and repetitions, and
the reading of a value as a record with named fields.

A text is held as an `Option`: a JSON text may spell half of a surrogate pair,
which no string can hold, and such a text is only refused where it is used.

Does not own: the text of JSON (`Json.Read`, `Json.Write`).
-/

namespace Outliner

/-- A JSON value. Numbers are held as they are spelled. -/
inductive Json where
  | null
  | bool (value : Bool)
  | number (spelling : String)
  | text (content : Option String)
  | array (items : List Json)
  | object (members : List (Option String × Json))

namespace Json

def asText? : Json → Option String
  | .text content => content
  | _ => none

def asArray? : Json → Option (List Json)
  | .array items => some items
  | _ => none

def asTexts? (json : Json) : Option (List String) :=
  json.asArray?.bind fun items => items.mapM asText?

/-- The bindings of an object whose values are strings, in order. -/
def asBindings? : Json → Option (List (String × String))
  | .object members =>
    members.mapM fun (key, value) => key.bind fun key => value.asText?.map fun text => (key, text)
  | _ => none

def valuesOf (name : String) (members : List (Option String × Json)) : List Json :=
  members.filterMap fun (key, value) => if key = some name then some value else none

/-- Reads a value as a record with the given fields. An object has each field at
most once, and its other members do not count; an array has the fields in order
and may end early. A field that is not there is `none`. -/
def fields? (names : List String) : Json → Option (List (Option Json))
  | .object members =>
    if members.all (·.1.isSome) && names.all (fun name => (valuesOf name members).length ≤ 1) then
      some (names.map fun name => (valuesOf name members).head?)
    else none
  | .array items =>
    if items.length ≤ names.length then
      some ((List.range names.length).map fun place => items[place]?)
    else none
  | _ => none

end Json

end Outliner
