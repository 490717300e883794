namespace AdventureArchive

/-!
# JSON values

Values of JSON text, kept close to how they are written: object fields stay in
order and may repeat, integers are told apart from other numbers, and a string
literal that escapes half of a surrogate pair is well formed but has no text.
-/

/-- The text of a string literal; none when half of a surrogate pair stands alone. -/
abbrev JsonText := Option String

/-- A JSON value. -/
inductive Json where
  | null
  | bool (value : Bool)
  | integer (value : Int)
  | decimal (literal : String)
  | string (text : JsonText)
  | array (items : List Json)
  | object (fields : List (JsonText × Json))
  deriving Inhabited

namespace Json

/-- A string with a text. -/
def text (text : String) : Json :=
  .string (some text)

/-- An object with named fields. -/
def record (fields : List (String × Json)) : Json :=
  .object (fields.map fun field => (some field.1, field.2))

/-- The values of the fields with a given name, in order. -/
def fieldsNamed (fields : List (JsonText × Json)) (name : String) : List Json :=
  fields.filterMap fun field =>
    if field.1 = some name then some field.2 else none

/-- The last field of an object with a given name. -/
def field? (value : Json) (name : String) : Option Json :=
  match value with
  | .object fields => (fieldsNamed fields name).getLast?
  | _ => none

end Json

end AdventureArchive
