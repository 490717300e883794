import AdventureArchive.Json.Token

namespace AdventureArchive.Json

/-!
# Reading JSON text

Tokens are taken one at a time.  What has been read so far is a stack of
unfinished arrays and objects, so the depth of nesting is not limited.
-/

/-- An array or object around the value that is being read; parts are reversed. -/
inductive Frame where
  | array (items : List Json)
  | member (fields : List (JsonText × Json)) (name : JsonText)

/-- Where a reader stands between two tokens. -/
inductive Position where
  | beforeValue (frames : List Frame)
  | insideArray (frames : List Frame)
  | insideObject (frames : List Frame)
  | beforeName (fields : List (JsonText × Json)) (frames : List Frame)
  | behindName
      (name : JsonText) (fields : List (JsonText × Json)) (frames : List Frame)
  | behindItem (items : List Json) (frames : List Frame)
  | behindMember (fields : List (JsonText × Json)) (frames : List Frame)
  | behindAll (value : Json)

namespace Position

/-- Where a reader stands once a value is complete. -/
def place (value : Json) : List Frame → Position
  | [] => .behindAll value
  | .array items :: frames => .behindItem (value :: items) frames
  | .member fields name :: frames => .behindMember ((name, value) :: fields) frames

/-- Takes the first token of a value. -/
def beginValue (frames : List Frame) : Token → Option Position
  | .scalar value => some (place value frames)
  | .opening .square => some (.insideArray frames)
  | .opening .curly => some (.insideObject frames)
  | _ => none

/-- Takes one token; none if it cannot stand here. -/
def advance : Position → Token → Option Position
  | .beforeValue frames, token => beginValue frames token
  | .insideArray frames, .closing .square => some (place (.array []) frames)
  | .insideArray frames, token => beginValue (.array [] :: frames) token
  | .insideObject frames, .closing .curly => some (place (.object []) frames)
  | .insideObject frames, .scalar (.string name) => some (.behindName name [] frames)
  | .beforeName fields frames, .scalar (.string name) =>
      some (.behindName name fields frames)
  | .behindName name fields frames, .colon =>
      some (.beforeValue (.member fields name :: frames))
  | .behindItem items frames, .comma => some (.beforeValue (.array items :: frames))
  | .behindItem items frames, .closing .square =>
      some (place (.array items.reverse) frames)
  | .behindMember fields frames, .comma => some (.beforeName fields frames)
  | .behindMember fields frames, .closing .curly =>
      some (place (.object fields.reverse) frames)
  | _, _ => none

end Position

/-- The value a text holds, if it is well formed and holds nothing else. -/
def parse? (text : String) : Option Json := do
  let tokens ← Token.scan text
  match ← tokens.foldlM Position.advance (.beforeValue []) with
  | .behindAll value => some value
  | _ => none

end AdventureArchive.Json
