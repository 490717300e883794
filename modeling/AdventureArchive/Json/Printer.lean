import AdventureArchive.Json
import AdventureArchive.Text.Columns

namespace AdventureArchive.Json

/-!
# JSON text

A value is written compactly in one line, or with every item and field on a
line of its own, indented by two spaces per level.  Strings escape the quote,
the backslash and the control characters, and nothing else.
-/

/-- The escape of a character inside a string literal. -/
def escaped (character : Char) : String :=
  match character with
  | '"' => "\\\""
  | '\\' => "\\\\"
  | '\x08' => "\\b"
  | '\x0c' => "\\f"
  | '\n' => "\\n"
  | '\r' => "\\r"
  | '\t' => "\\t"
  | _ =>
      if character.toNat < 0x20 then
        "\\u" ++ Columns.hexadecimal 4 character.toNat
      else
        String.singleton character

/-- The literal of a text; the replacement character stands for a missing one. -/
def quoted (text : JsonText) : String :=
  "\"" ++ String.join ((text.getD "\uFFFD").toList.map escaped) ++ "\""

/-- What separates the parts of a value, given how deep they are nested. -/
structure Spacing where
  lineBreak : Nat → String
  behindColon : String

/-- Everything in one line, without any space. -/
def Spacing.none : Spacing where
  lineBreak _ := ""
  behindColon := ""

/-- A line for every part, indented by two spaces per level. -/
def Spacing.lines : Spacing where
  lineBreak depth := "\n" ++ String.ofList (List.replicate (2 * depth) ' ')
  behindColon := " "

mutual

/-- Writes a value behind what has been written before. -/
def writeOnto
    (spacing : Spacing)
    (depth : Nat)
    (written : String) :
    Json → String
  | .null => written ++ "null"
  | .bool value => written ++ toString value
  | .integer value => written ++ toString value
  | .decimal literal => written ++ literal
  | .string text => written ++ quoted text
  | .array [] => written ++ "[]"
  | .array (first :: rest) =>
      let opened := written ++ "[" ++ spacing.lineBreak (depth + 1)
      let filled :=
        writeItemsOnto spacing (depth + 1)
          (writeOnto spacing (depth + 1) opened first) rest
      filled ++ spacing.lineBreak depth ++ "]"
  | .object [] => written ++ "\x7b\x7d"
  | .object ((name, first) :: rest) =>
      let opened :=
        written ++ "\x7b" ++ spacing.lineBreak (depth + 1) ++ quoted name ++ ":" ++
          spacing.behindColon
      let filled :=
        writeFieldsOnto spacing (depth + 1)
          (writeOnto spacing (depth + 1) opened first) rest
      filled ++ spacing.lineBreak depth ++ "\x7d"

/-- Writes the items behind the first one. -/
def writeItemsOnto
    (spacing : Spacing)
    (depth : Nat)
    (written : String) :
    List Json → String
  | [] => written
  | item :: rest =>
      writeItemsOnto spacing depth
        (writeOnto spacing depth (written ++ "," ++ spacing.lineBreak depth) item)
        rest

/-- Writes the fields behind the first one. -/
def writeFieldsOnto
    (spacing : Spacing)
    (depth : Nat)
    (written : String) :
    List (JsonText × Json) → String
  | [] => written
  | (name, value) :: rest =>
      let named :=
        written ++ "," ++ spacing.lineBreak depth ++ quoted name ++ ":" ++
          spacing.behindColon
      writeFieldsOnto spacing depth (writeOnto spacing depth named value) rest

end

/-- A value in one line. -/
def compact (value : Json) : String :=
  writeOnto .none 0 "" value

/-- A value with a line for every part. -/
def pretty (value : Json) : String :=
  writeOnto .lines 0 "" value

end AdventureArchive.Json
