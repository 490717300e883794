import AdventureArchive.Text.Columns
import AdventureArchive.Text.Printable

namespace AdventureArchive

/-!
# Quoted text

A text between double quotes, with escapes for the quote, the backslash and
every character that could not be made out when shown as it is.
-/

/-- How a character is shown inside quotes. -/
def quotedCharacter (character : Char) : String :=
  match character with
  | '\x00' => "\\0"
  | '\t' => "\\t"
  | '\r' => "\\r"
  | '\n' => "\\n"
  | '\\' => "\\\\"
  | '"' => "\\\""
  | _ =>
      if isExtender character || !isPrintable character then
        "\\u\x7b" ++ Columns.hexadecimal 1 character.toNat ++ "\x7d"
      else
        String.singleton character

/-- A text in double quotes. -/
def quotedText (text : String) : String :=
  "\"" ++ String.join (text.toList.map quotedCharacter) ++ "\""

end AdventureArchive
