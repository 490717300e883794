namespace AdventureArchive.SingleByteText

/-!
# Text with one byte per character

Archive text stores the character with code point `n` as the byte `n`.  Every
byte list is a text; a text has bytes exactly when no character lies above
U+00FF.
-/

/-- The character a byte stands for. -/
def charOfByte (byte : UInt8) : Char :=
  Char.ofNat byte.toNat

/-- The byte that stands for a character, if its code point fits one. -/
def byteOfChar? (character : Char) : Option UInt8 :=
  if character.toNat < 256 then
    some (UInt8.ofNat character.toNat)
  else
    none

/-- The text that a byte list spells. -/
def decode (bytes : List UInt8) : String :=
  String.ofList (bytes.map charOfByte)

/-- The bytes of a text, if every character fits one byte. -/
def encode? (text : String) : Option (List UInt8) :=
  text.toList.mapM byteOfChar?

end AdventureArchive.SingleByteText
