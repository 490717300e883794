namespace AdventureArchive

/-!
# Blank characters

The characters that Unicode counts as white space.  The zero-width characters
are not among them.
-/

/-- Whether a character has the Unicode property White_Space. -/
def isBlank (character : Char) : Bool :=
  let point := character.toNat
  (0x09 ≤ point && point ≤ 0x0D) || point == 0x20 || point == 0x85 ||
    point == 0xA0 || point == 0x1680 || (0x2000 ≤ point && point ≤ 0x200A) ||
    point == 0x2028 || point == 0x2029 || point == 0x202F || point == 0x205F ||
    point == 0x3000

/-- A text without the blanks at its ends. -/
def trimBlanks (text : String) : String :=
  String.ofList
    ((text.toList.dropWhile isBlank).reverse.dropWhile isBlank).reverse

end AdventureArchive
