namespace AdventureArchive.Columns

/-!
# Columns and hexadecimal numbers

Listings line up their columns by padding: numbers to the right, names to the
left, hexadecimal numbers with leading zeros.  A text longer than its column is
never cut.
-/

/-- Puts fill characters in front until the text has the given length. -/
def alignRight
    (fill : Char)
    (width : Nat)
    (text : String) :
    String :=
  String.ofList (List.replicate (width - text.length) fill) ++ text

/-- Puts spaces behind until the text has the given length. -/
def alignLeft (width : Nat) (text : String) : String :=
  text ++ String.ofList (List.replicate (width - text.length) ' ')

/-- Lower-case hexadecimal digits, with leading zeros up to the given count. -/
def hexadecimal (digits number : Nat) : String :=
  alignRight '0' digits (String.ofList (Nat.toDigits 16 number))

/-- An opcode as `0x` and two digits. -/
def opcodeText (opcode : UInt8) : String :=
  "0x" ++ hexadecimal 2 opcode.toNat

/-- A code offset in six digits or more. -/
def offsetText (offset : UInt32) : String :=
  hexadecimal 6 offset.toNat

end AdventureArchive.Columns
