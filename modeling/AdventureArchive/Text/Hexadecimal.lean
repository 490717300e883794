namespace AdventureArchive.Hexadecimal

/-!
# Bytes in hexadecimal

A byte is written as two lower-case digits, the higher one first.  Digits of
either case are read.
-/

/-- The value of a digit. -/
def digit? (character : Char) : Option Nat :=
  if character.isDigit then
    some (character.toNat - '0'.toNat)
  else if 'a' ≤ character ∧ character ≤ 'f' then
    some (character.toNat - 'a'.toNat + 10)
  else if 'A' ≤ character ∧ character ≤ 'F' then
    some (character.toNat - 'A'.toNat + 10)
  else
    none

/-- The digits of a byte. -/
def digits (byte : UInt8) : List Char :=
  [Nat.digitChar (byte.toNat / 16), Nat.digitChar (byte.toNat % 16)]

/-- The digits of some bytes. -/
def encode (bytes : List UInt8) : String :=
  String.ofList (bytes.flatMap digits)

/-- Reads pairs of digits, adding their bytes to those read before. -/
def decodeOnto (bytes : Array UInt8) : List Char → Option (List UInt8)
  | [] => some bytes.toList
  | high :: low :: rest =>
      match digit? high, digit? low with
      | some high, some low => decodeOnto (bytes.push (UInt8.ofNat (16 * high + low))) rest
      | _, _ => none
  | [_] => none

/-- The bytes that a text of digits stands for. -/
def decode? (text : String) : Option (List UInt8) :=
  decodeOnto #[] text.toList

end AdventureArchive.Hexadecimal
