import AdventureArchive.Bytes.LayoutLaws
import AdventureArchive.Resource.Error

namespace AdventureArchive

/-!
# Palettes

A palette is a run of colours, three bytes each, and at most 256 of them so
that one byte can index them.
-/

/-- A colour by its red, green and blue parts. -/
structure Colour where
  red : UInt8
  green : UInt8
  blue : UInt8
  deriving Repr, DecidableEq, Inhabited

instance : Layout Colour :=
  .via
    (fun colour => (colour.red, colour.green, colour.blue))
    (fun (red, green, blue) => ⟨red, green, blue⟩)

instance : LawfulLayout Colour :=
  .via (fun _ => rfl) (fun _ => rfl)

/-- Colours addressed by index. -/
structure Palette where
  colours : List Colour
  deriving Repr, DecidableEq, Inhabited

namespace Palette

/-- The most colours a palette may hold. -/
def maxColours : Nat := 256

/-- The colour at an index. -/
def get? (palette : Palette) (index : UInt8) : Option Colour :=
  palette.colours[index.toNat]?

/-- Number of colours. -/
def size (palette : Palette) : Nat :=
  palette.colours.length

/-- Reads colours until the bytes end; a ragged end is reported before an excess. -/
def decode (bytes : List UInt8) : Except ResourceError Palette :=
  let length := bytes.length
  let count := length / Layout.width Colour
  if length % Layout.width Colour ≠ 0 then
    .error (.invalid (.raggedPalette length))
  else if count > maxColours then
    .error (.invalid (.oversizedPalette count))
  else
    match Layout.readMany count bytes with
    | some (colours, _) => .ok ⟨colours⟩
    | none => .error (.invalid (.raggedPalette length))

/-- The colours one after the other. -/
def encode (palette : Palette) : Except ResourceError (List UInt8) :=
  if palette.size > maxColours then
    .error (.invalid (.oversizedPalette palette.size))
  else
    .ok (Layout.writeMany palette.colours)

end Palette

end AdventureArchive
