import AdventureArchive.Image.Error

namespace AdventureArchive

/-!
# Pixel grids

A rectangle of palette indices.  That there are as many rows as the height says,
each as long as the width says, is part of the type.  There are fewer than 2 ^ 32
pixels, and memory for them is taken to be allocated.
-/

/-- Palette indices in rows from top to bottom, each from left to right. -/
structure PixelGrid where
  width : UInt16
  height : UInt16
  rows : Vector (Vector UInt8 width.toNat) height.toNat
  deriving DecidableEq

namespace PixelGrid

/-- Number of pixels from the start of one row to the start of the next. -/
def stride (grid : PixelGrid) : Nat :=
  grid.width.toNat

/-- Number of pixels a rectangle holds. -/
def area (width height : UInt16) : Nat :=
  width.toNat * height.toNat

/-- A grid whose pixels all have index zero. -/
def blank (width height : UInt16) : PixelGrid where
  width := width
  height := height
  rows := .replicate height.toNat (.replicate width.toNat 0)

/-- The pixels before a row, and the part of the row up to a column, all lie in the grid. -/
theorem rowStart_add_lt
    {width height row column : Nat}
    (inHeight : row < height)
    (inWidth : column < width) :
    row * width + column < width * height := by
  calc
    row * width + column < row * width + width := Nat.add_lt_add_left inWidth _
    _ = (row + 1) * width := by rw [Nat.succ_mul]
    _ ≤ height * width := Nat.mul_le_mul_right width inHeight
    _ = width * height := Nat.mul_comm height width

/-- The grid with the given pixels, row after row, if their number fits. -/
def ofPixels
    (width height : UInt16)
    (pixels : List UInt8) :
    Except ImageError PixelGrid :=
  let stored := pixels.toArray
  if fits : stored.size = area width height then
    .ok {
      width := width
      height := height
      rows := .ofFn fun row => .ofFn fun column =>
        have inside : row.val * width.toNat + column.val < stored.size := by
          rw [fits]
          exact rowStart_add_lt row.isLt column.isLt
        stored[row.val * width.toNat + column.val]
    }
  else
    .error (.payloadLength (area width height) stored.size)

/-- All pixels, row after row. -/
def toList (grid : PixelGrid) : List UInt8 :=
  grid.rows.toList.flatMap Vector.toList

/-- The pixel in a column and row. -/
def get? (grid : PixelGrid) (x y : UInt16) : Option UInt8 :=
  (grid.rows[y.toNat]?).bind fun row => row[x.toNat]?

/-- The grid with one pixel changed, if that pixel lies inside. -/
def set?
    (grid : PixelGrid)
    (x y : UInt16)
    (value : UInt8) :
    Option PixelGrid :=
  if inside : x.toNat < grid.width.toNat ∧ y.toNat < grid.height.toNat then
    some {
      width := grid.width
      height := grid.height
      rows := grid.rows.set y.toNat
        (grid.rows[y.toNat].set x.toNat value inside.1) inside.2
    }
  else
    none

/-- The pixels of one row. -/
def row? (grid : PixelGrid) (y : UInt16) : Option (List UInt8) :=
  (grid.rows[y.toNat]?).map Vector.toList

/-- A grid holds as many pixels as its rectangle. -/
theorem length_toList (grid : PixelGrid) :
    grid.toList.length = area grid.width grid.height := by
  have sameLength :
      grid.rows.toList.map (fun row => row.toList.length) =
        List.replicate grid.height.toNat grid.width.toNat := by
    simp only [Vector.length_toList, List.map_const']
  rw [toList, List.length_flatMap, sameLength]
  simp [area, Nat.mul_comm]

end PixelGrid

end AdventureArchive
