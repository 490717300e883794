import AdventureArchive.Proofs.Image.Pixels
import AdventureArchive.Proofs.InPlace.Access

namespace AdventureArchive

/-!
# Grids in one buffer

A grid can be kept in one buffer, row behind row, where the pixel of a column
stands as far behind the start of its row as the column says (`PixelBuffer`).
Positions are computed there and may go astray, but none ever does, and what is
read and written is what the grid has (`PixelGrid.get_buffer`,
`PixelGrid.set_buffer`, `PixelGrid.row_buffer`): different pixels stand at
different positions (`PixelGrid.position_inj`).
-/

namespace PixelGrid

/-- Different pixels stand at different positions. -/
theorem position_inj
    {width row column otherRow otherColumn : Nat}
    (inWidth : column < width)
    (otherInWidth : otherColumn < width)
    (samePosition : row * width + column = otherRow * width + otherColumn) :
    row = otherRow ∧ column = otherColumn := by
  have sameColumn : column = otherColumn := by
    have remainders := congrArg (· % width) samePosition
    simpa [Nat.mul_add_mod', Nat.mod_eq_of_lt, inWidth, otherInWidth] using remainders
  obtain rfl := sameColumn
  have positive : 0 < width := Nat.zero_lt_of_lt inWidth
  exact ⟨Nat.eq_of_mul_eq_mul_right positive (Nat.add_right_cancel samePosition), rfl⟩

variable {grid next : PixelGrid} {x y : UInt16} {value : UInt8}

/-- Whether a column and a row lie in a grid. -/
def Covers (grid : PixelGrid) (x y : UInt16) : Prop :=
  x < grid.width ∧ y < grid.height

instance : Decidable (grid.Covers x y) :=
  inferInstanceAs (Decidable (_ ∧ _))

/-- Columns and rows that lie in a grid number the pixels of its rows. -/
theorem covers_iff :
    grid.Covers x y ↔ x.toNat < grid.width.toNat ∧ y.toNat < grid.height.toNat := by
  rw [Covers, UInt16.lt_iff_toNat_lt, UInt16.lt_iff_toNat_lt]

/-- A pixel of a grid is the one in its column of its row. -/
theorem get?_eq_some
    (inWidth : x.toNat < grid.width.toNat)
    (inHeight : y.toNat < grid.height.toNat) :
    grid.get? x y = some grid.rows[y.toNat][x.toNat] := by
  rw [get?, Vector.getElem?_eq_getElem inHeight, Option.bind_some,
    Vector.getElem?_eq_getElem inWidth]

/-- A pixel is there exactly if its column and row lie in the grid. -/
theorem get?_eq_none_iff : grid.get? x y = none ↔ ¬ grid.Covers x y := by
  rw [covers_iff, get?, Option.bind_eq_none_iff]
  constructor
  · rintro absent ⟨inWidth, inHeight⟩
    have inRow := absent _ (Vector.getElem?_eq_getElem inHeight)
    rw [Vector.getElem?_eq_getElem inWidth] at inRow
    contradiction
  · intro outside row found
    obtain ⟨inHeight, -⟩ := Vector.getElem?_eq_some_iff.mp found
    rw [Vector.getElem?_eq_none_iff]
    exact Nat.le_of_not_lt fun inWidth => outside ⟨inWidth, inHeight⟩

/-- In the list of pixels a row comes behind the rows above it. -/
theorem Covers.getElem?_toList (covered : grid.Covers x y) :
    grid.toList[y.toNat * grid.width.toNat + x.toNat]? = grid.get? x y := by
  obtain ⟨inWidth, inHeight⟩ := covers_iff.mp covered
  have inside : y.toNat * grid.width.toNat + x.toNat < grid.toList.length := by
    rw [length_toList]
    exact rowStart_add_lt inHeight inWidth
  rw [List.getElem?_eq_getElem inside, grid.getElem_toList inHeight inWidth,
    get?_eq_some inWidth inHeight]

/-- A list that has each pixel of a grid at its position is the list of its pixels. -/
theorem toList_eq_of_positions
    {pixels : List UInt8}
    (size : pixels.length = area grid.width grid.height)
    (found :
      ∀ x y, grid.Covers x y →
        pixels[y.toNat * grid.width.toNat + x.toNat]? = grid.get? x y) :
    grid.toList = pixels := by
  apply List.ext_getElem?
  intro position
  by_cases inside : position < area grid.width grid.height
  · rw [area] at inside
    have inHeight : position / grid.width.toNat < grid.height.toNat :=
      Nat.div_lt_of_lt_mul inside
    have inWidth : position % grid.width.toNat < grid.width.toNat :=
      Nat.mod_lt _ (Nat.pos_of_mul_pos_right (Nat.zero_lt_of_lt inside))
    obtain ⟨y, row⟩ : ∃ y : UInt16, y.toNat = position / grid.width.toNat :=
      ⟨_, UInt16.toNat_ofNat_of_lt' (Nat.lt_trans inHeight grid.height.toNat_lt_size)⟩
    obtain ⟨x, column⟩ : ∃ x : UInt16, x.toNat = position % grid.width.toNat :=
      ⟨_, UInt16.toNat_ofNat_of_lt' (Nat.lt_trans inWidth grid.width.toNat_lt_size)⟩
    have covered : grid.Covers x y := by
      rw [covers_iff, row, column]
      exact ⟨inWidth, inHeight⟩
    have same := covered.getElem?_toList.trans (found x y covered).symm
    rwa [row, column, Nat.div_add_mod'] at same
  · rw [List.getElem?_eq_none (by rw [length_toList]; exact Nat.le_of_not_lt inside),
      List.getElem?_eq_none (by rw [size]; exact Nat.le_of_not_lt inside)]

/-- A blank grid has pixels of index zero only. -/
theorem toList_blank (width height : UInt16) :
    (blank width height).toList = List.replicate (area width height) 0 := by
  apply toList_eq_of_positions
  · exact List.length_replicate
  · intro x y covered
    obtain ⟨inWidth, inHeight⟩ := covers_iff.mp covered
    have inside : y.toNat * width.toNat + x.toNat < area width height :=
      rowStart_add_lt inHeight inWidth
    rw [get?_eq_some inWidth inHeight]
    simp [blank, inside]

/-- A grid that is made of pixels has these pixels. -/
theorem toList_of_ofPixels
    {width height : UInt16}
    {pixels : List UInt8}
    (made : ofPixels width height pixels = .ok grid) :
    grid.toList = pixels := by
  unfold ofPixels at made
  dsimp only at made
  split at made
  next fits =>
    obtain rfl := Except.ok.inj made
    apply toList_eq_of_positions fits
    intro x y covered
    obtain ⟨inWidth, inHeight⟩ := covers_iff.mp covered
    rw [get?_eq_some inWidth inHeight]
    simp only [Vector.getElem_ofFn, List.getElem_toArray]
    exact List.getElem?_eq_getElem _
  next => contradiction

/-- A pixel can be changed exactly if its column and row lie in the grid. -/
theorem set?_eq_none_iff : grid.set? x y value = none ↔ ¬ grid.Covers x y := by
  rw [covers_iff]
  unfold set?
  split
  next inside => simp [inside]
  next outside => simp [outside]

/-- A pixel that has been changed lies in the grid. -/
theorem covers_of_set?
    (changed : grid.set? x y value = some next) :
    grid.Covers x y := by
  apply Decidable.byContradiction
  intro outside
  rw [set?_eq_none_iff.mpr outside] at changed
  contradiction

/-- A changed grid is as large as before. -/
theorem size_of_set?
    (changed : grid.set? x y value = some next) :
    next.width = grid.width ∧ next.height = grid.height := by
  unfold set? at changed
  split at changed
  next =>
    obtain rfl := Option.some.inj changed
    exact ⟨rfl, rfl⟩
  next => contradiction

/-- After one pixel has been changed that pixel is the new one, and all others are as before. -/
theorem get?_of_set?
    (changed : grid.set? x y value = some next)
    (column row : UInt16) :
    next.get? column row = if x = column ∧ y = row then some value else grid.get? column row := by
  unfold set? at changed
  split at changed
  next inside =>
    obtain rfl := Option.some.inj changed
    simp only [get?, Vector.getElem?_set, UInt16.toNat_inj]
    by_cases sameRow : y = row
    · subst sameRow
      simp only [if_true, and_true, Option.bind_some, Vector.getElem?_set, UInt16.toNat_inj,
        Vector.getElem?_eq_getElem inside.2]
    · rw [if_neg sameRow, if_neg fun same => sameRow same.2]
  next => contradiction

/-- Changing a pixel changes the byte at its position. -/
theorem toList_of_set?
    (changed : grid.set? x y value = some next) :
    next.toList = grid.toList.set (y.toNat * grid.width.toNat + x.toNat) value := by
  obtain ⟨sameWidth, sameHeight⟩ := size_of_set? changed
  obtain ⟨inWidth, inHeight⟩ := covers_iff.mp (covers_of_set? changed)
  apply toList_eq_of_positions
  · rw [List.length_set, length_toList, sameWidth, sameHeight]
  · intro column row otherCovered
    have beforeCovered : grid.Covers column row := by
      rwa [Covers, sameWidth, sameHeight] at otherCovered
    obtain ⟨otherInWidth, -⟩ := covers_iff.mp beforeCovered
    rw [get?_of_set? changed, sameWidth, List.getElem?_set]
    split
    next samePosition =>
      obtain ⟨sameRow, sameColumn⟩ := position_inj inWidth otherInWidth samePosition
      have inside : y.toNat * grid.width.toNat + x.toNat < grid.toList.length := by
        rw [length_toList]
        exact rowStart_add_lt inHeight inWidth
      rw [if_pos inside, if_pos ⟨UInt16.toNat_inj.mp sameColumn, UInt16.toNat_inj.mp sameRow⟩]
    next otherPosition =>
      rw [beforeCovered.getElem?_toList, if_neg]
      rintro ⟨rfl, rfl⟩
      exact otherPosition rfl

/-- Rows lie inside of a grid to their ends. -/
theorem rowEnd_le
    {row : Nat}
    (inHeight : row < grid.height.toNat) :
    row * grid.width.toNat + grid.width.toNat ≤ grid.toList.length := by
  rw [length_toList, area, ← Nat.succ_mul, Nat.mul_comm grid.width.toNat]
  exact Nat.mul_le_mul_right grid.width.toNat inHeight

/-- A row is what stands at its positions. -/
theorem byteRange_row
    {row : Nat}
    (inHeight : row < grid.height.toNat) :
    byteRange grid.toList (row * grid.width.toNat) grid.width.toNat = grid.rows[row].toList := by
  have rowEnd := rowEnd_le inHeight
  apply List.ext_getElem
  · rw [length_byteRange, Vector.length_toList]
    omega
  · intro column inRange inRow
    have inWidth : column < grid.width.toNat := by
      rwa [Vector.length_toList] at inRow
    simp only [byteRange, List.getElem_take, List.getElem_drop, Vector.getElem_toList]
    exact grid.getElem_toList inHeight inWidth _

end PixelGrid

/-! ## Buffers -/

open InPlace (Stop Stray byteAt cut within64)

/-- A grid in one buffer: its size, the distance of its rows, and its pixels. -/
structure PixelBuffer where
  width : UInt16
  height : UInt16
  stride : Nat
  pixels : List UInt8
  deriving DecidableEq

namespace PixelBuffer

/-- A buffer of zeros. -/
def blank (width height : UInt16) : PixelBuffer where
  width := width
  height := height
  stride := width.toNat
  pixels := List.replicate (width.toNat * height.toNat) 0

/-- The buffer with the given pixels, if their number fits. -/
def ofPixels
    (width height : UInt16)
    (pixels : List UInt8) :
    Except ImageError PixelBuffer :=
  if pixels.length ≠ width.toNat * height.toNat then
    .error (.payloadLength (width.toNat * height.toNat) pixels.length)
  else
    .ok ⟨width, height, width.toNat, pixels⟩

/-- Where a pixel stands, if its column and row lie inside. -/
def position? (buffer : PixelBuffer) (x y : UInt16) : Except (Stop Empty) (Option Nat) :=
  if x < buffer.width ∧ y < buffer.height then do
    let start ← within64 (y.toNat * buffer.stride)
    let position ← within64 (start + x.toNat)
    return some position
  else
    return none

/-- The pixel in a column and row. -/
def get (buffer : PixelBuffer) (x y : UInt16) : Except (Stop Empty) (Option UInt8) := do
  match ← buffer.position? x y with
  | some position =>
      let value ← byteAt buffer.pixels position
      return some value
  | none => return none

/-- Replaces the byte at a position. -/
def replaceAt (bytes : List UInt8) (position : Nat) (value : UInt8) :
    Except (Stop Empty) (List UInt8) :=
  if position < bytes.length then
    .ok (bytes.set position value)
  else
    .error (.stray (.byte position bytes.length))

/-- Changes a pixel, and tells whether it lies inside. -/
def set (buffer : PixelBuffer) (x y : UInt16) (value : UInt8) :
    Except (Stop Empty) (Bool × PixelBuffer) := do
  match ← buffer.position? x y with
  | some position =>
      let pixels ← replaceAt buffer.pixels position value
      return (true, { buffer with pixels := pixels })
  | none => return (false, buffer)

/-- The pixels of one row. -/
def row (buffer : PixelBuffer) (y : UInt16) : Except (Stop Empty) (Option (List UInt8)) :=
  if buffer.height ≤ y then
    return none
  else do
    let start ← within64 (y.toNat * buffer.stride)
    let stop ← within64 (start + buffer.width.toNat)
    let pixels ← cut buffer.pixels start stop
    return some pixels

end PixelBuffer

namespace PixelGrid

variable {grid next : PixelGrid} {x y : UInt16} {value : UInt8}

/-- The buffer of a grid. -/
def buffer (grid : PixelGrid) : PixelBuffer where
  width := grid.width
  height := grid.height
  stride := grid.stride
  pixels := grid.toList

/-- The buffer of a blank grid is a buffer of zeros. -/
theorem buffer_blank (width height : UInt16) :
    (blank width height).buffer = .blank width height := by
  rw [buffer, toList_blank]
  rfl

/-- A buffer is made of pixels exactly as a grid is. -/
theorem buffer_ofPixels (width height : UInt16) (pixels : List UInt8) :
    (ofPixels width height pixels).map buffer = PixelBuffer.ofPixels width height pixels := by
  match made : ofPixels width height pixels with
  | .ok grid =>
      obtain ⟨sameWidth, sameHeight⟩ := size_of_ofPixels made
      have samePixels := toList_of_ofPixels made
      have fits : pixels.length = width.toNat * height.toNat := by
        rw [← samePixels, length_toList, sameWidth, sameHeight, area]
      rw [PixelBuffer.ofPixels, if_neg (not_not.mpr fits)]
      simp only [Except.map, buffer, stride, samePixels, sameWidth, sameHeight]
  | .error fault =>
      unfold ofPixels at made
      dsimp only at made
      split at made
      next => contradiction
      next misfit =>
        obtain rfl := Except.error.inj made
        have tooManyOrFew : pixels.length ≠ width.toNat * height.toNat := misfit
        rw [PixelBuffer.ofPixels, if_pos tooManyOrFew]
        rfl

/-- Positions up to the end of the buffer fit 64 bits. -/
theorem within64_of_le_length
    {position : Nat}
    (bound : position ≤ grid.toList.length) :
    within64 (ε := Empty) position = .ok position := by
  rw [length_toList, area] at bound
  exact InPlace.within64_eq (Nat.lt_of_le_of_lt bound (InPlace.mul_toNat_lt _ _))

/-- A pixel of the grid has its position, and no other pixel has one. -/
theorem position?_buffer (grid : PixelGrid) (x y : UInt16) :
    grid.buffer.position? x y =
      .ok (if grid.Covers x y then some (y.toNat * grid.width.toNat + x.toNat) else none) := by
  have sameBounds : x < grid.buffer.width ∧ y < grid.buffer.height ↔ grid.Covers x y := Iff.rfl
  rw [PixelBuffer.position?]
  by_cases covered : grid.Covers x y
  · obtain ⟨inWidth, inHeight⟩ := covers_iff.mp covered
    have inside : y.toNat * grid.width.toNat + x.toNat ≤ grid.toList.length := by
      rw [length_toList]
      exact Nat.le_of_lt (rowStart_add_lt inHeight inWidth)
    rw [if_pos (sameBounds.mpr covered), if_pos covered]
    simp only [buffer, stride, within64_of_le_length inside,
      within64_of_le_length (Nat.le_of_add_right_le inside), Except.ok_bind]
    rfl
  · rw [if_neg (sameBounds.not.mpr covered), if_neg covered]
    rfl

/-- What stands at the position of a pixel is the pixel of the grid. -/
theorem get_buffer (grid : PixelGrid) (x y : UInt16) :
    grid.buffer.get x y = .ok (grid.get? x y) := by
  rw [PixelBuffer.get, position?_buffer, Except.ok_bind]
  by_cases covered : grid.Covers x y
  · rw [if_pos covered]
    obtain ⟨value, found⟩ : ∃ value, grid.get? x y = some value :=
      Option.ne_none_iff_exists'.mp fun absent => get?_eq_none_iff.mp absent covered
    have atPosition := covered.getElem?_toList
    rw [found] at atPosition
    simp only [byteAt, buffer, atPosition, found, Except.ok_bind]
    rfl
  · rw [if_neg covered, get?_eq_none_iff.mpr covered]
    rfl

/-- A pixel is changed in the buffer as it is changed in the grid. -/
theorem set_buffer (grid : PixelGrid) (x y : UInt16) (value : UInt8) :
    grid.buffer.set x y value =
      .ok ((grid.set? x y value).isSome, ((grid.set? x y value).getD grid).buffer) := by
  rw [PixelBuffer.set, position?_buffer, Except.ok_bind]
  match changed : grid.set? x y value with
  | some next =>
      have covered := covers_of_set? changed
      obtain ⟨inWidth, inHeight⟩ := covers_iff.mp covered
      obtain ⟨sameWidth, sameHeight⟩ := size_of_set? changed
      have inside : y.toNat * grid.width.toNat + x.toNat < grid.buffer.pixels.length := by
        rw [buffer, length_toList]
        exact rowStart_add_lt inHeight inWidth
      rw [if_pos covered]
      simp only [PixelBuffer.replaceAt, if_pos inside, Except.ok_bind]
      simp only [buffer, stride, Option.getD_some, toList_of_set? changed, sameWidth, sameHeight]
      rfl
  | none =>
      rw [if_neg (set?_eq_none_iff.mp changed)]
      rfl

/-- What stands at the positions of a row is the row of the grid. -/
theorem row_buffer (grid : PixelGrid) (y : UInt16) :
    grid.buffer.row y = .ok (grid.row? y) := by
  rw [PixelBuffer.row, row?]
  by_cases outside : grid.buffer.height ≤ y
  · have none : grid.rows[y.toNat]? = none :=
      Vector.getElem?_eq_none_iff.mpr (UInt16.le_iff_toNat_le.mp outside)
    rw [if_pos outside, none]
    rfl
  · have inHeight : y.toNat < grid.height.toNat :=
      UInt16.lt_iff_toNat_lt.mp (UInt16.not_le.mp outside)
    have rowEnd := rowEnd_le inHeight
    rw [if_neg outside, Vector.getElem?_eq_getElem inHeight]
    simp only [buffer, stride, within64_of_le_length rowEnd,
      within64_of_le_length (Nat.le_of_add_right_le rowEnd), Except.ok_bind,
      InPlace.cut_eq (Nat.le_add_right _ _) rowEnd, Nat.add_sub_cancel_left,
      byteRange_row inHeight]
    rfl

end PixelGrid

end AdventureArchive
