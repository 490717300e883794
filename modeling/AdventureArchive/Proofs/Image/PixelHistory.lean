import AdventureArchive.Proofs.Image.PixelBuffer

namespace AdventureArchive

/-!
# Writing into grids

Whatever has been written into a grid, it shows at each place what has been
written there last, or else what it has been made with
(`PixelGrid.showsLast_after`).  One write changes the pixel it goes to and no
other one (`PixelGrid.get?_write`).
-/

open InPlace (Stop)

/-- A pixel to be changed: its column, its row and its new value. -/
structure PixelWrite where
  x : UInt16
  y : UInt16
  value : UInt8

/-- What has been written last to a column and row, if anything has. -/
def lastWritten? (writes : List PixelWrite) (x y : UInt16) : Option UInt8 :=
  (writes.filter fun write => write.x = x ∧ write.y = y).getLast?.map (·.value)

/-- The first of several writes shows where no later one goes. -/
theorem lastWritten?_cons
    (write : PixelWrite)
    (later : List PixelWrite)
    (x y : UInt16)
    (before : UInt8) :
    (lastWritten? (write :: later) x y).getD before =
      (lastWritten? later x y).getD
        (if write.x = x ∧ write.y = y then write.value else before) := by
  rw [lastWritten?, lastWritten?, List.filter_cons]
  by_cases here : write.x = x ∧ write.y = y
  · rw [if_pos (decide_eq_true here), if_pos here, List.getLast?_cons, Option.map_some,
      Option.getD_some]
    cases (later.filter fun write => write.x = x ∧ write.y = y).getLast? with
    | none => rfl
    | some last => rfl
  · rw [if_neg (by simpa using here), if_neg here]

/-- A buffer after one write. -/
def PixelBuffer.write (buffer : PixelBuffer) (write : PixelWrite) :
    Except (Stop Empty) PixelBuffer := do
  let (_, next) ← buffer.set write.x write.y write.value
  return next

namespace PixelGrid

variable {grid : PixelGrid} {buffer : PixelBuffer}
variable {width height : UInt16} {initial : UInt16 → UInt16 → UInt8}

/-- A grid after one write; one that goes outside changes nothing. -/
def write (grid : PixelGrid) (write : PixelWrite) : PixelGrid :=
  (grid.set? write.x write.y write.value).getD grid

/-- A grid after some writes. -/
def after (grid : PixelGrid) (writes : List PixelWrite) : PixelGrid :=
  writes.foldl write grid

/-- A write leaves a grid as large as it was. -/
theorem size_write (grid : PixelGrid) (write : PixelWrite) :
    (grid.write write).width = grid.width ∧ (grid.write write).height = grid.height := by
  rw [PixelGrid.write]
  match changed : grid.set? write.x write.y write.value with
  | some next => exact size_of_set? changed
  | none => exact ⟨rfl, rfl⟩

/-- A write changes the pixel it goes to, if there is one. -/
theorem get?_write (grid : PixelGrid) (write : PixelWrite) (x y : UInt16) :
    (grid.write write).get? x y =
      (grid.get? x y).map fun before =>
        if write.x = x ∧ write.y = y then write.value else before := by
  rw [PixelGrid.write]
  match changed : grid.set? write.x write.y write.value with
  | some next =>
      rw [Option.getD_some, get?_of_set? changed]
      by_cases here : write.x = x ∧ write.y = y
      · obtain ⟨rfl, rfl⟩ := here
        obtain ⟨inWidth, inHeight⟩ := covers_iff.mp (covers_of_set? changed)
        simp [get?_eq_some inWidth inHeight]
      · simp [here]
  | none =>
      rw [Option.getD_none]
      by_cases here : write.x = x ∧ write.y = y
      · obtain ⟨rfl, rfl⟩ := here
        rw [get?_eq_none_iff.mpr (set?_eq_none_iff.mp changed), Option.map_none]
      · simp [here]

/-- Writes leave a grid as large as it was. -/
theorem size_after (grid : PixelGrid) (writes : List PixelWrite) :
    (grid.after writes).width = grid.width ∧ (grid.after writes).height = grid.height := by
  induction writes generalizing grid with
  | nil => exact ⟨rfl, rfl⟩
  | cons write later inductionHypothesis =>
      obtain ⟨sameWidth, sameHeight⟩ := grid.size_write write
      obtain ⟨thenWidth, thenHeight⟩ := inductionHypothesis (grid.write write)
      exact ⟨thenWidth.trans sameWidth, thenHeight.trans sameHeight⟩

/-- After some writes a pixel is what has been written to it last, or what it was before. -/
theorem get?_after (grid : PixelGrid) (writes : List PixelWrite) (x y : UInt16) :
    (grid.after writes).get? x y =
      (grid.get? x y).map fun before => (lastWritten? writes x y).getD before := by
  induction writes generalizing grid with
  | nil =>
      simp [after, lastWritten?]
  | cons write later inductionHypothesis =>
      calc
        (grid.after (write :: later)).get? x y
            = ((grid.write write).get? x y).map fun before =>
                (lastWritten? later x y).getD before := inductionHypothesis _
        _ = (grid.get? x y).map fun before =>
                (lastWritten? (write :: later) x y).getD before := by
            simp only [get?_write, Option.map_map, lastWritten?_cons]
            rfl

/-- Writes into the buffer never go astray, and leave the buffer of the written grid. -/
theorem foldlM_write_buffer (grid : PixelGrid) (writes : List PixelWrite) :
    writes.foldlM PixelBuffer.write grid.buffer = .ok (grid.after writes).buffer := by
  induction writes generalizing grid with
  | nil => rfl
  | cons write later inductionHypothesis =>
      rw [List.foldlM_cons, PixelBuffer.write, set_buffer, Except.ok_bind]
      exact inductionHypothesis (grid.write write)

/-- How a grid and its buffer are made, and which pixels they have then. -/
inductive Made (width height : UInt16) :
    PixelGrid → PixelBuffer → (UInt16 → UInt16 → UInt8) → Prop where
  | blank : Made width height (blank width height) (.blank width height) fun _ _ => 0
  | ofPixels
      {pixels : List UInt8}
      {grid : PixelGrid}
      {buffer : PixelBuffer}
      (accepted : ofPixels width height pixels = .ok grid)
      (stored : PixelBuffer.ofPixels width height pixels = .ok buffer) :
      Made width height grid buffer fun x y =>
        pixels.getD (y.toNat * width.toNat + x.toNat) 0

/-- The buffer that is made with a grid is the one of that grid. -/
theorem Made.buffer_eq
    (made : Made width height grid buffer initial) :
    buffer = grid.buffer := by
  cases made with
  | blank => exact (buffer_blank width height).symm
  | ofPixels accepted stored =>
      rw [← buffer_ofPixels, accepted] at stored
      exact (Except.ok.inj stored).symm

/-- A grid has the size that it is made with. -/
theorem Made.size
    (made : Made width height grid buffer initial) :
    grid.width = width ∧ grid.height = height := by
  cases made with
  | blank => exact ⟨rfl, rfl⟩
  | ofPixels accepted _ => exact size_of_ofPixels accepted

/-- A grid has the pixels that it is made with. -/
theorem Made.get?_eq
    (made : Made width height grid buffer initial)
    (x y : UInt16) :
    grid.get? x y = if x < width ∧ y < height then some (initial x y) else none := by
  obtain ⟨sameWidth, sameHeight⟩ := made.size
  split
  next inside =>
    have covered : grid.Covers x y := by
      rwa [Covers, sameWidth, sameHeight]
    obtain ⟨inWidth, inHeight⟩ := covers_iff.mp covered
    have position := rowStart_add_lt inHeight inWidth
    rw [← covered.getElem?_toList]
    cases made with
    | blank =>
        rw [toList_blank]
        exact List.getElem?_replicate_of_lt position
    | @ofPixels pixels _ _ accepted _ =>
        have samePixels := toList_of_ofPixels accepted
        have inPixels : y.toNat * width.toNat + x.toNat < pixels.length := by
          rw [← samePixels, length_toList, ← sameWidth]
          exact position
        simp only [samePixels, sameWidth, List.getD_eq_getElem?_getD,
          List.getElem?_eq_getElem inPixels, Option.getD_some]
  next outside =>
    rw [get?_eq_none_iff, Covers, sameWidth, sameHeight]
    exact outside

/-- The columns or rows of a grid that has so many of them. -/
def indexes (count : UInt16) : List UInt16 :=
  (List.range count.toNat).map UInt16.ofNat

/-- What is found at all indexes of a vector are its items in order. -/
theorem map_getElem?_indexes
    {α : Type}
    {count : UInt16}
    (items : Vector α count.toNat) :
    (indexes count).map (fun index => items[index.toNat]?) = items.toList.map some := by
  apply List.ext_getElem
  · simp [indexes]
  · intro index inIndexes inItems
    have inside : index < count.toNat := by
      rwa [List.length_map, Vector.length_toList] at inItems
    have sameIndex : (UInt16.ofNat index).toNat = index :=
      UInt16.toNat_ofNat_of_lt' (Nat.lt_trans inside count.toNat_lt_size)
    simp [indexes, sameIndex, inside]

/--
What has to hold of a grid after some writes: it has the size it was made with,
in its buffer as many pixels as that, and shows at each place what has been
written there last.
-/
structure ShowsLast
    (width height : UInt16)
    (initial : UInt16 → UInt16 → UInt8)
    (writes : List PixelWrite)
    (grid : PixelGrid) : Prop where
  size : grid.width = width ∧ grid.height = height
  buffer :
    grid.buffer.stride = width.toNat ∧
      grid.buffer.pixels.length = grid.buffer.stride * height.toNat
  inBounds :
    ∀ x y value,
      grid.buffer.get x y = .ok (grid.get? x y) ∧
        grid.buffer.row y = .ok (grid.row? y) ∧
        grid.buffer.set x y value =
          .ok ((grid.set? x y value).isSome, (grid.write ⟨x, y, value⟩).buffer)
  set :
    ∀ x y value,
      ((grid.set? x y value).isSome = true ↔ x < width ∧ y < height) ∧
        (¬ (x < width ∧ y < height) → grid.buffer.set x y value = .ok (false, grid.buffer))
  get :
    ∀ x y,
      grid.get? x y =
        if x < width ∧ y < height then
          some ((lastWritten? writes x y).getD (initial x y))
        else
          none
  row :
    ∀ y,
      (grid.row? y = none ↔ height ≤ y) ∧
        ∀ pixels, grid.row? y = some pixels →
          pixels.map some = (indexes width).map fun x => grid.get? x y
  bytes :
    ∃ rows : List (List UInt8),
      rows.map some = (indexes height).map grid.row? ∧ grid.buffer.pixels = rows.flatten

/--
Whatever has been written into a grid, it shows at each place what has been
written there last, or else what it has been made with; in its buffer no access
is out of bounds.
-/
theorem showsLast_after
    (made : Made width height grid buffer initial)
    (writes : List PixelWrite) :
    writes.foldlM PixelBuffer.write buffer = .ok (grid.after writes).buffer ∧
      ShowsLast width height initial writes (grid.after writes) := by
  obtain rfl := made.buffer_eq
  refine ⟨grid.foldlM_write_buffer writes, ?_⟩
  obtain ⟨madeWidth, madeHeight⟩ := made.size
  obtain ⟨sameWidth, sameHeight⟩ := grid.size_after writes
  have shown := grid.get?_after writes
  generalize grid.after writes = written at *
  obtain rfl : written.width = width := sameWidth.trans madeWidth
  obtain rfl : written.height = height := sameHeight.trans madeHeight
  constructor
  case size => exact ⟨rfl, rfl⟩
  case buffer => exact ⟨rfl, written.length_toList⟩
  case inBounds =>
    intro x y value
    exact ⟨written.get_buffer x y, written.row_buffer y, written.set_buffer x y value⟩
  case set =>
    intro x y value
    constructor
    · rw [Option.isSome_iff_ne_none, Ne, set?_eq_none_iff, not_not]
      rfl
    · intro outside
      rw [set_buffer, set?_eq_none_iff.mpr outside]
      rfl
  case get =>
    intro x y
    rw [shown, made.get?_eq]
    split
    next => rfl
    next => rfl
  case row =>
    intro y
    constructor
    · rw [row?, Option.map_eq_none_iff, Vector.getElem?_eq_none_iff]
      exact UInt16.le_iff_toNat_le.symm
    · intro pixels found
      obtain ⟨row, rowFound, rfl⟩ := Option.map_eq_some_iff.mp found
      simp only [get?, rowFound, Option.bind_some]
      exact (map_getElem?_indexes row).symm
  case bytes =>
    refine ⟨written.rows.toList.map Vector.toList, ?_, List.flatMap_def⟩
    have found := congrArg (List.map (Option.map Vector.toList)) (map_getElem?_indexes written.rows)
    rw [List.map_map, List.map_map] at found
    rw [List.map_map]
    exact found.symm

/-- Three writes: two to one pixel, and between them one outside of a grid of two columns. -/
def threeWrites : List PixelWrite :=
  [⟨1, 0, 8⟩, ⟨2, 0, 9⟩, ⟨1, 0, 7⟩]

/-- A grid of two rows by two columns after the three writes. -/
theorem showsLast_square :
    ∃ grid buffer,
      ofPixels 2 2 [1, 2, 3, 4] = .ok grid ∧
        PixelBuffer.ofPixels 2 2 [1, 2, 3, 4] = .ok buffer ∧
        threeWrites.foldlM PixelBuffer.write buffer = .ok (grid.after threeWrites).buffer ∧
        ShowsLast 2 2 (fun x y => [1, 2, 3, 4].getD (y.toNat * 2 + x.toNat) 0)
          threeWrites (grid.after threeWrites) ∧
        (grid.after threeWrites).toList = [1, 7, 3, 4] := by
  obtain ⟨grid, accepted⟩ :=
    Except.exists_of_isOk (show (ofPixels 2 2 [1, 2, 3, 4]).isOk = true by decide)
  have stored : PixelBuffer.ofPixels 2 2 [1, 2, 3, 4] = .ok grid.buffer := by
    rw [← buffer_ofPixels, accepted]
    rfl
  obtain ⟨bufferWritten, showsLast⟩ := showsLast_after (.ofPixels accepted stored) threeWrites
  refine ⟨grid, grid.buffer, accepted, stored, bufferWritten, showsLast, ?_⟩
  have written :
      (ofPixels 2 2 [1, 2, 3, 4]).toOption.map (fun grid => (grid.after threeWrites).toList) =
        some [1, 7, 3, 4] := by
    decide
  rw [accepted] at written
  exact Option.some.inj written

end PixelGrid

end AdventureArchive
