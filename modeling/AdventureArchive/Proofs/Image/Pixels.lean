import AdventureArchive.Proofs.Image.StoredForm
import AdventureArchive.Proofs.Lz.RoundTrip

namespace AdventureArchive

/-!
# The pixels of images

The pixels of an image are decoded when they are first used, copied along with a
copy, or there from the start, yet they are always those that header and payload
stand for (`Image.coherent_of_obtained`).  What has to be seen for that is that
an image of given pixels has a payload that stands for them
(`Compression.pixels_payload`), which for compressed payloads is the round trip
of the compression.
-/

namespace PixelGrid

/-- The pixels of a grid are those of its rows, one behind the other. -/
theorem toList_eq_flatten (grid : PixelGrid) : grid.toList = grid.rows.flatten.toList := by
  rcases grid with ⟨width, height, ⟨⟨rows⟩, size⟩⟩
  simp only [toList, Vector.flatten_mk, List.flatMap_def, Vector.toList_mk, List.map_toArray,
    Array.flatten_toArray, List.map_map]
  rfl

/-- The pixel in a row and column comes behind the rows before and the columns before. -/
theorem getElem_toList
    (grid : PixelGrid)
    {row column : Nat}
    (inHeight : row < grid.height.toNat)
    (inWidth : column < grid.width.toNat)
    (inside : row * grid.width.toNat + column < grid.toList.length) :
    grid.toList[row * grid.width.toNat + column] = grid.rows[row][column] := by
  have positive : 0 < grid.width.toNat := Nat.zero_lt_of_lt inWidth
  have rowFound : (row * grid.width.toNat + column) / grid.width.toNat = row := by
    rw [Nat.mul_comm, Nat.mul_add_div positive, Nat.div_eq_of_lt inWidth, Nat.add_zero]
  have columnFound : (row * grid.width.toNat + column) % grid.width.toNat = column := by
    rw [Nat.mul_comm, Nat.mul_add_mod, Nat.mod_eq_of_lt inWidth]
  simp only [toList_eq_flatten, Vector.getElem_toList, Vector.getElem_flatten, rowFound,
    columnFound]

/-- A grid is made of its pixels again. -/
theorem ofPixels_toList (grid : PixelGrid) :
    ofPixels grid.width grid.height grid.toList = .ok grid := by
  have fits : grid.toList.toArray.size = area grid.width grid.height := by
    rw [List.size_toArray, length_toList]
  unfold ofPixels
  simp only [fits, dif_pos]
  congr 2
  apply Vector.ext
  intro row inHeight
  apply Vector.ext
  intro column inWidth
  simp only [Vector.getElem_ofFn, List.getElem_toArray]
  exact grid.getElem_toList inHeight inWidth _

/-- A grid that is made of pixels has the size that was asked for. -/
theorem size_of_ofPixels
    {width height : UInt16}
    {pixels : List UInt8}
    {grid : PixelGrid}
    (made : ofPixels width height pixels = .ok grid) :
    grid.width = width ∧ grid.height = height := by
  unfold ofPixels at made
  simp only at made
  split at made
  next =>
    obtain rfl := Except.ok.inj made
    exact ⟨rfl, rfl⟩
  next => contradiction

end PixelGrid

/-- Compressed data is expanded to its own length again. -/
theorem Lz.expandTo_compress_length (data : List UInt8) :
    expandTo (compress data) data.length = .ok data := by
  rw [expandTo_compress, if_pos (Nat.le_refl _), List.take_length]

namespace Compression

/-- The payload of a grid stands for that grid. -/
theorem pixels_payload
    (compression : Compression)
    (grid : PixelGrid) :
    compression.pixels (compression.payload grid.toList) grid.width grid.height = .ok grid := by
  cases compression with
  | raw => exact grid.ofPixels_toList
  | lz =>
      rw [pixels, payload, ← grid.length_toList, Lz.expandTo_compress_length, Except.ok_bind]
      exact grid.ofPixels_toList

/-- The pixels that a payload stands for have the size that is declared beside it. -/
theorem size_of_pixels
    {compression : Compression}
    {payload : List UInt8}
    {width height : UInt16}
    {grid : PixelGrid}
    (decoded : compression.pixels payload width height = .ok grid) :
    grid.width = width ∧ grid.height = height := by
  cases compression with
  | raw => exact PixelGrid.size_of_ofPixels decoded
  | lz =>
      obtain ⟨pixels, -, made⟩ := Except.bind_eq_ok_iff.mp decoded
      exact PixelGrid.size_of_ofPixels made

end Compression

namespace Image

/-- The pixels that header and payload of an image stand for. -/
def storedPixels (image : Image) : Except ImageError PixelGrid :=
  image.header.compression.pixels image.payload image.header.width image.header.height

/-- How images come about: read, made by an editor, copied, and left behind by a use. -/
inductive Obtained : Image → Prop where
  | read {kind : ImageKind} {bytes : List UInt8} {image : Image}
      (accepted : decode kind bytes = .ok image) : Obtained image
  | edited (compression : Compression) (grid : PixelGrid) (spriteFrame? : Option SpriteFrame) :
      Obtained (ofPixels compression grid spriteFrame?)
  | copied {image : Image} (original : Obtained image) : Obtained image.copy
  | used {image : Image} (unused : Obtained image) : Obtained image.decoded

/-- What has to hold of the pixels of an image, whether they have been decoded or not. -/
structure PixelsCoherent (image : Image) : Prop where
  stored : image.pixels = image.storedPixels
  stable : image.decoded.isDecoded = true ∧ image.decoded.pixels = image.pixels
  equal :
    ∀ other : Image, other.Obtained → (image == other) = true → other.pixels = image.pixels
  size :
    ∀ grid, image.pixels = .ok grid →
      grid.width = image.header.width ∧ grid.height = image.header.height
  copyBefore : image.copy.pixels = image.pixels ∧ (image.copy == image) = true
  copyAfter : image.decoded.copy.pixels = image.pixels ∧ (image.decoded.copy == image) = true
  restored :
    ∀ kind bytes, image.encode kind = .ok bytes →
      ∃ again, decode kind bytes = .ok again ∧ again.pixels = image.pixels

/-- A copy has the header and the payload of its original. -/
theorem copy_stored (image : Image) :
    image.copy.header = image.header ∧ image.copy.payload = image.payload := by
  unfold copy
  split
  next => exact ⟨rfl, rfl⟩
  next => exact ⟨rfl, rfl⟩

/-- A copy has the pixels that it is stored with if its original has. -/
theorem pixels_copy
    {image : Image}
    (stored : image.pixels = image.storedPixels) :
    image.copy.pixels = image.storedPixels := by
  unfold copy
  split
  next => exact stored
  next => rfl

/-- However an image came about, its pixels are those that header and payload stand for. -/
theorem pixels_of_obtained
    {image : Image}
    (obtained : image.Obtained) :
    image.pixels = image.storedPixels := by
  induction obtained with
  | read accepted =>
      rw [← (encode_of_decode accepted).2]
      rfl
  | edited compression grid spriteFrame? => exact (compression.pixels_payload grid).symm
  | @copied image _ inductionHypothesis =>
      rw [pixels_copy inductionHypothesis, storedPixels, storedPixels, image.copy_stored.1,
        image.copy_stored.2]
  | used _ inductionHypothesis => exact inductionHypothesis

/-- Images that are equal stand for the same pixels. -/
theorem storedPixels_eq_of_beq
    {image other : Image}
    (same : (image == other) = true) :
    other.storedPixels = image.storedPixels := by
  have both : (image.header == other.header && image.payload == other.payload) = true := same
  rw [Bool.and_eq_true, beq_iff_eq, beq_iff_eq] at both
  rw [storedPixels, storedPixels, both.1, both.2]

/-- Images with the same header and payload are equal. -/
theorem beq_of_stored
    {image other : Image}
    (same : other.header = image.header ∧ other.payload = image.payload) :
    (other == image) = true := by
  change (other.header == image.header && other.payload == image.payload) = true
  rw [same.1, same.2, beq_self_eq_true, beq_self_eq_true]
  rfl

/--
However an image came about, its pixels are those its header and payload stand
for, and with them agree those of equal images, of copies made before or after
the first use, and of what is read again where the image has been stored.
-/
theorem coherent_of_obtained
    {image : Image}
    (obtained : image.Obtained) :
    image.PixelsCoherent := by
  have stored := pixels_of_obtained obtained
  constructor
  case stored => exact stored
  case stable => exact ⟨rfl, rfl⟩
  case equal =>
    intro other otherObtained same
    rw [pixels_of_obtained otherObtained, stored, storedPixels_eq_of_beq same]
  case size =>
    intro grid decoded
    rw [stored] at decoded
    exact Compression.size_of_pixels decoded
  case copyBefore =>
    refine ⟨?_, beq_of_stored image.copy_stored⟩
    rw [pixels_copy stored, stored]
  case copyAfter =>
    refine ⟨?_, beq_of_stored image.decoded.copy_stored⟩
    exact (pixels_copy (pixels_of_obtained obtained.used)).trans stored.symm
  case restored =>
    intro kind bytes encoded
    exact ⟨image.reloaded, decode_of_encode encoded, stored.symm⟩

/-- A stored icon of four pixels by one, each of index nine, compressed to a literal and a copy. -/
def plainIcon : List UInt8 :=
  [4, 0, 1, 0, 1] ++ [0x01, 0x00, 0x09, 0xFF]

/-- The plain icon is coherent after it has been copied, used and copied again. -/
theorem coherent_plainIcon :
    ∃ icon,
      decode .icon plainIcon = .ok icon ∧
        icon.copy.decoded.copy.isDecoded = true ∧
        icon.copy.decoded.copy.PixelsCoherent ∧
        icon.copy.decoded.copy.pixels.toOption.map PixelGrid.toList = some [9, 9, 9, 9] := by
  obtain ⟨icon, accepted⟩ :=
    Except.exists_of_isOk (show (decode .icon plainIcon).isOk = true by decide +kernel)
  have pixels :
      ((decode .icon plainIcon).toOption.map fun icon =>
          icon.copy.decoded.copy.pixels.toOption.map PixelGrid.toList) =
        some (some [9, 9, 9, 9]) := by
    decide +kernel
  rw [accepted] at pixels
  refine ⟨icon, accepted, rfl, ?_, Option.some.inj pixels⟩
  exact coherent_of_obtained (.copied (.used (.copied (.read accepted))))

end Image

end AdventureArchive
