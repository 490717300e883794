import AdventureArchive.Bytes.LayoutLaws
import AdventureArchive.Deferred
import AdventureArchive.Image.Lz.Compress
import AdventureArchive.Image.Lz.Expand
import AdventureArchive.Image.PixelGrid

namespace AdventureArchive

/-!
# Images

An image is a header, a stored payload and the pixels the payload stands for.
The pixels of a stored image are decoded on first use, with the size and
compression the image had when it was read or copied; pixels handed over by an
editor are there from the start.

Two images are the same when header and payload are, whatever has been decoded.
-/

/-- The tables that hold images; only sprites carry a frame. -/
inductive ImageKind where
  | sprite
  | icon
  | roomImage
  deriving Repr, DecidableEq

/-- How a payload stores pixels. -/
inductive Compression where
  | raw
  | lz
  deriving Repr, DecidableEq

/-- There is always room to expand as many pixels as a grid can have. -/
theorem Lz.hasRoom_area (width height : UInt16) :
    HasRoom (PixelGrid.area width height) := by
  have bound : PixelGrid.area width height ≤ 65535 * 65535 :=
    Nat.mul_le_mul (Nat.le_of_lt_succ width.toNat_lt) (Nat.le_of_lt_succ height.toNat_lt)
  rw [HasRoom, windowSize, maxBufferSize]
  omega

namespace Compression

/-- The byte that stands for a compression. -/
def code : Compression → UInt8
  | .raw => 0
  | .lz => 1

/-- The compression a byte stands for. -/
def ofCode (code : UInt8) : Except ImageError Compression :=
  if code = Compression.raw.code then
    .ok .raw
  else if code = Compression.lz.code then
    .ok .lz
  else
    .error (.unknownCompression code)

/--
The pixels that a payload stands for.  There is always room to expand as many as
a grid can have (`Lz.hasRoom_area`).
-/
def pixels
    (compression : Compression)
    (payload : List UInt8)
    (width height : UInt16) :
    Except ImageError PixelGrid :=
  match compression with
  | .raw => PixelGrid.ofPixels width height payload
  | .lz => do
      let pixels ← Lz.expandTo payload (PixelGrid.area width height)
      PixelGrid.ofPixels width height pixels

/-- The pixels of a compressed payload are what it is decompressed to. -/
theorem mapError_pixels_lz
    (payload : List UInt8)
    (width height : UInt16) :
    (lz.pixels payload width height).mapError Lz.DecompressError.stream =
      Lz.decompress payload (PixelGrid.area width height) >>= fun pixels =>
        (PixelGrid.ofPixels width height pixels).mapError .stream := by
  rw [pixels, Lz.decompress_of_hasRoom (Lz.hasRoom_area width height)]
  cases Lz.expandTo payload (PixelGrid.area width height) with
  | error cause => rfl
  | ok pixels => rfl

/-- The payload that stands for pixels. -/
def payload (compression : Compression) (pixels : List UInt8) : List UInt8 :=
  match compression with
  | .raw => pixels
  | .lz => Lz.compress pixels

end Compression

/-- The visible part of a sprite; the rest of the sheet is padding. -/
structure SpriteFrame where
  width : UInt16
  height : UInt16
  deriving Repr, DecidableEq, Inhabited

instance : Layout SpriteFrame :=
  .via
    (fun frame => (frame.width, frame.height))
    (fun (width, height) => ⟨width, height⟩)

instance : LawfulLayout SpriteFrame :=
  .via (fun _ => rfl) (fun _ => rfl)

/-- Size, frame and compression of an image. -/
structure ImageHeader where
  width : UInt16
  height : UInt16
  spriteFrame? : Option SpriteFrame
  compression : Compression
  deriving Repr, DecidableEq

/-- What decoding pixels from a payload needs to know. -/
structure PixelFormat where
  compression : Compression
  width : UInt16
  height : UInt16
  deriving Repr, DecidableEq

namespace ImageHeader

/-- The pixel format of an image with this header. -/
def format (header : ImageHeader) : PixelFormat :=
  ⟨header.compression, header.width, header.height⟩

/-- Number of pixels the header announces. -/
def area (header : ImageHeader) : Nat :=
  PixelGrid.area header.width header.height

/-- Whether a table of the given kind can hold an image with this header. -/
def check (kind : ImageKind) (header : ImageHeader) : Except ImageError Unit :=
  if header.width = 0 ∨ header.height = 0 then
    .error .zeroSize
  else
    match kind, header.spriteFrame? with
    | .sprite, none => .error .missingSpriteFrame
    | .icon, some _ => .error .unexpectedSpriteFrame
    | .roomImage, some _ => .error .unexpectedSpriteFrame
    | .sprite, some frame =>
        if header.width < frame.width ∨ header.height < frame.height then
          .error (.spriteFrameOutOfBounds
            header.width header.height frame.width frame.height)
        else
          .ok ()
    | .icon, none => .ok ()
    | .roomImage, none => .ok ()

/-- Whether a payload of the given length can belong to this header. -/
def checkPayload (header : ImageHeader) (length : Nat) : Except ImageError Unit :=
  if header.compression = .raw ∧ length ≠ header.area then
    .error (.payloadLength header.area length)
  else
    .ok ()

/-- The stored fields of a header, before they are checked. -/
structure Fields where
  width : UInt16
  height : UInt16
  spriteFrame? : Option SpriteFrame
  compressionCode : UInt8
  deriving Repr, DecidableEq

/-- Reads the header fields of an image; only sprites store a frame. -/
def readFields?
    (kind : ImageKind)
    (bytes : List UInt8) :
    Option (Fields × List UInt8) :=
  match kind with
  | .sprite =>
      (Layout.read bytes :
          Option ((UInt16 × UInt16 × SpriteFrame × UInt8) × List UInt8)).map
        fun ((width, height, frame, code), rest) =>
          (⟨width, height, some frame, code⟩, rest)
  | .icon | .roomImage =>
      (Layout.read bytes :
          Option ((UInt16 × UInt16 × UInt8) × List UInt8)).map
        fun ((width, height, code), rest) =>
          (⟨width, height, none, code⟩, rest)

/-- The stored form of a header. -/
def write (header : ImageHeader) : List UInt8 :=
  Layout.write (header.width, header.height) ++
    (match header.spriteFrame? with
      | some frame => Layout.write frame
      | none => []) ++
    Layout.write header.compression.code

end ImageHeader

/-- An image with its payload and its possibly decoded pixels. -/
structure Image where
  header : ImageHeader
  payload : List UInt8
  cell : Deferred PixelFormat (Except ImageError PixelGrid)

/-- Images are compared by what is stored; decoded pixels play no part. -/
instance : BEq Image where
  beq first second :=
    first.header == second.header && first.payload == second.payload

namespace Image

/-- An image whose pixels are decoded on first use. -/
def ofPayload (header : ImageHeader) (payload : List UInt8) : Image :=
  ⟨header, payload, .pending header.format⟩

/-- An image of given pixels. -/
def ofPixels
    (compression : Compression)
    (grid : PixelGrid)
    (spriteFrame? : Option SpriteFrame) :
    Image where
  header := ⟨grid.width, grid.height, spriteFrame?, compression⟩
  payload := compression.payload grid.toList
  cell := .ready (.ok grid)

/-- Decodes the payload in a given format. -/
def decodePayload
    (payload : List UInt8)
    (format : PixelFormat) :
    Except ImageError PixelGrid :=
  format.compression.pixels payload format.width format.height

/-- The pixels of an image. -/
def pixels (image : Image) : Except ImageError PixelGrid :=
  image.cell.value (decodePayload image.payload)

/-- The image after its pixels have been used. -/
def decoded (image : Image) : Image :=
  { image with cell := image.cell.force (decodePayload image.payload) }

/-- Whether the pixels have been decoded. -/
def isDecoded (image : Image) : Bool :=
  image.cell.isReady

/--
A copy of an image.  Decoded pixels are copied along; pixels not decoded yet
are going to be decoded in the format the header has now.
-/
def copy (image : Image) : Image :=
  match image.cell with
  | .ready _ => image
  | .pending _ => ofPayload image.header image.payload

/--
Reads an image.  Missing fields are reported first, then an unknown
compression, then a header its table cannot hold, then a raw payload of the
wrong length.
-/
def decode
    (kind : ImageKind)
    (bytes : List UInt8) :
    Except ImageError Image :=
  match ImageHeader.readFields? kind bytes with
  | none => .error .truncatedHeader
  | some (fields, payload) => do
      let compression ← Compression.ofCode fields.compressionCode
      let header : ImageHeader :=
        ⟨fields.width, fields.height, fields.spriteFrame?, compression⟩
      header.check kind
      header.checkPayload payload.length
      return ofPayload header payload

/-- The stored form of an image, if a table of the given kind can hold it. -/
def encode
    (kind : ImageKind)
    (image : Image) :
    Except ImageError (List UInt8) := do
  image.header.check kind
  image.header.checkPayload image.payload.length
  return image.header.write ++ image.payload

/-- A one-line description of an image. -/
def description (image : Image) : String :=
  let frame :=
    match image.header.spriteFrame? with
    | some frame =>
        "Some(SpriteFrame \x7b width: " ++ toString frame.width ++
          ", height: " ++ toString frame.height ++ " \x7d)"
    | none => "None"
  let compression :=
    match image.header.compression with
    | .raw => "Raw"
    | .lz => "Lz"
  "ImageResource \x7b width: " ++ toString image.header.width ++
    ", height: " ++ toString image.header.height ++
    ", sprite_frame: " ++ frame ++
    ", compression: " ++ compression ++
    ", payload_len: " ++ toString image.payload.length ++
    ", decoded: " ++ toString image.isDecoded ++ " \x7d"

end Image

end AdventureArchive
