import AdventureArchive.Proofs.Bytes.Writing
import AdventureArchive.Proofs.FirstFault
import AdventureArchive.Proofs.Image.StoredForm

namespace AdventureArchive

/-!
# Reading and writing images undo each other

Tables of one kind read exactly the images that can be written for them.  What
has been read is written to the end of a buffer as the bytes it was read from,
and not at all for a kind that treats frames differently.  Any image at all, with
whatever header and payload, is either written as bytes that are read as an equal
image, or refused with the first of its faults (`Image.faults`) and the buffer
left alone.  `Image.invertible` says so for each kind.
-/

/-- Whether the images of a kind have to have a frame; the others must not have one. -/
def ImageKind.framed : ImageKind → Bool
  | .sprite => true
  | .icon => false
  | .roomImage => false

namespace ImageHeader

/-- What a kind does not allow of the frame of an image. -/
def frameFaults (kind : ImageKind) (header : ImageHeader) : List ImageError :=
  faultIf (kind.framed ∧ header.spriteFrame? = none) .missingSpriteFrame ++
    faultIf (¬ kind.framed ∧ header.spriteFrame? ≠ none) .unexpectedSpriteFrame ++
    header.spriteFrame?.toList.flatMap fun frame =>
      faultIf (header.width < frame.width ∨ header.height < frame.height)
        (.spriteFrameOutOfBounds header.width header.height frame.width frame.height)

/-- A header is refused for its size and then for its frame. -/
theorem reportsFirst_check
    (kind : ImageKind)
    (header : ImageHeader) :
    ReportsFirst (header.check kind)
      (faultIf (header.width = 0 ∨ header.height = 0) .zeroSize ++ header.frameFaults kind) := by
  refine .check fun _ => ?_
  rcases header with ⟨width, height, _ | frame, compression⟩
  · cases kind with
    | sprite => exact .error ImageError.missingSpriteFrame _
    | icon | roomImage => exact .ok ()
  · cases kind with
    | sprite =>
        rw [frameFaults, faultIf_of_not (by simp), faultIf_of_not (by simp [ImageKind.framed])]
        simp only [List.nil_append, Option.toList_some, List.flatMap_singleton]
        exact .check_ok
    | icon | roomImage =>
        exact .error ImageError.unexpectedSpriteFrame _

end ImageHeader

/-- Writes width and height. -/
def SpriteFrame.writing (frame : SpriteFrame) : Writing ImageError Unit := do
  Writing.field frame.width
  Writing.field frame.height

namespace Image

/-- What keeps an image from being written for a kind, in the order in which it is looked for. -/
def faults (kind : ImageKind) (image : Image) : List ImageError :=
  faultIf (image.header.width = 0 ∨ image.header.height = 0) .zeroSize ++
    image.header.frameFaults kind ++
    faultIf (image.header.compression = .raw ∧ image.payload.length ≠ image.header.area)
      (.payloadLength image.header.area image.payload.length)

/-- Writes the fields of the header and the payload, once both have been checked. -/
def writing (kind : ImageKind) (image : Image) : Writing ImageError Unit := do
  Writing.check (image.header.check kind)
  Writing.check (image.header.checkPayload image.payload.length)
  Writing.field image.header.width
  Writing.field image.header.height
  Writing.optional SpriteFrame.writing image.header.spriteFrame?
  Writing.field image.header.compression.code
  Writing.bytes image.payload

/-- What reading and writing the images of a kind have to do with each other. -/
structure Invertible (kind : ImageKind) : Prop where
  stores : ∀ image : Image, (image.writing kind).Writes (image.encode kind)
  restores :
    ∀ bytes image, decode kind bytes = .ok image →
      ∀ buffer, (image.writing kind).result buffer = (.ok (), buffer ++ bytes)
  othersRefuse :
    ∀ bytes image, decode kind bytes = .ok image →
      ∀ other : ImageKind, other.framed ≠ kind.framed →
        ∃ fault, ∀ buffer, (image.writing other).result buffer = (.error fault, buffer)
  readBack :
    ∀ image : Image, image.faults kind = [] →
      ∃ added again,
        (∀ buffer, (image.writing kind).result buffer = (.ok (), buffer ++ added)) ∧
          decode kind added = .ok again ∧
          (again == image) = true
  refuses :
    ∀ (image : Image) (fault : ImageError), (image.faults kind).head? = some fault →
      ∀ buffer, (image.writing kind).result buffer = (.error fault, buffer)

/-- The fields written one after the other come to the stored form. -/
theorem writes
    (kind : ImageKind)
    (image : Image) :
    (image.writing kind).Writes (image.encode kind) := by
  have stored :
      image.header.write ++ image.payload =
        Layout.write image.header.width ++ (Layout.write image.header.height ++
          (image.header.spriteFrame?.elim [] Layout.write ++
            (Layout.write image.header.compression.code ++ image.payload))) := by
    rw [ImageHeader.write]
    cases image.header.spriteFrame? <;> simp [Layout.write]
  have writesFrame (frame : SpriteFrame) : frame.writing.Writes (.ok (Layout.write frame)) :=
    (Writing.writes_field _).andThen (Writing.writes_field _)
  rw [encode, stored]
  refine .check fun _ => .check fun _ => ?_
  exact (Writing.writes_field _).andThen <| (Writing.writes_field _).andThen <|
    (Writing.writes_optional writesFrame _).andThen <| (Writing.writes_field _).andThen <|
    Writing.writes_bytes _

/-- Writing reports the first fault. -/
theorem reportsFirst_encode
    (kind : ImageKind)
    (image : Image) :
    ReportsFirst (image.encode kind) (image.faults kind) := by
  refine (image.header.reportsFirst_check kind).bind fun _ _ => ?_
  rw [← List.append_nil (faultIf _ _)]
  exact ReportsFirst.check_ok.bind fun _ _ => .ok _

/-- Of these faults the first is reported: an icon has no frame. -/
example :
    (ofPayload ⟨2, 1, some ⟨3, 1⟩, .raw⟩ [7]).faults .icon =
      [.unexpectedSpriteFrame, .spriteFrameOutOfBounds 2 1 3 1, .payloadLength 2 1] := by
  decide

/-- An image that can be written for a kind has a frame exactly if the kind wants one. -/
theorem framed_of_encode
    {kind : ImageKind}
    {image : Image}
    {bytes : List UInt8}
    (encoded : image.encode kind = .ok bytes) :
    image.header.spriteFrame?.isSome = kind.framed := by
  have isSprite := ImageHeader.isSome_spriteFrame?_of_check (encode_eq_ok_iff.mp encoded).1
  rw [Bool.eq_iff_iff, isSprite]
  cases kind <;> decide

/--
For each kind, images that are read are written as the bytes they are read from,
and images that are written are read from those bytes.
-/
theorem invertible (kind : ImageKind) : Invertible kind := by
  constructor
  case stores => exact writes kind
  case restores =>
    intro bytes image accepted
    exact (writes kind image).result_eq (encode_of_decode accepted).1
  case othersRefuse =>
    intro bytes image accepted other differs
    match refused : image.encode other with
    | .ok encoded =>
        have framed := framed_of_encode (encode_of_decode accepted).1
        exact absurd (framed_of_encode refused ▸ framed) differs
    | .error fault =>
        refine ⟨fault, fun buffer => ?_⟩
        rw [writes other image buffer, refused]
  case readBack =>
    intro image faultless
    obtain ⟨added, encoded⟩ := (reportsFirst_encode kind image).exists_ok_iff.mpr faultless
    refine ⟨added, image.reloaded, (writes kind image).result_eq encoded,
      decode_of_encode encoded, ?_⟩
    exact (beq_iff_reloaded_eq image.reloaded image).mpr rfl
  case refuses =>
    intro image fault isFirst buffer
    rw [writes kind image buffer, (reportsFirst_encode kind image fault).mpr isFirst]

end Image

end AdventureArchive
