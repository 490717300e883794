import AdventureArchive.Image.Error
import AdventureArchive.Program

namespace AdventureArchive

/-!
# What can be wrong with one resource

A fault of a resource never reaches beyond its own entry.  Faults of images and
programs keep their own cause; the texts that name a fault of the plain formats
are built where the fault is found.
-/

/-- Fields that a stored resource can end before. -/
inductive ResourceField where
  | textLengthPrefix
  | sequenceFrameCount
  | sequenceFrame
  | soundHeader
  | roomRecord
  deriving Repr, DecidableEq

/-- The name errors give a field. -/
def ResourceField.name : ResourceField → String
  | .textLengthPrefix => "text length prefix"
  | .sequenceFrameCount => "sequence frame count"
  | .sequenceFrame => "sequence frame"
  | .soundHeader => "sound header"
  | .roomRecord => "room record"

/-- Values that no stored resource may have. -/
inductive InvalidResource where
  | unencodableText
  | raggedPalette (length : Nat)
  | oversizedPalette (colours : Nat)
  | oversizedSequence (frames : Nat)
  | sampleWidth (bits : UInt8)
  | channelCount (channels : UInt8)
  | oversizedSound
  deriving Repr, DecidableEq

/-- The wording for a value that no stored resource may have. -/
def InvalidResource.message : InvalidResource → String
  | .unencodableText => "text contains characters outside the single-byte range"
  | .raggedPalette length => s!"palette length {length} is not a multiple of 3"
  | .oversizedPalette colours => s!"palette holds {colours} colours, more than 256"
  | .oversizedSequence frames => s!"sequence has {frames} frames"
  | .sampleWidth bits => s!"unsupported sample width {bits}"
  | .channelCount channels => s!"unsupported channel count {channels}"
  | .oversizedSound => "sound data exceeds 4 GiB"

/-- Faults of one resource or its stored form. -/
inductive ResourceError where
  | entryOutOfBounds (offset length : UInt32) (tableLength : Nat)
  | wrongLength (expected actual : Nat)
  | truncated (field : ResourceField)
  | invalid (cause : InvalidResource)
  | image (cause : ImageError)
  | program (cause : ProgramError)
  deriving Repr, DecidableEq

/-- The wording of a resource error and then of its causes. -/
def ResourceError.explanation : ResourceError → List String
  | .entryOutOfBounds offset length tableLength =>
      [s!"entry at {offset}+{length} lies outside its {tableLength}-byte table"]
  | .wrongLength expected actual => [s!"expected {expected} bytes, found {actual}"]
  | .truncated field => [s!"payload truncated while reading {field.name}"]
  | .invalid cause => [cause.message]
  | .image cause => [cause.message]
  | .program cause => cause.explanation

/-- An explanation in one line, from the general to the particular. -/
def explanationText (explanation : List String) : String :=
  String.intercalate ": " explanation

/-- The wording of a resource error with its causes in one line. -/
def ResourceError.message (error : ResourceError) : String :=
  explanationText error.explanation

end AdventureArchive
