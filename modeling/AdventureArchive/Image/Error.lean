namespace AdventureArchive

/-!
# What can be wrong with an image

Faults of the image header, of the relation between header and payload, and of
the compressed pixel stream.
-/

/-- Faults of an image or its stored form. -/
inductive ImageError where
  | truncatedHeader
  | zeroSize
  | unknownCompression (code : UInt8)
  | spriteFrameOutOfBounds (width height frameWidth frameHeight : UInt16)
  | missingSpriteFrame
  | unexpectedSpriteFrame
  | payloadLength (expected actual : Nat)
  | streamExhausted (produced expected : Nat)
  | shortOutput (produced expected : Nat)
  deriving Repr, DecidableEq

/-- The wording of an image error. -/
def ImageError.message : ImageError → String
  | .truncatedHeader => "image sub-header truncated"
  | .zeroSize => "image reports zero width or height"
  | .unknownCompression code => s!"unknown image compression {code}"
  | .spriteFrameOutOfBounds width height frameWidth frameHeight =>
      s!"sprite frame {frameWidth}x{frameHeight} does not fit inside " ++
        s!"{width}x{height} sheet"
  | .missingSpriteFrame => "sprite sheet has no frame rectangle"
  | .unexpectedSpriteFrame => "only sprites carry a frame rectangle"
  | .payloadLength expected actual =>
      s!"raw pixel payload holds {actual} bytes, expected {expected}"
  | .streamExhausted produced expected =>
      s!"compressed stream exhausted after {produced} of {expected} pixels"
  | .shortOutput produced expected =>
      s!"compressed stream ended after {produced} of {expected} pixels"

end AdventureArchive
