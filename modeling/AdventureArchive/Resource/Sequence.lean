import AdventureArchive.Bytes.LayoutLaws
import AdventureArchive.Resource.Error

namespace AdventureArchive

/-!
# Sequences

A sequence shows sprites one after the other, each for a while and at an
offset.  It is stored as a 16-bit count and that many frames, for which room is
taken to be allocated.
-/

/-- One sprite of a sequence. -/
structure SequenceFrame where
  sprite : UInt16
  delay : UInt16
  dx : Int16
  dy : Int16
  deriving Repr, DecidableEq, Inhabited

instance : Layout SequenceFrame :=
  .via
    (fun frame => (frame.sprite, frame.delay, frame.dx, frame.dy))
    (fun (sprite, delay, dx, dy) => ⟨sprite, delay, dx, dy⟩)

instance : LawfulLayout SequenceFrame :=
  .via (fun _ => rfl) (fun _ => rfl)

/-- Sprites shown in order. -/
structure Sequence where
  frames : List SequenceFrame
  deriving Repr, DecidableEq, Inhabited

namespace Sequence

/-- Sum of the frame delays, in 32 bits. -/
def duration (sequence : Sequence) : UInt32 :=
  sequence.frames.foldl (fun total frame => total + frame.delay.toUInt32) 0

/-- Reads a sequence; count and length have to agree. -/
def decode (bytes : List UInt8) : Except ResourceError Sequence :=
  match (Layout.read bytes : Option (UInt16 × List UInt8)) with
  | none => .error (.truncated .sequenceFrameCount)
  | some (count, body) =>
      let expected :=
        Layout.width UInt16 + count.toNat * Layout.width SequenceFrame
      if bytes.length ≠ expected then
        .error (.wrongLength expected bytes.length)
      else
        match Layout.readMany count.toNat body with
        | some (frames, _) => .ok ⟨frames⟩
        | none => .error (.truncated .sequenceFrame)

/-- The frame count and the frames. -/
def encode (sequence : Sequence) : Except ResourceError (List UInt8) :=
  if sequence.frames.length < UInt16.size then
    .ok (Layout.write (UInt16.ofNat sequence.frames.length) ++
      Layout.writeMany sequence.frames)
  else
    .error (.invalid (.oversizedSequence sequence.frames.length))

end Sequence

end AdventureArchive
