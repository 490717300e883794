import AdventureArchive.Bytes.LayoutLaws
import AdventureArchive.Resource.Error

namespace AdventureArchive

/-!
# Sounds

Sample data behind a header that says how to play it.  Only 8 or 16 bits per
sample and one or two channels are read; writing does not look at either.
-/

/-- Sample data with its playback format. -/
structure Sound where
  sampleRate : UInt32
  bitsPerSample : UInt8
  channels : UInt8
  samples : List UInt8
  deriving Repr, DecidableEq, Inhabited

namespace Sound

/-- The stored header: sample rate, sample width, channels and data length. -/
abbrev Header := UInt32 × UInt8 × UInt8 × UInt32

/-- Number of samples per channel; none when the format leaves no sample size. -/
def frameCount (sound : Sound) : Nat :=
  let frameSize := sound.bitsPerSample.toNat / 8 * sound.channels.toNat
  if frameSize = 0 then 0 else sound.samples.length / frameSize

/-- Reads a sound; sample width, channels and length are checked in this order. -/
def decode (bytes : List UInt8) : Except ResourceError Sound :=
  match (Layout.read bytes : Option (Header × List UInt8)) with
  | none => .error (.truncated .soundHeader)
  | some ((sampleRate, bitsPerSample, channels, dataLength), samples) =>
      if bitsPerSample ≠ 8 ∧ bitsPerSample ≠ 16 then
        .error (.invalid (.sampleWidth bitsPerSample))
      else if channels ≠ 1 ∧ channels ≠ 2 then
        .error (.invalid (.channelCount channels))
      else if bytes.length ≠ Layout.width Header + dataLength.toNat then
        .error (.wrongLength (Layout.width Header + dataLength.toNat) bytes.length)
      else
        .ok { sampleRate, bitsPerSample, channels, samples }

/-- The header and the samples. -/
def encode (sound : Sound) : Except ResourceError (List UInt8) :=
  if sound.samples.length < UInt32.size then
    .ok (Layout.write
        ((sound.sampleRate, sound.bitsPerSample, sound.channels,
          UInt32.ofNat sound.samples.length) : Header) ++
      sound.samples)
  else
    .error (.invalid .oversizedSound)

end Sound

end AdventureArchive
