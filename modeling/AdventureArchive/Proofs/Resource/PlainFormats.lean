import AdventureArchive.Proofs.Bytes.SingleByteText
import AdventureArchive.Resource.Palette
import AdventureArchive.Resource.Room
import AdventureArchive.Resource.Sequence
import AdventureArchive.Resource.Sound
import AdventureArchive.Resource.Text

namespace AdventureArchive

/-!
# The plain resource formats

Texts, palettes, sequences, sounds and the two room records.  What is read can
be written, as the bytes it was read from (`encode_of_decode`), and what is
written is read back (`decode_of_encode`).  Only sounds can be written that
cannot be read: writing ignores the playback format, reading does not
(`Sound.decode_of_encode`).
-/

/-- A record is read back from its stored form. -/
theorem decodeRecord_write
    {α : Type}
    [Layout α]
    [LawfulLayout α]
    (record : α) :
    decodeRecord (Layout.write record) = .ok record := by
  have readBack := LawfulLayout.read_append record []
  rw [List.append_nil] at readBack
  simp only [decodeRecord, LawfulLayout.length_write, ne_eq, not_true_eq_false,
    if_false, readBack]

/-- The bytes a record is read from are its stored form. -/
theorem write_of_decodeRecord
    {α : Type}
    [Layout α]
    [LawfulLayout α]
    {bytes : List UInt8}
    {record : α}
    (accepted : decodeRecord bytes = .ok record) :
    Layout.write record = bytes := by
  unfold decodeRecord at accepted
  split at accepted
  next => contradiction
  next sameLength =>
    split at accepted
    next found rest readShape =>
      obtain rfl := Except.ok.inj accepted
      have whole := LawfulLayout.eq_append_of_read readShape
      have lengths := LawfulLayout.length_of_read readShape
      obtain rfl : rest = [] := by
        apply List.eq_nil_of_length_eq_zero
        omega
      rw [whole, List.append_nil]
    next => contradiction

namespace TextBlob

/-- A text is read back from its stored form. -/
theorem decode_of_encode
    {blob : TextBlob}
    {bytes : List UInt8}
    (encoded : blob.encode = .ok bytes) :
    decode bytes = .ok blob := by
  unfold encode at encoded
  split at encoded
  next => contradiction
  next body bodyShape =>
    obtain rfl := Except.ok.inj encoded
    simp only [decode, LawfulLayout.read_append]
    rw [SingleByteText.encode?_eq_some_iff.mp bodyShape]

/-- A text that has been read has the bytes it was read from. -/
theorem encode_of_decode
    {bytes : List UInt8}
    {blob : TextBlob}
    (accepted : decode bytes = .ok blob) :
    blob.encode = .ok bytes := by
  unfold decode at accepted
  split at accepted
  next => contradiction
  next declaredLength body readShape =>
    obtain rfl := Except.ok.inj accepted
    have bodyShape : SingleByteText.encode? (SingleByteText.decode body) = some body :=
      SingleByteText.encode?_eq_some_iff.mpr rfl
    simp only [encode, bodyShape]
    rw [← LawfulLayout.eq_append_of_read readShape]

end TextBlob

namespace Palette

/-- A palette is read back from its stored form. -/
theorem decode_of_encode
    {palette : Palette}
    {bytes : List UInt8}
    (encoded : palette.encode = .ok bytes) :
    decode bytes = .ok palette := by
  unfold encode at encoded
  split at encoded
  next => contradiction
  next fits =>
    obtain rfl := Except.ok.inj encoded
    have count :
        (Layout.writeMany palette.colours).length / Layout.width Colour =
          palette.colours.length := by
      rw [Layout.length_writeMany]
      exact Nat.mul_div_cancel _ (by decide)
    have whole :
        (Layout.writeMany palette.colours).length % Layout.width Colour = 0 := by
      rw [Layout.length_writeMany]
      exact Nat.mul_mod_left _ _
    have readBack := Layout.readMany_append palette.colours []
    rw [List.append_nil] at readBack
    simp only [size] at fits
    simp only [decode, count, whole, ne_eq, not_true_eq_false, if_false, fits, readBack]

/-- A palette that has been read has the bytes it was read from. -/
theorem encode_of_decode
    {bytes : List UInt8}
    {palette : Palette}
    (accepted : decode bytes = .ok palette) :
    palette.encode = .ok bytes := by
  simp only [decode] at accepted
  split at accepted
  next => contradiction
  next whole =>
    split at accepted
    next => contradiction
    next fits =>
      split at accepted
      next colours rest readShape =>
        obtain rfl := Except.ok.inj accepted
        obtain ⟨count, bytesShape⟩ := Layout.eq_append_of_readMany readShape
        have lengths := congrArg List.length bytesShape
        rw [List.length_append, Layout.length_writeMany, count] at lengths
        have wholeLength :
            bytes.length / Layout.width Colour * Layout.width Colour = bytes.length :=
          Nat.div_mul_cancel (Nat.dvd_of_mod_eq_zero (Decidable.not_not.mp whole))
        obtain rfl : rest = [] := by
          apply List.eq_nil_of_length_eq_zero
          omega
        rw [List.append_nil] at bytesShape
        rw [encode, size, if_neg (count ▸ fits), ← bytesShape]
      next => contradiction

end Palette

namespace Sequence

/-- A sequence is read back from its stored form. -/
theorem decode_of_encode
    {sequence : Sequence}
    {bytes : List UInt8}
    (encoded : sequence.encode = .ok bytes) :
    decode bytes = .ok sequence := by
  unfold encode at encoded
  split at encoded
  next fits =>
    obtain rfl := Except.ok.inj encoded
    have count : (UInt16.ofNat sequence.frames.length).toNat = sequence.frames.length :=
      UInt16.toNat_ofNat_of_lt' fits
    have readBack := Layout.readMany_append sequence.frames []
    rw [List.append_nil] at readBack
    simp only [decode, LawfulLayout.read_append, count, List.length_append,
      LawfulLayout.length_write, Layout.length_writeMany, ne_eq, not_true_eq_false,
      if_false, readBack]
  next => contradiction

/-- A sequence that has been read has the bytes it was read from. -/
theorem encode_of_decode
    {bytes : List UInt8}
    {sequence : Sequence}
    (accepted : decode bytes = .ok sequence) :
    sequence.encode = .ok bytes := by
  simp only [decode] at accepted
  split at accepted
  next => contradiction
  next count body countShape =>
    split at accepted
    next => contradiction
    next sameLength =>
      split at accepted
      next frames rest readShape =>
        obtain rfl := Except.ok.inj accepted
        obtain ⟨frameCount, bodyShape⟩ := Layout.eq_append_of_readMany readShape
        have bytesShape := LawfulLayout.eq_append_of_read countShape
        have lengths := LawfulLayout.length_of_read countShape
        have bodyLength := congrArg List.length bodyShape
        rw [List.length_append, Layout.length_writeMany, frameCount] at bodyLength
        obtain rfl : rest = [] := by
          apply List.eq_nil_of_length_eq_zero
          omega
        rw [List.append_nil] at bodyShape
        have fits : frames.length < UInt16.size := frameCount ▸ count.toNat_lt
        rw [encode, if_pos fits, frameCount, UInt16.ofNat_toNat, ← bodyShape, ← bytesShape]
      next => contradiction

end Sequence

namespace Sound

/-- Sounds in a format that can be played. -/
def Playable (sound : Sound) : Prop :=
  (sound.bitsPerSample = 8 ∨ sound.bitsPerSample = 16) ∧
    (sound.channels = 1 ∨ sound.channels = 2)

instance (sound : Sound) : Decidable sound.Playable :=
  inferInstanceAs (Decidable (_ ∧ _))

/-- The fault that keeps a sound from being read back. -/
def formatFault (sound : Sound) : ResourceError :=
  if sound.bitsPerSample = 8 ∨ sound.bitsPerSample = 16 then
    .invalid (.channelCount sound.channels)
  else
    .invalid (.sampleWidth sound.bitsPerSample)

/-- A written sound is read back if it is playable and refused otherwise. -/
theorem decode_of_encode
    {sound : Sound}
    {bytes : List UInt8}
    (encoded : sound.encode = .ok bytes) :
    decode bytes =
      if sound.Playable then .ok sound else .error sound.formatFault := by
  unfold encode at encoded
  split at encoded
  next fits =>
    obtain rfl := Except.ok.inj encoded
    have dataLength : (UInt32.ofNat sound.samples.length).toNat = sound.samples.length :=
      UInt32.toNat_ofNat_of_lt' fits
    simp only [decode, LawfulLayout.read_append, dataLength, List.length_append,
      LawfulLayout.length_write, ne_eq, ← not_or, not_true_eq_false, if_false,
      Playable, formatFault]
    by_cases width : sound.bitsPerSample = 8 ∨ sound.bitsPerSample = 16
    · by_cases channels : sound.channels = 1 ∨ sound.channels = 2
      · simp only [width, channels, not_true_eq_false, and_self, ↓reduceIte]
      · simp only [width, channels, not_true_eq_false, not_false_eq_true, and_false,
          ↓reduceIte]
    · simp only [width, not_false_eq_true, false_and, ↓reduceIte]
  next => contradiction

/-- Different sounds have different stored forms, whether they are playable or not. -/
theorem encode_inj
    {first second : Sound}
    {bytes : List UInt8}
    (firstEncoded : first.encode = .ok bytes)
    (secondEncoded : second.encode = .ok bytes) :
    first = second := by
  have read_of_encode {sound : Sound} (encoded : sound.encode = .ok bytes) :
      Layout.read bytes =
        some (((sound.sampleRate, sound.bitsPerSample, sound.channels,
          UInt32.ofNat sound.samples.length) : Header), sound.samples) := by
    unfold encode at encoded
    split at encoded
    next =>
      obtain rfl := Except.ok.inj encoded
      exact LawfulLayout.read_append _ _
    next => contradiction
  have sameRead := (read_of_encode firstEncoded).symm.trans (read_of_encode secondEncoded)
  simp only [Option.some.injEq, Prod.mk.injEq] at sameRead
  rcases first with ⟨sampleRate, bitsPerSample, channels, samples⟩
  rcases second with ⟨otherRate, otherBits, otherChannels, others⟩
  obtain ⟨⟨rfl, rfl, rfl, -⟩, rfl⟩ := sameRead
  rfl

/-- A sound that has been read is playable and has the bytes it was read from. -/
theorem encode_of_decode
    {bytes : List UInt8}
    {sound : Sound}
    (accepted : decode bytes = .ok sound) :
    sound.Playable ∧ sound.encode = .ok bytes := by
  simp only [decode] at accepted
  split at accepted
  next => contradiction
  next sampleRate bitsPerSample channels dataLength samples readShape =>
    split at accepted
    next => contradiction
    next width =>
      split at accepted
      next => contradiction
      next channelsFit =>
        split at accepted
        next => contradiction
        next sameLength =>
          obtain rfl := Except.ok.inj accepted
          have bytesShape := LawfulLayout.eq_append_of_read readShape
          have lengths := LawfulLayout.length_of_read readShape
          have samplesLength : samples.length = dataLength.toNat := by omega
          have fits : samples.length < UInt32.size := samplesLength ▸ dataLength.toNat_lt
          constructor
          · rw [← not_or, Decidable.not_not] at width channelsFit
            exact ⟨width, channelsFit⟩
          · rw [encode, if_pos fits, samplesLength, UInt32.ofNat_toNat, ← bytesShape]

end Sound

end AdventureArchive
