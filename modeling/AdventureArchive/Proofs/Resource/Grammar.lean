import AdventureArchive.Proofs.Bytes.Position
import AdventureArchive.Proofs.Bytes.Writing
import AdventureArchive.Proofs.Resource.PlainFormats

namespace AdventureArchive

/-!
# What the plain formats accept

For each plain format the byte lists that it reads can be told from their length
and a few of their bytes, without reading them (`PlainFormat.Grammatical`).  What
has been read is written to the end of a buffer as the bytes it was read from
(`PlainFormat.exact`).  In the buffer the values are put together from single
fields; that this comes to their stored forms is seen format by format
(`PlainFormat.writes`).
-/

/-- The formats that neither hold pixels nor code. -/
inductive PlainFormat where
  | text
  | palette
  | sequence
  | sound
  | backdropSize
  | roomInfo
  deriving Repr, DecidableEq

/-! ## Writing field by field -/

namespace TextBlob

/-- The bytes of a text. -/
def body (blob : TextBlob) : Except ResourceError (List UInt8) :=
  match SingleByteText.encode? blob.text with
  | none => .error (.invalid .unencodableText)
  | some body => .ok body

/-- Writes the declared length and the bytes of a text. -/
def writing (blob : TextBlob) : Writing ResourceError Unit := do
  let body ← Writing.check blob.body
  Writing.field blob.declaredLength
  Writing.bytes body

theorem writes (blob : TextBlob) : blob.writing.Writes blob.encode := by
  have encoded :
      blob.encode = blob.body >>= fun body => .ok (Layout.write blob.declaredLength ++ body) := by
    unfold encode body
    cases SingleByteText.encode? blob.text <;> rfl
  rw [encoded]
  exact .check fun body => (Writing.writes_field _).andThen (Writing.writes_bytes body)

end TextBlob

namespace Palette

/-- Whether one byte can index the colours. -/
def checkSize (palette : Palette) : Except ResourceError Unit :=
  if palette.size > maxColours then
    .error (.invalid (.oversizedPalette palette.size))
  else
    .ok ()

/-- Writes the three parts of each colour of a palette. -/
def writing (palette : Palette) : Writing ResourceError Unit := do
  Writing.check palette.checkSize
  palette.colours.forM fun colour => do
    Writing.bytes [colour.red, colour.green, colour.blue]

theorem writes (palette : Palette) : palette.writing.Writes palette.encode := by
  have encoded :
      palette.encode =
        palette.checkSize >>= fun _ => .ok (Layout.writeMany palette.colours) := by
    unfold encode checkSize
    split <;> rfl
  rw [encoded]
  exact .check fun _ => Writing.writes_forM (fun _ => Writing.writes_bytes _) _

end Palette

namespace Sequence

/-- The number of frames as it is stored. -/
def frameCount (sequence : Sequence) : Except ResourceError UInt16 :=
  if sequence.frames.length < UInt16.size then
    .ok (UInt16.ofNat sequence.frames.length)
  else
    .error (.invalid (.oversizedSequence sequence.frames.length))

/-- Writes the number of frames and the fields of each frame. -/
def writing (sequence : Sequence) : Writing ResourceError Unit := do
  let count ← Writing.check sequence.frameCount
  Writing.field count
  sequence.frames.forM fun frame => do
    Writing.field frame.sprite
    Writing.field frame.delay
    Writing.field frame.dx
    Writing.field frame.dy

theorem writes (sequence : Sequence) : sequence.writing.Writes sequence.encode := by
  have encoded :
      sequence.encode =
        sequence.frameCount >>= fun count =>
          .ok (Layout.write count ++ Layout.writeMany sequence.frames) := by
    unfold encode frameCount
    split <;> rfl
  rw [encoded]
  refine .check fun count => (Writing.writes_field count).andThen ?_
  refine Writing.writes_forM (fun frame => ?_) sequence.frames
  exact (Writing.writes_field _).andThen <| (Writing.writes_field _).andThen <|
    (Writing.writes_field _).andThen <| Writing.writes_field _

end Sequence

namespace Sound

/-- The number of sample bytes as it is stored. -/
def dataLength (sound : Sound) : Except ResourceError UInt32 :=
  if sound.samples.length < UInt32.size then
    .ok (UInt32.ofNat sound.samples.length)
  else
    .error (.invalid .oversizedSound)

/-- Writes the playback format, the number of sample bytes and the samples. -/
def writing (sound : Sound) : Writing ResourceError Unit := do
  let dataLength ← Writing.check sound.dataLength
  Writing.field sound.sampleRate
  Writing.field sound.bitsPerSample
  Writing.field sound.channels
  Writing.field dataLength
  Writing.bytes sound.samples

theorem writes (sound : Sound) : sound.writing.Writes sound.encode := by
  have encoded :
      sound.encode =
        sound.dataLength >>= fun dataLength =>
          .ok (Layout.write sound.sampleRate ++ (Layout.write sound.bitsPerSample ++
            (Layout.write sound.channels ++ (Layout.write dataLength ++ sound.samples)))) := by
    unfold encode dataLength
    split
    next =>
      simp only [Layout.write, List.append_assoc]
      rfl
    next => rfl
  rw [encoded]
  refine .check fun dataLength => ?_
  exact (Writing.writes_field _).andThen <| (Writing.writes_field _).andThen <|
    (Writing.writes_field _).andThen <| (Writing.writes_field _).andThen <|
    Writing.writes_bytes _

end Sound

/-- Writes width and height. -/
def BackdropSize.writing (size : BackdropSize) : Writing ResourceError Unit := do
  Writing.field size.width
  Writing.field size.height

theorem BackdropSize.writes (size : BackdropSize) :
    size.writing.Writes (.ok (Layout.write size)) :=
  (Writing.writes_field size.width).andThen (Writing.writes_field size.height)

/-- Writes the five numbers of a room. -/
def RoomInfo.writing (room : RoomInfo) : Writing ResourceError Unit :=
  [room.backdrop, room.palette, room.program, room.music, room.flags].forM fun number =>
    Writing.field number

theorem RoomInfo.writes (room : RoomInfo) :
    room.writing.Writes (.ok (Layout.write room)) := by
  have listed : room.writing.Writes _ := Writing.writes_forM Writing.writes_field _
  simp only [List.flatMap_cons, List.flatMap_nil, List.append_nil] at listed
  exact listed

namespace PlainFormat

/-- The values of a format. -/
abbrev Value : PlainFormat → Type
  | .text => TextBlob
  | .palette => Palette
  | .sequence => Sequence
  | .sound => Sound
  | .backdropSize => BackdropSize
  | .roomInfo => RoomInfo

/-- Reads a value that has to fill the bytes. -/
def decode : (format : PlainFormat) → List UInt8 → Except ResourceError format.Value
  | .text => TextBlob.decode
  | .palette => Palette.decode
  | .sequence => Sequence.decode
  | .sound => Sound.decode
  | .backdropSize => decodeRecord
  | .roomInfo => decodeRecord

/-- The stored form of a value. -/
def encode : (format : PlainFormat) → format.Value → Except ResourceError (List UInt8)
  | .text => TextBlob.encode
  | .palette => Palette.encode
  | .sequence => Sequence.encode
  | .sound => Sound.encode
  | .backdropSize => fun size => .ok (Layout.write size)
  | .roomInfo => fun room => .ok (Layout.write room)

/-- Writes a value to the end of a buffer. -/
def writing : (format : PlainFormat) → format.Value → Writing ResourceError Unit
  | .text => TextBlob.writing
  | .palette => Palette.writing
  | .sequence => Sequence.writing
  | .sound => Sound.writing
  | .backdropSize => BackdropSize.writing
  | .roomInfo => RoomInfo.writing

/-- The byte lists of a format, by their length and the bytes that length and use depend on. -/
def Grammatical : PlainFormat → List UInt8 → Prop
  | .text => fun bytes => 4 ≤ bytes.length
  | .palette => fun bytes => 3 ∣ bytes.length ∧ bytes.length ≤ 768
  | .sequence => fun bytes =>
      2 ≤ bytes.length ∧ bytes.length = 2 + 8 * LittleEndian.decode (bytes.take 2)
  | .sound => fun bytes =>
      bytes.length = 10 + LittleEndian.decode (byteRange bytes 6 4) ∧
        (bytes[4]? = some 8 ∨ bytes[4]? = some 16) ∧
        (bytes[5]? = some 1 ∨ bytes[5]? = some 2)
  | .backdropSize => fun bytes => bytes.length = 4
  | .roomInfo => fun bytes => bytes.length = 10

instance (format : PlainFormat) (bytes : List UInt8) : Decidable (format.Grammatical bytes) :=
  match format with
  | .text => inferInstanceAs (Decidable (_ ≤ _))
  | .palette => inferInstanceAs (Decidable (_ ∧ _))
  | .sequence => inferInstanceAs (Decidable (_ ∧ _))
  | .sound => inferInstanceAs (Decidable (_ ∧ _))
  | .backdropSize => inferInstanceAs (Decidable (_ = _))
  | .roomInfo => inferInstanceAs (Decidable (_ = _))

/-- A format that reads what its grammar says and writes what it has read. -/
structure Exact (format : PlainFormat) : Prop where
  accepts :
    ∀ bytes, (∃ value, format.decode bytes = .ok value) ↔ format.Grammatical bytes
  stores : ∀ value, (format.writing value).Writes (format.encode value)
  restores :
    ∀ bytes value, format.decode bytes = .ok value →
      ∀ buffer, (format.writing value).result buffer = (.ok (), buffer ++ bytes)

end PlainFormat

/-! ## The grammar -/

/-- A record is read from all byte lists of its width. -/
theorem decodeRecord_isOk_iff
    {α : Type}
    [Layout α]
    [LawfulLayout α]
    {bytes : List UInt8} :
    (∃ record : α, decodeRecord bytes = .ok record) ↔ bytes.length = Layout.width α := by
  constructor
  · rintro ⟨record, accepted⟩
    rw [← write_of_decodeRecord accepted, LawfulLayout.length_write]
  · intro sameLength
    match found : (Layout.read bytes : Option (α × List UInt8)) with
    | none =>
        have short := LawfulLayout.length_lt_of_read_eq_none found
        omega
    | some (record, rest) =>
        refine ⟨record, ?_⟩
        rw [decodeRecord, if_neg (not_not_intro sameLength), found]

/-- A text is read where there are bytes for its length. -/
theorem TextBlob.decode_isOk_iff {bytes : List UInt8} :
    (∃ blob, decode bytes = .ok blob) ↔ 4 ≤ bytes.length := by
  have short : (Layout.read bytes : Option (UInt32 × List UInt8)) = none ↔ bytes.length < 4 :=
    LawfulLayout.read_eq_none_iff
  rw [← Nat.not_lt, ← short, decode]
  split
  next none => simp [none]
  next some => simp [some]

/-- A palette is read from whole colours, if there are not too many. -/
theorem Palette.decode_isOk_iff {bytes : List UInt8} :
    (∃ palette, decode bytes = .ok palette) ↔ 3 ∣ bytes.length ∧ bytes.length ≤ 768 := by
  constructor
  · rintro ⟨palette, accepted⟩
    have encoded := encode_of_decode accepted
    unfold encode at encoded
    split at encoded
    next => contradiction
    next few =>
      obtain rfl := Except.ok.inj encoded
      have few : palette.colours.length ≤ 256 := Nat.le_of_not_lt few
      have width : Layout.width Colour = 3 := rfl
      rw [Layout.length_writeMany, width]
      omega
  · rintro ⟨⟨count, lengthShape⟩, few⟩
    have width : Layout.width Colour = 3 := rfl
    have quotient : bytes.length / Layout.width Colour = count := by
      rw [width]
      omega
    have whole : ¬ bytes.length % Layout.width Colour ≠ 0 := by
      rw [width]
      omega
    have few : ¬ count > maxColours := by
      rw [maxColours]
      omega
    match found : (Layout.readMany count bytes : Option (List Colour × List UInt8)) with
    | none =>
        have short := Layout.length_lt_of_readMany_eq_none found
        rw [width] at short
        omega
    | some (colours, rest) =>
        refine ⟨⟨colours⟩, ?_⟩
        simp only [decode, quotient, if_neg whole, if_neg few, found]

/-- The count that is read is the number at the front. -/
theorem Sequence.decode_take_of_read
    {bytes body : List UInt8}
    {count : UInt16}
    (found : Layout.read bytes = some (count, body)) :
    LittleEndian.decode (bytes.take 2) = count.toNat := by
  have front : bytes.take 2 = Layout.write count := by
    rw [LawfulLayout.eq_append_of_read found]
    exact List.take_left' (LawfulLayout.length_write count)
  rw [front]
  exact @LittleEndian.decode_encode 2 _ count.toNat_lt

/-- A sequence is read from as many frames as the number in front of them says. -/
theorem Sequence.decode_isOk_iff {bytes : List UInt8} :
    (∃ sequence, decode bytes = .ok sequence) ↔
      2 ≤ bytes.length ∧ bytes.length = 2 + 8 * LittleEndian.decode (bytes.take 2) := by
  have frameWidth : Layout.width SequenceFrame = 8 := rfl
  have countWidth : Layout.width UInt16 = 2 := rfl
  constructor
  · rintro ⟨sequence, accepted⟩
    have encoded := encode_of_decode accepted
    unfold encode at encoded
    split at encoded
    next few =>
      obtain rfl := Except.ok.inj encoded
      rw [decode_take_of_read (LawfulLayout.read_append _ _), UInt16.toNat_ofNat_of_lt' few,
        List.length_append, LawfulLayout.length_write, Layout.length_writeMany, frameWidth,
        countWidth]
      omega
    next => contradiction
  · rintro ⟨long, lengthShape⟩
    match found : (Layout.read bytes : Option (UInt16 × List UInt8)) with
    | none =>
        have short := LawfulLayout.length_lt_of_read_eq_none found
        omega
    | some (count, body) =>
        have lengths := LawfulLayout.length_of_read found
        -- The count that is read is the number at the front, so both ask for one length.
        rw [decode_take_of_read found] at lengthShape
        have expected :
            bytes.length = Layout.width UInt16 + count.toNat * Layout.width SequenceFrame := by
          rw [countWidth, frameWidth]
          omega
        match framesFound :
            (Layout.readMany count.toNat body : Option (List SequenceFrame × List UInt8)) with
        | none =>
            have short := Layout.length_lt_of_readMany_eq_none framesFound
            omega
        | some (frames, rest) =>
            refine ⟨⟨frames⟩, ?_⟩
            simp only [decode, found, if_neg (not_not_intro expected), framesFound]

/-- What is read of the header stands at fixed places. -/
theorem Sound.places_of_read
    {bytes samples : List UInt8}
    {sampleRate dataLength : UInt32}
    {bitsPerSample channels : UInt8}
    (found :
      Layout.read bytes =
        some (((sampleRate, bitsPerSample, channels, dataLength) : Header), samples)) :
    bytes[4]? = some bitsPerSample ∧
      bytes[5]? = some channels ∧
      LittleEndian.decode (byteRange bytes 6 4) = dataLength.toNat := by
  rw [LawfulLayout.eq_append_of_read found]
  refine ⟨rfl, rfl, ?_⟩
  exact @LittleEndian.decode_encode 4 _ dataLength.toNat_lt

/-- A sound is read if it is as long as its header says and its format can be played. -/
theorem Sound.decode_isOk_iff {bytes : List UInt8} :
    (∃ sound, decode bytes = .ok sound) ↔
      bytes.length = 10 + LittleEndian.decode (byteRange bytes 6 4) ∧
        (bytes[4]? = some 8 ∨ bytes[4]? = some 16) ∧
        (bytes[5]? = some 1 ∨ bytes[5]? = some 2) := by
  have headerWidth : Layout.width Header = 10 := rfl
  constructor
  · rintro ⟨sound, accepted⟩
    obtain ⟨⟨width, channels⟩, encoded⟩ := encode_of_decode accepted
    unfold encode at encoded
    split at encoded
    next fits =>
      obtain rfl := Except.ok.inj encoded
      obtain ⟨widthFound, channelsFound, lengthFound⟩ :=
        places_of_read (LawfulLayout.read_append _ sound.samples)
      rw [widthFound, channelsFound, lengthFound, UInt32.toNat_ofNat_of_lt' fits,
        List.length_append, LawfulLayout.length_write, headerWidth]
      simpa only [Option.some.injEq, true_and] using And.intro width channels
    next => contradiction
  · rintro ⟨lengthShape, width, channels⟩
    match found : (Layout.read bytes : Option (Header × List UInt8)) with
    | none =>
        have short := LawfulLayout.length_lt_of_read_eq_none found
        omega
    | some ((sampleRate, bitsPerSample, channelCount, dataLength), samples) =>
        obtain ⟨widthFound, channelsFound, lengthFound⟩ := places_of_read found
        rw [widthFound, Option.some.injEq, Option.some.injEq] at width
        rw [channelsFound, Option.some.injEq, Option.some.injEq] at channels
        rw [lengthFound, ← headerWidth] at lengthShape
        refine ⟨⟨sampleRate, bitsPerSample, channelCount, samples⟩, ?_⟩
        simp only [decode, found, ← not_or, if_neg (not_not_intro width),
          if_neg (not_not_intro channels), if_neg (not_not_intro lengthShape)]

namespace PlainFormat

/-- Every format reads the byte lists of its grammar. -/
theorem decode_isOk_iff
    (format : PlainFormat)
    (bytes : List UInt8) :
    (∃ value, format.decode bytes = .ok value) ↔ format.Grammatical bytes := by
  cases format with
  | text => exact TextBlob.decode_isOk_iff
  | palette => exact Palette.decode_isOk_iff
  | sequence => exact Sequence.decode_isOk_iff
  | sound => exact Sound.decode_isOk_iff
  | backdropSize => exact decodeRecord_isOk_iff (α := BackdropSize)
  | roomInfo => exact decodeRecord_isOk_iff (α := RoomInfo)

/-- Every format writes stored forms to a buffer. -/
theorem writes
    (format : PlainFormat)
    (value : format.Value) :
    (format.writing value).Writes (format.encode value) := by
  cases format with
  | text => exact TextBlob.writes value
  | palette => exact Palette.writes value
  | sequence => exact Sequence.writes value
  | sound => exact Sound.writes value
  | backdropSize => exact BackdropSize.writes value
  | roomInfo => exact RoomInfo.writes value

/-- What has been read has the bytes it was read from as its stored form. -/
theorem encode_of_decode
    {format : PlainFormat}
    {bytes : List UInt8}
    {value : format.Value}
    (accepted : format.decode bytes = .ok value) :
    format.encode value = .ok bytes := by
  cases format with
  | text => exact TextBlob.encode_of_decode accepted
  | palette => exact Palette.encode_of_decode accepted
  | sequence => exact Sequence.encode_of_decode accepted
  | sound => exact (Sound.encode_of_decode accepted).2
  | backdropSize | roomInfo => exact congrArg Except.ok (write_of_decodeRecord accepted)

/--
Each plain format reads exactly the byte lists of its grammar, and what it has
read from a byte list it writes to the end of any buffer as that byte list.
-/
theorem exact (format : PlainFormat) : format.Exact where
  accepts := format.decode_isOk_iff
  stores := format.writes
  restores _ value accepted :=
    (format.writes value).result_eq (encode_of_decode accepted)

/-- A frame less or a byte more than the number in front says is no sequence. -/
example :
    sequence.Grammatical [1, 0, 7, 0, 3, 0, 255, 255, 2, 0] ∧
      ¬ sequence.Grammatical [1, 0] ∧
      ¬ sequence.Grammatical [0, 0, 7] := by
  decide

end PlainFormat

end AdventureArchive
