import AdventureArchive.Database.Kind
import AdventureArchive.Proofs.InPlace.Program

namespace AdventureArchive.InPlace

/-!
# Resources in place

Payloads and samples are cut out from where the header ends, colours are taken
three bytes at a time, and records and frames are read after their number has
been compared with the length.  Any resource is read in place as in order
(`decode_eq`).
-/

/-- Reads a record that has to fill its bytes exactly. -/
def decodeRecord
    {α : Type}
    [Layout α]
    (bytes : List UInt8) :
    Except (Stop ResourceError) α :=
  if bytes.length ≠ Layout.width α then
    .error (.fault (.wrongLength (Layout.width α) bytes.length))
  else
    match (Cursor.start bytes).read? α with
    | some (record, _) => .ok record
    | none => .error (.stray (.branch .roomRecord))

/-- The colour at an index, from its own three bytes. -/
def colourAt (bytes : List UInt8) (index : Nat) : Except (Stop ResourceError) Colour := do
  let chunk ← cut bytes (index * 3) (index * 3 + 3)
  let red ← byteAt chunk 0
  let green ← byteAt chunk 1
  let blue ← byteAt chunk 2
  return ⟨red, green, blue⟩

/-- Reads colours until the bytes end. -/
def decodePalette (bytes : List UInt8) : Except (Stop ResourceError) Palette :=
  if bytes.length % 3 ≠ 0 then
    .error (.fault (.invalid (.raggedPalette bytes.length)))
  else if bytes.length / 3 > Palette.maxColours then
    .error (.fault (.invalid (.oversizedPalette (bytes.length / 3))))
  else do
    let colours ← (List.range (bytes.length / 3)).mapM (colourAt bytes)
    return ⟨colours⟩

/-- Reads a sequence; count and length have to agree. -/
def decodeSequence (bytes : List UInt8) : Except (Stop ResourceError) Sequence :=
  match (Cursor.start bytes).read? UInt16 with
  | none => .error (.fault (.truncated .sequenceFrameCount))
  | some (count, cursor) => do
      let expected ← within64 (2 + count.toNat * 8)
      if bytes.length ≠ expected then
        .error (.fault (.wrongLength expected bytes.length))
      else do
        let (frames, _) ← cursor.readEach .sequenceFrame [] count.toNat
        return ⟨frames⟩

/-- Reads a sound; the samples are all that follows the header. -/
def decodeSound (bytes : List UInt8) : Except (Stop ResourceError) Sound :=
  match (Cursor.start bytes).read? Sound.Header with
  | none => .error (.fault (.truncated .soundHeader))
  | some ((sampleRate, bitsPerSample, channels, dataLength), _) =>
      if bitsPerSample ≠ 8 ∧ bitsPerSample ≠ 16 then
        .error (.fault (.invalid (.sampleWidth bitsPerSample)))
      else if channels ≠ 1 ∧ channels ≠ 2 then
        .error (.fault (.invalid (.channelCount channels)))
      else do
        let expected ← within64 (10 + dataLength.toNat)
        if bytes.length ≠ expected then
          .error (.fault (.wrongLength expected bytes.length))
        else do
          let samples ← cut bytes 10 bytes.length
          return { sampleRate, bitsPerSample, channels, samples }

/-- Reads the text behind its declared length. -/
def decodeText (bytes : List UInt8) : Except (Stop ResourceError) TextBlob :=
  match (Cursor.start bytes).read? UInt32 with
  | none => .error (.fault (.truncated .textLengthPrefix))
  | some (declaredLength, cursor) => do
      let body ← cut bytes cursor.position bytes.length
      return ⟨declaredLength, SingleByteText.decode body⟩

/-- Reads the header fields of an image; only sprites store a frame. -/
def readFields?
    (kind : ImageKind)
    (cursor : Cursor) :
    Option (ImageHeader.Fields × Cursor) :=
  match kind with
  | .sprite =>
      (cursor.read? (UInt16 × UInt16 × SpriteFrame × UInt8)).map
        fun ((width, height, frame, code), behind) =>
          (⟨width, height, some frame, code⟩, behind)
  | .icon | .roomImage =>
      (cursor.read? (UInt16 × UInt16 × UInt8)).map
        fun ((width, height, code), behind) =>
          (⟨width, height, none, code⟩, behind)

/-- Reads an image; the payload is all that follows the header. -/
def decodeImage
    (kind : ImageKind)
    (bytes : List UInt8) :
    Except (Stop ImageError) Image :=
  match readFields? kind (Cursor.start bytes) with
  | none => .error (.fault .truncatedHeader)
  | some (fields, cursor) => do
      let compression ← safely (Compression.ofCode fields.compressionCode)
      let header : ImageHeader :=
        ⟨fields.width, fields.height, fields.spriteFrame?, compression⟩
      safely (header.check kind)
      let _ ← within64 header.area
      safely (header.checkPayload cursor.remaining)
      let payload ← cut bytes cursor.position bytes.length
      return Image.ofPayload header payload

/-- Reads a stored resource. -/
def decode
    (registry : OpcodeRegistry) :
    (kind : TableKind) → List UInt8 → Except (Stop ResourceError) kind.Resource
  | .backdropSize => decodeRecord
  | .program => fun bytes => (decodeProgram registry bytes).mapError (Stop.map .program)
  | .image kind => fun bytes => (decodeImage kind bytes).mapError (Stop.map .image)
  | .palette => decodePalette
  | .roomInfo => decodeRecord
  | .sequence => decodeSequence
  | .sound => decodeSound

/-! ## Plain formats -/

/-- A record is as long as it has been found to be. -/
theorem decodeRecord_eq
    {α : Type}
    [Layout α]
    [LawfulLayout α]
    (bytes : List UInt8) :
    decodeRecord (α := α) bytes = safely (AdventureArchive.decodeRecord bytes) := by
  rw [decodeRecord, AdventureArchive.decodeRecord]
  by_cases whole : bytes.length ≠ Layout.width α
  · rw [if_pos whole, if_pos whole]
    rfl
  · rw [if_neg whole, if_neg whole]
    match recordRead : (Layout.read bytes : Option (α × List UInt8)) with
    | none =>
        have short := LawfulLayout.length_lt_of_read_eq_none recordRead
        exact absurd (Nat.ne_of_lt short) whole
    | some (record, rest) =>
        obtain ⟨next, cursorRead, -⟩ :=
          Cursor.read?_of_read (.start bytes) recordRead
        rw [cursorRead]
        rfl

/-- A byte of a range is a byte of the whole. -/
theorem byteAt_byteRange
    {ε : Type}
    {bytes : List UInt8}
    {start length offset : Nat}
    (before : offset < length)
    (inside : start + length ≤ bytes.length) :
    byteAt (ε := ε) (byteRange bytes start length) offset =
      .ok (Layout.valueAt UInt8 bytes (start + offset)) := by
  have found : start + offset < bytes.length := by omega
  rw [← byteAt_eq found, byteAt, byteAt, byteRange, List.getElem?_take_of_lt before,
    List.getElem?_drop, List.getElem?_eq_getElem found]

/-- A colour is found in its own three bytes. -/
theorem colourAt_eq
    {bytes : List UInt8}
    {index : Nat}
    (inside : index * 3 + 3 ≤ bytes.length) :
    colourAt bytes index = .ok (Layout.valueAt Colour bytes (index * 3)) := by
  have fields :
      Layout.valueAt Colour bytes (index * 3) =
        ⟨Layout.valueAt UInt8 bytes (index * 3),
          Layout.valueAt UInt8 bytes (index * 3 + 1),
          Layout.valueAt UInt8 bytes (index * 3 + 2)⟩ := by
    rw [Layout.valueAt_via inside, Layout.valueAt_pair, Layout.valueAt_pair]
    · rfl
    all_goals exact inside
  rw [colourAt, cut_eq (by omega) inside, Nat.add_sub_cancel_left, Except.ok_bind,
    byteAt_byteRange (by decide) inside, byteAt_byteRange (by decide) inside,
    byteAt_byteRange (by decide) inside, fields]
  rfl

/-- A palette that is not ragged has all the bytes of its colours. -/
theorem decodePalette_eq (bytes : List UInt8) :
    decodePalette bytes = safely (Palette.decode bytes) := by
  have count : bytes.length / Layout.width Colour * Layout.width Colour ≤ bytes.length :=
    Nat.div_mul_le_self _ _
  rw [decodePalette, Palette.decode]
  change _ = safely (if bytes.length % 3 ≠ 0 then _ else if bytes.length / 3 > _ then _ else _)
  split_ifs with ragged oversized
  · rfl
  · rfl
  · have coloursRead := Layout.readMany_start count
    have eachFound :
        (List.range (bytes.length / 3)).mapM (colourAt bytes) =
          .ok ((List.range (bytes.length / 3)).map fun index =>
            Layout.valueAt Colour bytes (index * 3)) := by
      rw [Except.mapM_eq_ok_iff, List.map_map]
      apply List.map_congr_left
      intro index member
      have before := List.mem_range.mp member
      exact colourAt_eq (by omega)
    rw [coloursRead, eachFound]
    rfl

/-- A sequence whose length agrees with its count has all its frames. -/
theorem decodeSequence_eq (bytes : List UInt8) :
    decodeSequence bytes = safely (Sequence.decode bytes) := by
  rw [decodeSequence, Sequence.decode]
  match countRead : (Layout.read bytes : Option (UInt16 × List UInt8)) with
  | none =>
      rw [Cursor.read?_of_read_eq_none (.start bytes) countRead]
      rfl
  | some (count, body) =>
      obtain ⟨next, cursorRead, rfl, -⟩ :=
        Cursor.read?_of_read (.start bytes) countRead
      have lengths := LawfulLayout.length_of_read countRead
      have fits := runEnd_lt 2 8 count (by decide)
      rw [cursorRead]
      dsimp only
      rw [within64_eq fits, Except.ok_bind]
      change _ = safely (if bytes.length ≠ 2 + count.toNat * 8 then _ else _)
      split_ifs with unequal
      · rfl
      · match framesRead : (Layout.readMany count.toNat next.rest :
            Option (List SequenceFrame × List UInt8)) with
        | none =>
            -- The length has just been found to be that of all frames.
            have short : next.rest.length < count.toNat * 8 :=
              Layout.length_lt_of_readMany_eq_none framesRead
            rw [show Layout.width UInt16 = 2 from rfl] at lengths
            omega
        | some (frames, rest) =>
            obtain ⟨behind, eachRead, -⟩ := Cursor.readEach_of_readOnto framesRead
            rw [eachRead]
            rfl

/-! ## Payloads -/

/-- Behind what has been read the remaining bytes can be cut out. -/
theorem cut_behind
    {ε α : Type}
    [Layout α]
    [LawfulLayout α]
    {bytes : List UInt8}
    {value : α}
    {rest : List UInt8}
    (found : Layout.read bytes = some (value, rest)) :
    cut (ε := ε) bytes (Layout.width α) bytes.length = .ok rest := by
  have lengths := LawfulLayout.length_of_read found
  rw [cut_length (by omega), LawfulLayout.eq_append_of_read found,
    ← LawfulLayout.length_write value, List.drop_left]

/-- Samples are cut out behind the header. -/
theorem decodeSound_eq (bytes : List UInt8) :
    decodeSound bytes = safely (Sound.decode bytes) := by
  rw [decodeSound, Sound.decode]
  match headerRead : (Layout.read bytes : Option (Sound.Header × List UInt8)) with
  | none =>
      rw [Cursor.read?_of_read_eq_none (.start bytes) headerRead]
      rfl
  | some ((sampleRate, bitsPerSample, channels, dataLength), samples) =>
      obtain ⟨next, cursorRead, -⟩ :=
        Cursor.read?_of_read (.start bytes) headerRead
      have fits : 10 + dataLength.toNat < UInt64.size := by
        have small := dataLength.toNat_lt
        have enough : 10 + 2 ^ 32 < UInt64.size := by decide
        omega
      have samplesCut :
          cut (ε := ResourceError) bytes 10 bytes.length = .ok samples :=
        cut_behind headerRead
      rw [cursorRead]
      dsimp only
      rw [within64_eq fits, samplesCut]
      simp only [Except.ok_bind]
      change _ = safely (if _ then _ else if _ then _ else
        if bytes.length ≠ 10 + dataLength.toNat then _ else _)
      split_ifs
      all_goals rfl

/-- A cursor behind the first value knows where the remaining bytes start, and how many they are. -/
theorem read?_start_of_read
    (ε : Type)
    {α : Type}
    [Layout α]
    [LawfulLayout α]
    {bytes : List UInt8}
    {value : α}
    {rest : List UInt8}
    (found : Layout.read bytes = some (value, rest)) :
    ∃ cursor, (Cursor.start bytes).read? α = some (value, cursor) ∧
      cursor.remaining = rest.length ∧
      cut (ε := ε) bytes cursor.position bytes.length = .ok rest := by
  obtain ⟨cursor, cursorRead, restBehind, rfl⟩ :=
    Cursor.read?_of_read (.start bytes) found
  refine ⟨_, cursorRead, ?_, ?_⟩
  · rw [← Cursor.length_rest, restBehind]
  · have position : ((Cursor.start bytes).advance (Layout.width α)).position = Layout.width α :=
      Nat.zero_add _
    rw [position]
    exact cut_behind found

/-- The text is cut out behind its declared length. -/
theorem decodeText_eq (bytes : List UInt8) :
    decodeText bytes = safely (TextBlob.decode bytes) := by
  rw [decodeText, TextBlob.decode]
  match lengthRead : (Layout.read bytes : Option (UInt32 × List UInt8)) with
  | none =>
      rw [Cursor.read?_of_read_eq_none (.start bytes) lengthRead]
      rfl
  | some (declaredLength, body) =>
      obtain ⟨cursor, cursorRead, -, bodyCut⟩ := read?_start_of_read ResourceError lengthRead
      rw [cursorRead]
      dsimp only
      rw [bodyCut]
      rfl

/-! ## Images -/

/-- Behind the header fields of an image lies its payload. -/
theorem readFields?_of_readFields?
    {kind : ImageKind}
    {bytes payload : List UInt8}
    {fields : ImageHeader.Fields}
    (found : ImageHeader.readFields? kind bytes = some (fields, payload)) :
    ∃ cursor, readFields? kind (.start bytes) = some (fields, cursor) ∧
      cursor.remaining = payload.length ∧
      cut (ε := ImageError) bytes cursor.position bytes.length = .ok payload := by
  cases kind
  all_goals
    obtain ⟨⟨stored, rest⟩, storedRead, same⟩ := Option.map_eq_some_iff.mp found
    obtain ⟨rfl, rfl⟩ := Prod.mk.inj same
    obtain ⟨cursor, cursorRead, behind⟩ := read?_start_of_read ImageError storedRead
    refine ⟨cursor, ?_, behind⟩
    rw [readFields?, cursorRead]
    rfl

theorem readFields?_of_readFields?_eq_none
    {kind : ImageKind}
    {bytes : List UInt8}
    (unread : ImageHeader.readFields? kind bytes = none) :
    readFields? kind (.start bytes) = none := by
  cases kind
  all_goals
    have storedUnread := Option.map_eq_none_iff.mp unread
    rw [readFields?, Cursor.read?_of_read_eq_none (.start bytes) storedUnread]
    rfl

/-- The number of pixels that a header announces fits 64 bits. -/
theorem within64_area (header : ImageHeader) :
    within64 (ε := ImageError) header.area = .ok header.area :=
  within64_eq (mul_toNat_lt header.width header.height)

/-- The payload of an image is cut out behind its header. -/
theorem decodeImage_eq
    (kind : ImageKind)
    (bytes : List UInt8) :
    decodeImage kind bytes = safely (Image.decode kind bytes) := by
  rw [decodeImage, Image.decode]
  match fieldsRead : ImageHeader.readFields? kind bytes with
  | none =>
      rw [readFields?_of_readFields?_eq_none fieldsRead]
      rfl
  | some (fields, payload) =>
      obtain ⟨cursor, cursorRead, remaining, payloadCut⟩ :=
        readFields?_of_readFields? fieldsRead
      rw [cursorRead]
      simp only [within64_area, remaining, payloadCut, Except.ok_bind, safely_bind]
      rfl

/-! ## Any resource -/

/-- A resource of any kind is read in place as it is read in order. -/
theorem decode_eq
    (registry : OpcodeRegistry)
    (kind : TableKind)
    (bytes : List UInt8) :
    decode registry kind bytes = safely (kind.decode registry bytes) := by
  cases kind with
  | backdropSize => exact decodeRecord_eq bytes
  | program =>
      have explained := mapError_safely ResourceError.program (Program.decode registry bytes)
      rw [← decodeProgram_eq] at explained
      exact explained
  | image kind =>
      have explained := mapError_safely ResourceError.image (Image.decode kind bytes)
      rw [← decodeImage_eq] at explained
      exact explained
  | palette => exact decodePalette_eq bytes
  | roomInfo => exact decodeRecord_eq bytes
  | sequence => exact decodeSequence_eq bytes
  | sound => exact decodeSound_eq bytes

end AdventureArchive.InPlace
