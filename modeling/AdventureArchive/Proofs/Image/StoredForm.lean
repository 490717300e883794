import AdventureArchive.Image
import AdventureArchive.Proofs.Fallible

namespace AdventureArchive

/-!
# The stored form of images

An image is written for the kind of its table, and a table of that kind reads it
back with its pixels still to be decoded (`decode_of_encode`).  An image that has
been read is written as the bytes it was read from (`encode_of_decode`).
-/

namespace Compression

/-- Every compression is read back from its code. -/
@[simp] theorem ofCode_code (compression : Compression) :
    ofCode compression.code = .ok compression := by
  cases compression <;> rfl

/-- A code stands for the compression that has it. -/
theorem code_of_ofCode
    {stored : UInt8}
    {compression : Compression}
    (known : ofCode stored = .ok compression) :
    compression.code = stored := by
  unfold ofCode at known
  split at known
  next isRaw =>
    obtain rfl := Except.ok.inj known
    exact isRaw.symm
  next =>
    split at known
    next isLz =>
      obtain rfl := Except.ok.inj known
      exact isLz.symm
    next => contradiction

end Compression

namespace ImageHeader

/-- A header that its table can hold has a frame exactly in sprite tables. -/
theorem isSome_spriteFrame?_of_check
    {kind : ImageKind}
    {header : ImageHeader}
    (checked : header.check kind = .ok ()) :
    header.spriteFrame?.isSome = true ↔ kind = .sprite := by
  unfold check at checked
  split at checked
  next => contradiction
  next =>
    cases kind <;> cases frame : header.spriteFrame? <;>
      simp_all

/-- The fields of a header as they are stored. -/
def fields (header : ImageHeader) : Fields :=
  ⟨header.width, header.height, header.spriteFrame?, header.compression.code⟩

/-- The stored fields of a header are found by the kinds that can hold it. -/
theorem readFields?_write
    {kind : ImageKind}
    {header : ImageHeader}
    (checked : header.check kind = .ok ())
    (payload : List UInt8) :
    readFields? kind (header.write ++ payload) = some (header.fields, payload) := by
  have framed := isSome_spriteFrame?_of_check checked
  rcases header with ⟨width, height, frame | frame, compression⟩
  · have stored :=
      LawfulLayout.read_append (width, height, compression.code) payload
    cases kind with
    | sprite => simp at framed
    | icon | roomImage =>
        simp only [Layout.write, List.append_assoc] at stored
        simp only [readFields?, write, Layout.write, List.append_nil, List.append_assoc,
          stored]
        rfl
  · have stored :=
      LawfulLayout.read_append (width, height, frame, compression.code) payload
    cases kind with
    | sprite =>
        simp only [Layout.write, List.append_assoc] at stored
        simp only [readFields?, write, Layout.write, List.append_assoc, stored]
        rfl
    | icon | roomImage => simp at framed

/-- The header whose fields have been read is stored in the bytes read. -/
theorem eq_append_of_readFields?
    {kind : ImageKind}
    {bytes payload : List UInt8}
    {header : ImageHeader}
    (found : readFields? kind bytes = some (header.fields, payload)) :
    bytes = header.write ++ payload := by
  rcases header with ⟨width, height, frame?, compression⟩
  cases kind with
  | sprite =>
      obtain ⟨⟨⟨_, _, frame, _⟩, rest⟩, readShape, same⟩ := Option.map_eq_some_iff.mp found
      simp only [fields, Prod.mk.injEq, Fields.mk.injEq] at same
      obtain ⟨⟨rfl, rfl, rfl, rfl⟩, rfl⟩ := same
      rw [LawfulLayout.eq_append_of_read readShape]
      simp [write, Layout.write]
  | icon | roomImage =>
      obtain ⟨⟨⟨_, _, _⟩, rest⟩, readShape, same⟩ := Option.map_eq_some_iff.mp found
      simp only [fields, Prod.mk.injEq, Fields.mk.injEq] at same
      obtain ⟨⟨rfl, rfl, rfl, rfl⟩, rfl⟩ := same
      rw [LawfulLayout.eq_append_of_read readShape]
      simp [write, Layout.write]

end ImageHeader

namespace Image

/-- The image that is read where this one has been stored: its pixels are not decoded yet. -/
def reloaded (image : Image) : Image :=
  ofPayload image.header image.payload

/-- Images are equal if they are the same once their pixels are not decoded. -/
theorem beq_iff_reloaded_eq (first second : Image) :
    (first == second) = true ↔ first.reloaded = second.reloaded := by
  change (first.header == second.header && first.payload == second.payload) = true ↔ _
  rw [Bool.and_eq_true, beq_iff_eq, beq_iff_eq, reloaded, reloaded]
  constructor
  · rintro ⟨sameHeader, samePayload⟩
    rw [sameHeader, samePayload]
  · intro same
    have fields := Image.mk.inj same
    exact ⟨fields.1, fields.2.1⟩

/-- Writing succeeds exactly when the table can hold header and payload. -/
theorem encode_eq_ok_iff
    {kind : ImageKind}
    {image : Image}
    {bytes : List UInt8} :
    image.encode kind = .ok bytes ↔
      image.header.check kind = .ok () ∧
        image.header.checkPayload image.payload.length = .ok () ∧
        image.header.write ++ image.payload = bytes := by
  rw [encode, Except.bind_eq_ok_iff]
  constructor
  · rintro ⟨⟨⟩, checked, encoded⟩
    obtain ⟨⟨⟩, fits, written⟩ := Except.bind_eq_ok_iff.mp encoded
    exact ⟨checked, fits, Except.ok.inj written⟩
  · rintro ⟨checked, fits, rfl⟩
    exact ⟨(), checked, Except.bind_eq_ok_iff.mpr ⟨(), fits, rfl⟩⟩

/-- A stored image is read back by a table of the kind it was written for. -/
theorem decode_of_encode
    {kind : ImageKind}
    {image : Image}
    {bytes : List UInt8}
    (encoded : image.encode kind = .ok bytes) :
    decode kind bytes = .ok image.reloaded := by
  obtain ⟨checked, fits, rfl⟩ := encode_eq_ok_iff.mp encoded
  rcases image with ⟨⟨width, height, frame?, compression⟩, payload, cell⟩
  simp only [decode, ImageHeader.readFields?_write checked, ImageHeader.fields,
    Compression.ofCode_code, bind, Except.bind]
  simp only at checked fits
  simp only [checked, fits]
  rfl

/-- An image that has been read has the bytes it was read from, and undecoded pixels. -/
theorem encode_of_decode
    {kind : ImageKind}
    {bytes : List UInt8}
    {image : Image}
    (accepted : decode kind bytes = .ok image) :
    image.encode kind = .ok bytes ∧ image.reloaded = image := by
  unfold decode at accepted
  split at accepted
  next => contradiction
  next stored payload found =>
    obtain ⟨compression, known, accepted⟩ := Except.bind_eq_ok_iff.mp accepted
    generalize headerShape :
      (⟨stored.width, stored.height, stored.spriteFrame?, compression⟩ : ImageHeader) =
        header at accepted
    obtain ⟨⟨⟩, checked, accepted⟩ := Except.bind_eq_ok_iff.mp accepted
    obtain ⟨⟨⟩, fits, accepted⟩ := Except.bind_eq_ok_iff.mp accepted
    obtain rfl := Except.ok.inj accepted
    have sameFields : stored = header.fields := by
      rw [← headerShape, ImageHeader.fields, Compression.code_of_ofCode known]
    rw [sameFields] at found
    refine ⟨encode_eq_ok_iff.mpr ⟨checked, fits, ?_⟩, rfl⟩
    exact (ImageHeader.eq_append_of_readFields? found).symm

end Image

end AdventureArchive
