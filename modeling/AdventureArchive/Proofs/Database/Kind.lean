import AdventureArchive.Database.Kind
import AdventureArchive.Proofs.Image.StoredForm
import AdventureArchive.Proofs.Program.StoredForm
import AdventureArchive.Proofs.Resource.PlainFormats

namespace AdventureArchive

/-!
# Stored resources of any kind

What has been read can be written (`encode_of_decode`).  What has been written
is read back if it is readable (`decode_of_encode`) and refused otherwise
(`decode_of_not_readable`).  Of the nine kinds only sounds and programs can be
written and not be readable.

Resources are equal if they are read back as the same (`beq_iff_reloaded_eq`),
and they are if they have the same stored form (`reloaded_eq_of_encode`).
-/

/-- Every table kind is listed. -/
theorem TableKind.mem_all (kind : TableKind) : kind ∈ TableKind.all := by
  cases kind with
  | image kind => cases kind <;> decide
  | _ => decide

/-- Every kind is listed. -/
theorem ResourceKind.mem_all (kind : ResourceKind) : kind ∈ ResourceKind.all := by
  cases kind with
  | text => exact List.mem_cons_self
  | table kind => exact List.mem_cons_of_mem _ (List.mem_map_of_mem kind.mem_all)

namespace TableKind

/--
Resources that are read back once they are stored: a sound has to be playable,
and the registry has to hold the opcodes of a program.
-/
def Readable (registry : OpcodeRegistry) : (kind : TableKind) → kind.Resource → Prop
  | .backdropSize => fun _ => True
  | .program => fun program => program.ReadableBy registry
  | .image _ => fun _ => True
  | .palette => fun _ => True
  | .roomInfo => fun _ => True
  | .sequence => fun _ => True
  | .sound => Sound.Playable

instance (registry : OpcodeRegistry) :
    (kind : TableKind) → DecidablePred (kind.Readable registry)
  | .backdropSize => fun _ => inferInstanceAs (Decidable True)
  | .program => fun program => inferInstanceAs (Decidable (program.ReadableBy registry))
  | .image _ => fun _ => inferInstanceAs (Decidable True)
  | .palette => fun _ => inferInstanceAs (Decidable True)
  | .roomInfo => fun _ => inferInstanceAs (Decidable True)
  | .sequence => fun _ => inferInstanceAs (Decidable True)
  | .sound => fun sound => inferInstanceAs (Decidable sound.Playable)

/-- The resource that is read where this one has been stored. -/
def reloaded : (kind : TableKind) → kind.Resource → kind.Resource
  | .backdropSize => id
  | .program => id
  | .image _ => Image.reloaded
  | .palette => id
  | .roomInfo => id
  | .sequence => id
  | .sound => id

/-- A resource stays the same when it is stored and read back. -/
theorem reloaded_beq (kind : TableKind) (resource : kind.Resource) :
    (kind.reloaded resource == resource) = true := by
  cases kind with
  | backdropSize => exact beq_self_eq_true (α := BackdropSize) resource
  | program => exact beq_self_eq_true (α := Program) resource
  | image kind =>
      change (resource.header == resource.header && resource.payload == resource.payload) = true
      rw [beq_self_eq_true, beq_self_eq_true, Bool.and_self]
  | palette => exact beq_self_eq_true (α := Palette) resource
  | roomInfo => exact beq_self_eq_true (α := RoomInfo) resource
  | sequence => exact beq_self_eq_true (α := Sequence) resource
  | sound => exact beq_self_eq_true (α := Sound) resource

/-- Resources are equal if they are read back as the same. -/
theorem beq_iff_reloaded_eq
    {kind : TableKind}
    (first second : kind.Resource) :
    (first == second) = true ↔ kind.reloaded first = kind.reloaded second := by
  cases kind with
  | backdropSize => exact beq_iff_eq (α := BackdropSize)
  | program => exact beq_iff_eq (α := Program)
  | image kind => exact Image.beq_iff_reloaded_eq first second
  | palette => exact beq_iff_eq (α := Palette)
  | roomInfo => exact beq_iff_eq (α := RoomInfo)
  | sequence => exact beq_iff_eq (α := Sequence)
  | sound => exact beq_iff_eq (α := Sound)

/-- The stored form of a resource is that of the one it is read back as. -/
theorem encode_reloaded
    (kind : TableKind)
    (resource : kind.Resource) :
    kind.encode (kind.reloaded resource) = kind.encode resource := by
  cases kind <;> rfl

/-- A readable resource is read back from its stored form. -/
theorem decode_of_encode
    {kind : TableKind}
    {resource : kind.Resource}
    {bytes : List UInt8}
    (encoded : kind.encode resource = .ok bytes)
    {registry : OpcodeRegistry}
    (readable : kind.Readable registry resource) :
    kind.decode registry bytes = .ok (kind.reloaded resource) := by
  cases kind with
  | backdropSize =>
      obtain rfl := Except.ok.inj encoded
      exact decodeRecord_write resource
  | program =>
      have programEncoded := Except.mapError_eq_ok_iff.mp encoded
      exact Except.mapError_eq_ok_iff.mpr (Program.decode_of_encode programEncoded readable)
  | image kind =>
      have imageEncoded := Except.mapError_eq_ok_iff.mp encoded
      exact Except.mapError_eq_ok_iff.mpr (Image.decode_of_encode imageEncoded)
  | palette => exact Palette.decode_of_encode encoded
  | roomInfo =>
      obtain rfl := Except.ok.inj encoded
      exact decodeRecord_write resource
  | sequence => exact Sequence.decode_of_encode encoded
  | sound => exact (Sound.decode_of_encode encoded).trans (if_pos readable)

/-- A stored resource that is not readable is refused. -/
theorem decode_of_not_readable
    {kind : TableKind}
    {resource : kind.Resource}
    {bytes : List UInt8}
    (encoded : kind.encode resource = .ok bytes)
    {registry : OpcodeRegistry}
    (unreadable : ¬ kind.Readable registry resource) :
    ∃ fault, kind.decode registry bytes = .error fault := by
  cases kind with
  | program =>
      have programEncoded := Except.mapError_eq_ok_iff.mp encoded
      obtain ⟨fault, refused⟩ :=
        Program.decode_of_not_readableBy programEncoded unreadable
      exact ⟨.program fault, congrArg (Except.mapError ResourceError.program) refused⟩
  | sound =>
      exact ⟨_, (Sound.decode_of_encode encoded).trans (if_neg unreadable)⟩
  | _ => exact absurd trivial unreadable

/-- A resource that has been read is readable, has a stored form and is read back as it is. -/
theorem encode_of_decode
    {kind : TableKind}
    {registry : OpcodeRegistry}
    {bytes : List UInt8}
    {resource : kind.Resource}
    (accepted : kind.decode registry bytes = .ok resource) :
    kind.Readable registry resource ∧
      kind.reloaded resource = resource ∧
      ∃ stored, kind.encode resource = .ok stored := by
  cases kind with
  | backdropSize => exact ⟨trivial, rfl, _, rfl⟩
  | program =>
      obtain ⟨readable, stored, encoded⟩ :=
        Program.encode_of_decode (Except.mapError_eq_ok_iff.mp accepted)
      exact ⟨readable, rfl, stored, Except.mapError_eq_ok_iff.mpr encoded⟩
  | image kind =>
      obtain ⟨encoded, unchanged⟩ :=
        Image.encode_of_decode (Except.mapError_eq_ok_iff.mp accepted)
      exact ⟨trivial, unchanged, bytes, Except.mapError_eq_ok_iff.mpr encoded⟩
  | palette => exact ⟨trivial, rfl, bytes, Palette.encode_of_decode accepted⟩
  | roomInfo => exact ⟨trivial, rfl, _, rfl⟩
  | sequence => exact ⟨trivial, rfl, bytes, Sequence.encode_of_decode accepted⟩
  | sound =>
      obtain ⟨playable, encoded⟩ := Sound.encode_of_decode accepted
      exact ⟨playable, rfl, bytes, encoded⟩

/-- Resources with the same stored form are read back as the same, if at all. -/
theorem reloaded_eq_of_encode
    {kind : TableKind}
    {first second : kind.Resource}
    {bytes : List UInt8}
    (firstEncoded : kind.encode first = .ok bytes)
    (secondEncoded : kind.encode second = .ok bytes) :
    kind.reloaded first = kind.reloaded second := by
  by_cases isSound : kind = .sound
  · subst isSound
    exact Sound.encode_inj firstEncoded secondEncoded
  · -- Whatever its instructions are, the standard registry reads a program back.
    have readable (resource : kind.Resource) : kind.Readable .standard resource := by
      cases kind with
      | program => exact fun _ _ => OpcodeRegistry.standard_registers _
      | sound => contradiction
      | _ => trivial
    have firstRead := decode_of_encode firstEncoded (readable first)
    rw [decode_of_encode secondEncoded (readable second)] at firstRead
    exact (Except.ok.inj firstRead).symm

end TableKind

end AdventureArchive
