import AdventureArchive.Proofs.Bytes.Position
import AdventureArchive.Proofs.Program.StoredForm

namespace AdventureArchive.Program

open StringRecord (stored entry sorted sorted_perm ascending_sorted sorted_of_ascending)

/-!
# The canonical form of stored programs

A stored program that has been read is written again, but not always as the same
bytes: string records are read in any order and written in the order of their
ids.  That is all that changes (`canonicalForm_of_decode`).

Where the string records stand and what they are is told from the bytes alone
(`stringRecords`).  Whatever records are put behind the code and the sections of
a program are found there (`introduces_of_parts`): those that have been read, in
the bytes they have been read from, and the sorted ones in what is written.
-/

/-! ## String records in bytes -/

/-- How long the records of each section are, in the order of the sections. -/
def recordWidths : List Nat := [
  Layout.width Rect, Layout.width Point, Layout.width WalkLink, Layout.width Area,
  Layout.width Background, Layout.width Hitbox, Layout.width ActionScript,
  Layout.width Conversation, Layout.width CharacterScript]

example : recordWidths = [8, 4, 20, 8, 20, 34, 8, 8, 6] := by decide

/-- Where a section ends that starts at a position, with records of the given width. -/
def sectionEnd (bytes : List UInt8) (position width : Nat) : Nat :=
  position + 2 + (Layout.valueAt UInt16 bytes position).toNat * width

/-- Where a stored program says how many strings it has. -/
def stringsOffset (bytes : List UInt8) : Nat :=
  recordWidths.foldl (sectionEnd bytes) (4 + (Layout.valueAt UInt32 bytes 0).toNat)

/-- The string record at a position. -/
def recordAt (bytes : List UInt8) (position : Nat) : StringRecord where
  id := Layout.valueAt UInt16 bytes position
  text := byteRange bytes (position + 4) (Layout.valueAt UInt16 bytes (position + 2)).toNat
  fits :=
    Nat.lt_of_le_of_lt (List.length_take_le _ _)
      (Layout.valueAt UInt16 bytes (position + 2)).toNat_lt

/-- A number of string records, one behind the other from a position on. -/
def recordsFrom (bytes : List UInt8) (position : Nat) : Nat → List StringRecord
  | 0 => []
  | count + 1 =>
      let record := recordAt bytes position
      record :: recordsFrom bytes (position + record.stored.length) count

/-- The string records of a stored program. -/
def stringRecords (bytes : List UInt8) : List StringRecord :=
  recordsFrom bytes (stringsOffset bytes + 2)
    (Layout.valueAt UInt16 bytes (stringsOffset bytes)).toNat

/--
What a stored program and its canonical form have in common: all bytes up to and
including the number of strings, and the string records apart from their order.
-/
structure CanonicalForm (bytes canonical : List UInt8) : Prop where
  length : canonical.length = bytes.length
  offset : stringsOffset canonical = stringsOffset bytes
  front : canonical.take (stringsOffset bytes + 2) = bytes.take (stringsOffset bytes + 2)
  behindFront : bytes.drop (stringsOffset bytes + 2) = (stringRecords bytes).flatMap stored
  distinct : ((stringRecords bytes).map StringRecord.id).Nodup
  records : stringRecords canonical = sorted (stringRecords bytes)
  behindSameFront :
    canonical.drop (stringsOffset bytes + 2) = (stringRecords canonical).flatMap stored
  unchanged_iff :
    canonical = bytes ↔
      (stringRecords bytes).Pairwise fun first second => first.id < second.id

/-! ## What stands in front of the strings -/

/-- A section: a number of records and that many bytes for each unit of their width. -/
def IsSection (width : Nat) (bytes : List UInt8) : Prop :=
  ∃ (count : UInt16) (records : List UInt8),
    records.length = count.toNat * width ∧ bytes = Layout.write count ++ records

/-- The records of a section are written behind their number. -/
theorem isSection_of_writeSection
    {α : Type}
    [Layout α]
    [LawfulLayout α]
    {part : ProgramSection}
    {records : List α}
    {bytes : List UInt8}
    (written : writeSection part records = .ok bytes) :
    IsSection (Layout.width α) bytes := by
  unfold writeSection at written
  split at written
  next fits =>
    obtain rfl := Except.ok.inj written
    refine ⟨UInt16.ofNat records.length, Layout.writeMany records, ?_, rfl⟩
    rw [Layout.length_writeMany, UInt16.toNat_ofNat_of_lt' fits]
  next => contradiction

/-- The sections of a program have records of the widths that the format gives them. -/
theorem isSection_of_sectionParts
    {program : Program}
    {sections : List (List UInt8)}
    (written : program.sectionParts = sections.map .ok) :
    List.Forall₂ IsSection recordWidths sections := by
  have each :
      List.Forall₂ (fun width part => ∀ bytes, part = .ok bytes → IsSection width bytes)
        recordWidths program.sectionParts := by
    simp only [recordWidths, sectionParts, List.forall₂_cons, List.forall₂_nil_left_iff, and_true]
    exact ⟨fun _ => isSection_of_writeSection, fun _ => isSection_of_writeSection,
      fun _ => isSection_of_writeSection, fun _ => isSection_of_writeSection,
      fun _ => isSection_of_writeSection, fun _ => isSection_of_writeSection,
      fun _ => isSection_of_writeSection, fun _ => isSection_of_writeSection,
      fun _ => isSection_of_writeSection⟩
  rw [written, List.forall₂_map_right_iff] at each
  exact each.imp fun _ bytes isSection => isSection bytes rfl

/-- Going from section to section leads behind the last one. -/
theorem foldl_sectionEnd
    {widths : List Nat}
    {sections : List (List UInt8)}
    (areSections : List.Forall₂ IsSection widths sections)
    (front rest : List UInt8) :
    widths.foldl (sectionEnd (front ++ (sections.flatten ++ rest))) front.length =
      (front ++ sections.flatten).length := by
  induction areSections generalizing front with
  | nil => simp
  | @cons width bytes widths others isSection _ inductionHypothesis =>
      obtain ⟨count, records, recordsLength, rfl⟩ := isSection
      have sectionEnds :
          sectionEnd (front ++ ((Layout.write count ++ records) ++ others.flatten ++ rest))
              front.length width =
            (front ++ (Layout.write count ++ records)).length := by
        simp only [sectionEnd, List.append_assoc, Layout.valueAt_append, List.length_append,
          LawfulLayout.length_write, recordsLength]
        exact Nat.add_assoc _ _ _
      have restEnds := inductionHypothesis (front ++ (Layout.write count ++ records))
      simp only [List.append_assoc] at restEnds sectionEnds ⊢
      rw [List.foldl_cons, List.flatten_cons]
      simp only [List.append_assoc]
      rw [sectionEnds, restEnds]

/-- The number of strings stands behind the code and the sections. -/
theorem stringsOffset_append
    {program : Program}
    {code : List UInt8}
    {sections : List (List UInt8)}
    (codeWritten : writeCode program.instructions = .ok code)
    (sectionsWritten : program.sectionParts = sections.map .ok)
    (rest : List UInt8) :
    stringsOffset (code ++ (sections.flatten ++ rest)) = (code ++ sections.flatten).length := by
  obtain ⟨plain, -, written⟩ := Except.bind_eq_ok_iff.mp codeWritten
  split at written
  next fits =>
    obtain rfl := Except.ok.inj written
    have declared :
        (Layout.valueAt UInt32
            ((Layout.write (UInt32.ofNat plain.length) ++ plain) ++ (sections.flatten ++ rest))
            0).toNat =
          plain.length := by
      have found := Layout.valueAt_append [] (UInt32.ofNat plain.length)
        (plain ++ (sections.flatten ++ rest))
      rw [List.nil_append, ← List.append_assoc] at found
      exact (congrArg UInt32.toNat found).trans (UInt32.toNat_ofNat_of_lt' fits)
    have codeEnds :
        4 + plain.length = (Layout.write (UInt32.ofNat plain.length) ++ plain).length := by
      rw [List.length_append, LawfulLayout.length_write]
      rfl
    rw [stringsOffset, declared, codeEnds]
    exact foldl_sectionEnd (isSection_of_sectionParts sectionsWritten) _ rest
  next => contradiction

/-! ## The records behind it -/

/-- A record is found where it stands. -/
theorem recordAt_append
    (front : List UInt8)
    (record : StringRecord)
    (rest : List UInt8) :
    recordAt (front ++ (record.stored ++ rest)) front.length = record := by
  have idFound :
      Layout.valueAt UInt16 (front ++ (record.stored ++ rest)) front.length = record.id := by
    have found := Layout.valueAt_append front record.id
      (Layout.write (UInt16.ofNat record.text.length) ++ (record.text ++ rest))
    simpa only [stored, List.append_assoc] using found
  have lengthFound :
      (Layout.valueAt UInt16 (front ++ (record.stored ++ rest)) (front.length + 2)).toNat =
        record.text.length := by
    have found := Layout.valueAt_append (front ++ Layout.write record.id)
      (UInt16.ofNat record.text.length) (record.text ++ rest)
    rw [List.length_append, LawfulLayout.length_write] at found
    simp only [List.append_assoc] at found
    simp only [stored, List.append_assoc]
    exact (congrArg UInt16.toNat found).trans (UInt16.toNat_ofNat_of_lt' record.fits)
  have textFound :
      byteRange (front ++ (record.stored ++ rest)) (front.length + 4) record.text.length =
        record.text := by
    have behind :
        front ++ (record.stored ++ rest) =
          (front ++ Layout.write record.id ++ Layout.write (UInt16.ofNat record.text.length)) ++
            (record.text ++ rest) := by
      simp only [stored, List.append_assoc]
    rw [byteRange, behind, List.drop_left', List.take_left]
    simp only [List.length_append, LawfulLayout.length_write]
    exact Nat.add_assoc _ _ _
  apply StringRecord.ext
  · exact idFound
  · simp only [recordAt, lengthFound]
    exact textFound

/-- Records are found where they stand one behind the other. -/
theorem recordsFrom_append
    (front : List UInt8)
    (records : List StringRecord)
    (rest : List UInt8) :
    recordsFrom (front ++ (records.flatMap stored ++ rest)) front.length records.length =
      records := by
  induction records generalizing front with
  | nil => rfl
  | cons record others inductionHypothesis =>
      have restFound := inductionHypothesis (front ++ record.stored)
      rw [List.length_append, List.append_assoc] at restFound
      rw [List.flatMap_cons, List.length_cons, List.append_assoc, recordsFrom,
        recordAt_append, restFound]

/-- What stands in front of a number of string records so that they are found. -/
structure Introduces (front : List UInt8) (count : Nat) : Prop where
  offset : ∀ rest, stringsOffset (front ++ rest) + 2 = front.length
  records :
    ∀ records : List StringRecord, records.length = count →
      stringRecords (front ++ records.flatMap stored) = records

/-- String records are introduced by the code, the sections and their number. -/
theorem introduces_of_parts
    {program : Program}
    {code : List UInt8}
    {sections : List (List UInt8)}
    (codeWritten : writeCode program.instructions = .ok code)
    (sectionsWritten : program.sectionParts = sections.map .ok)
    {count : Nat}
    (few : count < UInt16.size) :
    Introduces (code ++ sections.flatten ++ Layout.write (UInt16.ofNat count)) count := by
  have offset (rest : List UInt8) :
      stringsOffset (code ++ sections.flatten ++ Layout.write (UInt16.ofNat count) ++ rest) =
        (code ++ sections.flatten).length := by
    have found := stringsOffset_append codeWritten sectionsWritten
      (Layout.write (UInt16.ofNat count) ++ rest)
    simpa only [List.append_assoc] using found
  have frontLength :
      (code ++ sections.flatten ++ Layout.write (UInt16.ofNat count)).length =
        (code ++ sections.flatten).length + 2 := by
    rw [List.length_append, LawfulLayout.length_write]
    rfl
  refine ⟨fun rest => by rw [offset, frontLength], ?_⟩
  intro records sameCount
  have countFound :=
    Layout.valueAt_append (code ++ sections.flatten) (UInt16.ofNat count) (records.flatMap stored)
  rw [← List.append_assoc] at countFound
  have recordsFound := recordsFrom_append
    (code ++ sections.flatten ++ Layout.write (UInt16.ofNat count)) records []
  rw [List.append_nil, frontLength, sameCount] at recordsFound
  rw [stringRecords, offset, countFound, UInt16.toNat_ofNat_of_lt' few, recordsFound]

/-! ## Canonical forms -/

/-- String records with different ids are brought into canonical form by sorting them. -/
theorem canonicalForm_of_introduces
    {front : List UInt8}
    {records : List StringRecord}
    (introduces : Introduces front records.length)
    (nodup : (records.map StringRecord.id).Nodup) :
    CanonicalForm
      (front ++ records.flatMap stored)
      (front ++ (sorted records).flatMap stored) := by
  have found := introduces.records records rfl
  have sortedFound := introduces.records (sorted records) (sorted_perm records).length_eq
  have frontEnds := introduces.offset (records.flatMap stored)
  constructor
  case length =>
    rw [List.length_append, List.length_append,
      ((sorted_perm records).flatMap_right stored).length_eq]
  case offset =>
    exact Nat.add_right_cancel ((introduces.offset _).trans frontEnds.symm)
  case front => rw [frontEnds, List.take_left, List.take_left]
  case behindFront => rw [frontEnds, List.drop_left, found]
  case distinct =>
    rw [found]
    exact nodup
  case records => rw [found, sortedFound]
  case behindSameFront => rw [frontEnds, List.drop_left, sortedFound]
  case unchanged_iff =>
    rw [found]
    constructor
    · intro unchanged
      rw [unchanged, found] at sortedFound
      rw [sortedFound]
      exact ascending_sorted nodup
    · intro ascending
      rw [sorted_of_ascending ascending]

/-- A program whose string records ascend is written as the bytes it has been read from. -/
theorem encode_of_ascending
    {registry : OpcodeRegistry}
    {bytes : List UInt8}
    {program : Program}
    (accepted : decode registry bytes = .ok program)
    (ascending :
      (stringRecords bytes).Pairwise fun first second => first.id < second.id) :
    program.encode = .ok bytes := by
  obtain ⟨-, code, sections, strings, codeWritten, sectionsWritten, stringsRead, rfl⟩ :=
    parts_of_decode accepted
  obtain ⟨records, few, rfl, entries, nodup⟩ := records_of_readStrings stringsRead
  have found := (introduces_of_parts codeWritten sectionsWritten few).records records rfl
  simp only [List.append_assoc] at found
  simp only [stringSection, List.append_nil, found] at ascending
  have stringsWritten := writeStrings_ofList few nodup
  rw [← entries, sorted_of_ascending ascending] at stringsWritten
  rw [encode_of_parts codeWritten sectionsWritten stringsWritten, List.append_nil]

/--
A program that has been read is written as the canonical form of its bytes: they
differ only in the order of the string records, so they are the same bytes
exactly when the ids of the strings ascend.
-/
theorem canonicalForm_of_decode
    {registry : OpcodeRegistry}
    {bytes : List UInt8}
    {program : Program}
    (accepted : decode registry bytes = .ok program) :
    ∃ canonical, program.encode = .ok canonical ∧ CanonicalForm bytes canonical := by
  obtain ⟨-, code, sections, strings, codeWritten, sectionsWritten, stringsRead, bytesShape⟩ :=
    parts_of_decode accepted
  obtain ⟨records, few, stringsShape, entries, nodup⟩ := records_of_readStrings stringsRead
  have stringsWritten := writeStrings_ofList few nodup
  rw [← entries] at stringsWritten
  have encoded := encode_of_parts codeWritten sectionsWritten stringsWritten
  have form := canonicalForm_of_introduces
    (introduces_of_parts codeWritten sectionsWritten few) nodup
  refine ⟨_, encoded, ?_⟩
  rw [bytesShape, stringsShape, List.append_nil]
  simpa only [stringSection, (sorted_perm records).length_eq, List.append_assoc] using form

/-- A stored program that stops at once, with a point and the strings 7 and 3 in this order. -/
def unorderedStrings : List UInt8 :=
  [1, 0, 0, 0, 0x01] ++ [0, 0] ++ [1, 0, 0xFF, 0xFF, 0x2C, 0x01] ++ List.replicate 14 0 ++
    [2, 0] ++ [7, 0, 2, 0, 0x48, 0x69] ++ [3, 0, 1, 0, 0xE9]

/-- The strings 7 and 3 are read and come out in ascending order. -/
theorem canonicalForm_unorderedStrings :
    ∃ program canonical,
      decode .standard unorderedStrings = .ok program ∧
        program.encode = .ok canonical ∧
        CanonicalForm unorderedStrings canonical ∧
        (stringRecords canonical).map StringRecord.id = [3, 7] ∧
        canonical ≠ unorderedStrings := by
  obtain ⟨program, accepted⟩ :=
    Except.exists_of_isOk
      (show (decode .standard unorderedStrings).isOk = true by decide +kernel)
  obtain ⟨canonical, encoded, form⟩ := canonicalForm_of_decode accepted
  refine ⟨program, canonical, accepted, encoded, form, ?_, ?_⟩
  · have found : stringRecords unorderedStrings =
        [⟨7, [0x48, 0x69], by decide⟩, ⟨3, [0xE9], by decide⟩] := by
      decide +kernel
    rw [form.records, found]
    simp [sorted, List.mergeSort, StringRecord.idLe]
  · intro unchanged
    have ascending := form.unchanged_iff.mp unchanged
    revert ascending
    decide +kernel

end AdventureArchive.Program
