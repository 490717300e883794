import AdventureArchive.Proofs.Program.Code
import AdventureArchive.Proofs.Program.Strings

namespace AdventureArchive.Program

/-!
# The stored form of programs

Each part of a stored program is read back where it has been written, whatever
follows it, so a written program is read back by every registry that holds its
opcodes (`decode_of_encode`).  A program that has been read can be written
(`encode_of_decode`), with the code and the sections it has been read from
(`parts_of_decode`), though its strings come out in the order of their ids.
-/

section Sections

variable {α : Type} [Layout α] [LawfulLayout α] {part : ProgramSection}

/-- A record section is read back, and what follows it is left. -/
theorem readSection_append
    {records : List α}
    {stored : List UInt8}
    (written : writeSection part records = .ok stored)
    (rest : List UInt8) :
    readSection part (stored ++ rest) = .ok (records, rest) := by
  unfold writeSection at written
  split at written
  next fits =>
    obtain rfl := Except.ok.inj written
    have count : (UInt16.ofNat records.length).toNat = records.length :=
      UInt16.toNat_ofNat_of_lt' fits
    simp only [readSection, List.append_assoc, LawfulLayout.read_append, count,
      Layout.readMany_append]
  next => contradiction

/-- A section that has been read is written as the bytes it was read from. -/
theorem writeSection_of_readSection
    {records : List α}
    {bytes rest : List UInt8}
    (accepted : readSection part bytes = .ok (records, rest)) :
    ∃ stored, writeSection part records = .ok stored ∧ bytes = stored ++ rest := by
  unfold readSection at accepted
  split at accepted
  next => contradiction
  next count behindCount countShape =>
    split at accepted
    next found recordsShape =>
      obtain rfl := Except.ok.inj accepted
      obtain ⟨sameCount, bodyShape⟩ := Layout.eq_append_of_readMany recordsShape
      have fits : records.length < UInt16.size := sameCount ▸ count.toNat_lt
      refine ⟨_, if_pos fits, ?_⟩
      rw [LawfulLayout.eq_append_of_read countShape, bodyShape, sameCount,
        UInt16.ofNat_toNat, List.append_assoc]
    next => contradiction

end Sections

/-- Code is split off where it has been written behind its length. -/
theorem splitCode_append
    {instructions : SortedMap UInt32 Instruction}
    {stored : List UInt8}
    (written : writeCode instructions = .ok stored)
    (rest : List UInt8) :
    ∃ code, encodeCode instructions = .ok code ∧
      splitCode (stored ++ rest) = .ok (code, rest) := by
  obtain ⟨code, encoded, written⟩ := Except.bind_eq_ok_iff.mp written
  split at written
  next fits =>
    obtain rfl := Except.ok.inj written
    have length : (UInt32.ofNat code.length).toNat = code.length :=
      UInt32.toNat_ofNat_of_lt' fits
    refine ⟨code, encoded, ?_⟩
    simp only [splitCode, List.append_assoc, LawfulLayout.read_append, length,
      takeBytes?_append]
  next => contradiction

/-- Bytes from which code has been split off are its length, the code and the rest. -/
theorem eq_append_of_splitCode
    {bytes code rest : List UInt8}
    (accepted : splitCode bytes = .ok (code, rest)) :
    code.length < UInt32.size ∧
      bytes = Layout.write (UInt32.ofNat code.length) ++ code ++ rest := by
  unfold splitCode at accepted
  split at accepted
  next => contradiction
  next codeLength behindLength lengthShape =>
    split at accepted
    next => contradiction
    next found taken =>
      obtain rfl := Except.ok.inj accepted
      obtain ⟨sameLength, behindShape⟩ := eq_append_of_takeBytes? taken
      refine ⟨sameLength ▸ codeLength.toNat_lt, ?_⟩
      rw [LawfulLayout.eq_append_of_read lengthShape, behindShape, sameLength,
        UInt32.ofNat_toNat, List.append_assoc]

/-- Whether a registry holds the opcodes of all instructions of a program. -/
def ReadableBy (program : Program) (registry : OpcodeRegistry) : Prop :=
  RegistersAll registry program.instructions.toList

instance (program : Program) (registry : OpcodeRegistry) :
    Decidable (program.ReadableBy registry) :=
  inferInstanceAs (Decidable (RegistersAll _ _))

/-- A written program is read by splitting off its code and reading that. -/
theorem decode_eq_of_encode
    {program : Program}
    {bytes : List UInt8}
    (encoded : program.encode = .ok bytes)
    (registry : OpcodeRegistry) :
    ∃ code, encodeCode program.instructions = .ok code ∧
      decode registry bytes =
        (decodeCode registry code).map fun instructions =>
          { program with instructions } := by
  obtain ⟨code, codeWritten, encoded⟩ := Except.bind_eq_ok_iff.mp encoded
  obtain ⟨rects, rectsWritten, encoded⟩ := Except.bind_eq_ok_iff.mp encoded
  obtain ⟨points, pointsWritten, encoded⟩ := Except.bind_eq_ok_iff.mp encoded
  obtain ⟨walkLinks, walkLinksWritten, encoded⟩ := Except.bind_eq_ok_iff.mp encoded
  obtain ⟨areas, areasWritten, encoded⟩ := Except.bind_eq_ok_iff.mp encoded
  obtain ⟨backgrounds, backgroundsWritten, encoded⟩ := Except.bind_eq_ok_iff.mp encoded
  obtain ⟨hitboxes, hitboxesWritten, encoded⟩ := Except.bind_eq_ok_iff.mp encoded
  obtain ⟨actionScripts, actionScriptsWritten, encoded⟩ := Except.bind_eq_ok_iff.mp encoded
  obtain ⟨conversations, conversationsWritten, encoded⟩ := Except.bind_eq_ok_iff.mp encoded
  obtain ⟨characterScripts, characterScriptsWritten, encoded⟩ :=
    Except.bind_eq_ok_iff.mp encoded
  obtain ⟨strings, stringsWritten, encoded⟩ := Except.bind_eq_ok_iff.mp encoded
  obtain rfl := Except.ok.inj encoded
  have stringsRead := readStrings_append stringsWritten []
  rw [List.append_nil] at stringsRead
  obtain ⟨plainCode, codeEncoded, codeSplit⟩ := splitCode_append codeWritten
    (rects ++ (points ++ (walkLinks ++ (areas ++ (backgrounds ++ (hitboxes ++
      (actionScripts ++ (conversations ++ (characterScripts ++ strings)))))))))
  refine ⟨plainCode, codeEncoded, ?_⟩
  simp only [decode, List.append_assoc, codeSplit, Except.ok_bind]
  cases decodeCode registry plainCode with
  | error fault => rfl
  | ok instructions =>
      simp only [Except.ok_bind, readSection_append rectsWritten,
        readSection_append pointsWritten, readSection_append walkLinksWritten,
        readSection_append areasWritten, readSection_append backgroundsWritten,
        readSection_append hitboxesWritten, readSection_append actionScriptsWritten,
        readSection_append conversationsWritten,
        readSection_append characterScriptsWritten, stringsRead]
      rfl

/-- A written program is read back by a registry that holds its opcodes. -/
theorem decode_of_encode
    {program : Program}
    {bytes : List UInt8}
    (encoded : program.encode = .ok bytes)
    {registry : OpcodeRegistry}
    (readable : program.ReadableBy registry) :
    decode registry bytes = .ok program := by
  obtain ⟨code, codeEncoded, decoded⟩ := decode_eq_of_encode encoded registry
  rw [decoded, decodeCode_of_encodeCode codeEncoded readable]
  rfl

/-- A written program is refused by a registry that lacks one of its opcodes. -/
theorem decode_of_not_readableBy
    {program : Program}
    {bytes : List UInt8}
    (encoded : program.encode = .ok bytes)
    {registry : OpcodeRegistry}
    (unreadable : ¬ program.ReadableBy registry) :
    ∃ fault, decode registry bytes = .error fault := by
  obtain ⟨code, codeEncoded, decoded⟩ := decode_eq_of_encode encoded registry
  obtain ⟨fault, refused⟩ := decodeCode_of_not_registersAll codeEncoded unreadable
  exact ⟨fault, by rw [decoded, refused]; rfl⟩

/-- The parts of a stored program in their order, or why they cannot be written. -/
def storedParts (program : Program) : List (Except ProgramError (List UInt8)) := [
  writeCode program.instructions,
  writeSection .rects program.rects,
  writeSection .points program.points,
  writeSection .walkLinks program.walkLinks,
  writeSection .areas program.areas,
  writeSection .backgrounds program.backgrounds,
  writeSection .hitboxes program.hitboxes,
  writeSection .actionScripts program.actionScripts,
  writeSection .conversations program.conversations,
  writeSection .characterScripts program.characterScripts,
  writeStrings program.strings]

/-- The sections of a stored program in front of its strings. -/
def sectionParts (program : Program) : List (Except ProgramError (List UInt8)) := [
  writeSection .rects program.rects,
  writeSection .points program.points,
  writeSection .walkLinks program.walkLinks,
  writeSection .areas program.areas,
  writeSection .backgrounds program.backgrounds,
  writeSection .hitboxes program.hitboxes,
  writeSection .actionScripts program.actionScripts,
  writeSection .conversations program.conversations,
  writeSection .characterScripts program.characterScripts]

/-- A stored program is its parts, one after the other. -/
theorem encode_eq_storedParts (program : Program) :
    program.encode = List.flatten <$> program.storedParts.mapM id := by
  simp only [encode, storedParts, List.mapM_cons, List.mapM_nil, id_eq, map_bind, map_pure,
    bind_assoc, pure_bind, List.flatten_cons, List.flatten_nil, List.append_nil,
    List.append_assoc]

/-- A program whose code, sections and strings are written is written as these. -/
theorem encode_of_parts
    {program : Program}
    {code strings : List UInt8}
    {sections : List (List UInt8)}
    (codeWritten : writeCode program.instructions = .ok code)
    (sectionsWritten : program.sectionParts = sections.map .ok)
    (stringsWritten : writeStrings program.strings = .ok strings) :
    program.encode = .ok (code ++ (sections.flatten ++ strings)) := by
  have parts :
      program.storedParts =
        writeCode program.instructions ::
          (program.sectionParts ++ [writeStrings program.strings]) :=
    rfl
  rw [encode_eq_storedParts]
  refine Except.map_eq_ok_iff.mpr ⟨code :: (sections ++ [strings]), ?_, by simp⟩
  rw [Except.mapM_eq_ok_iff, parts, codeWritten, sectionsWritten, stringsWritten]
  simp

/--
The bytes of a program that has been read are its code and sections as they are
written, and then the section that its strings have been read from.
-/
theorem parts_of_decode
    {registry : OpcodeRegistry}
    {bytes : List UInt8}
    {program : Program}
    (accepted : decode registry bytes = .ok program) :
    program.ReadableBy registry ∧
      ∃ (code : List UInt8) (sections : List (List UInt8)) (strings : List UInt8),
        writeCode program.instructions = .ok code ∧
          program.sectionParts = sections.map .ok ∧
          readStrings strings = .ok (program.strings, []) ∧
          bytes = code ++ (sections.flatten ++ strings) := by
  obtain ⟨⟨code, behindCode⟩, codeSplit, accepted⟩ := Except.bind_eq_ok_iff.mp accepted
  obtain ⟨instructions, codeRead, accepted⟩ := Except.bind_eq_ok_iff.mp accepted
  obtain ⟨⟨rects, _⟩, rectsRead, accepted⟩ := Except.bind_eq_ok_iff.mp accepted
  obtain ⟨⟨points, _⟩, pointsRead, accepted⟩ := Except.bind_eq_ok_iff.mp accepted
  obtain ⟨⟨walkLinks, _⟩, walkLinksRead, accepted⟩ := Except.bind_eq_ok_iff.mp accepted
  obtain ⟨⟨areas, _⟩, areasRead, accepted⟩ := Except.bind_eq_ok_iff.mp accepted
  obtain ⟨⟨backgrounds, _⟩, backgroundsRead, accepted⟩ := Except.bind_eq_ok_iff.mp accepted
  obtain ⟨⟨hitboxes, _⟩, hitboxesRead, accepted⟩ := Except.bind_eq_ok_iff.mp accepted
  obtain ⟨⟨actionScripts, _⟩, actionScriptsRead, accepted⟩ :=
    Except.bind_eq_ok_iff.mp accepted
  obtain ⟨⟨conversations, _⟩, conversationsRead, accepted⟩ :=
    Except.bind_eq_ok_iff.mp accepted
  obtain ⟨⟨characterScripts, behindSections⟩, characterScriptsRead, accepted⟩ :=
    Except.bind_eq_ok_iff.mp accepted
  obtain ⟨⟨strings, behindStrings⟩, stringsRead, accepted⟩ :=
    Except.bind_eq_ok_iff.mp accepted
  obtain ⟨codeFits, bytesShape⟩ := eq_append_of_splitCode codeSplit
  obtain ⟨codeEncoded, registered⟩ :=
    encodeCode_of_decodeCode (Nat.le_of_lt codeFits) codeRead
  have codeWritten :
      writeCode instructions = .ok (Layout.write (UInt32.ofNat code.length) ++ code) := by
    rw [writeCode, codeEncoded, Except.ok_bind, if_pos codeFits]
    rfl
  obtain ⟨rectsBytes, rectsWritten, rectsShape⟩ := writeSection_of_readSection rectsRead
  obtain ⟨pointsBytes, pointsWritten, pointsShape⟩ := writeSection_of_readSection pointsRead
  obtain ⟨walkLinksBytes, walkLinksWritten, walkLinksShape⟩ :=
    writeSection_of_readSection walkLinksRead
  obtain ⟨areasBytes, areasWritten, areasShape⟩ := writeSection_of_readSection areasRead
  obtain ⟨backgroundsBytes, backgroundsWritten, backgroundsShape⟩ :=
    writeSection_of_readSection backgroundsRead
  obtain ⟨hitboxesBytes, hitboxesWritten, hitboxesShape⟩ :=
    writeSection_of_readSection hitboxesRead
  obtain ⟨actionScriptsBytes, actionScriptsWritten, actionScriptsShape⟩ :=
    writeSection_of_readSection actionScriptsRead
  obtain ⟨conversationsBytes, conversationsWritten, conversationsShape⟩ :=
    writeSection_of_readSection conversationsRead
  obtain ⟨characterScriptsBytes, characterScriptsWritten, characterScriptsShape⟩ :=
    writeSection_of_readSection characterScriptsRead
  dsimp only at accepted stringsRead
  split at accepted
  next nothingLeft =>
    obtain rfl := Except.ok.inj accepted
    rw [List.isEmpty_iff.mp nothingLeft] at stringsRead
    let sections := [rectsBytes, pointsBytes, walkLinksBytes, areasBytes, backgroundsBytes,
      hitboxesBytes, actionScriptsBytes, conversationsBytes, characterScriptsBytes]
    refine ⟨registered, _, sections, behindSections, codeWritten, ?_, stringsRead, ?_⟩
    · rw [sectionParts, rectsWritten, pointsWritten, walkLinksWritten, areasWritten,
        backgroundsWritten, hitboxesWritten, actionScriptsWritten, conversationsWritten,
        characterScriptsWritten]
      rfl
    · rw [bytesShape, rectsShape, pointsShape, walkLinksShape, areasShape, backgroundsShape,
        hitboxesShape, actionScriptsShape, conversationsShape, characterScriptsShape]
      simp only [sections, List.flatten_cons, List.flatten_nil, List.append_nil,
        List.append_assoc]
  next => contradiction

/-- A program that has been read can be written, and its registry holds its opcodes. -/
theorem encode_of_decode
    {registry : OpcodeRegistry}
    {bytes : List UInt8}
    {program : Program}
    (accepted : decode registry bytes = .ok program) :
    program.ReadableBy registry ∧ ∃ stored, program.encode = .ok stored := by
  obtain ⟨readable, _, _, _, codeWritten, sectionsWritten, stringsRead, -⟩ :=
    parts_of_decode accepted
  obtain ⟨records, few, -, stringsShape, nodup⟩ := records_of_readStrings stringsRead
  have stringsWritten := writeStrings_ofList few nodup
  rw [← stringsShape] at stringsWritten
  exact ⟨readable, _, encode_of_parts codeWritten sectionsWritten stringsWritten⟩

/-- A program that has been read is read by every registry that holds its opcodes. -/
theorem decode_of_readableBy
    {registry other : OpcodeRegistry}
    {bytes : List UInt8}
    {program : Program}
    (accepted : decode registry bytes = .ok program)
    (readable : program.ReadableBy other) :
    decode other bytes = .ok program := by
  obtain ⟨readableFirst, stored, sections, strings, codeWritten, -, -, rfl⟩ :=
    parts_of_decode accepted
  obtain ⟨code, encoded, codeSplit⟩ :=
    splitCode_append codeWritten (sections.flatten ++ strings)
  simp only [decode, codeSplit, Except.ok_bind,
    decodeCode_of_encodeCode encoded readableFirst] at accepted
  simp only [decode, codeSplit, Except.ok_bind, decodeCode_of_encodeCode encoded readable]
  exact accepted

/-- A registry reads those of the programs that a larger one reads whose opcodes it holds. -/
theorem decode_eq_ok_iff_of_isPartOf
    {narrow wide : OpcodeRegistry}
    (isPart : narrow.IsPartOf wide)
    {bytes : List UInt8}
    {program : Program} :
    decode narrow bytes = .ok program ↔
      decode wide bytes = .ok program ∧ program.ReadableBy narrow := by
  constructor
  · intro accepted
    have readable := (encode_of_decode accepted).1
    have readableByWide : program.ReadableBy wide :=
      fun entry member => isPart _ (readable entry member)
    exact ⟨decode_of_readableBy accepted readableByWide, readable⟩
  · rintro ⟨accepted, readable⟩
    exact decode_of_readableBy accepted readable

end AdventureArchive.Program
