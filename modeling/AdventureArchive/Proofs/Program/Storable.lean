import AdventureArchive.Proofs.Program.StoredForm

namespace AdventureArchive

/-!
# Programs that have a stored form

A program has a stored form exactly when the keys of its instructions are the
offsets at which they start, its counts fit their fields and its strings have
one byte for each character (`Program.Storable`).  `Program.encode_iff_storable`
says so, together with what the stored form begins with and which registries
read it back.
-/

namespace SingleByteText

/-- A text has as many characters as bytes. -/
@[simp] theorem length_decode (bytes : List UInt8) :
    (decode bytes).length = bytes.length := by
  simp [decode]

/-- A text is spelled by some bytes exactly when no character lies above U+00FF. -/
theorem exists_decode_eq_iff
    {text : String} :
    (∃ bytes, decode bytes = text) ↔
      ∀ character ∈ text.toList, character.toNat ≤ 0xFF := by
  constructor
  · rintro ⟨bytes, rfl⟩ character member
    rw [decode, String.toList_ofList] at member
    obtain ⟨byte, -, rfl⟩ := List.mem_map.mp member
    rw [toNat_charOfByte]
    exact Nat.le_of_lt_succ byte.toNat_lt
  · intro small
    refine ⟨text.toList.map fun character => UInt8.ofNat character.toNat, ?_⟩
    rw [decode, List.map_map]
    have unchanged :
        text.toList.map (charOfByte ∘ fun character => UInt8.ofNat character.toNat) =
          text.toList := by
      rw [List.map_congr_left (g := id), List.map_id]
      intro character member
      have fits : character.toNat < 256 := Nat.lt_succ_of_le (small character member)
      exact byteOfChar?_eq_some_iff.mp (if_pos fits)
    rw [unchanged, String.ofList_toList]

end SingleByteText

namespace Program

/--
Keyed instructions that follow one another: the first has the given key, and
every other one the key behind the opcode and the operands before it.
-/
def KeyedFrom (first : Nat) : List (UInt32 × Instruction) → Prop
  | [] => True
  | (key, instruction) :: rest =>
      key.toNat = first ∧ KeyedFrom (key.toNat + 1 + instruction.width) rest

/-- Programs that keep to what their stored form can express. -/
structure Storable (program : Program) : Prop where
  keys : KeyedFrom 0 program.instructions.toList
  rects : program.rects.length ≤ 65535
  points : program.points.length ≤ 65535
  walkLinks : program.walkLinks.length ≤ 65535
  areas : program.areas.length ≤ 65535
  backgrounds : program.backgrounds.length ≤ 65535
  hitboxes : program.hitboxes.length ≤ 65535
  actionScripts : program.actionScripts.length ≤ 65535
  conversations : program.conversations.length ≤ 65535
  characterScripts : program.characterScripts.length ≤ 65535
  strings : program.strings.size ≤ 65535
  texts :
    ∀ entry ∈ program.strings.toList,
      (∀ character ∈ entry.2.toList, character.toNat ≤ 0xFF) ∧ entry.2.length ≤ 65535

/-! ## Code -/

/-- The code of a program has its code length. -/
theorem length_codeOf (program : Program) :
    (codeOf program.instructions.toList).length = program.codeLength := by
  rw [codeLength, SortedMap.values]
  induction program.instructions.toList with
  | nil => rfl
  | cons entry rest inductionHypothesis =>
      rw [List.map_cons, totalSize_cons, ← inductionHypothesis]
      simp [codeOf]

/-- While offsets fit the keys, nothing is missing between keys that follow one another. -/
theorem firstGap?_eq_none_iff
    {first : Nat}
    {entries : List (UInt32 × Instruction)}
    (fits : first + (codeOf entries).length < UInt32.size) :
    firstGap? first entries = none ↔ KeyedFrom first entries := by
  induction entries generalizing first with
  | nil => simp [firstGap?, KeyedFrom]
  | cons entry rest inductionHypothesis =>
      rcases entry with ⟨key, instruction⟩
      rw [length_codeOf_cons, Instruction.size] at fits
      have firstFits : first < UInt32.size := by omega
      have sameKey : key = UInt32.ofNat first ↔ key.toNat = first := by
        rw [← UInt32.toNat_inj, UInt32.toNat_ofNat_of_lt' firstFits]
      rw [firstGap?_cons_eq_none_iff, KeyedFrom, sameKey]
      apply and_congr_right
      intro follows
      rw [follows, Instruction.size, ← Nat.add_assoc]
      apply inductionHypothesis
      dsimp only at fits ⊢
      omega

section Keys

variable
  {first : Nat}
  {entry : UInt32 × Instruction}
  {before ahead entries : List (UInt32 × Instruction)}

/-- If there is code, it has a first instruction, with the key that the keys start from. -/
theorem KeyedFrom.head?_eq (keyed : KeyedFrom first entries) :
    entries.head?.map (fun entry => entry.1.toNat) =
      if 0 < (codeOf entries).length then some first else none := by
  cases entries with
  | nil => rfl
  | cons entry ahead =>
      have positive : 0 < (codeOf (entry :: ahead)).length := by
        rw [length_codeOf_cons, Instruction.size]
        omega
      rw [if_pos positive, List.head?_cons, Option.map_some, keyed.1]

/-- Behind the bytes of an instruction the keys go on with the code that is left. -/
theorem KeyedFrom.behind (keyed : KeyedFrom first (before ++ entry :: ahead)) :
    KeyedFrom (entry.1.toNat + 1 + entry.2.width) ahead ∧
      entry.1.toNat + 1 + entry.2.width + (codeOf ahead).length =
        first + (codeOf (before ++ entry :: ahead)).length := by
  induction before generalizing first with
  | nil =>
      obtain ⟨isFirst, aheadKeyed⟩ := keyed
      refine ⟨aheadKeyed, ?_⟩
      rw [List.nil_append, length_codeOf_cons, Instruction.size, isFirst]
      omega
  | cons earlier before inductionHypothesis =>
      obtain ⟨isFirst, restKeyed⟩ := keyed
      obtain ⟨aheadKeyed, lengths⟩ := inductionHypothesis restKeyed
      refine ⟨aheadKeyed, ?_⟩
      rw [lengths, isFirst, List.cons_append, length_codeOf_cons, Instruction.size]
      omega

end Keys

/-- Code is written when its keys follow one another and its length fits. -/
theorem writeCode_isOk_iff (program : Program) :
    (∃ stored, writeCode program.instructions = .ok stored) ↔
      KeyedFrom 0 program.instructions.toList ∧ program.codeLength < UInt32.size := by
  rw [← length_codeOf]
  constructor
  · rintro ⟨stored, written⟩
    obtain ⟨code, encoded, written⟩ := Except.bind_eq_ok_iff.mp written
    obtain ⟨contiguous, rfl⟩ := encodeCode_eq_ok_iff.mp encoded
    split at written
    next fits => exact ⟨(firstGap?_eq_none_iff (by rwa [Nat.zero_add])).mp contiguous, fits⟩
    next => contradiction
  · rintro ⟨keyed, fits⟩
    have contiguous := (firstGap?_eq_none_iff (by rwa [Nat.zero_add])).mpr keyed
    have encoded := encodeCode_eq_ok_iff.mpr ⟨contiguous, rfl⟩
    exact ⟨_, Except.bind_eq_ok_iff.mpr ⟨_, encoded, if_pos fits⟩⟩

/-- Written code starts with the code length. -/
theorem decode_take_of_writeCode
    {program : Program}
    {stored : List UInt8}
    (written : writeCode program.instructions = .ok stored)
    (rest : List UInt8) :
    LittleEndian.decode ((stored ++ rest).take 4) = program.codeLength := by
  obtain ⟨code, encoded, written⟩ := Except.bind_eq_ok_iff.mp written
  obtain ⟨-, rfl⟩ := encodeCode_eq_ok_iff.mp encoded
  rw [length_codeOf] at written
  split at written
  next fits =>
    obtain rfl := Except.ok.inj written
    have front :
        ((Layout.write (UInt32.ofNat program.codeLength) ++
            codeOf program.instructions.toList) ++ rest).take 4 =
          Layout.write (UInt32.ofNat program.codeLength) := by
      rw [List.append_assoc]
      exact List.take_left' (LawfulLayout.length_write _)
    rw [front]
    change LittleEndian.decode (LittleEndian.encode 4 _) = _
    rw [UInt32.toNat_ofNat_of_lt' fits]
    exact LittleEndian.decode_encode fits
  next => contradiction

/-! ## Sections and strings -/

/-- Records are written when their number fits its field. -/
theorem writeSection_isOk_iff
    {α : Type}
    [Layout α]
    {part : ProgramSection}
    {records : List α} :
    (∃ stored, writeSection part records = .ok stored) ↔ records.length ≤ 65535 := by
  rw [writeSection]
  split
  next fits => exact iff_of_true ⟨_, rfl⟩ (Nat.le_of_lt_succ fits)
  next tooMany =>
    apply iff_of_false
    · rintro ⟨stored, written⟩
      contradiction
    · exact fun few => tooMany (Nat.lt_succ_of_le few)

/-- A string is written when each character has a byte and their number fits its field. -/
theorem writeString_isOk_iff
    {entry : UInt16 × String} :
    (∃ record, writeString entry = .ok record) ↔
      (∀ character ∈ entry.2.toList, character.toNat ≤ 0xFF) ∧ entry.2.length ≤ 65535 := by
  simp only [writeString_eq_ok_iff, ← SingleByteText.exists_decode_eq_iff]
  constructor
  · rintro ⟨_, text, spelled, fits, -⟩
    refine ⟨⟨text, spelled⟩, ?_⟩
    rw [← spelled, SingleByteText.length_decode]
    exact Nat.le_of_lt_succ fits
  · rintro ⟨⟨text, spelled⟩, short⟩
    rw [← spelled, SingleByteText.length_decode] at short
    exact ⟨_, text, spelled, Nat.lt_succ_of_le short, rfl⟩

/-- Strings are written when their number fits its field and each of them is written. -/
theorem writeStrings_isOk_iff
    {strings : SortedMap UInt16 String} :
    (∃ stored, writeStrings strings = .ok stored) ↔
      strings.size ≤ 65535 ∧ ∀ entry ∈ strings.toList, ∃ record, writeString entry = .ok record := by
  rw [writeStrings]
  split
  next fits =>
    rw [and_iff_right (Nat.le_of_lt_succ fits)]
    constructor
    · rintro ⟨stored, written⟩ entry member
      obtain ⟨records, recordsWritten, -⟩ := Except.bind_eq_ok_iff.mp written
      exact Except.exists_of_mapM recordsWritten member
    · intro writable
      obtain ⟨records, recordsWritten⟩ := Except.exists_mapM_eq_ok writable
      exact ⟨_, Except.bind_eq_ok_iff.mpr ⟨records, recordsWritten, rfl⟩⟩
  next tooMany =>
    apply iff_of_false
    · rintro ⟨stored, written⟩
      contradiction
    · exact fun storable => tooMany (Nat.lt_succ_of_le storable.1)

/-! ## Programs -/

/-- A program is written when each of its parts is. -/
theorem encode_isOk_iff_parts (program : Program) :
    (∃ bytes, program.encode = .ok bytes) ↔
      ∀ part ∈ program.storedParts, ∃ stored, part = .ok stored := by
  rw [encode_eq_storedParts]
  constructor
  · rintro ⟨bytes, encoded⟩ part member
    obtain ⟨stored, partsWritten, -⟩ := Except.map_eq_ok_iff.mp encoded
    exact Except.exists_of_mapM partsWritten member
  · intro partsWritten
    have eachWritten : ∀ part ∈ program.storedParts, ∃ stored, id part = .ok stored :=
      partsWritten
    obtain ⟨stored, written⟩ := Except.exists_mapM_eq_ok eachWritten
    exact ⟨stored.flatten, Except.map_eq_ok_iff.mpr ⟨stored, written, rfl⟩⟩

/-- A program has a stored form when it is storable, up to the limit of its code length. -/
theorem encode_isOk_iff (program : Program) :
    (∃ bytes, program.encode = .ok bytes) ↔
      program.Storable ∧ program.codeLength < UInt32.size := by
  simp only [encode_isOk_iff_parts, storedParts, List.forall_mem_cons, writeCode_isOk_iff,
    writeSection_isOk_iff, writeStrings_isOk_iff, writeString_isOk_iff]
  constructor
  · rintro ⟨⟨keys, short⟩, rects, points, walkLinks, areas, backgrounds, hitboxes, scripts,
      conversations, characters, ⟨strings, texts⟩, -⟩
    exact ⟨⟨keys, rects, points, walkLinks, areas, backgrounds, hitboxes, scripts,
      conversations, characters, strings, texts⟩, short⟩
  · rintro ⟨⟨keys, rects, points, walkLinks, areas, backgrounds, hitboxes, scripts,
      conversations, characters, strings, texts⟩, short⟩
    exact ⟨⟨keys, short⟩, rects, points, walkLinks, areas, backgrounds, hitboxes, scripts,
      conversations, characters, ⟨strings, texts⟩,
      fun _ impossible => absurd impossible List.not_mem_nil⟩

/-- A stored program starts with its code length. -/
theorem decode_take_of_encode
    {program : Program}
    {bytes : List UInt8}
    (encoded : program.encode = .ok bytes) :
    LittleEndian.decode (bytes.take 4) = program.codeLength := by
  rw [encode_eq_storedParts] at encoded
  obtain ⟨stored, partsWritten, rfl⟩ := Except.map_eq_ok_iff.mp encoded
  obtain ⟨code, others, rfl, codeWritten, -⟩ :=
    List.map_eq_cons_iff.mp (Except.mapM_eq_ok_iff.mp partsWritten).symm
  rw [List.flatten_cons]
  exact decode_take_of_writeCode codeWritten.symm _

/--
A program has a stored form exactly when it is storable and its code is not too
long for a length field.  The stored form starts with the code length.  The
registries that read the program back from it are those that hold the opcode of
each of its instructions; every other registry refuses it.
-/
theorem encode_iff_storable (program : Program) :
    ((∃ bytes, program.encode = .ok bytes) ↔
      program.Storable ∧ program.codeLength < UInt32.size) ∧
    ∀ bytes, program.encode = .ok bytes →
      LittleEndian.decode (bytes.take 4) = program.codeLength ∧
      ∀ registry : OpcodeRegistry,
        (decode registry bytes = .ok program ↔
          ∀ entry ∈ program.instructions.toList,
            registry.registers entry.2.opcode = true) ∧
        (decode registry bytes ≠ .ok program →
          ∃ fault, decode registry bytes = .error fault) := by
  refine ⟨program.encode_isOk_iff, ?_⟩
  intro bytes encoded
  refine ⟨decode_take_of_encode encoded, ?_⟩
  intro registry
  have refused (unreadable : ¬ program.ReadableBy registry) :=
    decode_of_not_readableBy encoded unreadable
  have readableIff :
      decode registry bytes = .ok program ↔ program.ReadableBy registry := by
    refine ⟨?_, decode_of_encode encoded⟩
    intro accepted
    by_contra unreadable
    obtain ⟨fault, failed⟩ := refused unreadable
    rw [failed] at accepted
    contradiction
  exact ⟨readableIff, fun notRead => refused fun readable => notRead (readableIff.mpr readable)⟩

/-- A program that speaks a line and then stops. -/
def spokenProgram : Program :=
  { empty with
    points := [⟨-1, 300⟩]
    strings := SortedMap.ofList [(7, "Ol\u00e9!")]
    instructions := SortedMap.ofList [(0, .say 1 7), (4, .stopScript)] }

/-- The program that speaks a line is stored behind its code length and read back. -/
theorem encode_spokenProgram :
    ∃ bytes,
      spokenProgram.encode = .ok bytes ∧
        LittleEndian.decode (bytes.take 4) = 5 ∧
        decode .standard bytes = .ok spokenProgram ∧
        ∃ fault, decode .empty bytes = .error fault := by
  obtain ⟨bytes, encoded⟩ :=
    Except.exists_of_isOk (show spokenProgram.encode.isOk = true by decide +kernel)
  obtain ⟨front, readers⟩ := (encode_iff_storable spokenProgram).2 bytes encoded
  have registered :
      ∀ entry ∈ spokenProgram.instructions.toList,
        OpcodeRegistry.standard.registers entry.2.opcode = true :=
    fun entry _ => OpcodeRegistry.standard_registers entry.2
  have unregistered :
      ¬ ∀ entry ∈ spokenProgram.instructions.toList,
        OpcodeRegistry.empty.registers entry.2.opcode = true := by
    decide +kernel
  refine ⟨bytes, encoded, ?_, (readers .standard).1.mpr registered, ?_⟩
  · rw [front]
    decide +kernel
  · exact (readers .empty).2 fun accepted => unregistered ((readers .empty).1.mp accepted)

end Program

end AdventureArchive
