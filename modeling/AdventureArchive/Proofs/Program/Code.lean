import AdventureArchive.Program.Code
import AdventureArchive.Proofs.Program.Instruction

namespace AdventureArchive.Program

/-!
# Code sections

Instructions whose keys follow one another without gaps are written as their
bytes.  A registry that holds all their opcodes reads the same keys and
instructions back (`decodeCode_of_encodeCode`), and what any registry reads are
such instructions (`encodeCode_of_decodeCode`).
-/

/-- The code that keyed instructions are written as. -/
def codeOf (entries : List (UInt32 × Instruction)) : List UInt8 :=
  entries.flatMap fun entry => entry.2.encode

/-- The code of an instruction and others is as long as the instruction and their code. -/
theorem length_codeOf_cons (entry : UInt32 × Instruction) (rest : List (UInt32 × Instruction)) :
    (codeOf (entry :: rest)).length = entry.2.size + (codeOf rest).length := by
  rw [codeOf, List.flatMap_cons, List.length_append, Instruction.length_encode, codeOf]

/-- Whether a registry holds the opcodes of all keyed instructions. -/
def RegistersAll
    (registry : OpcodeRegistry)
    (entries : List (UInt32 × Instruction)) : Prop :=
  ∀ entry ∈ entries, registry.registers entry.2.opcode = true

instance
    (registry : OpcodeRegistry)
    (entries : List (UInt32 × Instruction)) :
    Decidable (RegistersAll registry entries) :=
  inferInstanceAs (Decidable (∀ entry ∈ entries, _))

/-- Keys follow one another when the first does and the rest follow it. -/
theorem firstGap?_cons_eq_none_iff
    {expected : Nat}
    {entry : UInt32 × Instruction}
    {rest : List (UInt32 × Instruction)} :
    firstGap? expected (entry :: rest) = none ↔
      entry.1 = UInt32.ofNat expected ∧
        firstGap? (expected + entry.2.size) rest = none := by
  rw [firstGap?]
  split
  next follows => simp [follows]
  next gap => simp [gap]

/-- Code without gaps has ascending keys, as long as offsets fit the keys. -/
theorem ascending_of_firstGap?
    {expected : Nat}
    {entries : List (UInt32 × Instruction)}
    (contiguous : firstGap? expected entries = none)
    (fits : expected + (codeOf entries).length ≤ UInt32.size) :
    (entries.Pairwise fun first second => rank first.1 < rank second.1) ∧
      ∀ entry ∈ entries, expected ≤ rank entry.1 := by
  induction entries generalizing expected with
  | nil => exact ⟨List.Pairwise.nil, by simp⟩
  | cons entry rest inductionHypothesis =>
      obtain ⟨follows, restContiguous⟩ := firstGap?_cons_eq_none_iff.mp contiguous
      have lengths := length_codeOf_cons entry rest
      obtain ⟨restAscending, restAbove⟩ :=
        inductionHypothesis restContiguous (by omega)
      have positive : 0 < entry.2.size := by
        rw [Instruction.size]
        omega
      have key : rank entry.1 = expected := by
        rw [follows]
        exact UInt32.toNat_ofNat_of_lt' (by omega)
      refine ⟨List.pairwise_cons.mpr ⟨?_, restAscending⟩, ?_⟩
      · intro later member
        have := restAbove later member
        omega
      · intro later member
        rcases List.mem_cons.mp member with isFirst | inRest
        · rw [isFirst]
          exact Nat.le_of_eq key.symm
        · have := restAbove later inRest
          omega

section Reading

variable {registry : OpcodeRegistry} {codeLength : UInt32}

/-- A registered instruction at the front of some code is read and keyed. -/
theorem decodeCodeFrom_encode_append
    {instruction : Instruction}
    (registered : registry.registers instruction.opcode = true)
    (offset : Nat)
    (collected : SortedMap UInt32 Instruction)
    (rest : List UInt8) :
    decodeCodeFrom registry codeLength offset collected (instruction.encode ++ rest) =
      decodeCodeFrom registry codeLength (offset + instruction.size)
        (collected.insert (UInt32.ofNat offset) instruction) rest := by
  have taken := OpcodeRegistry.decode_payload registered rest
  rw [Instruction.encode, List.cons_append, decodeCodeFrom]
  split
  next found behind decoded =>
    rw [taken] at decoded
    cases decoded
    rfl
  next decoded =>
    rw [taken] at decoded
    contradiction
  next decoded =>
    rw [taken] at decoded
    contradiction

/-- An instruction whose opcode is not registered ends the reading. -/
theorem decodeCodeFrom_of_not_registers
    {instruction : Instruction}
    (unregistered : registry.registers instruction.opcode = false)
    (offset : Nat)
    (collected : SortedMap UInt32 Instruction)
    (rest : List UInt8) :
    decodeCodeFrom registry codeLength offset collected (instruction.encode ++ rest) =
      .error (.instruction (UInt32.ofNat offset) (.unknownOpcode instruction.opcode)) := by
  have refused :=
    OpcodeRegistry.decode_of_not_registers unregistered (instruction.payload ++ rest)
  rw [Instruction.encode, List.cons_append, decodeCodeFrom]
  split
  next decoded =>
    rw [refused] at decoded
    contradiction
  next decoded =>
    rw [refused] at decoded
    cases decoded
  next decoded =>
    rw [refused] at decoded
    cases decoded
    rfl

/-- Registered instructions at the front of some code are read first. -/
theorem decodeCodeFrom_codeOf_append
    {entries : List (UInt32 × Instruction)}
    {offset : Nat}
    (contiguous : firstGap? offset entries = none)
    (registered : RegistersAll registry entries)
    (collected : SortedMap UInt32 Instruction)
    (rest : List UInt8) :
    decodeCodeFrom registry codeLength offset collected (codeOf entries ++ rest) =
      decodeCodeFrom registry codeLength (offset + (codeOf entries).length)
        (collected.insertAll entries) rest := by
  induction entries generalizing offset collected with
  | nil => rfl
  | cons entry others inductionHypothesis =>
      obtain ⟨follows, othersContiguous⟩ := firstGap?_cons_eq_none_iff.mp contiguous
      obtain ⟨entryRegistered, othersRegistered⟩ := List.forall_mem_cons.mp registered
      rw [codeOf, List.flatMap_cons, List.append_assoc,
        decodeCodeFrom_encode_append entryRegistered, ← follows, List.length_append,
        Instruction.length_encode, ← Nat.add_assoc]
      exact inductionHypothesis othersContiguous othersRegistered _

/-- Code of registered instructions is read into the map it is collected in. -/
theorem decodeCodeFrom_codeOf
    {entries : List (UInt32 × Instruction)}
    {offset : Nat}
    (contiguous : firstGap? offset entries = none)
    (registered : RegistersAll registry entries)
    (collected : SortedMap UInt32 Instruction) :
    decodeCodeFrom registry codeLength offset collected (codeOf entries) =
      .ok (collected.insertAll entries) := by
  rw [← List.append_nil (codeOf entries), decodeCodeFrom_codeOf_append contiguous registered,
    decodeCodeFrom]

/-- Code with an instruction that is not registered is refused. -/
theorem decodeCodeFrom_codeOf_of_not_registersAll
    {entries : List (UInt32 × Instruction)}
    (unregistered : ¬ RegistersAll registry entries)
    (offset : Nat)
    (collected : SortedMap UInt32 Instruction) :
    ∃ fault,
      decodeCodeFrom registry codeLength offset collected (codeOf entries) =
        .error fault := by
  induction entries generalizing offset collected with
  | nil => exact absurd (fun _ impossible => absurd impossible List.not_mem_nil) unregistered
  | cons entry rest inductionHypothesis =>
      rw [codeOf, List.flatMap_cons]
      by_cases entryRegistered : registry.registers entry.2.opcode = true
      · rw [decodeCodeFrom_encode_append entryRegistered]
        apply inductionHypothesis
        intro restRegistered
        exact unregistered (List.forall_mem_cons.mpr ⟨entryRegistered, restRegistered⟩)
      · exact ⟨_, decodeCodeFrom_of_not_registers
          (Bool.eq_false_iff.mpr entryRegistered) offset collected _⟩

/-- What is read from some code are registered instructions that the code is made of. -/
theorem codeOf_of_decodeCodeFrom
    {offset : Nat}
    {collected instructions : SortedMap UInt32 Instruction}
    {bytes : List UInt8}
    (accepted :
      decodeCodeFrom registry codeLength offset collected bytes = .ok instructions) :
    ∃ entries,
      instructions = collected.insertAll entries ∧
        firstGap? offset entries = none ∧
        bytes = codeOf entries ∧
        RegistersAll registry entries := by
  fun_induction decodeCodeFrom registry codeLength offset collected bytes with
  | case1 offset collected =>
      obtain rfl := Except.ok.inj accepted
      exact ⟨[], rfl, rfl, rfl, fun _ impossible => absurd impossible List.not_mem_nil⟩
  | case2 offset collected opcode behindOpcode instruction rest decoded shorter
      inductionHypothesis =>
      obtain ⟨entries, rfl, contiguous, rfl, registered⟩ := inductionHypothesis accepted
      obtain ⟨rfl, payloadShape⟩ := OpcodeRegistry.eq_append_of_decode decoded
      refine ⟨(UInt32.ofNat offset, instruction) :: entries, rfl, ?_, ?_, ?_⟩
      · exact firstGap?_cons_eq_none_iff.mpr ⟨rfl, contiguous⟩
      · rw [payloadShape]
        simp [codeOf, Instruction.encode]
      · exact List.forall_mem_cons.mpr
          ⟨OpcodeRegistry.registers_of_decode decoded, registered⟩
  | case3 => contradiction
  | case4 => contradiction

end Reading

/-- The values of a map written one after the other are the code of its entries. -/
theorem flatMap_encode_values (instructions : SortedMap UInt32 Instruction) :
    instructions.values.flatMap Instruction.encode = codeOf instructions.toList := by
  rw [SortedMap.values, List.flatMap_map, codeOf]

/-- Instructions can be written exactly when their keys follow one another. -/
theorem encodeCode_eq_ok_iff
    {instructions : SortedMap UInt32 Instruction}
    {code : List UInt8} :
    encodeCode instructions = .ok code ↔
      firstGap? 0 instructions.toList = none ∧ codeOf instructions.toList = code := by
  unfold encodeCode
  rw [flatMap_encode_values]
  split
  next gap => simp [gap]
  next contiguous => simp [contiguous]

/-- Written code is read back by a registry that holds all its opcodes. -/
theorem decodeCode_of_encodeCode
    {registry : OpcodeRegistry}
    {instructions : SortedMap UInt32 Instruction}
    {code : List UInt8}
    (encoded : encodeCode instructions = .ok code)
    (registered : RegistersAll registry instructions.toList) :
    decodeCode registry code = .ok instructions := by
  obtain ⟨contiguous, rfl⟩ := encodeCode_eq_ok_iff.mp encoded
  rw [decodeCode, decodeCodeFrom_codeOf contiguous registered, SortedMap.insertAll_toList]

/-- Written code is refused by a registry that lacks one of its opcodes. -/
theorem decodeCode_of_not_registersAll
    {registry : OpcodeRegistry}
    {instructions : SortedMap UInt32 Instruction}
    {code : List UInt8}
    (encoded : encodeCode instructions = .ok code)
    (unregistered : ¬ RegistersAll registry instructions.toList) :
    ∃ fault, decodeCode registry code = .error fault := by
  obtain ⟨-, rfl⟩ := encodeCode_eq_ok_iff.mp encoded
  exact decodeCodeFrom_codeOf_of_not_registersAll unregistered 0 _

/-- Instructions that have been read are written as the code they were read from. -/
theorem encodeCode_of_decodeCode
    {registry : OpcodeRegistry}
    {code : List UInt8}
    {instructions : SortedMap UInt32 Instruction}
    (fits : code.length ≤ UInt32.size)
    (accepted : decodeCode registry code = .ok instructions) :
    encodeCode instructions = .ok code ∧ RegistersAll registry instructions.toList := by
  obtain ⟨entries, rfl, contiguous, rfl, registered⟩ := codeOf_of_decodeCodeFrom accepted
  have ascending := (ascending_of_firstGap? contiguous (by rwa [Nat.zero_add])).1
  have entriesBack : (SortedMap.empty.insertAll entries).toList = entries :=
    SortedMap.toList_ofList_of_ascending ascending
  rw [encodeCode_eq_ok_iff, entriesBack]
  exact ⟨⟨contiguous, rfl⟩, registered⟩

end AdventureArchive.Program
