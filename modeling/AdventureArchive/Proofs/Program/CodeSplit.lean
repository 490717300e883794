import AdventureArchive.Proofs.Program.Storable

namespace AdventureArchive.Program

/-!
# Where code starts its instructions and where it stops being code

Code is accepted exactly when it splits into instructions: an opcode of which
the registry holds a descriptor, the operands that fill the width of the
descriptor, and the next instruction behind them (`Splits`).  The keys are then
where these instructions start.

Other code has one first fault (`FirstFault`): all before it is accepted, and
at it stands an opcode without descriptor, or operands that are cut short by the
end of the code.  This fault is the one that is reported
(`decodeCode_iff_splits`).
-/

/--
Whether code that begins at an offset splits into registered instructions with
all of their operands, together with the offsets where these start.
-/
inductive Splits (registry : OpcodeRegistry) : Nat → List UInt8 → List Nat → Prop where
  | done (offset : Nat) : Splits registry offset [] []
  | instruction
      {offset : Nat}
      {descriptor : Instruction.Descriptor}
      {operands rest : List UInt8}
      {starts : List Nat}
      (held : descriptor ∈ registry.descriptors)
      (complete : operands.length = descriptor.width)
      (behind : Splits registry (offset + 1 + descriptor.width) rest starts) :
      Splits registry offset (descriptor.opcode :: (operands ++ rest)) (offset :: starts)

/-- What can be wrong with the instruction that starts at an offset of some code. -/
inductive FaultAt
    (registry : OpcodeRegistry)
    (code : List UInt8)
    (offset : UInt32) :
    ProgramError → Prop where
  | unknownOpcode
      {opcode : UInt8}
      (found : code[offset.toNat]? = some opcode)
      (missing : ∀ descriptor ∈ registry.descriptors, descriptor.opcode ≠ opcode) :
      FaultAt registry code offset (.instruction offset (.unknownOpcode opcode))
  | cutShort
      {descriptor : Instruction.Descriptor}
      {codeLength : UInt32}
      (held : descriptor ∈ registry.descriptors)
      (found : code[offset.toNat]? = some descriptor.opcode)
      (short : code.length < offset.toNat + 1 + descriptor.width)
      (whole : codeLength.toNat = code.length) :
      FaultAt registry code offset
        (.misalignedStream offset descriptor.name descriptor.width codeLength)

/-- A fault with nothing wrong before it. -/
structure FirstFault
    (registry : OpcodeRegistry)
    (code : List UInt8)
    (offset : UInt32)
    (fault : ProgramError) : Prop where
  inside : offset.toNat < code.length
  boundary : ∃ before, decodeCode registry (code.take offset.toNat) = .ok before
  faulty : FaultAt registry code offset fault

/-- Instructions whose keys are the given starts, from the first byte of their code to its last. -/
structure KeyedBy
    (starts : List Nat)
    (code : List UInt8)
    (instructions : SortedMap UInt32 Instruction) : Prop where
  starts_eq : instructions.toList.map (fun entry => entry.1.toNat) = starts
  follow : KeyedFrom 0 instructions.toList
  ends :
    ∀ last, instructions.toList.getLast? = some last →
      last.1.toNat + 1 + last.2.width = code.length
  encoded : encodeCode instructions = .ok code

/-! ## Splitting -/

section Splitting

variable {registry : OpcodeRegistry} {offset : Nat}

/-- Code that splits is the code of registered instructions, keyed by their starts. -/
theorem Splits.exists_entries
    {code : List UInt8}
    {starts : List Nat}
    (splits : Splits registry offset code starts) :
    ∃ entries,
      codeOf entries = code ∧
        firstGap? offset entries = none ∧
        RegistersAll registry entries ∧
        entries.map Prod.fst = starts.map UInt32.ofNat := by
  induction splits with
  | done offset =>
      exact ⟨[], rfl, rfl, fun _ impossible => absurd impossible List.not_mem_nil, rfl⟩
  | @instruction offset descriptor operands rest starts held complete behind
      inductionHypothesis =>
      obtain ⟨entries, rfl, contiguous, registered, keys⟩ := inductionHypothesis
      obtain ⟨instruction, encoded, sameWidth, instructionRegistered⟩ :=
        OpcodeRegistry.exists_decode_of_held held complete
      refine ⟨(UInt32.ofNat offset, instruction) :: entries, ?_, ?_, ?_, ?_⟩
      · rw [codeOf, List.flatMap_cons, encoded]
        rfl
      · rw [firstGap?_cons_eq_none_iff, Instruction.size, sameWidth, ← Nat.add_assoc]
        exact ⟨rfl, contiguous⟩
      · exact List.forall_mem_cons.mpr ⟨instructionRegistered, registered⟩
      · rw [List.map_cons, keys, List.map_cons]

/-- The code of registered instructions splits. -/
theorem exists_splits_codeOf
    {entries : List (UInt32 × Instruction)}
    (registered : RegistersAll registry entries) :
    ∃ starts, Splits registry offset (codeOf entries) starts := by
  induction entries generalizing offset with
  | nil => exact ⟨[], .done offset⟩
  | cons entry rest inductionHypothesis =>
      obtain ⟨entryRegistered, restRegistered⟩ := List.forall_mem_cons.mp registered
      obtain ⟨descriptor, held, sameOpcode, sameWidth⟩ :=
        OpcodeRegistry.exists_held_of_registers entryRegistered
      obtain ⟨starts, behind⟩ :=
        @inductionHypothesis (offset + 1 + descriptor.width) restRegistered
      refine ⟨offset :: starts, ?_⟩
      rw [codeOf, List.flatMap_cons, Instruction.encode, ← sameOpcode]
      refine .instruction held ?_ behind
      rw [Instruction.length_payload, sameWidth]

/-- Instructions start inside of their code. -/
theorem Splits.start_lt
    {code : List UInt8}
    {starts : List Nat}
    (splits : Splits registry offset code starts) :
    ∀ start ∈ starts, start < offset + code.length := by
  induction splits with
  | done offset => exact fun _ impossible => absurd impossible List.not_mem_nil
  | instruction held complete behind inductionHypothesis =>
      rw [List.length_cons, List.length_append, complete, List.forall_mem_cons]
      refine ⟨by omega, fun start member => ?_⟩
      have inside := inductionHypothesis start member
      omega

/-- In code that is short enough, starts are not changed by being stored as 32-bit offsets. -/
theorem Splits.map_toNat_starts
    {code : List UInt8}
    {starts : List Nat}
    (splits : Splits registry 0 code starts)
    (short : code.length < UInt32.size) :
    (starts.map UInt32.ofNat).map UInt32.toNat = starts := by
  have same (start) (member : start ∈ starts) : (UInt32.ofNat start).toNat = start := by
    have inside := splits.start_lt start member
    exact UInt32.toNat_ofNat_of_lt' (by omega)
  rw [List.map_map]
  exact (List.map_congr_left same).trans (List.map_id starts)

/-- Behind the last of some instructions their code ends. -/
theorem end_of_keyedFrom
    {entries : List (UInt32 × Instruction)}
    (keyed : KeyedFrom offset entries)
    {last : UInt32 × Instruction}
    (isLast : entries.getLast? = some last) :
    last.1.toNat + 1 + last.2.width = offset + (codeOf entries).length := by
  obtain ⟨before, rfl⟩ := List.getLast?_eq_some_iff.mp isLast
  rw [← keyed.behind.2]
  rfl

end Splitting

/-- Code is accepted exactly when it splits. -/
theorem decodeCode_isOk_iff_splits
    {registry : OpcodeRegistry}
    {code : List UInt8} :
    (∃ instructions, decodeCode registry code = .ok instructions) ↔
      ∃ starts, Splits registry 0 code starts := by
  constructor
  · rintro ⟨instructions, accepted⟩
    obtain ⟨entries, -, -, rfl, registered⟩ := codeOf_of_decodeCodeFrom accepted
    exact exists_splits_codeOf registered
  · rintro ⟨starts, splits⟩
    obtain ⟨entries, rfl, contiguous, registered, -⟩ := splits.exists_entries
    exact ⟨_, decodeCodeFrom_codeOf contiguous registered _⟩

/-- The instructions of accepted code are keyed by where it splits. -/
theorem keyedBy_of_decodeCode
    {registry : OpcodeRegistry}
    {code : List UInt8}
    {instructions : SortedMap UInt32 Instruction}
    {starts : List Nat}
    (short : code.length < UInt32.size)
    (accepted : decodeCode registry code = .ok instructions)
    (splits : Splits registry 0 code starts) :
    KeyedBy starts code instructions := by
  obtain ⟨encoded, -⟩ := encodeCode_of_decodeCode (Nat.le_of_lt short) accepted
  obtain ⟨contiguous, whole⟩ := encodeCode_eq_ok_iff.mp encoded
  have keyed : KeyedFrom 0 instructions.toList :=
    (firstGap?_eq_none_iff (by rwa [whole, Nat.zero_add])).mp contiguous
  refine ⟨?_, keyed, ?_, encoded⟩
  · obtain ⟨entries, rfl, entriesContiguous, registered, keys⟩ := splits.exists_entries
    obtain rfl := Except.ok.inj
      (accepted.symm.trans (decodeCodeFrom_codeOf entriesContiguous registered .empty))
    have ascending :=
      (ascending_of_firstGap? entriesContiguous
        (by rw [Nat.zero_add]; exact Nat.le_of_lt short)).1
    rw [show (SortedMap.empty.insertAll entries).toList = entries from
      SortedMap.toList_ofList_of_ascending ascending]
    calc entries.map (fun entry => entry.1.toNat)
        = (entries.map Prod.fst).map UInt32.toNat := by rw [List.map_map]; rfl
      _ = (starts.map UInt32.ofNat).map UInt32.toNat := by rw [keys]
      _ = starts := splits.map_toNat_starts short
  · intro last isLast
    rw [end_of_keyedFrom keyed isLast, whole, Nat.zero_add]

/-! ## Faults -/

/-- A fault of an instruction, told of the code that has it. -/
def faultOf (offset codeLength : UInt32) : InstructionError → ProgramError
  | .unknownOpcode opcode => .instruction offset (.unknownOpcode opcode)
  | .truncated mnemonic needed _ => .misalignedStream offset mnemonic needed codeLength

/-- An instruction that cannot be read ends the reading. -/
theorem decodeCodeFrom_cons_of_error
    {registry : OpcodeRegistry}
    {opcode : UInt8}
    {behind : List UInt8}
    {cause : InstructionError}
    (refused : registry.decode opcode behind = .error cause)
    (codeLength : UInt32)
    (offset : Nat)
    (collected : SortedMap UInt32 Instruction) :
    decodeCodeFrom registry codeLength offset collected (opcode :: behind) =
      .error (faultOf (UInt32.ofNat offset) codeLength cause) := by
  rw [decodeCodeFrom]
  split
  all_goals
    next decoded =>
      rw [refused] at decoded
      cases decoded
      try rfl

/-- Code that is refused has registered instructions in front of one that cannot be read. -/
theorem exists_cause_of_decodeCodeFrom
    {registry : OpcodeRegistry}
    {codeLength : UInt32}
    {offset : Nat}
    {collected : SortedMap UInt32 Instruction}
    {bytes : List UInt8}
    {fault : ProgramError}
    (refused : decodeCodeFrom registry codeLength offset collected bytes = .error fault) :
    ∃ entries opcode behind cause,
      bytes = codeOf entries ++ opcode :: behind ∧
        RegistersAll registry entries ∧
        registry.decode opcode behind = .error cause ∧
        fault = faultOf (UInt32.ofNat (offset + (codeOf entries).length)) codeLength cause := by
  fun_induction decodeCodeFrom registry codeLength offset collected bytes with
  | case1 => contradiction
  | case2 offset collected opcode behindOpcode instruction rest decoded shorter
      inductionHypothesis =>
      obtain ⟨entries, unread, behind, cause, rfl, registered, notDecoded, rfl⟩ :=
        inductionHypothesis refused
      obtain ⟨rfl, rfl⟩ := OpcodeRegistry.eq_append_of_decode decoded
      refine ⟨(UInt32.ofNat offset, instruction) :: entries, unread, behind, cause,
        ?_, ?_, notDecoded, ?_⟩
      · simp [codeOf, Instruction.encode]
      · exact List.forall_mem_cons.mpr
          ⟨OpcodeRegistry.registers_of_decode decoded, registered⟩
      · simp [codeOf, Nat.add_assoc]
  | case3 offset collected opcode behind mnemonic needed available decoded =>
      obtain rfl := Except.error.inj refused
      exact ⟨[], opcode, behind, _, rfl, fun _ impossible => absurd impossible List.not_mem_nil,
        decoded, rfl⟩
  | case4 offset collected opcode behind unknown decoded =>
      obtain rfl := Except.error.inj refused
      exact ⟨[], opcode, behind, _, rfl, fun _ impossible => absurd impossible List.not_mem_nil,
        decoded, rfl⟩

/-- The faults at an offset are those of the instruction there. -/
theorem faultAt_iff
    {registry : OpcodeRegistry}
    {front behind : List UInt8}
    {opcode : UInt8}
    {offset codeLength : UInt32}
    {fault : ProgramError}
    (position : offset.toNat = front.length)
    (whole : codeLength.toNat = (front ++ opcode :: behind).length) :
    FaultAt registry (front ++ opcode :: behind) offset fault ↔
      ∃ cause, registry.decode opcode behind = .error cause ∧
        fault = faultOf offset codeLength cause := by
  have there : (front ++ opcode :: behind)[offset.toNat]? = some opcode := by
    rw [position, List.getElem?_append_right (Nat.le_refl _), Nat.sub_self]
    rfl
  simp only [OpcodeRegistry.decode_eq_error_iff]
  constructor
  · rintro (⟨found, missing⟩ | ⟨held, found, short, otherWhole⟩)
    · obtain rfl := Option.some.inj (there.symm.trans found)
      exact ⟨_, .inl ⟨missing, rfl⟩, rfl⟩
    · obtain rfl := Option.some.inj (there.symm.trans found)
      obtain rfl := UInt32.toNat_inj.mp (whole.trans otherWhole.symm)
      rw [List.length_append, List.length_cons] at short
      exact ⟨_, .inr ⟨_, held, rfl, by omega, rfl⟩, rfl⟩
  · rintro ⟨cause, ⟨missing, rfl⟩ | ⟨descriptor, held, rfl, short, rfl⟩, rfl⟩
    · exact .unknownOpcode there missing
    · refine .cutShort held there ?_ whole
      rw [List.length_append, List.length_cons]
      omega

/-- A first fault is the one that is reported. -/
theorem decodeCode_of_firstFault
    {registry : OpcodeRegistry}
    {code : List UInt8}
    {offset : UInt32}
    {fault : ProgramError}
    (short : code.length < UInt32.size)
    (first : FirstFault registry code offset fault) :
    decodeCode registry code = .error fault := by
  obtain ⟨inside, ⟨before, accepted⟩, faulty⟩ := first
  obtain ⟨entries, -, contiguous, front, registered⟩ := codeOf_of_decodeCodeFrom accepted
  have position : offset.toNat = (codeOf entries).length := by
    rw [← front, List.length_take, Nat.min_eq_left (Nat.le_of_lt inside)]
  have parts :
      code = codeOf entries ++ code[offset.toNat] :: code.drop (offset.toNat + 1) := by
    rw [← front, ← List.drop_eq_getElem_cons inside, List.take_append_drop]
  rw [parts] at faulty short ⊢
  obtain ⟨cause, refused, rfl⟩ :=
    (faultAt_iff position (UInt32.toNat_ofNat_of_lt' short)).mp faulty
  rw [decodeCode, decodeCodeFrom_codeOf_append contiguous registered,
    decodeCodeFrom_cons_of_error refused, Nat.zero_add, ← position, UInt32.ofNat_toNat]

/-- Code that is refused has a first fault. -/
theorem exists_firstFault_of_decodeCode
    {registry : OpcodeRegistry}
    {code : List UInt8}
    {fault : ProgramError}
    (short : code.length < UInt32.size)
    (refused : decodeCode registry code = .error fault) :
    ∃ offset, FirstFault registry code offset fault := by
  obtain ⟨entries, opcode, behind, cause, rfl, registered, notDecoded, rfl⟩ :=
    exists_cause_of_decodeCodeFrom refused
  rw [Nat.zero_add]
  have inside : (codeOf entries).length < (codeOf entries ++ opcode :: behind).length := by
    simp
  have position : (UInt32.ofNat (codeOf entries).length).toNat = (codeOf entries).length :=
    UInt32.toNat_ofNat_of_lt' (Nat.lt_trans inside short)
  refine ⟨UInt32.ofNat (codeOf entries).length, ?_, ?_, ?_⟩
  · rwa [position]
  · rw [position, List.take_left, decodeCode_isOk_iff_splits]
    exact exists_splits_codeOf registered
  · rw [faultAt_iff position (UInt32.toNat_ofNat_of_lt' short)]
    exact ⟨cause, notDecoded, rfl⟩

/-- Each fault tells where it is. -/
theorem FaultAt.offset_eq
    {registry : OpcodeRegistry}
    {code : List UInt8}
    {offset other : UInt32}
    {fault : ProgramError}
    (faulty : FaultAt registry code offset fault)
    (otherFaulty : FaultAt registry code other fault) :
    other = offset := by
  generalize same : fault = reported at otherFaulty
  cases faulty with
  | unknownOpcode =>
      cases otherFaulty with
      | unknownOpcode =>
          injection same with sameOffset
          exact sameOffset.symm
      | cutShort => contradiction
  | cutShort =>
      cases otherFaulty with
      | unknownOpcode => contradiction
      | cutShort =>
          injection same with sameOffset
          exact sameOffset.symm

/--
Code that is short enough for its offsets is accepted exactly when it splits into
registered instructions with all of their operands.  The accepted instructions
are keyed by where they start, and are written as the code again.  Other code has
one first fault, and this is the one that is reported.
-/
theorem decodeCode_iff_splits
    {registry : OpcodeRegistry}
    {code : List UInt8}
    (short : code.length < UInt32.size) :
    ((∃ instructions, decodeCode registry code = .ok instructions) ↔
      ∃ starts, Splits registry 0 code starts) ∧
    (∀ instructions starts, decodeCode registry code = .ok instructions →
      Splits registry 0 code starts → KeyedBy starts code instructions) ∧
    ((¬ ∃ starts, Splits registry 0 code starts) →
      ∃ offset fault,
        FirstFault registry code offset fault ∧
          decodeCode registry code = .error fault ∧
          ∀ other otherFault, FirstFault registry code other otherFault →
            other = offset ∧ otherFault = fault) := by
  refine ⟨decodeCode_isOk_iff_splits, ?_, ?_⟩
  · exact fun instructions starts accepted splits => keyedBy_of_decodeCode short accepted splits
  · intro unsplit
    match decoded : decodeCode registry code with
    | .ok instructions => exact absurd (decodeCode_isOk_iff_splits.mp ⟨_, decoded⟩) unsplit
    | .error fault =>
        obtain ⟨offset, first⟩ := exists_firstFault_of_decodeCode short decoded
        refine ⟨offset, fault, first, rfl, ?_⟩
        intro other otherFault otherFirst
        have reported := decodeCode_of_firstFault short otherFirst
        obtain rfl := Except.error.inj (decoded.symm.trans reported)
        exact ⟨first.faulty.offset_eq otherFirst.faulty, rfl⟩

/-- An instruction without operands, and one whose second operand byte is missing. -/
def cutShortCode : List UInt8 :=
  [0x00, 0x07, 0x34]

/-- Code with a missing byte does not split; its first fault is the instruction that misses it. -/
theorem decodeCode_cutShortCode :
    cutShortCode.length < UInt32.size ∧
      (¬ ∃ starts, Splits .standard 0 cutShortCode starts) ∧
      FirstFault .standard cutShortCode 1 (.misalignedStream 1 "PushWord" 2 3) ∧
      decodeCode .standard cutShortCode = .error (.misalignedStream 1 "PushWord" 2 3) := by
  have short : cutShortCode.length < UInt32.size := by decide
  obtain ⟨accepts, -, refuses⟩ := @decodeCode_iff_splits .standard _ short
  have unsplit : ¬ ∃ starts, Splits .standard 0 cutShortCode starts := by
    rw [← accepts]
    rintro ⟨instructions, accepted⟩
    have refused : (decodeCode .standard cutShortCode).isOk = false := by decide +kernel
    rw [accepted] at refused
    contradiction
  have held :
      (⟨"PushWord", 0x07, 2⟩ : Instruction.Descriptor) ∈ OpcodeRegistry.standard.descriptors := by
    decide +kernel
  have first : FirstFault .standard cutShortCode 1 (.misalignedStream 1 "PushWord" 2 3) :=
    ⟨by decide, Except.exists_of_isOk (by decide +kernel), .cutShort held rfl (by decide) rfl⟩
  obtain ⟨offset, fault, -, reported, unique⟩ := refuses unsplit
  obtain ⟨-, rfl⟩ := unique _ _ first
  exact ⟨short, unsplit, first, reported⟩

end AdventureArchive.Program
