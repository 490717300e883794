import AdventureArchive.Proofs.InPlace.Program

namespace AdventureArchive.InPlace

/-!
# One instruction at a cursor

The operands of an instruction are read field by field, and each field moves the
cursor on.  A field that is cut short would leave the cursor elsewhere, but it is
never come to: the width that the descriptor of the opcode gives is checked before
the first field is read, and the fields of every form are together just as wide
(`readBy_of_mem_forms`).  So reading either fails where it stands or moves on by
the whole width (`instructionAt_readInstruction`), and comes to what reading the
operands in one go comes to (`decodeInstruction_eq_result`).
-/

theorem Cursor.advance_advance
    (cursor : Cursor)
    (first second : Nat) :
    (cursor.advance first).advance second = cursor.advance (first + second) :=
  congrArg (Cursor.mk cursor.bytes) (Nat.add_assoc _ _ _)

/-- Steps that move a cursor or fail; the cursor stays where they have left it. -/
abbrev Reading (ε : Type) := ExceptT ε (StateM Cursor)

/-- Why the operands behind an opcode are not read. -/
inductive OperandFault where
  | endOfBytes
  | noLayout (opcode : UInt8)
  deriving Repr, DecidableEq

namespace Reading

variable {α β ε : Type}

/-- The outcome of a reading, and the cursor it leaves behind. -/
def result (reading : Reading ε α) (cursor : Cursor) : Except ε α × Cursor :=
  reading.run.run cursor

/-- Goes on with what has been looked up, if it is there. -/
def check (found : Except ε α) : Reading ε α :=
  liftExcept found

/-- Names the faults of a reading differently. -/
def mapError {δ : Type} (explain : ε → δ) (reading : Reading ε α) : Reading δ α :=
  reading.adapt explain

/-- Reads a field; one that is cut short takes the cursor to the end. -/
def field [Layout α] : Reading OperandFault α :=
  ExceptT.mk fun cursor =>
    match cursor.read? α with
    | some (value, behind) => (.ok value, behind)
    | none => (.error .endOfBytes, { cursor with position := cursor.bytes.length })

/-- What comes second goes on where the first has left the cursor. -/
theorem result_bind
    (first : Reading ε α)
    (next : α → Reading ε β)
    (cursor : Cursor) :
    (first >>= next).result cursor =
      match first.result cursor with
      | (.ok value, behind) => (next value).result behind
      | (.error fault, behind) => (.error fault, behind) := by
  simp only [result, ExceptT.run_bind, StateT.run_bind]
  rcases first.run.run cursor with ⟨_ | _, behind⟩ <;> rfl

/-- What is decided by the cursor goes on from it. -/
theorem result_get_bind
    (next : Cursor → Reading ε α)
    (cursor : Cursor) :
    (get >>= next).result cursor = (next cursor).result cursor :=
  rfl

/-- What has succeeded succeeds however its faults are named. -/
theorem result_mapError_of_ok
    {δ : Type}
    (explain : ε → δ)
    {reading : Reading ε α}
    {cursor behind : Cursor}
    {value : α}
    (succeeds : reading.result cursor = (.ok value, behind)) :
    (reading.mapError explain).result cursor = (.ok value, behind) := by
  have mapped :
      (reading.mapError explain).result cursor =
        ((reading.result cursor).1.mapError explain, (reading.result cursor).2) :=
    rfl
  rw [mapped, succeeds]
  rfl

/--
Whether a reading that there is room for finds what is read from the bytes left, and
moves past it.
-/
def Finds
    (reading : Reading ε α)
    (width : Nat)
    (read : List UInt8 → Option (α × List UInt8)) :
    Prop :=
  ∀ cursor : Cursor,
    width ≤ cursor.remaining →
      ∃ value,
        read cursor.rest = some (value, (cursor.advance width).rest) ∧
          reading.result cursor = (.ok value, cursor.advance width)

theorem finds_pure (value : α) :
    (pure value : Reading ε α).Finds 0 fun bytes => some (value, bytes) :=
  fun _ _ => ⟨value, rfl, rfl⟩

theorem finds_field [Layout α] [LawfulLayout α] :
    field.Finds (Layout.width α) (Layout.read (α := α)) := by
  intro cursor enough
  match found : (Layout.read cursor.rest : Option (α × List UInt8)) with
  | none =>
      have short := LawfulLayout.length_lt_of_read_eq_none found
      rw [Cursor.length_rest] at short
      exact absurd short (Nat.not_lt_of_le enough)
  | some (value, behind) =>
      obtain ⟨next, readHere, rfl, rfl⟩ := Cursor.read?_of_read cursor found
      refine ⟨value, rfl, ?_⟩
      simp only [result, field, ExceptT.run_mk, StateT.run, readHere]

namespace Finds

theorem map
    {reading : Reading ε α}
    {width : Nat}
    {read : List UInt8 → Option (α × List UInt8)}
    (finds : reading.Finds width read)
    (make : α → β) :
    (make <$> reading).Finds width fun bytes =>
      (read bytes).map fun found => (make found.1, found.2) := by
  intro cursor enough
  obtain ⟨value, found, moved⟩ := finds cursor enough
  refine ⟨make value, ?_, ?_⟩
  · simp only [found, Option.map_some]
  · rw [map_eq_pure_bind, result_bind, moved]
    rfl

/-- Two fields are found one behind the other, as a pair is read. -/
theorem pair
    [Layout α]
    [Layout β]
    {first : Reading ε α}
    {second : Reading ε β}
    (firstFinds : first.Finds (Layout.width α) Layout.read)
    (secondFinds : second.Finds (Layout.width β) Layout.read) :
    (first >>= fun value => (value, ·) <$> second).Finds
      (Layout.width (α × β)) Layout.read := by
  intro cursor enough
  have room : Layout.width α + Layout.width β ≤ cursor.remaining := enough
  obtain ⟨value, found, moved⟩ := firstFinds cursor (by omega)
  have behindRoom : Layout.width β ≤ (cursor.advance (Layout.width α)).remaining := by
    simp only [Cursor.remaining, Cursor.advance] at room ⊢
    omega
  obtain ⟨next, nextFound, nextMoved⟩ := secondFinds _ behindRoom
  rw [Cursor.advance_advance] at nextFound nextMoved
  refine ⟨(value, next), ?_, ?_⟩
  · simp only [Layout.read, found, nextFound]
    rfl
  · rw [result_bind, moved]
    dsimp only
    rw [map_eq_pure_bind, result_bind, nextMoved]
    rfl

end Finds

end Reading

open Reading (field)

/-- Reads the operands of an opcode in the order they are stored. -/
def readPayload : UInt8 → Reading OperandFault Instruction
  | 0x00 => return .noop
  | 0x01 => return .stopScript
  | 0x02 => .jump <$> field
  | 0x03 => .jumpIfZero <$> field
  | 0x04 => .jumpIfNotZero <$> field
  | 0x05 => .call <$> field
  | 0x06 => .pushByte <$> field
  | 0x07 => .pushWord <$> field
  | 0x08 => .pushLong <$> field
  | 0x09 => .pushVar <$> field
  | 0x0A => .popVar <$> field
  | 0x0B => return .dup
  | 0x0C => return .discard
  | 0x0D => return .add
  | 0x0E => return .sub
  | 0x0F => return .mul
  | 0x10 => return .div
  | 0x11 => return .mod
  | 0x12 => return .neg
  | 0x13 => return .and
  | 0x14 => return .or
  | 0x15 => return .not
  | 0x16 => return .equal
  | 0x17 => return .notEqual
  | 0x18 => return .less
  | 0x19 => return .greater
  | 0x1A => return .lessEqual
  | 0x1B => return .greaterEqual
  | 0x20 => .pushFlag <$> field
  | 0x21 => .setFlag <$> field
  | 0x22 => .clearFlag <$> field
  | 0x30 => .say <$> field <*> field
  | 0x31 => .walkTo <$> field
  | 0x32 => .playSequence <$> field <*> field
  | 0x33 => .playSound <$> field
  | 0x34 => .changeRoom <$> field <*> field
  | 0x35 => .giveItem <$> field
  | 0x36 => .takeItem <$> field
  | 0x37 => .hasItem <$> field
  | 0x38 => .startConversation <$> field
  | 0x39 => .addChoice <$> field <*> field
  | 0x3A => .enableHitbox <$> field
  | 0x3B => .disableHitbox <$> field
  | 0x3C => .wait <$> field
  | 0x3D => .setCharacterScript <$> field <*> field
  | 0x3E => .random <$> field
  | 0x3F => .fadePalette <$> field <*> field
  | 0x40 => .setBackground <$> field
  | other => throw (.noLayout other)

/--
Reads the operands that a descriptor gives the width of.  They have to be all there
before any of them is read.
-/
def readDescribed (descriptor : Instruction.Descriptor) :
    Reading InstructionError Instruction := do
  let available := (← get).remaining
  let truncated := InstructionError.truncated descriptor.name descriptor.width available
  if available < descriptor.width then
    throw truncated
  else
    (readPayload descriptor.opcode).mapError fun _ => truncated

/-- Reads the operands behind an opcode. -/
def readInstruction (registry : OpcodeRegistry) (opcode : UInt8) :
    Reading InstructionError Instruction := do
  let descriptor ← Reading.check (registry.lookup opcode)
  readDescribed descriptor

/-! ## Fields of a form -/

open Instruction (Form forms)

/-- Whether a reading finds what a form reads. -/
def ReadBy (reading : Reading OperandFault Instruction) (form : Form) : Prop :=
  reading.Finds form.width form.read

theorem readBy_fixed
    (opcode : UInt8)
    (name : String)
    (instruction : Instruction) :
    ReadBy (return instruction) (.fixed opcode name instruction) :=
  Reading.finds_pure instruction

theorem readBy_one
    {α : Type}
    [Layout α]
    [LawfulLayout α]
    (opcode : UInt8)
    (name : String)
    (make : α → Instruction) :
    ReadBy (make <$> field) (.one opcode name make) :=
  Reading.finds_field.map make

theorem readBy_two
    {α β : Type}
    [Layout α]
    [LawfulLayout α]
    [Layout β]
    [LawfulLayout β]
    (opcode : UInt8)
    (name : String)
    (make : α → β → Instruction) :
    ReadBy (make <$> field <*> field) (.two opcode name make) := by
  have asPair :
      make <$> field <*> field =
        (fun operands : α × β => make operands.1 operands.2) <$>
          ((field : Reading _ α) >>= fun value => (value, ·) <$> field) := by
    simp only [seq_eq_bind_map, map_eq_pure_bind, bind_assoc, pure_bind]
  rw [asPair]
  exact (Reading.finds_field.pair Reading.finds_field).map _

/-- The fields that are read for an opcode are those of its form. -/
theorem readBy_of_mem_forms
    {form : Form}
    (member : form ∈ forms) :
    ReadBy (readPayload form.opcode) form := by
  have all : ∀ form ∈ forms, ReadBy (readPayload form.opcode) form := by
    simp only [forms, List.forall_mem_cons]
    repeat' apply And.intro
    all_goals first
      | exact readBy_fixed _ _ _
      | exact readBy_one _ _ _
      | exact readBy_two _ _ _
      | exact fun _ impossible => absurd impossible List.not_mem_nil
  exact all form member

/-! ## Operands behind an opcode -/

open Instruction (Descriptor readOperands)

/-- What can come of reading the operands of an opcode at a cursor. -/
inductive InstructionAt (registry : OpcodeRegistry) (opcode : UInt8) (cursor : Cursor) :
    Except InstructionError Instruction × Cursor → Prop where
  | unknown
      (missing : ∀ descriptor ∈ registry.descriptors, descriptor.opcode ≠ opcode) :
      InstructionAt registry opcode cursor (.error (.unknownOpcode opcode), cursor)
  | truncated
      {descriptor : Descriptor}
      (looked : registry.lookup opcode = .ok descriptor)
      (short : cursor.remaining < descriptor.width) :
      InstructionAt registry opcode cursor
        (.error (.truncated descriptor.name descriptor.width cursor.remaining), cursor)
  | read
      {descriptor : Descriptor}
      {instruction : Instruction}
      (looked : registry.lookup opcode = .ok descriptor)
      (enough : descriptor.width ≤ cursor.remaining)
      (found :
        readOperands opcode cursor.rest =
          some (instruction, (cursor.advance descriptor.width).rest)) :
      InstructionAt registry opcode cursor
        (.ok instruction, cursor.advance descriptor.width)

/-- The fields that are read for a descriptor find the operands of its opcode. -/
theorem finds_readPayload
    {descriptor : Descriptor}
    (known : descriptor ∈ Instruction.descriptors) :
    (readPayload descriptor.opcode).Finds descriptor.width
      (readOperands descriptor.opcode) := by
  obtain ⟨form, member, rfl, read⟩ := Instruction.exists_form_of_mem_descriptors known
  rw [funext read]
  exact readBy_of_mem_forms member

/-- Without room for all of them the first operands would move the cursor on. -/
example :
    (readPayload 0x34).result ⟨[2, 1], 0⟩ = (.error .endOfBytes, ⟨[2, 1], 2⟩) :=
  rfl

/-- Operands are read or refused as a whole. -/
theorem result_readDescribed (descriptor : Descriptor) (cursor : Cursor) :
    (readDescribed descriptor).result cursor =
      if cursor.remaining < descriptor.width then
        (.error (.truncated descriptor.name descriptor.width cursor.remaining), cursor)
      else
        ((readPayload descriptor.opcode).mapError fun _ =>
          .truncated descriptor.name descriptor.width cursor.remaining).result cursor := by
  rw [readDescribed, Reading.result_get_bind]
  dsimp only
  split
  next => rfl
  next => rfl

/-- Reading an instruction does one of the things that it can do. -/
theorem instructionAt_readInstruction
    (registry : OpcodeRegistry)
    (opcode : UInt8)
    (cursor : Cursor) :
    InstructionAt registry opcode cursor ((readInstruction registry opcode).result cursor) := by
  cases looked : registry.lookup opcode with
  | error cause =>
      obtain ⟨missing, rfl⟩ := OpcodeRegistry.lookup_eq_error_iff.mp looked
      have refused :
          (readInstruction registry opcode).result cursor =
            (.error (.unknownOpcode opcode), cursor) := by
        rw [readInstruction, looked]
        rfl
      rw [refused]
      exact .unknown missing
  | ok descriptor =>
      obtain ⟨known, rfl⟩ := OpcodeRegistry.descriptor_of_lookup looked
      have described :
          (readInstruction registry descriptor.opcode).result cursor =
            (readDescribed descriptor).result cursor := by
        rw [readInstruction, looked]
        rfl
      rw [described, result_readDescribed]
      split
      next short => exact .truncated looked short
      next notShort =>
        have enough := Nat.le_of_not_lt notShort
        obtain ⟨instruction, found, moved⟩ := finds_readPayload known cursor enough
        rw [Reading.result_mapError_of_ok _ moved]
        exact .read looked enough found

variable {registry : OpcodeRegistry} {cursor : Cursor}

/-- A held descriptor is the one that its opcode is looked up to. -/
theorem eq_of_lookup
    {descriptor other : Descriptor}
    (held : descriptor ∈ registry.descriptors)
    (looked : registry.lookup descriptor.opcode = .ok other) :
    other = descriptor := by
  rw [OpcodeRegistry.lookup_eq_ok_iff.mpr ⟨held, rfl⟩] at looked
  exact (Except.ok.inj looked).symm

/-- An opcode that is looked up has a held descriptor. -/
theorem not_missing_of_lookup
    {opcode : UInt8}
    {descriptor : Descriptor}
    (looked : registry.lookup opcode = .ok descriptor) :
    ¬∀ held ∈ registry.descriptors, held.opcode ≠ opcode := by
  intro missing
  obtain ⟨held, sameOpcode⟩ := OpcodeRegistry.lookup_eq_ok_iff.mp looked
  exact missing descriptor held sameOpcode

/-- For a held descriptor there is room enough or not. -/
theorem result_of_held
    {descriptor : Descriptor}
    (held : descriptor ∈ registry.descriptors)
    (cursor : Cursor) :
    (cursor.remaining < descriptor.width ∧
      (readInstruction registry descriptor.opcode).result cursor =
        (.error (.truncated descriptor.name descriptor.width cursor.remaining), cursor)) ∨
    (descriptor.width ≤ cursor.remaining ∧ ∃ instruction,
      readOperands descriptor.opcode cursor.rest =
          some (instruction, (cursor.advance descriptor.width).rest) ∧
        (readInstruction registry descriptor.opcode).result cursor =
          (.ok instruction, cursor.advance descriptor.width)) := by
  have outcomes := instructionAt_readInstruction registry descriptor.opcode cursor
  generalize (readInstruction registry descriptor.opcode).result cursor = outcome at outcomes ⊢
  cases outcomes with
  | unknown missing => exact absurd rfl (missing descriptor held)
  | truncated looked short =>
      obtain rfl := eq_of_lookup held looked
      exact .inl ⟨short, rfl⟩
  | read looked enough found =>
      obtain rfl := eq_of_lookup held looked
      exact .inr ⟨enough, _, found, rfl⟩

/-- Operands that are read for a descriptor make an instruction of its name. -/
theorem mnemonic_of_readOperands
    {descriptor : Descriptor}
    (known : descriptor ∈ Instruction.descriptors)
    {bytes rest : List UInt8}
    {instruction : Instruction}
    (accepted : readOperands descriptor.opcode bytes = some (instruction, rest)) :
    instruction.mnemonic = descriptor.name := by
  obtain ⟨form, inForms, rfl, read⟩ := Instruction.exists_form_of_mem_descriptors known
  rw [read] at accepted
  exact (Instruction.agrees_of_mem_forms inForms _ _ _ accepted).2.1

/-- The operands of an instruction that has been read are the bytes it was read from. -/
theorem payload_eq_byteRange
    {opcode : UInt8}
    {instruction : Instruction}
    {rest : List UInt8}
    (accepted : readOperands opcode cursor.rest = some (instruction, rest)) :
    instruction.payload = byteRange cursor.bytes cursor.position instruction.width := by
  obtain ⟨-, whole⟩ := Instruction.eq_append_of_readOperands accepted
  rw [byteRange, ← Cursor.rest, whole, ← Instruction.length_payload, List.take_left]

/-- Reading operands at a cursor is reading them in place. -/
theorem decodeInstruction_eq_result
    (registry : OpcodeRegistry)
    (opcode : UInt8)
    (cursor : Cursor) :
    decodeInstruction registry opcode cursor =
      match (readInstruction registry opcode).result cursor with
      | (.ok instruction, behind) => .ok (instruction, behind)
      | (.error cause, _) => .error (.fault cause) := by
  have outcomes := instructionAt_readInstruction registry opcode cursor
  generalize (readInstruction registry opcode).result cursor = outcome at outcomes ⊢
  rw [decodeInstruction]
  cases outcomes with
  | unknown missing =>
      rw [OpcodeRegistry.lookup_eq_error_iff.mpr ⟨missing, rfl⟩]
  | truncated looked short =>
      rw [looked]
      exact if_pos short
  | read looked enough found =>
      obtain ⟨known, rfl⟩ := OpcodeRegistry.descriptor_of_lookup looked
      rw [looked]
      dsimp only
      rw [if_neg (Nat.not_lt_of_le enough), found]
      dsimp only
      rw [Instruction.width_of_readOperands known found]

/-- An instruction with a held opcode is read back from where it is written. -/
theorem result_of_encode
    {instruction : Instruction}
    {rest : List UInt8}
    (registered :
      ∃ descriptor ∈ registry.descriptors, descriptor.opcode = instruction.opcode)
    (written : cursor.rest = instruction.encode ++ rest) :
    ∃ behindOpcode,
      cursor.read? UInt8 = some (instruction.opcode, behindOpcode) ∧
        (readInstruction registry instruction.opcode).result behindOpcode =
          (.ok instruction, cursor.advance instruction.size) ∧
        (cursor.advance instruction.size).rest = rest := by
  obtain ⟨descriptor, held, sameOpcode⟩ := registered
  have known := OpcodeRegistry.mem_instructionSet_of_held held
  have begins : cursor.rest = instruction.opcode :: (instruction.payload ++ rest) := written
  obtain ⟨-, _, opcodeRead, operands, rfl⟩ := read?_of_rest_cons begins
  have operandsRead :
      readOperands descriptor.opcode (cursor.advance 1).rest = some (instruction, rest) := by
    rw [sameOpcode, operands]
    exact Instruction.readOperands_payload instruction rest
  refine ⟨cursor.advance 1, opcodeRead, ?_⟩
  rw [← sameOpcode]
  obtain ⟨short, -⟩ | ⟨-, _, found, moved⟩ := result_of_held held (cursor.advance 1)
  · rw [← Cursor.length_rest, ← Instruction.readOperands_eq_none_iff known,
      operandsRead] at short
    contradiction
  · rw [operandsRead] at found
    obtain ⟨rfl, rfl⟩ := Prod.mk.inj (Option.some.inj found)
    rw [moved, Cursor.advance_advance, Instruction.size,
      Instruction.width_of_readOperands known operandsRead]
    exact ⟨rfl, rfl⟩

/-- How the instructions of a registry are read at cursors. -/
structure ReadsInstructions (registry : OpcodeRegistry) : Prop where
  unknown_iff : ∀ opcode cursor unknown,
    ((readInstruction registry opcode).result cursor).1 = .error (.unknownOpcode unknown) ↔
      (∀ descriptor ∈ registry.descriptors, descriptor.opcode ≠ opcode) ∧ unknown = opcode
  truncated_iff : ∀ descriptor ∈ registry.descriptors, ∀ cursor mnemonic needed available,
    ((readInstruction registry descriptor.opcode).result cursor).1 =
        .error (.truncated mnemonic needed available) ↔
      cursor.remaining < descriptor.width ∧ mnemonic = descriptor.name ∧
        needed = descriptor.width ∧ available = cursor.remaining
  /-- Where reading fails it has not moved the cursor. -/
  unmoved : ∀ opcode cursor fault,
    ((readInstruction registry opcode).result cursor).1 = .error fault →
      ((readInstruction registry opcode).result cursor).2 = cursor
  /-- Where there is room for the operands they are what the instruction consists of. -/
  read : ∀ descriptor ∈ registry.descriptors, ∀ cursor : Cursor,
    descriptor.width ≤ cursor.remaining →
      ∃ instruction,
        (readInstruction registry descriptor.opcode).result cursor =
            (.ok instruction, cursor.advance descriptor.width) ∧
          instruction.opcode = descriptor.opcode ∧
          instruction.mnemonic = descriptor.name ∧
          instruction.width = descriptor.width ∧
          instruction.encode =
            descriptor.opcode :: byteRange cursor.bytes cursor.position descriptor.width
  /-- What has been written is read back, wherever it stands and whatever follows it. -/
  readBack : ∀ (instruction : Instruction) (rest : List UInt8) (cursor : Cursor),
    (∃ descriptor ∈ registry.descriptors, descriptor.opcode = instruction.opcode) →
      cursor.rest = instruction.encode ++ rest →
        ∃ behindOpcode,
          cursor.read? UInt8 = some (instruction.opcode, behindOpcode) ∧
            (readInstruction registry instruction.opcode).result behindOpcode =
              (.ok instruction, cursor.advance instruction.size) ∧
            (cursor.advance instruction.size).rest = rest
  /-- A list of bytes is read as a cursor at it reads them. -/
  inOrder : ∀ opcode cursor,
    registry.decode opcode cursor.rest =
      ((readInstruction registry opcode).result cursor).1.map fun instruction =>
        (instruction, ((readInstruction registry opcode).result cursor).2.rest)

/--
Reading an instruction fails where it stands, or moves on by exactly the width of its
operands; what an instruction is written as is read back.
-/
theorem reads_instructions (registry : OpcodeRegistry) : ReadsInstructions registry where
  unknown_iff := by
    intro opcode cursor unknown
    have outcomes := instructionAt_readInstruction registry opcode cursor
    generalize (readInstruction registry opcode).result cursor = outcome at outcomes ⊢
    constructor
    · intro refused
      cases outcomes with
      | unknown missing =>
          have sameOpcode := InstructionError.unknownOpcode.inj (Except.error.inj refused)
          exact ⟨missing, sameOpcode.symm⟩
      | truncated _ _ => simp at refused
      | read _ _ _ => contradiction
    · rintro ⟨missing, rfl⟩
      cases outcomes with
      | unknown _ => rfl
      | truncated looked _ => exact absurd missing (not_missing_of_lookup looked)
      | read looked _ _ => exact absurd missing (not_missing_of_lookup looked)
  truncated_iff := by
    intro descriptor held cursor mnemonic needed available
    obtain ⟨short, refused⟩ | ⟨enough, _, -, moved⟩ := result_of_held held cursor
    · simp [refused, short, eq_comm]
    · simp [moved, Nat.not_lt_of_le enough]
  unmoved := by
    intro opcode cursor fault failed
    have outcomes := instructionAt_readInstruction registry opcode cursor
    generalize (readInstruction registry opcode).result cursor = outcome at outcomes failed ⊢
    cases outcomes with
    | unknown _ => rfl
    | truncated _ _ => rfl
    | read _ _ _ => contradiction
  read := by
    intro descriptor held cursor enough
    obtain ⟨short, -⟩ | ⟨-, instruction, found, moved⟩ := result_of_held held cursor
    · exact absurd short (Nat.not_lt_of_le enough)
    · have known := OpcodeRegistry.mem_instructionSet_of_held held
      have sameOpcode := (Instruction.eq_append_of_readOperands found).1
      have sameWidth := Instruction.width_of_readOperands known found
      have sameName := mnemonic_of_readOperands known found
      refine ⟨instruction, moved, sameOpcode, sameName, sameWidth, ?_⟩
      rw [Instruction.encode, sameOpcode, payload_eq_byteRange found, sameWidth]
  readBack := fun _ _ _ => result_of_encode
  inOrder := by
    intro opcode cursor
    have outcomes := instructionAt_readInstruction registry opcode cursor
    generalize (readInstruction registry opcode).result cursor = outcome at outcomes ⊢
    cases outcomes with
    | unknown missing => exact OpcodeRegistry.decode_eq_error_iff.mpr (.inl ⟨missing, rfl⟩)
    | truncated looked short =>
        obtain ⟨held, sameOpcode⟩ := OpcodeRegistry.lookup_eq_ok_iff.mp looked
        rw [← Cursor.length_rest] at short ⊢
        exact OpcodeRegistry.decode_eq_error_iff.mpr
          (.inr ⟨_, held, sameOpcode, short, rfl⟩)
    | read looked enough found =>
        rw [OpcodeRegistry.decode, looked]
        dsimp only
        rw [found]
        rfl

end AdventureArchive.InPlace
