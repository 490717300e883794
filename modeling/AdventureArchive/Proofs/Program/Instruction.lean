import AdventureArchive.Instruction.Lemmas
import AdventureArchive.Proofs.SortedMap

namespace AdventureArchive

/-!
# Reading an instruction back

A registry that holds the opcode of an instruction reads it back from its
operand bytes, whatever follows them; any other registry refuses the opcode.
The standard registry holds the opcode of every instruction.

Which bytes can be read is told from the descriptors alone: an opcode has to
have one, and the bytes behind the opcode have to fill its width
(`OpcodeRegistry.exists_decode_of_held`, `OpcodeRegistry.decode_eq_error_iff`).
-/

namespace Instruction

namespace Form

/-- A form with one operand reads the operand it makes its instruction of. -/
theorem read_one
    {α : Type}
    [Layout α]
    [LawfulLayout α]
    {opcode : UInt8}
    {name : String}
    {make : α → Instruction}
    (value : α)
    (rest : List UInt8) :
    (one opcode name make).read (Layout.write value ++ [] ++ rest) =
      some (make value, rest) := by
  simp only [one, List.append_nil, LawfulLayout.read_append, Option.map_some]

/-- A form with two operands reads the operands it makes its instruction of. -/
theorem read_two
    {α β : Type}
    [Layout α]
    [LawfulLayout α]
    [Layout β]
    [LawfulLayout β]
    {opcode : UInt8}
    {name : String}
    {make : α → β → Instruction}
    (first : α)
    (second : β)
    (rest : List UInt8) :
    (two opcode name make).read
        (Layout.write first ++ (Layout.write second ++ []) ++ rest) =
      some (make first second, rest) := by
  rw [List.append_nil, ← List.append_nil (Layout.write first ++ _)]
  exact read_one (first, second) rest

/-- Whether a form reads an instruction from any bytes that fill its width. -/
def Complete (form : Form) : Prop :=
  ∀ bytes : List UInt8, form.width ≤ bytes.length → (form.read bytes).isSome = true

theorem complete_fixed
    (opcode : UInt8)
    (name : String)
    (instruction : Instruction) :
    Complete (fixed opcode name instruction) :=
  fun _ _ => rfl

theorem complete_one
    {α : Type}
    [Layout α]
    [LawfulLayout α]
    (opcode : UInt8)
    (name : String)
    (make : α → Instruction) :
    Complete (one opcode name make) := by
  intro bytes enough
  rw [one, Option.isSome_map, Option.isSome_iff_ne_none, Ne, LawfulLayout.read_eq_none_iff]
  exact Nat.not_lt_of_le enough

end Form

/-- Every form of the instruction table reads what fills its width. -/
theorem complete_of_mem_forms
    {form : Form}
    (member : form ∈ forms) :
    form.Complete := by
  have all : ∀ form ∈ forms, form.Complete := by
    simp only [forms, List.forall_mem_cons]
    repeat' apply And.intro
    all_goals first
      | exact Form.complete_fixed _ _ _
      | exact Form.complete_one _ _ _
      | exact fun _ impossible => absurd impossible List.not_mem_nil
  exact all form member

/-- Reading operands is left to the form of the opcode. -/
theorem readOperands_of_find?
    {opcode : UInt8}
    {form : Form}
    (found : forms.find? (fun known => known.opcode == opcode) = some form)
    (bytes : List UInt8) :
    readOperands opcode bytes = form.read bytes := by
  rw [readOperands, found, Option.bind_some]

/-- The operand bytes of an instruction are read back, and what follows is left. -/
theorem readOperands_payload
    (instruction : Instruction)
    (rest : List UInt8) :
    readOperands instruction.opcode (instruction.payload ++ rest) =
      some (instruction, rest) := by
  cases instruction <;> first
    | exact (readOperands_of_find? rfl _).trans rfl
    | exact (readOperands_of_find? rfl _).trans (Form.read_one _ _)
    | exact (readOperands_of_find? rfl _).trans (Form.read_two _ _ _)

/-- A descriptor of the instruction set is found by its opcode: no two share one. -/
theorem find?_of_mem_descriptors
    {descriptor : Descriptor}
    (member : descriptor ∈ descriptors) :
    descriptors.find? (fun known => known.opcode == descriptor.opcode) = some descriptor := by
  have all : ∀ descriptor ∈ descriptors,
      descriptors.find? (fun known => known.opcode == descriptor.opcode) =
        some descriptor := by
    decide +kernel
  exact all descriptor member

/-- What is found for an opcode is the descriptor of the instruction set that has it. -/
theorem find?_descriptors_eq_some_iff
    {opcode : UInt8}
    {descriptor : Descriptor} :
    descriptors.find? (fun known => known.opcode == opcode) = some descriptor ↔
      descriptor ∈ descriptors ∧ descriptor.opcode = opcode := by
  constructor
  · intro found
    have sameOpcode := List.find?_some found
    exact ⟨List.mem_of_find?_eq_some found, beq_iff_eq.mp sameOpcode⟩
  · rintro ⟨member, rfl⟩
    exact find?_of_mem_descriptors member

/-- The form of the instruction table that a descriptor belongs to. -/
theorem exists_form_of_mem_descriptors
    {descriptor : Descriptor}
    (member : descriptor ∈ descriptors) :
    ∃ form ∈ forms,
      form.toDescriptor = descriptor ∧
        ∀ bytes, readOperands descriptor.opcode bytes = form.read bytes := by
  have found := find?_of_mem_descriptors member
  rw [descriptors, List.find?_map] at found
  obtain ⟨form, formFound, rfl⟩ := Option.map_eq_some_iff.mp found
  exact ⟨form, List.mem_of_find?_eq_some formFound, rfl, readOperands_of_find? formFound⟩

/-- Operands that are read for a descriptor are as wide as it says. -/
theorem width_of_readOperands
    {descriptor : Descriptor}
    (member : descriptor ∈ descriptors)
    {bytes rest : List UInt8}
    {instruction : Instruction}
    (accepted : readOperands descriptor.opcode bytes = some (instruction, rest)) :
    instruction.width = descriptor.width := by
  obtain ⟨form, inForms, rfl, read⟩ := exists_form_of_mem_descriptors member
  rw [read] at accepted
  exact (agrees_of_mem_forms inForms _ _ _ accepted).2.2.1

/-- The operands of a descriptor are cut short exactly if the bytes do not fill its width. -/
theorem readOperands_eq_none_iff
    {descriptor : Descriptor}
    (member : descriptor ∈ descriptors)
    {bytes : List UInt8} :
    readOperands descriptor.opcode bytes = none ↔ bytes.length < descriptor.width := by
  constructor
  · intro unread
    obtain ⟨form, inForms, rfl, read⟩ := exists_form_of_mem_descriptors member
    apply Nat.lt_of_not_le
    intro enough
    have complete := complete_of_mem_forms inForms bytes enough
    rw [← read, unread] at complete
    contradiction
  · intro short
    match operandsRead : readOperands descriptor.opcode bytes with
    | none => rfl
    | some (instruction, rest) =>
        rw [(eq_append_of_readOperands operandsRead).2, List.length_append, length_payload,
          width_of_readOperands member operandsRead] at short
        exact absurd short (Nat.not_lt_of_le (Nat.le_add_right _ _))

end Instruction

namespace OpcodeRegistry

/-- Whether a registry holds an opcode. -/
def registers (registry : OpcodeRegistry) (opcode : UInt8) : Bool :=
  registry.slots.contains opcode

/-- An opcode is looked up successfully exactly when it is held. -/
theorem lookup_of_registers
    {registry : OpcodeRegistry}
    {opcode : UInt8}
    (registered : registry.registers opcode = true) :
    ∃ descriptor, registry.lookup opcode = .ok descriptor := by
  obtain ⟨descriptor, found⟩ := Option.isSome_iff_exists.mp registered
  exact ⟨descriptor, by rw [lookup, found]⟩

/-- A registry that holds the opcode of an instruction reads it back. -/
theorem decode_payload
    {registry : OpcodeRegistry}
    {instruction : Instruction}
    (registered : registry.registers instruction.opcode = true)
    (rest : List UInt8) :
    registry.decode instruction.opcode (instruction.payload ++ rest) =
      .ok (instruction, rest) := by
  obtain ⟨descriptor, found⟩ := lookup_of_registers registered
  simp only [decode, found, Instruction.readOperands_payload]

/-- An opcode that is not held is refused, whatever follows it. -/
theorem decode_of_not_registers
    {registry : OpcodeRegistry}
    {opcode : UInt8}
    (unregistered : registry.registers opcode = false)
    (bytes : List UInt8) :
    registry.decode opcode bytes = .error (.unknownOpcode opcode) := by
  have absent : registry.slots.get? opcode = none :=
    Option.isSome_eq_false_iff.mp unregistered |> Option.isNone_iff_eq_none.mp
  simp only [decode, lookup, absent]

/-- The opcode of an instruction that has been read is held. -/
theorem registers_of_decode
    {registry : OpcodeRegistry}
    {opcode : UInt8}
    {bytes rest : List UInt8}
    {instruction : Instruction}
    (accepted : registry.decode opcode bytes = .ok (instruction, rest)) :
    registry.registers opcode = true := by
  by_cases registered : registry.registers opcode = true
  · exact registered
  · rw [decode_of_not_registers (Bool.eq_false_iff.mpr registered)] at accepted
    contradiction

/-- A descriptor that is looked up is one of the instruction set, for the opcode. -/
theorem descriptor_of_lookup
    {registry : OpcodeRegistry}
    {opcode : UInt8}
    {descriptor : Instruction.Descriptor}
    (found : registry.lookup opcode = .ok descriptor) :
    descriptor ∈ Instruction.descriptors ∧ descriptor.opcode = opcode := by
  unfold lookup at found
  split at found
  next held =>
    obtain rfl := Except.ok.inj found
    exact registry.ofInstructionSet _ (SortedMap.get?_eq_some_iff.mp held)
  next => contradiction

/-- Descriptors are kept under their opcodes. -/
theorem get?_slots_eq_some_iff
    {registry : OpcodeRegistry}
    {opcode : UInt8}
    {descriptor : Instruction.Descriptor} :
    registry.slots.get? opcode = some descriptor ↔
      descriptor ∈ registry.descriptors ∧ descriptor.opcode = opcode := by
  rw [SortedMap.get?_eq_some_iff, descriptors, SortedMap.values, List.mem_map]
  constructor
  · intro member
    exact ⟨⟨_, member, rfl⟩, (registry.ofInstructionSet _ member).2⟩
  · rintro ⟨⟨⟨key, value⟩, member, rfl⟩, rfl⟩
    rwa [(registry.ofInstructionSet _ member).2]

/-- What is looked up for an opcode is the held descriptor with that opcode. -/
theorem lookup_eq_ok_iff
    {registry : OpcodeRegistry}
    {opcode : UInt8}
    {descriptor : Instruction.Descriptor} :
    registry.lookup opcode = .ok descriptor ↔
      descriptor ∈ registry.descriptors ∧ descriptor.opcode = opcode := by
  rw [← get?_slots_eq_some_iff, lookup]
  split
  next held => simp [held]
  next absent => simp [absent]

/-- The only fault of looking up an opcode is that no held descriptor has it. -/
theorem lookup_eq_error_iff
    {registry : OpcodeRegistry}
    {opcode : UInt8}
    {cause : InstructionError} :
    registry.lookup opcode = .error cause ↔
      (∀ descriptor ∈ registry.descriptors, descriptor.opcode ≠ opcode) ∧
        cause = .unknownOpcode opcode := by
  constructor
  · intro refused
    constructor
    · intro descriptor held sameOpcode
      rw [lookup_eq_ok_iff.mpr ⟨held, sameOpcode⟩] at refused
      contradiction
    · unfold lookup at refused
      split at refused
      next => contradiction
      next => exact (Except.error.inj refused).symm
  · rintro ⟨missing, rfl⟩
    unfold lookup
    split
    next found =>
      have held := lookup_eq_ok_iff.mp (show registry.lookup opcode = .ok _ by rw [lookup, found])
      exact absurd held.2 (missing _ held.1)
    next => rfl

/-- Held descriptors are those of the instruction set. -/
theorem mem_instructionSet_of_held
    {registry : OpcodeRegistry}
    {descriptor : Instruction.Descriptor}
    (held : descriptor ∈ registry.descriptors) :
    descriptor ∈ Instruction.descriptors :=
  (descriptor_of_lookup (lookup_eq_ok_iff.mpr ⟨held, rfl⟩)).1

/-- Bytes that fill the width of a held descriptor are the operands of an instruction. -/
theorem exists_decode_of_held
    {registry : OpcodeRegistry}
    {descriptor : Instruction.Descriptor}
    {operands : List UInt8}
    (held : descriptor ∈ registry.descriptors)
    (complete : operands.length = descriptor.width) :
    ∃ instruction : Instruction,
      instruction.encode = descriptor.opcode :: operands ∧
        instruction.width = descriptor.width ∧
        registry.registers instruction.opcode = true := by
  have found := lookup_eq_ok_iff.mpr ⟨held, rfl⟩
  have known := mem_instructionSet_of_held held
  match operandsRead : Instruction.readOperands descriptor.opcode operands with
  | none =>
      rw [Instruction.readOperands_eq_none_iff known] at operandsRead
      exact absurd complete (Nat.ne_of_lt operandsRead)
  | some (instruction, rest) =>
      obtain ⟨sameOpcode, whole⟩ := Instruction.eq_append_of_readOperands operandsRead
      have sameWidth := Instruction.width_of_readOperands known operandsRead
      have nothingLeft : rest = [] := by
        have lengths := congrArg List.length whole
        rw [List.length_append, Instruction.length_payload, sameWidth, complete] at lengths
        exact List.eq_nil_of_length_eq_zero (by omega)
      have decoded : registry.decode descriptor.opcode operands = .ok (instruction, rest) := by
        simp only [decode, found, operandsRead]
      refine ⟨instruction, ?_, sameWidth, ?_⟩
      · rw [Instruction.encode, sameOpcode, whole, nothingLeft, List.append_nil]
      · rw [sameOpcode]
        exact registers_of_decode decoded

/-- The opcode of an instruction that is registered has a descriptor as wide as its operands. -/
theorem exists_held_of_registers
    {registry : OpcodeRegistry}
    {instruction : Instruction}
    (registered : registry.registers instruction.opcode = true) :
    ∃ descriptor ∈ registry.descriptors,
      descriptor.opcode = instruction.opcode ∧ descriptor.width = instruction.width := by
  obtain ⟨descriptor, found⟩ := lookup_of_registers registered
  obtain ⟨held, sameOpcode⟩ := lookup_eq_ok_iff.mp found
  refine ⟨descriptor, held, sameOpcode, ?_⟩
  have operandsRead := Instruction.readOperands_payload instruction []
  rw [← sameOpcode] at operandsRead
  exact (Instruction.width_of_readOperands (mem_instructionSet_of_held held) operandsRead).symm

/--
An instruction cannot be read for one of two faults: no held descriptor has the
opcode, or the bytes do not fill the width of the one that has it.
-/
theorem decode_eq_error_iff
    {registry : OpcodeRegistry}
    {opcode : UInt8}
    {bytes : List UInt8}
    {cause : InstructionError} :
    registry.decode opcode bytes = .error cause ↔
      ((∀ descriptor ∈ registry.descriptors, descriptor.opcode ≠ opcode) ∧
        cause = .unknownOpcode opcode) ∨
      ∃ descriptor ∈ registry.descriptors,
        descriptor.opcode = opcode ∧ bytes.length < descriptor.width ∧
          cause = .truncated descriptor.name descriptor.width bytes.length := by
  rw [decode]
  match found : registry.lookup opcode with
  | .error unknown =>
      obtain ⟨missing, rfl⟩ := lookup_eq_error_iff.mp found
      constructor
      · intro refused
        exact .inl ⟨missing, (Except.error.inj refused).symm⟩
      · rintro (⟨-, rfl⟩ | ⟨descriptor, held, sameOpcode, -⟩)
        · rfl
        · exact absurd sameOpcode (missing descriptor held)
  | .ok descriptor =>
      obtain ⟨held, rfl⟩ := lookup_eq_ok_iff.mp found
      have known := mem_instructionSet_of_held held
      constructor
      · intro refused
        dsimp only at refused
        split at refused
        next => contradiction
        next unread =>
          exact .inr ⟨descriptor, held, rfl,
            (Instruction.readOperands_eq_none_iff known).mp unread,
            (Except.error.inj refused).symm⟩
      · rintro (⟨missing, -⟩ | ⟨other, otherHeld, sameOpcode, short, rfl⟩)
        · exact absurd rfl (missing descriptor held)
        · have same := lookup_eq_ok_iff.mpr ⟨otherHeld, sameOpcode⟩
          rw [found] at same
          obtain rfl := Except.ok.inj same
          simp only [(Instruction.readOperands_eq_none_iff known).mpr short]

/-- The standard registry holds the opcode of every instruction. -/
theorem standard_registers (instruction : Instruction) :
    standard.registers instruction.opcode = true := by
  have complete : ∀ form ∈ Instruction.forms, standard.registers form.opcode = true := by
    decide +kernel
  have listed :
      (Instruction.forms.any fun form => form.opcode == instruction.opcode) = true := by
    cases instruction <;> rfl
  obtain ⟨form, member, sameOpcode⟩ := List.any_eq_true.mp listed
  rw [← beq_iff_eq.mp sameOpcode]
  exact complete form member

/-- Whether every opcode that one registry holds is held by another too. -/
def IsPartOf (narrow wide : OpcodeRegistry) : Prop :=
  ∀ opcode, narrow.registers opcode = true → wide.registers opcode = true

/-- Every registry is part of the standard registry. -/
theorem isPartOf_standard (registry : OpcodeRegistry) : registry.IsPartOf standard := by
  intro opcode registered
  have complete :
      ∀ descriptor ∈ Instruction.descriptors, standard.registers descriptor.opcode = true := by
    decide +kernel
  obtain ⟨descriptor, found⟩ := Option.isSome_iff_exists.mp registered
  obtain ⟨known, sameOpcode⟩ :=
    registry.ofInstructionSet _ (SortedMap.get?_eq_some_iff.mp found)
  rw [← show descriptor.opcode = opcode from sameOpcode]
  exact complete descriptor known

end OpcodeRegistry

end AdventureArchive
