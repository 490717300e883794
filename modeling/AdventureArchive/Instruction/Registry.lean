import AdventureArchive.Instruction
import AdventureArchive.SortedMap
import AdventureArchive.Text.Columns

namespace AdventureArchive

/-!
# Opcode registries

A registry is the part of the instruction set that a reader accepts.  It is
built from a list of descriptors; each has to agree with the instruction set in
name, opcode and width, and no opcode may be listed twice.  That every held
descriptor belongs to the instruction set is part of the type, so reading an
instruction fails only for an opcode that is not held or for operands that are
cut short.
-/

/-- Why a list of descriptors makes no registry. -/
inductive RegistryError where
  | duplicateOpcode (opcode : UInt8) (first second : String)
  | layoutMismatch
      (opcode : UInt8) (name : String) (width : Nat)
      (expected : String) (expectedWidth : Nat)
  | noPayloadLayout (opcode : UInt8) (name : String)
  deriving Repr, DecidableEq

/-- The wording of a registry error. -/
def RegistryError.message : RegistryError → String
  | .duplicateOpcode opcode first second =>
      s!"opcode {Columns.opcodeText opcode} is claimed by both {first} and {second}"
  | .layoutMismatch opcode name width expected expectedWidth =>
      s!"{name} at opcode {Columns.opcodeText opcode} (width {width}) does not match the " ++
        s!"{expected} payload layout (width {expectedWidth})"
  | .noPayloadLayout opcode name =>
      s!"{name} at opcode {Columns.opcodeText opcode} has no payload layout"

/-- Why an instruction could not be read. -/
inductive InstructionError where
  | unknownOpcode (opcode : UInt8)
  | truncated (mnemonic : String) (needed available : Nat)
  deriving Repr, DecidableEq

/-- The wording of an instruction error. -/
def InstructionError.message : InstructionError → String
  | .unknownOpcode opcode => s!"unknown opcode {Columns.opcodeText opcode}"
  | .truncated mnemonic needed available =>
      s!"{mnemonic} needs {needed} payload bytes but only {available} remain"

/-- The descriptors a reader accepts, by opcode. -/
structure OpcodeRegistry where
  slots : SortedMap UInt8 Instruction.Descriptor
  ofInstructionSet :
    ∀ entry ∈ slots.toList,
      entry.2 ∈ Instruction.descriptors ∧ entry.2.opcode = entry.1

namespace OpcodeRegistry

/-- The registry that accepts nothing. -/
def empty : OpcodeRegistry where
  slots := .empty
  ofInstructionSet := by
    intro entry member
    exact absurd member (List.not_mem_nil)

instance : Inhabited OpcodeRegistry := ⟨empty⟩

/--
Adds one descriptor.  A repeated opcode is reported before a layout that does
not agree with the instruction set.
-/
def register
    (registry : OpcodeRegistry)
    (descriptor : Instruction.Descriptor) :
    Except RegistryError OpcodeRegistry :=
  match registry.slots.get? descriptor.opcode with
  | some existing =>
      .error (.duplicateOpcode descriptor.opcode existing.name descriptor.name)
  | none =>
      match known :
        Instruction.descriptors.find? fun known =>
          known.opcode == descriptor.opcode with
      | none => .error (.noPayloadLayout descriptor.opcode descriptor.name)
      | some expected =>
          if agrees : expected = descriptor then
            .ok {
              slots := registry.slots.insert descriptor.opcode descriptor
              ofInstructionSet := by
                intro entry member
                rcases SortedMap.mem_toList_of_mem_insert member with isNew | wasThere
                · subst isNew
                  subst agrees
                  exact ⟨List.mem_of_find?_eq_some known, rfl⟩
                · exact registry.ofInstructionSet entry wasThere
            }
          else
            .error (.layoutMismatch
              descriptor.opcode descriptor.name descriptor.width
              expected.name expected.width)

/-- The registry of a list of descriptors; the first fault in list order wins. -/
def ofList
    (descriptors : List Instruction.Descriptor) :
    Except RegistryError OpcodeRegistry :=
  descriptors.foldlM register empty

/-- The registry of the whole instruction set. -/
def standard : OpcodeRegistry :=
  match ofList Instruction.descriptors with
  | .ok registry => registry
  | .error _ => empty

/-- The instruction set has no repeated opcode, so its registry is complete. -/
theorem ofList_descriptors : ofList Instruction.descriptors = .ok standard := by
  have accepted : (ofList Instruction.descriptors).isOk = true := by
    decide +kernel
  unfold standard
  split
  · assumption
  · next failed => simp [failed, Except.isOk, Except.toBool] at accepted

/-- The held descriptors in opcode order. -/
def descriptors (registry : OpcodeRegistry) : List Instruction.Descriptor :=
  registry.slots.values

/-- Number of held descriptors. -/
def size (registry : OpcodeRegistry) : Nat :=
  registry.slots.size

/-- Whether nothing is held. -/
def isEmpty (registry : OpcodeRegistry) : Bool :=
  registry.slots.isEmpty

/-- The descriptor of an opcode. -/
def lookup
    (registry : OpcodeRegistry)
    (opcode : UInt8) :
    Except InstructionError Instruction.Descriptor :=
  match registry.slots.get? opcode with
  | some descriptor => .ok descriptor
  | none => .error (.unknownOpcode opcode)

/--
Reads the operands behind an opcode and returns what follows them.  Nothing is
read when the opcode is not held or its operands are cut short.
-/
def decode
    (registry : OpcodeRegistry)
    (opcode : UInt8)
    (bytes : List UInt8) :
    Except InstructionError (Instruction × List UInt8) :=
  match registry.lookup opcode with
  | .error cause => .error cause
  | .ok descriptor =>
      match Instruction.readOperands opcode bytes with
      | some decoded => .ok decoded
      | none =>
          .error (.truncated descriptor.name descriptor.width bytes.length)

end OpcodeRegistry

end AdventureArchive
