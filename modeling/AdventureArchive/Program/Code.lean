import AdventureArchive.Instruction.Lemmas
import AdventureArchive.Program

namespace AdventureArchive.Program

/-!
# The code section

Code is a run of instructions without gaps.  Reading keys each instruction by
the offset of its opcode; writing accepts only keys that follow one another in
the same way.
-/

/--
Reads instructions until the bytes end, adding them to those read before.
`offset` counts the bytes already read.
-/
def decodeCodeFrom
    (registry : OpcodeRegistry)
    (codeLength : UInt32)
    (offset : Nat)
    (collected : SortedMap UInt32 Instruction)
    (bytes : List UInt8) :
    Except ProgramError (SortedMap UInt32 Instruction) :=
  match bytes with
  | [] => .ok collected
  | opcode :: behindOpcode =>
      match decoded : registry.decode opcode behindOpcode with
      | .ok (instruction, rest) =>
          have _shorter := OpcodeRegistry.length_le_of_decode decoded
          decodeCodeFrom registry codeLength
            (offset + instruction.size)
            (collected.insert (UInt32.ofNat offset) instruction)
            rest
      | .error (.truncated mnemonic needed _) =>
          .error (.misalignedStream
            (UInt32.ofNat offset) mnemonic needed codeLength)
      | .error (.unknownOpcode unknown) =>
          .error (.instruction (UInt32.ofNat offset) (.unknownOpcode unknown))
termination_by bytes.length
decreasing_by
  simp only [List.length_cons]
  omega

/-- The instructions of a code section, keyed by offset. -/
def decodeCode
    (registry : OpcodeRegistry)
    (code : List UInt8) :
    Except ProgramError (SortedMap UInt32 Instruction) :=
  decodeCodeFrom registry (UInt32.ofNat code.length) 0 .empty code

/--
The first key that is not the end of the instructions before it, with the key
that was expected there.
-/
def firstGap? :
    Nat → List (UInt32 × Instruction) → Option (UInt32 × UInt32)
  | _, [] => none
  | expected, (found, instruction) :: rest =>
      if found = UInt32.ofNat expected then
        firstGap? (expected + instruction.size) rest
      else
        some (UInt32.ofNat expected, found)

/-- The bytes of instructions whose keys follow one another from zero. -/
def encodeCode
    (instructions : SortedMap UInt32 Instruction) :
    Except ProgramError (List UInt8) :=
  match firstGap? 0 instructions.toList with
  | some (expected, found) => .error (.offsetGap expected found)
  | none => .ok (instructions.values.flatMap Instruction.encode)

end AdventureArchive.Program
