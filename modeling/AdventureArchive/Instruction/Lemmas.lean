import AdventureArchive.Bytes.LayoutLaws
import AdventureArchive.Instruction.Registry

namespace AdventureArchive

/-!
# Reading and writing one instruction

Every form of the instruction table agrees with the instructions it reads: same
opcode, same name, same width, and the bytes it takes are the operand bytes of
the instruction.  `OpcodeRegistry.eq_append_of_decode` carries this over to
reading through a registry.
-/

namespace Instruction

/-- The operand bytes fill exactly the width of the instruction. -/
@[simp] theorem length_payload
    (instruction : Instruction) :
    instruction.payload.length = instruction.width := by
  unfold payload width
  induction instruction.operands with
  | nil => rfl
  | cons operand rest inductionHypothesis =>
      have operandLength : operand.2.bytes.length = operand.2.width := by
        cases operand.2 <;> simp [Operand.bytes, Operand.width,
          LawfulLayout.length_write]
      simp only [List.flatMap_cons, List.length_append, operandLength,
        totalSize_cons, inductionHypothesis]

/-- An encoded instruction fills exactly its size. -/
@[simp] theorem length_encode
    (instruction : Instruction) :
    instruction.encode.length = instruction.size := by
  simp only [encode, List.length_cons, length_payload, size]
  omega

namespace Form

/-- What a form reads is the instruction it describes. -/
def Agrees (form : Form) : Prop :=
  ∀ (bytes : List UInt8) (instruction : Instruction) (rest : List UInt8),
    form.read bytes = some (instruction, rest) →
      instruction.opcode = form.opcode ∧
      instruction.mnemonic = form.name ∧
      instruction.width = form.width ∧
      bytes = instruction.payload ++ rest

/-- A form without operands agrees with its instruction. -/
theorem agrees_fixed
    {opcode : UInt8}
    {name : String}
    {instruction : Instruction}
    (written : instruction.parts = ⟨opcode, name, []⟩) :
    Agrees (fixed opcode name instruction) := by
  intro bytes found rest accepted
  simp only [fixed, Option.some.injEq, Prod.mk.injEq] at accepted
  obtain ⟨rfl, rfl⟩ := accepted
  simp [Instruction.opcode, mnemonic, width, payload, operands, written, fixed]

/-- A form with operands agrees when the operands are written as they are read. -/
theorem agrees_one
    {α : Type}
    [Layout α]
    [LawfulLayout α]
    {opcode : UInt8}
    {name : String}
    {make : α → Instruction}
    (opcodeWritten : ∀ value, (make value).opcode = opcode)
    (nameWritten : ∀ value, (make value).mnemonic = name)
    (widthWritten : ∀ value, (make value).width = Layout.width α)
    (payloadWritten : ∀ value, (make value).payload = Layout.write value) :
    Agrees (one opcode name make) := by
  intro bytes found rest accepted
  simp only [one, Option.map_eq_some_iff] at accepted
  obtain ⟨⟨value, remaining⟩, readShape, made⟩ := accepted
  simp only [Prod.mk.injEq] at made
  obtain ⟨rfl, rfl⟩ := made
  refine ⟨opcodeWritten value, nameWritten value, widthWritten value, ?_⟩
  rw [payloadWritten]
  exact LawfulLayout.eq_append_of_read readShape

end Form

/-- Every form of the instruction table agrees with what it reads. -/
theorem agrees_of_mem_forms
    {form : Form}
    (member : form ∈ forms) :
    form.Agrees := by
  have all : ∀ form ∈ forms, form.Agrees := by
    simp only [forms, List.forall_mem_cons]
    repeat' apply And.intro
    all_goals first
      | exact Form.agrees_fixed rfl
      | exact Form.agrees_one
          (fun _ => rfl) (fun _ => rfl) (fun _ => rfl) (fun _ => List.append_nil _)
      | exact Form.agrees_one
          (fun _ => rfl) (fun _ => rfl) (fun _ => rfl)
          (fun _ => congrArg (_ ++ ·) (List.append_nil _))
      | exact fun _ impossible => absurd impossible List.not_mem_nil
  exact all form member

/-- Reading operands takes exactly the operand bytes of the instruction. -/
theorem eq_append_of_readOperands
    {opcode : UInt8}
    {bytes rest : List UInt8}
    {instruction : Instruction}
    (accepted : readOperands opcode bytes = some (instruction, rest)) :
    instruction.opcode = opcode ∧ bytes = instruction.payload ++ rest := by
  obtain ⟨form, found, readShape⟩ := Option.bind_eq_some_iff.mp accepted
  have agrees := agrees_of_mem_forms (List.mem_of_find?_eq_some found) _ _ _ readShape
  have sameOpcode := List.find?_some found
  simp only [beq_iff_eq] at sameOpcode
  exact ⟨agrees.1.trans sameOpcode, agrees.2.2.2⟩

end Instruction

namespace OpcodeRegistry

/-- Reading through a registry takes exactly the operand bytes. -/
theorem eq_append_of_decode
    {registry : OpcodeRegistry}
    {opcode : UInt8}
    {bytes rest : List UInt8}
    {instruction : Instruction}
    (accepted : registry.decode opcode bytes = .ok (instruction, rest)) :
    instruction.opcode = opcode ∧ bytes = instruction.payload ++ rest := by
  unfold decode at accepted
  split at accepted
  next => simp at accepted
  next =>
    split at accepted
    next decoded readShape =>
      simp only [Except.ok.injEq] at accepted
      subst accepted
      exact Instruction.eq_append_of_readOperands readShape
    next => simp at accepted

/-- Reading an instruction never lengthens the byte list. -/
theorem length_le_of_decode
    {registry : OpcodeRegistry}
    {opcode : UInt8}
    {bytes rest : List UInt8}
    {instruction : Instruction}
    (accepted : registry.decode opcode bytes = .ok (instruction, rest)) :
    rest.length ≤ bytes.length := by
  rw [(eq_append_of_decode accepted).2, List.length_append]
  omega

end OpcodeRegistry

end AdventureArchive
