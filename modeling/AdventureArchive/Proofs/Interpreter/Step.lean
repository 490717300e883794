import AdventureArchive.Interpreter.Log

namespace AdventureArchive

/-!
# What a step can do

`StepOf` lists everything that can come of a step, by what the interpreter was
doing before.  `Interpreter.stepOf_step` says that the list is complete, so
whatever has to hold of every step is shown case by case along it.  A step never
touches the database or the stack capacity (`Interpreter.step_eq`).
-/

/-- Only the three literal instructions have a literal. -/
theorem Instruction.literal?_eq_none
    {instruction : Instruction}
    (notByte : ∀ value, instruction ≠ .pushByte value)
    (notWord : ∀ value, instruction ≠ .pushWord value)
    (notLong : ∀ value, instruction ≠ .pushLong value) :
    instruction.literal? = none := by
  unfold literal?
  split
  next value => exact absurd rfl (notByte value)
  next value => exact absurd rfl (notWord value)
  next value => exact absurd rfl (notLong value)
  next => rfl

namespace ActiveScript

/-- The script with the literal of an instruction fetched, if the instruction has one. -/
def Fetches
    (script : ActiveScript)
    (instruction : Instruction)
    (fetched : ActiveScript) : Prop :=
  match instruction.literal? with
  | some value => script.fetch value = .ok fetched
  | none => fetched = script

/-- What is reported when a script goes on behind an instruction. -/
def outcome
    (script : ActiveScript)
    (instruction : Instruction)
    (offset : UInt32) : StepOutcome :=
  if Interpreter.isHandled instruction then
    .advanced offset
  else
    .unhandled script.offset instruction

/-- Fetching writes one slot of the stack, which is there. -/
theorem fetch_eq_ok_iff
    {script fetched : ActiveScript}
    {value : Int32} :
    script.fetch value = .ok fetched ↔
      ∃ stack, script.stack.set? script.stackPointer value = some stack ∧
        fetched = { script with stack } := by
  unfold fetch
  split
  next stack written => simp [written, eq_comm]
  next unwritten => simp [unwritten]

/-- A script whose instruction has been fetched differs in its stack only. -/
theorem eq_of_fetches
    {script fetched : ActiveScript}
    {instruction : Instruction}
    (fetches : script.Fetches instruction fetched) :
    fetched = { script with stack := fetched.stack } := by
  unfold Fetches at fetches
  split at fetches
  next =>
    obtain ⟨stack, -, rfl⟩ := fetch_eq_ok_iff.mp fetches
    rfl
  next => rw [fetches]

end ActiveScript

/-- What an interpreter does in one step, what comes of it, and what it does next. -/
inductive StepOf :
    Activity → Except InterpreterError StepOutcome → Activity → Prop where
  | idle : StepOf .idle (.error .noActiveProgram) .idle
  | ended {script : ActiveScript} :
      StepOf (.terminated script) (.error (.endOfScript script.id)) (.terminated script)
  | lost {script : ActiveScript} (nothingThere : script.instruction? = none) :
      StepOf (.running script) (.error (.unknownOffset script.id script.offset))
        (.running script)
  | returned {script : ActiveScript} {target : UInt32}
      (current : script.instruction? = some .stopScript)
      (pending : script.pendingJump? = some target) :
      StepOf (.running script) (.ok (.returned target))
        (.running { script with offset := target, pendingJump? := none })
  | stopped {script : ActiveScript}
      (current : script.instruction? = some .stopScript)
      (notPending : script.pendingJump? = none) :
      StepOf (.running script) (.error (.endOfScript script.id)) (.terminated script)
  | overflowed {script : ActiveScript} {instruction : Instruction} {value : Int32}
      (current : script.instruction? = some instruction)
      (literal : instruction.literal? = some value)
      (noSlot : script.stack.set? script.stackPointer value = none) :
      StepOf (.running script)
        (.error (.stackOverflow script.stackPointer script.stack.capacity))
        (.running script)
  | moved {script fetched : ActiveScript} {instruction : Instruction} {offset : UInt32}
      (current : script.instruction? = some instruction)
      (notStop : instruction ≠ .stopScript)
      (fetches : script.Fetches instruction fetched)
      (next : fetched.nextOffset? = some offset) :
      StepOf (.running script) (.ok (script.outcome instruction offset))
        (.running { fetched with offset })
  | finished {script fetched : ActiveScript} {instruction : Instruction}
      (current : script.instruction? = some instruction)
      (notStop : instruction ≠ .stopScript)
      (fetches : script.Fetches instruction fetched)
      (last : fetched.nextOffset? = none) :
      StepOf (.running script) (.error (.endOfScript script.id)) (.terminated fetched)

namespace Interpreter

/-- Going on behind an instruction that has been fetched. -/
theorem stepOf_advance
    {interpreter : Interpreter}
    {script fetched : ActiveScript}
    {instruction : Instruction}
    (current : script.instruction? = some instruction)
    (notStop : instruction ≠ .stopScript)
    (fetches : script.Fetches instruction fetched)
    {report : UInt32 → StepOutcome}
    (reports : report = script.outcome instruction) :
    StepOf (.running script) (interpreter.advance fetched report).1
      (interpreter.advance fetched report).2.activity := by
  unfold advance
  split
  next offset next =>
    rw [reports]
    exact .moved current notStop fetches next
  next last =>
    rw [show fetched.id = script.id by rw [ActiveScript.eq_of_fetches fetches]]
    exact .finished current notStop fetches last

/-- Executing the current instruction is one of the things a step can do. -/
theorem stepOf_execute
    {interpreter : Interpreter}
    {script : ActiveScript}
    {instruction : Instruction}
    (running : interpreter.activity = .running script)
    (current : script.instruction? = some instruction) :
    StepOf (.running script) (interpreter.execute script instruction).1
      (interpreter.execute script instruction).2.activity := by
  unfold execute
  split
  next =>
    unfold stop
    split
    next target pending => exact .returned current pending
    next notPending => exact .stopped current notPending
  next =>
    apply stepOf_advance current
    · nofun
    · rfl
    · rfl
  next value notStop notNoop literal =>
    split
    next fetched fetches =>
      apply stepOf_advance current notStop
      · rw [ActiveScript.Fetches, literal]
        exact fetches
      · funext offset
        simp [ActiveScript.outcome, isHandled, literal]
    next cause refused =>
      unfold ActiveScript.fetch at refused
      split at refused
      next => contradiction
      next noSlot =>
        obtain rfl := Except.error.inj refused
        rw [running]
        exact .overflowed current literal noSlot
  next instruction _ _ notStop notNoop noLiteral =>
    apply stepOf_advance current notStop
    · rw [ActiveScript.Fetches, noLiteral]
    · funext offset
      have notHandled : isHandled instruction = false := by
        simp only [isHandled, noLiteral, Option.isSome_none, Bool.or_false, Bool.or_eq_false_iff,
          beq_eq_false_iff_ne]
        exact ⟨notStop, notNoop⟩
      rw [ActiveScript.outcome, notHandled]
      rfl

/-- A step does one of the things that a step can do. -/
theorem stepOf_step (interpreter : Interpreter) :
    StepOf interpreter.activity interpreter.step.1 interpreter.step.2.activity := by
  unfold step
  split
  next idle =>
    rw [idle]
    exact .idle
  next script terminated =>
    rw [terminated]
    exact .ended
  next script running =>
    rw [running]
    split
    next nothingThere =>
      rw [running]
      exact .lost nothingThere
    next instruction current => exact stepOf_execute running current

/-- A step changes nothing but what the interpreter does. -/
theorem step_eq (interpreter : Interpreter) :
    interpreter.step.2 = { interpreter with activity := interpreter.step.2.activity } := by
  unfold step
  split
  next => rfl
  next => rfl
  next =>
    split
    next => rfl
    next =>
      unfold execute advance stop
      repeat' split
      all_goals rfl

end Interpreter

end AdventureArchive
