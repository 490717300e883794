import AdventureArchive.Proofs.Interpreter.Session

namespace AdventureArchive

/-!
# Interpreters with separate registers

What an interpreter is doing can be kept in three registers that are written one
by one: a status, the active program, and the state of that program with all
slots of its stack.  Nothing in the type keeps the registers in agreement with
each other; each operation has to.

`Registers.perform_registers` says that this machine works in step with
`Interpreter`, where the three are one `Activity`: it gives the same replies and
comes to the registers of the same interpreter.
-/

/-- Whether a script is being stepped through. -/
inductive Status where
  | idle
  | running
  | terminated
  deriving Repr, DecidableEq

/-- How far a program has been stepped through. -/
structure ProgramState where
  program : UInt16
  offset : UInt32
  pendingJump? : Option UInt32
  stack : List Int32
  stackPointer : Nat
  deriving Repr, DecidableEq

/-- An interpreter in separate registers. -/
structure Registers where
  database : Database
  stackCapacity : Nat
  status : Status
  program? : Option Program
  state? : Option ProgramState

namespace Registers

/-- Registers that no program has been put into. -/
def ofDatabase (database : Database) (stackCapacity : Nat) : Registers :=
  ⟨database, stackCapacity, .idle, none, none⟩

/-- Puts a program into the registers, at its first instruction and with a stack of zeros. -/
def switchProgram
    (registers : Registers)
    (id : UInt16) :
    Except InterpreterError Unit × Registers :=
  match registers.database.programs.get? id with
  | none => (.error (.unknownProgram id), registers)
  | some program =>
      match program.firstOffset? with
      | none => (.error (.emptyProgram id), registers)
      | some entry =>
          (.ok (), { registers with
            state? := some ⟨id, entry, none, List.replicate registers.stackCapacity 0, 0⟩
            program? := some program
            status := .running })

/-- Sets the pending jump of the state, if there is one. -/
def setPendingJump
    (registers : Registers)
    (target : UInt32) :
    Except InterpreterError Unit × Registers :=
  match registers.state? with
  | none => (.error .noActiveProgram, registers)
  | some state =>
      (.ok (), { registers with state? := some { state with pendingJump? := some target } })

/-- Why no instruction can be executed. -/
def inactiveError? (registers : Registers) : Option InterpreterError :=
  match registers.status, registers.state? with
  | .idle, _ => some .noActiveProgram
  | _, none => some .noActiveProgram
  | .terminated, some state => some (.endOfScript state.program)
  | .running, some _ => none

/-- The instruction that the next step looks at. -/
def currentInstruction? (registers : Registers) : Option Instruction :=
  match registers.program?, registers.state? with
  | some program, some state => program.instructions.get? state.offset
  | _, _ => none

/-- Moves the state on to the next instruction, or ends the script if there is none. -/
def advance (registers : Registers) : Except InterpreterError StepOutcome × Registers :=
  match registers.program?, registers.state? with
  | some program, some state =>
      match program.instructions.next? state.offset with
      | some (offset, _) =>
          (.ok (.advanced offset), { registers with state? := some { state with offset } })
      | none => (.error (.endOfScript state.program), { registers with status := .terminated })
  | _, _ => (.error .noActiveProgram, registers)

/-- Writes a literal into the slot the stack pointer addresses and moves on. -/
def fetch
    (registers : Registers)
    (state : ProgramState)
    (value : Int32) :
    Except InterpreterError StepOutcome × Registers :=
  if state.stackPointer < state.stack.length then
    advance { registers with
      state? := some { state with stack := state.stack.set state.stackPointer value } }
  else
    (.error (.stackOverflow state.stackPointer state.stack.length), registers)

/-- Executes one instruction. -/
def execute
    (registers : Registers)
    (state : ProgramState) :
    Instruction → Except InterpreterError StepOutcome × Registers
  | .stopScript =>
      match state.pendingJump? with
      | some target =>
          (.ok (.returned target), { registers with
            state? := some { state with offset := target, pendingJump? := none } })
      | none => (.error (.endOfScript state.program), { registers with status := .terminated })
  | .noop => registers.advance
  | .pushByte value => registers.fetch state (Int32.ofNat value.toNat)
  | .pushWord value => registers.fetch state value.toInt32
  | .pushLong value => registers.fetch state value
  | other =>
      match registers.advance with
      | (.ok _, next) => (.ok (.unhandled state.offset other), next)
      | (.error cause, next) => (.error cause, next)

/-- Takes one step. -/
def step (registers : Registers) : Except InterpreterError StepOutcome × Registers :=
  match registers.inactiveError? with
  | some cause => (.error cause, registers)
  | none =>
      match registers.program?, registers.state? with
      | some program, some state =>
          match program.instructions.get? state.offset with
          | some instruction => registers.execute state instruction
          | none => (.error (.unknownOffset state.program state.offset), registers)
      | _, _ => (.error .noActiveProgram, registers)

/-- Steps until the script ends; `taken` steps have been taken before. -/
def runFrom
    (maxSteps taken : Nat) :
    Nat → Registers → Except InterpreterError Nat × Registers
  | 0, registers => (.error (.stepLimitExceeded maxSteps), registers)
  | remaining + 1, registers =>
      match registers.step with
      | (.ok _, next) => runFrom maxSteps (taken + 1) remaining next
      | (.error (.endOfScript _), last) => (.ok (taken + 1), last)
      | (.error cause, last) => (.error cause, last)

/-- Steps until the script ends and counts the steps. -/
def runUntilStop
    (registers : Registers)
    (maxSteps : Nat) :
    Except InterpreterError Nat × Registers :=
  match registers.status with
  | .terminated => (.ok 0, registers)
  | _ => runFrom maxSteps 0 maxSteps registers

/-- Carries a command out. -/
def perform (registers : Registers) : Command → Reply × Registers
  | .switchProgram id =>
      let (result, next) := registers.switchProgram id
      (.switched result, next)
  | .setPendingJump target =>
      let (result, next) := registers.setPendingJump target
      (.jumpSet result, next)
  | .step =>
      let (result, next) := registers.step
      (.stepped result, next)
  | .runUntilStop maxSteps =>
      let (result, next) := registers.runUntilStop maxSteps
      (.ran result, next)

/-- The registers that a list of commands leads to. -/
def after
    (database : Database)
    (stackCapacity : Nat)
    (commands : List Command) : Registers :=
  commands.foldl (fun registers command => (registers.perform command).2)
    (ofDatabase database stackCapacity)

end Registers

/-! ## The registers of an interpreter -/

/-- The state of the program that a script steps through. -/
def ActiveScript.state (script : ActiveScript) : ProgramState :=
  ⟨script.id, script.offset, script.pendingJump?, script.stack.toList, script.stackPointer⟩

/-- Whether a script is being stepped through. -/
def Activity.status : Activity → Status
  | .idle => .idle
  | .running _ => .running
  | .terminated _ => .terminated

/-- An interpreter in separate registers. -/
def Interpreter.registers (interpreter : Interpreter) : Registers where
  database := interpreter.database
  stackCapacity := interpreter.stackCapacity
  status := interpreter.activity.status
  program? := interpreter.activity.script?.map ActiveScript.program
  state? := interpreter.activity.script?.map ActiveScript.state

namespace Interpreter

variable {interpreter : Interpreter} {script : ActiveScript} {instruction : Instruction}

/-- Where a script goes on does not depend on what the interpreter did before. -/
theorem advance_activity
    (activity : Activity)
    (report : UInt32 → StepOutcome) :
    ({ interpreter with activity } : Interpreter).advance script report =
      interpreter.advance script report := by
  unfold advance
  cases script.nextOffset? with
  | none => rfl
  | some offset => rfl

/-- An instruction with a literal is executed by fetching it and going on. -/
theorem execute_of_literal
    {value : Int32}
    (literal : instruction.literal? = some value) :
    interpreter.execute script instruction =
      match script.fetch value with
      | .ok fetched => interpreter.advance fetched .advanced
      | .error cause => (.error cause, interpreter) := by
  unfold execute
  split
  next => contradiction
  next => contradiction
  next found =>
    rw [literal] at found
    obtain rfl := Option.some.inj found
    rfl
  next found =>
    rw [literal] at found
    contradiction

/-- An instruction without effect is executed by going on. -/
theorem execute_of_not_isHandled
    (notStop : instruction ≠ .stopScript)
    (notNoop : instruction ≠ .noop)
    (noLiteral : instruction.literal? = none) :
    interpreter.execute script instruction =
      interpreter.advance script fun _ => .unhandled script.offset instruction := by
  unfold execute
  split
  next => contradiction
  next => contradiction
  next found =>
    rw [noLiteral] at found
    contradiction
  next => rfl

end Interpreter

namespace Registers

variable {interpreter : Interpreter} {script : ActiveScript}

theorem switchProgram_registers (interpreter : Interpreter) (id : UInt16) :
    interpreter.registers.switchProgram id =
      ((interpreter.switchProgram id).1, (interpreter.switchProgram id).2.registers) := by
  unfold switchProgram Interpreter.switchProgram Interpreter.entry
  cases found : interpreter.database.programs.get? id with
  | none => simp [Interpreter.registers, found]
  | some program =>
      cases first : program.firstOffset? with
      | none => simp [Interpreter.registers, found, first]
      | some offset =>
          simp [Interpreter.registers, found, first, ActiveScript.start, ActiveScript.state,
            Activity.script?, Activity.status]

theorem setPendingJump_registers (interpreter : Interpreter) (target : UInt32) :
    interpreter.registers.setPendingJump target =
      ((interpreter.setPendingJump target).1, (interpreter.setPendingJump target).2.registers) := by
  unfold setPendingJump Interpreter.setPendingJump
  cases doing : interpreter.activity with
  | idle => simp [Interpreter.registers, doing, Activity.script?]
  | running script =>
      simp [Interpreter.registers, doing, Activity.script?, Activity.status, ActiveScript.state]
  | terminated script =>
      simp [Interpreter.registers, doing, Activity.script?, Activity.status, ActiveScript.state]

/-- Both machines move a running script on in the same way. -/
theorem advance_registers (running : interpreter.activity = .running script) :
    interpreter.registers.advance =
      ((interpreter.advance script .advanced).1,
        (interpreter.advance script .advanced).2.registers) := by
  unfold advance Interpreter.advance ActiveScript.nextOffset?
  cases next : script.program.instructions.next? script.offset with
  | none =>
      simp [Interpreter.registers, running, Activity.script?, Activity.status,
        ActiveScript.state, next]
  | some entry =>
      simp [Interpreter.registers, running, Activity.script?, Activity.status,
        ActiveScript.state, next]

/-- Both machines fetch a literal in the same way. -/
theorem fetch_registers
    (running : interpreter.activity = .running script)
    {instruction : Instruction}
    {value : Int32}
    (literal : instruction.literal? = some value) :
    interpreter.registers.fetch script.state value =
      ((interpreter.execute script instruction).1,
        (interpreter.execute script instruction).2.registers) := by
  rw [Interpreter.execute_of_literal literal]
  unfold fetch ActiveScript.fetch
  cases written : script.stack.set? script.stackPointer value with
  | none =>
      have noSlot := OperandStack.set?_eq_none_iff.mp written
      rw [if_neg]
      · simp [ActiveScript.state]
      · simpa [ActiveScript.state] using noSlot
  | some stack =>
      have inside : script.stackPointer < script.stack.capacity := by
        apply Nat.lt_of_not_le
        intro noSlot
        rw [OperandStack.set?_eq_none_iff.mpr noSlot] at written
        contradiction
      rw [if_pos]
      · have fetched :
            { interpreter.registers with
              state? := some { script.state with
                stack := script.state.stack.set script.state.stackPointer value } } =
              ({ interpreter with activity := .running { script with stack } } :
                Interpreter).registers := by
          simp [Interpreter.registers, running, Activity.script?, Activity.status,
            ActiveScript.state, OperandStack.toList_of_set?_eq_some written]
        rw [fetched, advance_registers rfl, Interpreter.advance_activity]
      · simpa [ActiveScript.state] using inside

/-- Both machines end a script, or let it go on at its pending jump, in the same way. -/
theorem stop_registers (running : interpreter.activity = .running script) :
    interpreter.registers.execute script.state .stopScript =
      ((interpreter.stop script).1, (interpreter.stop script).2.registers) := by
  unfold execute Interpreter.stop
  cases pending : script.pendingJump? with
  | none =>
      simp [Interpreter.registers, running, Activity.script?, Activity.status,
        ActiveScript.state, pending]
  | some target =>
      simp [Interpreter.registers, running, Activity.script?, Activity.status,
        ActiveScript.state, pending]

/-- Both machines execute an instruction in the same way. -/
theorem execute_registers
    (running : interpreter.activity = .running script)
    (instruction : Instruction) :
    interpreter.registers.execute script.state instruction =
      ((interpreter.execute script instruction).1,
        (interpreter.execute script instruction).2.registers) := by
  unfold execute
  split
  next => exact stop_registers running
  next => exact advance_registers running
  next => exact fetch_registers running rfl
  next => exact fetch_registers running rfl
  next => exact fetch_registers running rfl
  next notStop notNoop notByte notWord notLong =>
    have noLiteral := Instruction.literal?_eq_none notByte notWord notLong
    rw [Interpreter.execute_of_not_isHandled notStop notNoop noLiteral, advance_registers running]
    unfold Interpreter.advance
    cases script.nextOffset? with
    | none => rfl
    | some offset => rfl

/-- An interpreter whose registers say that it is running is stepping through a script. -/
theorem exists_running_of_status
    (running : interpreter.registers.status = .running) :
    ∃ script, interpreter.activity = .running script := by
  cases doing : interpreter.activity with
  | running script => exact ⟨script, rfl⟩
  | idle => simp [Interpreter.registers, doing, Activity.status] at running
  | terminated script => simp [Interpreter.registers, doing, Activity.status] at running

/-- Both machines look at the same instruction. -/
theorem currentInstruction?_registers (interpreter : Interpreter) :
    interpreter.registers.currentInstruction? = interpreter.currentInstruction? := by
  unfold currentInstruction? Interpreter.registers Interpreter.currentInstruction?
  cases interpreter.activity.script? with
  | none => rfl
  | some script => rfl

/-- Both machines take a step in the same way. -/
theorem step_registers (interpreter : Interpreter) :
    interpreter.registers.step = (interpreter.step.1, interpreter.step.2.registers) := by
  unfold step Interpreter.step
  cases doing : interpreter.activity with
  | idle => simp [inactiveError?, Interpreter.registers, doing, Activity.status]
  | terminated script =>
      simp [inactiveError?, Interpreter.registers, doing, Activity.status, Activity.script?,
        ActiveScript.state]
  | running script =>
      have active : interpreter.registers.inactiveError? = none := by
        simp [inactiveError?, Interpreter.registers, doing, Activity.status, Activity.script?]
      have program : interpreter.registers.program? = some script.program := by
        simp [Interpreter.registers, doing, Activity.script?]
      have state : interpreter.registers.state? = some script.state := by
        simp [Interpreter.registers, doing, Activity.script?]
      simp only [active, program, state]
      change (match script.instruction? with
        | some instruction => interpreter.registers.execute script.state instruction
        | none => _) = _
      cases script.instruction? with
      | none => rfl
      | some instruction => exact execute_registers doing instruction

/-- Both machines run in the same way. -/
theorem runFrom_registers (maxSteps taken remaining : Nat) (interpreter : Interpreter) :
    runFrom maxSteps taken remaining interpreter.registers =
      ((Interpreter.runFrom maxSteps taken remaining interpreter).1,
        (Interpreter.runFrom maxSteps taken remaining interpreter).2.registers) := by
  induction remaining generalizing taken interpreter with
  | zero => rfl
  | succ remaining inductionHypothesis =>
      rw [runFrom, Interpreter.runFrom, step_registers]
      rcases interpreter.step with ⟨result, next⟩
      cases result with
      | ok outcome => exact inductionHypothesis (taken + 1) next
      | error cause =>
          cases cause
          all_goals rfl

theorem runUntilStop_registers (interpreter : Interpreter) (maxSteps : Nat) :
    interpreter.registers.runUntilStop maxSteps =
      ((interpreter.runUntilStop maxSteps).1, (interpreter.runUntilStop maxSteps).2.registers) := by
  have run := runFrom_registers maxSteps 0 maxSteps interpreter
  unfold runUntilStop Interpreter.runUntilStop
  cases doing : interpreter.activity with
  | terminated script => simp [Interpreter.registers, doing, Activity.status]
  | idle => simpa [Interpreter.registers, doing, Activity.status] using run
  | running script => simpa [Interpreter.registers, doing, Activity.status] using run

/-- Both machines carry a command out in the same way. -/
theorem perform_registers (interpreter : Interpreter) (command : Command) :
    interpreter.registers.perform command =
      ((interpreter.perform command).1, (interpreter.perform command).2.registers) := by
  cases command with
  | switchProgram id =>
      simp only [perform, Interpreter.perform, switchProgram_registers]
  | setPendingJump target =>
      simp only [perform, Interpreter.perform, setPendingJump_registers]
  | step => simp only [perform, Interpreter.perform, step_registers]
  | runUntilStop maxSteps => simp only [perform, Interpreter.perform, runUntilStop_registers]

/-- Both machines are led to the same registers. -/
theorem after_eq (database : Database) (stackCapacity : Nat) (commands : List Command) :
    after database stackCapacity commands =
      (Session.after database stackCapacity commands).interpreter.registers := by
  have inStep (session : Session) :
      commands.foldl (fun registers command => (registers.perform command).2)
          session.interpreter.registers =
        (commands.foldl Session.perform session).interpreter.registers := by
    induction commands generalizing session with
    | nil => rfl
    | cons command rest inductionHypothesis =>
        rw [List.foldl_cons, List.foldl_cons, perform_registers]
        exact inductionHypothesis (session.perform command)
  exact inStep (Session.start database stackCapacity)

end Registers

end AdventureArchive
