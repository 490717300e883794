import AdventureArchive.Database
import AdventureArchive.Interpreter.OperandStack
import AdventureArchive.Log

namespace AdventureArchive

/-!
# Stepping through scripts

An interpreter works on one program of a database at a time.  It is idle until
it has switched to a program, then it runs, and once the script has ended it
stays terminated until the next switch.

Of the instruction set only the end of a script, the empty instruction and the
literal fetches have an effect so far; all others are reported and passed over.
`Interpreter.step` returns what came of a step beside the interpreter it leaves
behind, so that a failed step shows that nothing has changed.
-/

/-- Why an operation of the interpreter failed. -/
inductive InterpreterError where
  | noActiveProgram
  | unknownProgram (id : UInt16)
  | emptyProgram (id : UInt16)
  | unknownOffset (program : UInt16) (offset : UInt32)
  | endOfScript (program : UInt16)
  | stackOverflow (pointer capacity : Nat)
  | stepLimitExceeded (maxSteps : Nat)
  deriving Repr, DecidableEq

/-- The wording of an interpreter error. -/
def InterpreterError.message : InterpreterError → String
  | .noActiveProgram => "no program is active"
  | .unknownProgram id => s!"program {id} is not loaded"
  | .emptyProgram id => s!"program {id} has no instructions"
  | .unknownOffset program offset =>
      s!"program {program} has no instruction at offset {offset}"
  | .endOfScript program => s!"program {program} reached the end of its script"
  | .stackOverflow pointer capacity =>
      s!"stack pointer {pointer} is outside the {capacity}-slot stack"
  | .stepLimitExceeded maxSteps => s!"program did not stop within {maxSteps} steps"

/-- What a step came to. -/
inductive StepOutcome where
  | advanced (offset : UInt32)
  | returned (target : UInt32)
  | unhandled (offset : UInt32) (instruction : Instruction)
  deriving Repr, DecidableEq

/-- A program being stepped through. -/
structure ActiveScript where
  id : UInt16
  program : Program
  offset : UInt32
  pendingJump? : Option UInt32
  stack : OperandStack
  stackPointer : Nat
  deriving DecidableEq

namespace ActiveScript

/-- A script at an offset, with a stack of zeros. -/
def start
    (id : UInt16)
    (program : Program)
    (entry : UInt32)
    (stackCapacity : Nat) :
    ActiveScript where
  id := id
  program := program
  offset := entry
  pendingJump? := none
  stack := .zeroed stackCapacity
  stackPointer := 0

/-- The instruction at the current offset. -/
def instruction? (script : ActiveScript) : Option Instruction :=
  script.program.instructions.get? script.offset

/-- The offset of the instruction behind the current one. -/
def nextOffset? (script : ActiveScript) : Option UInt32 :=
  (script.program.instructions.next? script.offset).map Prod.fst

/-- The value in the slot the stack pointer addresses. -/
def top? (script : ActiveScript) : Option Int32 :=
  script.stack.get? script.stackPointer

/--
Puts a literal into the slot the stack pointer addresses.  The pointer stays,
so the next literal replaces this one.
-/
def fetch (script : ActiveScript) (value : Int32) : Except InterpreterError ActiveScript :=
  match script.stack.set? script.stackPointer value with
  | some stack => .ok { script with stack := stack }
  | none => .error (.stackOverflow script.stackPointer script.stack.capacity)

end ActiveScript

/-- What an interpreter is doing. -/
inductive Activity where
  | idle
  | running (script : ActiveScript)
  | terminated (script : ActiveScript)
  deriving DecidableEq

namespace Activity

/-- The script that is or was stepped through last. -/
def script? : Activity → Option ActiveScript
  | .idle => none
  | .running script => some script
  | .terminated script => some script

/-- The name of the activity in structured output. -/
def name : Activity → String
  | .idle => "idle"
  | .running _ => "running"
  | .terminated _ => "terminated"

end Activity

/-- A stepper over the programs of a database. -/
structure Interpreter where
  database : Database
  stackCapacity : Nat
  activity : Activity

namespace Interpreter

/-- An interpreter that has not switched to a program yet. -/
def ofDatabase (database : Database) (stackCapacity : Nat) : Interpreter :=
  ⟨database, stackCapacity, .idle⟩

/-- The instruction the next step will look at. -/
def currentInstruction? (interpreter : Interpreter) : Option Instruction :=
  interpreter.activity.script?.bind ActiveScript.instruction?

/-- The script that a switch to a program would start. -/
def entry
    (interpreter : Interpreter)
    (id : UInt16) :
    Except InterpreterError ActiveScript :=
  match interpreter.database.programs.get? id with
  | none => .error (.unknownProgram id)
  | some program =>
      match program.firstOffset? with
      | none => .error (.emptyProgram id)
      | some offset =>
          .ok (.start id program offset interpreter.stackCapacity)

/-- Makes a program the active one, at its first instruction. -/
def switchProgram
    (interpreter : Interpreter)
    (id : UInt16) :
    Except InterpreterError Unit × Interpreter :=
  match interpreter.entry id with
  | .ok script => (.ok (), { interpreter with activity := .running script })
  | .error cause => (.error cause, interpreter)

/-- Sets where the next end of the script resumes instead of terminating. -/
def setPendingJump
    (interpreter : Interpreter)
    (target : UInt32) :
    Except InterpreterError Unit × Interpreter :=
  match interpreter.activity with
  | .idle => (.error .noActiveProgram, interpreter)
  | .running script =>
      (.ok (), { interpreter with
        activity := .running { script with pendingJump? := some target } })
  | .terminated script =>
      (.ok (), { interpreter with
        activity := .terminated { script with pendingJump? := some target } })

/-- Moves a script on to its next instruction, or ends it if there is none. -/
def advance
    (interpreter : Interpreter)
    (script : ActiveScript)
    (outcome : UInt32 → StepOutcome) :
    Except InterpreterError StepOutcome × Interpreter :=
  match script.nextOffset? with
  | some offset =>
      (.ok (outcome offset), { interpreter with
        activity := .running { script with offset := offset } })
  | none =>
      (.error (.endOfScript script.id), { interpreter with
        activity := .terminated script })

/-- Ends a script, unless a pending jump says where it goes on. -/
def stop
    (interpreter : Interpreter)
    (script : ActiveScript) :
    Except InterpreterError StepOutcome × Interpreter :=
  match script.pendingJump? with
  | some target =>
      (.ok (.returned target), { interpreter with
        activity := .running { script with offset := target, pendingJump? := none } })
  | none =>
      (.error (.endOfScript script.id), { interpreter with
        activity := .terminated script })

/-- Executes one instruction of a running script. -/
def execute
    (interpreter : Interpreter)
    (script : ActiveScript)
    (instruction : Instruction) :
    Except InterpreterError StepOutcome × Interpreter :=
  match instruction, instruction.literal? with
  | .stopScript, _ => interpreter.stop script
  | .noop, _ => interpreter.advance script .advanced
  | _, some value =>
      match script.fetch value with
      | .ok fetched => interpreter.advance fetched .advanced
      | .error cause => (.error cause, interpreter)
  | _, none =>
      interpreter.advance script fun _ => .unhandled script.offset instruction

/-- Takes one step. -/
def step (interpreter : Interpreter) : Except InterpreterError StepOutcome × Interpreter :=
  match interpreter.activity with
  | .idle => (.error .noActiveProgram, interpreter)
  | .terminated script => (.error (.endOfScript script.id), interpreter)
  | .running script =>
      match script.instruction? with
      | none => (.error (.unknownOffset script.id script.offset), interpreter)
      | some instruction => interpreter.execute script instruction

/--
Steps until the script ends.  `taken` steps have been taken before, the last
argument says how many more may be.
-/
def runFrom
    (maxSteps taken : Nat) :
    Nat → Interpreter → Except InterpreterError Nat × Interpreter
  | 0, interpreter => (.error (.stepLimitExceeded maxSteps), interpreter)
  | remaining + 1, interpreter =>
      match interpreter.step with
      | (.ok _, next) => runFrom maxSteps (taken + 1) remaining next
      | (.error (.endOfScript _), last) => (.ok (taken + 1), last)
      | (.error cause, last) => (.error cause, last)

/--
Steps until the script ends and counts the steps, the ending one included.  A
script that has ended already takes none.
-/
def runUntilStop
    (interpreter : Interpreter)
    (maxSteps : Nat) :
    Except InterpreterError Nat × Interpreter :=
  match interpreter.activity with
  | .terminated _ => (.ok 0, interpreter)
  | _ => runFrom maxSteps 0 maxSteps interpreter

end Interpreter

end AdventureArchive
