import AdventureArchive.Interpreter.Log
import AdventureArchive.Text.Columns

namespace AdventureArchive

/-!
# Traces

A trace runs one program from its first instruction to its end and records
every step: where it was, which instruction it looked at, and what came of it.
-/

/-- One recorded step; the step that ends the script has no outcome. -/
structure TraceStep where
  offset : UInt32
  instruction? : Option Instruction
  outcome? : Option StepOutcome
  deriving Repr, DecidableEq

/-- A recorded step as a listing shows it. -/
def TraceStep.text (step : TraceStep) : String :=
  let instruction :=
    match step.instruction? with
    | some instruction => instruction.text
    | none => "<none>"
  let outcome :=
    match step.outcome? with
    | some (.advanced offset) => "-> " ++ Columns.offsetText offset
    | some (.returned target) => "return " ++ Columns.offsetText target
    | some (.unhandled _ _) => "unhandled"
    | none => "end"
  Columns.offsetText step.offset ++ "  " ++ Columns.alignLeft 36 instruction ++
    " " ++ outcome

/-- The steps of one program. -/
structure ProgramTrace where
  program : UInt16
  steps : List TraceStep
  deriving Repr, DecidableEq

namespace ProgramTrace

/-- Number of steps whose instruction has no effect of its own. -/
def unhandled (trace : ProgramTrace) : Nat :=
  trace.steps.countP fun step =>
    match step.outcome? with
    | some (.unhandled _ _) => true
    | _ => false

end ProgramTrace

namespace Interpreter

/-- What a recorded step shows of the interpreter before it. -/
def observe
    (interpreter : Interpreter)
    (outcome? : Option StepOutcome) :
    TraceStep where
  offset := (interpreter.activity.script?.map ActiveScript.offset).getD 0
  instruction? := interpreter.currentInstruction?
  outcome? := outcome?

/-- Records steps behind those recorded before, until the script ends. -/
def traceOnto
    (maxSteps : Nat)
    (recorded : Array TraceStep) :
    Nat → Interpreter → Except InterpreterError (Array TraceStep)
  | 0, _ => .error (.stepLimitExceeded maxSteps)
  | remaining + 1, interpreter =>
      match interpreter.step with
      | (.ok outcome, next) =>
          traceOnto maxSteps
            (recorded.push (interpreter.observe (some outcome))) remaining next
      | (.error (.endOfScript _), _) =>
          .ok (recorded.push (interpreter.observe none))
      | (.error cause, _) => .error cause

/-- The trace of a program, which has to end within the given number of steps. -/
def traceProgram
    (database : Database)
    (id : UInt16)
    (stackCapacity maxSteps : Nat) :
    Except InterpreterError ProgramTrace :=
  match (ofDatabase database stackCapacity).switchProgram id with
  | (.ok (), interpreter) =>
      (traceOnto maxSteps #[] maxSteps interpreter).map fun steps =>
        ⟨id, steps.toList⟩
  | (.error cause, _) => .error cause

/-- What is said while tracing a program. -/
def traceLog
    (database : Database)
    (id : UInt16)
    (stackCapacity maxSteps : Nat) :
    List LogRecord :=
  let interpreter := ofDatabase database stackCapacity
  interpreter.switchLog id ++ (interpreter.switchProgram id).2.runLog maxSteps

end Interpreter

end AdventureArchive
