import AdventureArchive.Interpreter

namespace AdventureArchive.Interpreter

/-!
# What is said while stepping

A switch names the program and its entry, a step names the instruction it looks
at, and an instruction without effect is remarked upon.
-/

/-- Whether an instruction has an effect of its own. -/
def isHandled (instruction : Instruction) : Bool :=
  instruction == .stopScript || instruction == .noop || instruction.literal?.isSome

/-- What is said when switching to a program. -/
def switchLog (interpreter : Interpreter) (id : UInt16) : List LogRecord :=
  match interpreter.entry id with
  | .ok script =>
      [⟨.debug, s!"switching to program {id} at offset {script.offset}"⟩]
  | .error _ => []

/-- What is said during the next step. -/
def stepLog (interpreter : Interpreter) : List LogRecord :=
  match interpreter.activity with
  | .running script =>
      match script.instruction? with
      | some instruction =>
          ⟨.trace, s!"program {script.id} @{script.offset}: {instruction.text}"⟩ ::
            if isHandled instruction then
              []
            else
              [⟨.warn, s!"unhandled instruction {instruction.text} " ++
                s!"at offset {script.offset} in program {script.id}"⟩]
      | none => []
  | _ => []

/-- What is said during a number of steps, behind what was said before. -/
def runLogOnto
    (said : Array LogRecord) :
    Nat → Interpreter → Array LogRecord
  | 0, _ => said
  | remaining + 1, interpreter =>
      let said := said ++ interpreter.stepLog.toArray
      match interpreter.step with
      | (.ok _, next) => runLogOnto said remaining next
      | (.error _, _) => said

/-- What is said while running until the script ends. -/
def runLog (interpreter : Interpreter) (maxSteps : Nat) : List LogRecord :=
  (runLogOnto #[] maxSteps interpreter).toList

end AdventureArchive.Interpreter
