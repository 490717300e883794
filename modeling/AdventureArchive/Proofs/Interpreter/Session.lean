import AdventureArchive.Proofs.Fallible
import AdventureArchive.Proofs.Interpreter.Step
import Mathlib.Data.List.DropRight

namespace AdventureArchive

/-!
# Sessions

A session is an interpreter that is given one command after another, with a
history of what has happened in it: the programs that have become active, the
jumps that have been set, and the instructions that have been executed, with
what came of each.  The history is only kept to speak about the past; no command
looks at it.
-/

/-- What an interpreter can be told to do. -/
inductive Command where
  | switchProgram (id : UInt16)
  | setPendingJump (target : UInt32)
  | step
  | runUntilStop (maxSteps : Nat)
  deriving Repr, DecidableEq

/-- What a command returns. -/
inductive Reply where
  | switched (result : Except InterpreterError Unit)
  | jumpSet (result : Except InterpreterError Unit)
  | stepped (result : Except InterpreterError StepOutcome)
  | ran (result : Except InterpreterError Nat)

/-- The error that a command returns, if it fails. -/
def Reply.error? : Reply → Option InterpreterError
  | .switched result => result.fault?
  | .jumpSet result => result.fault?
  | .stepped result => result.fault?
  | .ran result => result.fault?

/-- What can happen in a session. -/
inductive Event where
  | switched (id : UInt16)
  | jumpSet (target : UInt32)
  | executed (instruction : Instruction) (result : Except InterpreterError StepOutcome)

namespace Event

/-- Whether another program has become the active one. -/
def isSwitch : Event → Bool
  | .switched _ => true
  | _ => false

/-- The literal of the instruction that has been executed, if it fetches one. -/
def literal? : Event → Option Int32
  | .executed instruction _ => instruction.literal?
  | _ => none

/-- Where an execution has returned to. -/
def target? : Event → Option UInt32
  | .executed _ (.ok (.returned target)) => some target
  | _ => none

end Event

/-! ## Histories -/

section Histories

variable {history : List Event}

/-- What has happened since the last switch to a program. -/
def sinceSwitch (history : List Event) : List Event :=
  history.rtakeWhile fun event => !event.isSwitch

/-- The literal that has been fetched last since the last switch, or zero. -/
def lastLiteral (history : List Event) : Int32 :=
  ((sinceSwitch history).filterMap Event.literal?).getLast?.getD 0

/-- Where executions have returned to since the last switch. -/
def returnTargets (history : List Event) : List UInt32 :=
  (sinceSwitch history).filterMap Event.target?

/-- A switch is the beginning of another history. -/
theorem sinceSwitch_switched (id : UInt16) : sinceSwitch (history ++ [.switched id]) = [] :=
  List.rtakeWhile_concat_neg _ _ _ (by simp [Event.isSwitch])

/-- Whatever else happens belongs to the history since the last switch. -/
theorem sinceSwitch_append
    {event : Event}
    (noSwitch : event.isSwitch = false) :
    sinceSwitch (history ++ [event]) = sinceSwitch history ++ [event] :=
  List.rtakeWhile_concat_pos _ _ _ (by simp [noSwitch])

/-- After a switch no literal has been fetched yet. -/
theorem lastLiteral_switched (id : UInt16) : lastLiteral (history ++ [.switched id]) = 0 := by
  rw [lastLiteral, sinceSwitch_switched]
  rfl

/-- A literal that is fetched is the last one; all else leaves the last one as it is. -/
theorem lastLiteral_append
    {event : Event}
    (noSwitch : event.isSwitch = false) :
    lastLiteral (history ++ [event]) = event.literal?.getD (lastLiteral history) := by
  rw [lastLiteral, sinceSwitch_append noSwitch, List.filterMap_append]
  cases literal : event.literal? with
  | none => simp [literal, lastLiteral]
  | some value => simp [literal]

/-- Where an execution returns to is added to the targets. -/
theorem returnTargets_append
    {event : Event}
    (noSwitch : event.isSwitch = false) :
    returnTargets (history ++ [event]) = returnTargets history ++ event.target?.toList := by
  rw [returnTargets, sinceSwitch_append noSwitch, List.filterMap_append]
  cases target : event.target? with
  | none => simp [target, returnTargets]
  | some offset => simp [target, returnTargets]

end Histories

/-! ## Commands -/

/-- What happens in a step with the given result: the current instruction is executed. -/
def Activity.stepEvents
    (activity : Activity)
    (result : Except InterpreterError StepOutcome) : List Event :=
  match activity with
  | .running script => (script.instruction?.map (.executed · result)).toList
  | _ => []

/-- The current instruction of a running script is executed. -/
theorem Activity.stepEvents_of_current
    {script : ActiveScript}
    {instruction : Instruction}
    (current : script.instruction? = some instruction)
    (result : Except InterpreterError StepOutcome) :
    (Activity.running script).stepEvents result = [.executed instruction result] := by
  rw [stepEvents, current, Option.map_some, Option.toList_some]

/-- Where there is no instruction, none is executed. -/
theorem Activity.stepEvents_of_lost
    {script : ActiveScript}
    (nothingThere : script.instruction? = none)
    (result : Except InterpreterError StepOutcome) :
    (Activity.running script).stepEvents result = [] := by
  rw [stepEvents, nothingThere, Option.map_none, Option.toList_none]

namespace Interpreter

/-- A script is entered at the first instruction of a program that is loaded. -/
theorem entry_eq_ok_iff
    {interpreter : Interpreter}
    {id : UInt16}
    {script : ActiveScript} :
    interpreter.entry id = .ok script ↔
      ∃ program offset, interpreter.database.programs.get? id = some program ∧
        program.firstOffset? = some offset ∧
        script = .start id program offset interpreter.stackCapacity := by
  unfold entry
  cases interpreter.database.programs.get? id with
  | none => simp
  | some program =>
      cases first : program.firstOffset? with
      | none => simp [first]
      | some offset => simp [first, eq_comm]

/-- What happens in the next step. -/
def stepEvents (interpreter : Interpreter) : List Event :=
  interpreter.activity.stepEvents interpreter.step.1

/-- What happens in a number of steps, which end with the first that fails. -/
def runEvents : Nat → Interpreter → List Event
  | 0, _ => []
  | remaining + 1, interpreter =>
      interpreter.stepEvents ++
        match interpreter.step with
        | (.ok _, next) => runEvents remaining next
        | (.error _, _) => []

/-- An interpreter whose script has ended does nothing more. -/
theorem runEvents_of_terminated
    {interpreter : Interpreter}
    {script : ActiveScript}
    (terminated : interpreter.activity = .terminated script)
    (remaining : Nat) :
    interpreter.runEvents remaining = [] := by
  cases remaining with
  | zero => rfl
  | succ remaining =>
      have stepped : interpreter.step = (.error (.endOfScript script.id), interpreter) := by
        rw [Interpreter.step, terminated]
      rw [Interpreter.runEvents, stepped, Interpreter.stepEvents, terminated]
      rfl

/-- Carries a command out. -/
def perform (interpreter : Interpreter) : Command → Reply × Interpreter
  | .switchProgram id =>
      let (result, next) := interpreter.switchProgram id
      (.switched result, next)
  | .setPendingJump target =>
      let (result, next) := interpreter.setPendingJump target
      (.jumpSet result, next)
  | .step =>
      let (result, next) := interpreter.step
      (.stepped result, next)
  | .runUntilStop maxSteps =>
      let (result, next) := interpreter.runUntilStop maxSteps
      (.ran result, next)

/-- What happens while a command is carried out. -/
def events (interpreter : Interpreter) : Command → List Event
  | .switchProgram id =>
      match (interpreter.switchProgram id).1 with
      | .ok () => [.switched id]
      | .error _ => []
  | .setPendingJump target =>
      match (interpreter.setPendingJump target).1 with
      | .ok () => [.jumpSet target]
      | .error _ => []
  | .step => interpreter.stepEvents
  | .runUntilStop maxSteps => interpreter.runEvents maxSteps

end Interpreter

/-- An interpreter and what has happened to it so far. -/
structure Session where
  interpreter : Interpreter
  history : List Event

namespace Session

/-- A session in which nothing has happened yet. -/
def start (database : Database) (stackCapacity : Nat) : Session :=
  ⟨.ofDatabase database stackCapacity, []⟩

/-- The session after one more command. -/
def perform (session : Session) (command : Command) : Session :=
  ⟨(session.interpreter.perform command).2,
    session.history ++ session.interpreter.events command⟩

/-- The session that a list of commands leads to. -/
def after
    (database : Database)
    (stackCapacity : Nat)
    (commands : List Command) : Session :=
  commands.foldl perform (start database stackCapacity)

end Session

end AdventureArchive
