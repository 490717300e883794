import AdventureArchive.Proofs.Interpreter.Session

namespace AdventureArchive

/-!
# What sessions reach

Whatever commands a session is given, its interpreter is reached by switches and
jumps that succeed and by single steps (`Session.reached_after`): a run is its
steps, and a command that fails does nothing.  What has to hold in every session
is shown by induction along `Interpreter.Reached`, action by action.
-/

namespace Interpreter

/-- The interpreters that can be reached, next to what has happened on the way. -/
inductive Reached
    (database : Database)
    (stackCapacity : Nat) : List Event → Interpreter → Prop where
  | start : Reached database stackCapacity [] (.ofDatabase database stackCapacity)
  | switched {history : List Event} {interpreter next : Interpreter} {id : UInt16}
      (reached : Reached database stackCapacity history interpreter)
      (succeeds : interpreter.switchProgram id = (.ok (), next)) :
      Reached database stackCapacity (history ++ [.switched id]) next
  | jumpSet {history : List Event} {interpreter next : Interpreter} {target : UInt32}
      (reached : Reached database stackCapacity history interpreter)
      (succeeds : interpreter.setPendingJump target = (.ok (), next)) :
      Reached database stackCapacity (history ++ [.jumpSet target]) next
  | stepped {history : List Event} {interpreter : Interpreter}
      (reached : Reached database stackCapacity history interpreter) :
      Reached database stackCapacity (history ++ interpreter.stepEvents) interpreter.step.2

variable
  {database : Database}
  {stackCapacity : Nat}
  {history : List Event}
  {interpreter : Interpreter}

/-- A switch that fails leaves the interpreter as it was. -/
theorem eq_of_switchProgram_error
    {next : Interpreter}
    {id : UInt16}
    {cause : InterpreterError}
    (failed : interpreter.switchProgram id = (.error cause, next)) :
    next = interpreter := by
  unfold switchProgram at failed
  split at failed
  next => simp at failed
  next => exact (Prod.mk.inj failed).2.symm

/-- A switch that succeeds starts a script of the program. -/
theorem eq_of_switchProgram
    {next : Interpreter}
    {id : UInt16}
    (succeeds : interpreter.switchProgram id = (.ok (), next)) :
    ∃ program offset,
      next = { interpreter with
        activity := .running (.start id program offset interpreter.stackCapacity) } := by
  unfold switchProgram at succeeds
  split at succeeds
  next script entered =>
    obtain ⟨program, offset, -, -, rfl⟩ := entry_eq_ok_iff.mp entered
    exact ⟨program, offset, (Prod.mk.inj succeeds).2.symm⟩
  next => simp at succeeds

/-- A jump cannot be set only where no program has ever been active; nothing changes then. -/
theorem eq_of_setPendingJump_error
    {next : Interpreter}
    {target : UInt32}
    {cause : InterpreterError}
    (failed : interpreter.setPendingJump target = (.error cause, next)) :
    next = interpreter := by
  unfold setPendingJump at failed
  split at failed
  next => exact (Prod.mk.inj failed).2.symm
  next => simp at failed
  next => simp at failed

/-- The steps of a run are reached one after the other. -/
theorem Reached.runFrom
    (reached : Reached database stackCapacity history interpreter)
    (maxSteps taken remaining : Nat) :
    Reached database stackCapacity (history ++ interpreter.runEvents remaining)
      (Interpreter.runFrom maxSteps taken remaining interpreter).2 := by
  induction remaining generalizing taken history interpreter with
  | zero =>
      rw [Interpreter.runEvents, List.append_nil]
      exact reached
  | succ remaining inductionHypothesis =>
      have stepped := reached.stepped
      rw [Interpreter.runFrom, Interpreter.runEvents, ← List.append_assoc]
      generalize interpreter.step = came at stepped
      rcases came with ⟨cause | outcome, next⟩
      · rw [List.append_nil]
        cases cause with
        | _ => exact stepped
      · exact inductionHypothesis stepped (taken + 1)

/-- A run until the script ends is reached in its steps, if it takes any. -/
theorem Reached.runUntilStop
    (reached : Reached database stackCapacity history interpreter)
    (maxSteps : Nat) :
    Reached database stackCapacity (history ++ interpreter.runEvents maxSteps)
      (interpreter.runUntilStop maxSteps).2 := by
  unfold Interpreter.runUntilStop
  split
  next script terminated =>
    rw [runEvents_of_terminated terminated, List.append_nil]
    exact reached
  next => exact reached.runFrom maxSteps 0 maxSteps

/-- What a command comes to is reached. -/
theorem Reached.perform
    (reached : Reached database stackCapacity history interpreter)
    (command : Command) :
    Reached database stackCapacity (history ++ interpreter.events command)
      (interpreter.perform command).2 := by
  cases command with
  | switchProgram id =>
      rw [events, Interpreter.perform]
      match switched : interpreter.switchProgram id with
      | (.ok (), next) => exact reached.switched switched
      | (.error cause, next) =>
          obtain rfl := eq_of_switchProgram_error switched
          rw [List.append_nil]
          exact reached
  | setPendingJump target =>
      rw [events, Interpreter.perform]
      match jumpSet : interpreter.setPendingJump target with
      | (.ok (), next) => exact reached.jumpSet jumpSet
      | (.error cause, next) =>
          obtain rfl := eq_of_setPendingJump_error jumpSet
          rw [List.append_nil]
          exact reached
  | step => exact reached.stepped
  | runUntilStop maxSteps => exact reached.runUntilStop maxSteps

end Interpreter

/-- The interpreter of every session is reached. -/
theorem Session.reached_after
    (database : Database)
    (stackCapacity : Nat)
    (commands : List Command) :
    Interpreter.Reached database stackCapacity (after database stackCapacity commands).history
      (after database stackCapacity commands).interpreter := by
  induction commands using List.reverseRecOn with
  | nil => exact .start
  | append_singleton commands command inductionHypothesis =>
      rw [after, List.foldl_append]
      exact inductionHypothesis.perform command

end AdventureArchive
