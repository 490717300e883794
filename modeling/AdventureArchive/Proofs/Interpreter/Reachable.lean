import AdventureArchive.Proofs.Interpreter.Registers
import AdventureArchive.Proofs.SortedMap

namespace AdventureArchive

/-!
# What holds in every session

Whatever commands an interpreter is given, its registers agree with each other
and with what has happened (`Registers.coherent_after`).  The state of the active
program is told by `ActiveState`, which every single step preserves
(`activeStates_of_stepOf`); a run is its steps.

Two of the errors tell something about the past: `StackOverflow` about the
configuration and `UnknownOffset` about a jump that has been taken.
-/

/--
What the state of the active program has to be after what has happened.  The
stack is all zeros but for the lowest slot, if there is one, which holds the
literal that has been fetched last.
-/
structure ActiveState
    (database : Database)
    (stackCapacity : Nat)
    (history : List Event)
    (program : Program)
    (state : ProgramState) : Prop where
  loaded : database.programs.get? state.program = some program
  nonempty : program.instructions.toList ≠ []
  stackPointer : state.stackPointer = 0
  stack : state.stack = (List.replicate stackCapacity 0).set 0 (lastLiteral history)
  offset :
    state.offset ∈ program.instructions.keys ∨ state.offset ∈ returnTargets history

/-- What the registers have to be after what has happened. -/
structure Registers.Coherent
    (database : Database)
    (stackCapacity : Nat)
    (history : List Event)
    (registers : Registers) : Prop where
  sameDatabase : registers.database = database
  sameCapacity : registers.stackCapacity = stackCapacity
  idle_iff :
    registers.status = .idle ↔ registers.state? = none ∧ registers.program? = none
  active :
    registers.status ≠ .idle →
      ∃ program state, registers.program? = some program ∧ registers.state? = some state ∧
        ActiveState database stackCapacity history program state

/-- What an error says about the configuration and about what has happened. -/
def Justified (stackCapacity : Nat) (history : List Event) : InterpreterError → Prop
  | .stackOverflow _ _ => stackCapacity = 0
  | .unknownOffset _ offset => offset ∈ returnTargets history
  | _ => True

/-! ## Steps -/

section Steps

variable {database : Database} {stackCapacity : Nat} {history : List Event}

/-- What has to hold of the script that an interpreter works on, if there is one. -/
def ActiveStates
    (database : Database)
    (stackCapacity : Nat)
    (history : List Event)
    (activity : Activity) : Prop :=
  ∀ script, activity.script? = some script →
    ActiveState database stackCapacity history script.program script.state

/-- Whatever is executed, the targets of the past stay targets. -/
theorem mem_returnTargets_executed
    {offset : UInt32}
    (member : offset ∈ returnTargets history)
    (instruction : Instruction)
    (result : Except InterpreterError StepOutcome) :
    offset ∈ returnTargets (history ++ [.executed instruction result]) := by
  rw [returnTargets_append rfl]
  exact List.mem_append_left _ member

/-- A state stays as it should be when the literal of an instruction has been fetched. -/
theorem ActiveState.executed
    {script fetched : ActiveScript}
    (active : ActiveState database stackCapacity history script.program script.state)
    {instruction : Instruction}
    (fetches : script.Fetches instruction fetched)
    (result : Except InterpreterError StepOutcome) :
    ActiveState database stackCapacity (history ++ [.executed instruction result])
      fetched.program fetched.state := by
  have stack :
      fetched.stack.toList =
        (List.replicate stackCapacity 0).set 0
          (lastLiteral (history ++ [.executed instruction result])) := by
    have before : script.stack.toList = _ := active.stack
    rw [lastLiteral_append rfl, Event.literal?]
    unfold ActiveScript.Fetches at fetches
    split at fetches
    next value literal =>
      obtain ⟨written, isWritten, rfl⟩ := ActiveScript.fetch_eq_ok_iff.mp fetches
      have pointer : script.stackPointer = 0 := active.stackPointer
      rw [pointer] at isWritten
      rw [literal, Option.getD_some, OperandStack.toList_of_set?_eq_some isWritten, before,
        List.set_set]
    next noLiteral => rw [fetches, noLiteral, Option.getD_none, before]
  rw [ActiveScript.eq_of_fetches fetches]
  exact {
    loaded := active.loaded
    nonempty := active.nonempty
    stackPointer := active.stackPointer
    stack := stack
    offset := active.offset.imp_right fun member => mem_returnTargets_executed member _ _
  }

/-- A state that is moved to an offset it may have is as it should be. -/
theorem ActiveState.move
    {program : Program}
    {state : ProgramState}
    (active : ActiveState database stackCapacity history program state)
    {offset : UInt32}
    (allowed : offset ∈ program.instructions.keys ∨ offset ∈ returnTargets history)
    (pendingJump? : Option UInt32) :
    ActiveState database stackCapacity history program
      { state with offset, pendingJump? } :=
  ⟨active.loaded, active.nonempty, active.stackPointer, active.stack, allowed⟩

/-- A state in which a jump has been set is as it should be. -/
theorem ActiveState.jumpSet
    {program : Program}
    {state : ProgramState}
    (active : ActiveState database stackCapacity history program state)
    (target : UInt32) :
    ActiveState database stackCapacity (history ++ [.jumpSet target]) program
      { state with pendingJump? := some target } := by
  obtain ⟨loaded, nonempty, stackPointer, stack, offset⟩ := active
  refine ⟨loaded, nonempty, stackPointer, ?_, ?_⟩
  · rw [lastLiteral_append rfl]
    exact stack
  · rw [returnTargets_append rfl]
    exact offset.imp_right (List.mem_append_left _)

/-- A slot is missing only where the configuration gives the stack no slots at all. -/
theorem ActiveState.stackCapacity_eq_zero
    {script : ActiveScript}
    (active : ActiveState database stackCapacity history script.program script.state)
    {value : Int32}
    (noSlot : script.stack.set? script.stackPointer value = none) :
    stackCapacity = 0 := by
  have slots : script.stack.toList = _ := active.stack
  have pointer : script.stackPointer = 0 := active.stackPointer
  have capacity := congrArg List.length slots
  rw [OperandStack.length_toList, List.length_set, List.length_replicate] at capacity
  rw [OperandStack.set?_eq_none_iff, pointer, capacity] at noSlot
  exact Nat.le_zero.mp noSlot

/-- There is an instruction where a script stands if its offset is a key of the program. -/
theorem isSome_instruction?_iff {script : ActiveScript} :
    script.instruction?.isSome ↔ script.offset ∈ script.program.instructions.keys :=
  SortedMap.contains_iff

/-- The offset behind the current one is a key of the program. -/
theorem mem_keys_of_nextOffset?
    {script : ActiveScript}
    {offset : UInt32}
    (next : script.nextOffset? = some offset) :
    offset ∈ script.program.instructions.keys := by
  obtain ⟨entry, found, rfl⟩ := Option.map_eq_some_iff.mp next
  exact List.mem_map_of_mem (SortedMap.mem_toList_of_next? found)

/-- What comes of a step is as it should be if what there was before was. -/
theorem activeStates_of_stepOf
    {before after : Activity}
    {result : Except InterpreterError StepOutcome}
    (did : StepOf before result after)
    (active : ActiveStates database stackCapacity history before) :
    ActiveStates database stackCapacity (history ++ before.stepEvents result) after := by
  cases did with
  | idle => nofun
  | ended => simpa [Activity.stepEvents] using active
  | lost nothingThere => simpa [Activity.stepEvents, nothingThere] using active
  | @returned script target current pending =>
      rintro _ ⟨⟩
      have fetches : script.Fetches .stopScript script := rfl
      have executed := (active script rfl).executed fetches (.ok (.returned target))
      simp only [Activity.stepEvents, current, Option.map_some, Option.toList_some]
      refine executed.move (Or.inr ?_) none
      rw [returnTargets_append rfl]
      exact List.mem_append_right _ List.mem_cons_self
  | @stopped script current notPending =>
      rintro _ ⟨⟩
      simp only [Activity.stepEvents, current, Option.map_some, Option.toList_some]
      have fetches : script.Fetches .stopScript script := rfl
      exact (active script rfl).executed fetches _
  | @overflowed script instruction value current literal noSlot =>
      rintro _ ⟨⟩
      obtain rfl := (active script rfl).stackCapacity_eq_zero noSlot
      simp only [Activity.stepEvents, current, Option.map_some, Option.toList_some]
      -- Without slots there is nothing that the literal could change.
      exact {
        loaded := (active script rfl).loaded
        nonempty := (active script rfl).nonempty
        stackPointer := (active script rfl).stackPointer
        stack := (active script rfl).stack
        offset :=
          (active script rfl).offset.imp_right fun member => mem_returnTargets_executed member _ _
      }
  | @moved script fetched instruction offset current notStop fetches next =>
      rintro _ ⟨⟩
      simp only [Activity.stepEvents, current, Option.map_some, Option.toList_some]
      have executed := (active script rfl).executed fetches
        (.ok (script.outcome instruction offset))
      exact executed.move (Or.inl (mem_keys_of_nextOffset? next)) _
  | @finished script fetched instruction current notStop fetches last =>
      rintro _ ⟨⟩
      simp only [Activity.stepEvents, current, Option.map_some, Option.toList_some]
      exact (active script rfl).executed fetches _

/-- An error of a step is justified by what has happened before it. -/
theorem justified_of_stepOf
    {before after : Activity}
    {result : Except InterpreterError StepOutcome}
    (did : StepOf before result after)
    (active : ActiveStates database stackCapacity history before)
    {cause : InterpreterError}
    (failed : result = .error cause) :
    Justified stackCapacity (history ++ before.stepEvents result) cause := by
  cases did with
  | idle =>
      obtain rfl := Except.error.inj failed
      trivial
  | ended =>
      obtain rfl := Except.error.inj failed
      trivial
  | @lost script nothingThere =>
      obtain rfl := Except.error.inj failed
      have notKey : script.offset ∉ script.program.instructions.keys := by
        rw [← isSome_instruction?_iff, nothingThere]
        nofun
      simp only [Activity.stepEvents, nothingThere, Option.map_none, Option.toList_none,
        List.append_nil]
      exact (active script rfl).offset.resolve_left notKey
  | returned => contradiction
  | stopped =>
      obtain rfl := Except.error.inj failed
      trivial
  | @overflowed script instruction value current literal noSlot =>
      obtain rfl := Except.error.inj failed
      exact (active script rfl).stackCapacity_eq_zero noSlot
  | moved => contradiction
  | finished =>
      obtain rfl := Except.error.inj failed
      trivial

/-! ## Commands -/

namespace Interpreter

/-- An interpreter with its configuration and a state as it should be. -/
structure Consistent
    (database : Database)
    (stackCapacity : Nat)
    (history : List Event)
    (interpreter : Interpreter) : Prop where
  sameDatabase : interpreter.database = database
  sameCapacity : interpreter.stackCapacity = stackCapacity
  active : ActiveStates database stackCapacity history interpreter.activity

/-- What an operation has to come to: a consistent interpreter, or a justified error beside it. -/
structure Accounted
    {α : Type}
    (database : Database)
    (stackCapacity : Nat)
    (history : List Event)
    (came : Except InterpreterError α × Interpreter) : Prop where
  consistent : Consistent database stackCapacity history came.2
  justified : ∀ cause, came.1.fault? = some cause → Justified stackCapacity history cause

variable {interpreter : Interpreter}

/-- A step of a consistent interpreter is accounted for. -/
theorem Consistent.step (consistent : Consistent database stackCapacity history interpreter) :
    Accounted database stackCapacity (history ++ interpreter.stepEvents) interpreter.step := by
  have active := activeStates_of_stepOf interpreter.stepOf_step consistent.active
  constructor
  case consistent =>
    rw [interpreter.step_eq]
    exact ⟨consistent.sameDatabase, consistent.sameCapacity, active⟩
  case justified =>
    intro cause failed
    exact justified_of_stepOf interpreter.stepOf_step consistent.active
      (Except.fault?_eq_some_iff.mp failed)

/-- Any number of steps of a consistent interpreter are accounted for. -/
theorem Consistent.runFrom
    (consistent : Consistent database stackCapacity history interpreter)
    (maxSteps taken remaining : Nat) :
    Accounted database stackCapacity (history ++ interpreter.runEvents remaining)
      (Interpreter.runFrom maxSteps taken remaining interpreter) := by
  induction remaining generalizing taken history interpreter with
  | zero =>
      rw [Interpreter.runEvents, List.append_nil]
      refine ⟨consistent, ?_⟩
      rintro _ ⟨⟩
      trivial
  | succ remaining inductionHypothesis =>
      have stepped := consistent.step
      rw [Interpreter.runFrom, Interpreter.runEvents, ← List.append_assoc]
      generalize interpreter.step = came at stepped
      rcases came with ⟨cause | outcome, next⟩
      · rw [List.append_nil]
        cases cause with
        | endOfScript =>
            refine ⟨stepped.consistent, ?_⟩
            rintro _ ⟨⟩
        | _ =>
            refine ⟨stepped.consistent, ?_⟩
            rintro _ ⟨⟩
            exact stepped.justified _ rfl
      · exact inductionHypothesis stepped.consistent (taken + 1)

/-- A run until the script ends is accounted for. -/
theorem Consistent.runUntilStop
    (consistent : Consistent database stackCapacity history interpreter)
    (maxSteps : Nat) :
    Accounted database stackCapacity (history ++ interpreter.runEvents maxSteps)
      (interpreter.runUntilStop maxSteps) := by
  unfold Interpreter.runUntilStop
  split
  next script terminated =>
    rw [runEvents_of_terminated terminated, List.append_nil]
    exact ⟨consistent, nofun⟩
  next => exact consistent.runFrom maxSteps 0 maxSteps

/-- A program that has been switched to is in the state that it should be in at first. -/
theorem activeState_of_entry
    (consistent : Consistent database stackCapacity history interpreter)
    {id : UInt16}
    {script : ActiveScript}
    (entered : interpreter.entry id = .ok script) :
    ActiveState database stackCapacity (history ++ [.switched id]) script.program
      script.state := by
  obtain ⟨program, offset, loaded, first, rfl⟩ := entry_eq_ok_iff.mp entered
  obtain ⟨entry, found, rfl⟩ := Option.map_eq_some_iff.mp first
  have member := SortedMap.mem_toList_of_first? found
  exact {
    loaded := consistent.sameDatabase ▸ loaded
    nonempty := List.ne_nil_of_mem member
    stackPointer := rfl
    stack := by
      rw [lastLiteral_switched, ← consistent.sameCapacity]
      simp [ActiveScript.state, ActiveScript.start]
    offset := Or.inl (List.mem_map_of_mem member)
  }

/-- A program that cannot be switched to says nothing about what has happened. -/
theorem justified_of_entry
    {id : UInt16}
    {cause : InterpreterError}
    (refused : interpreter.entry id = .error cause) :
    Justified stackCapacity history cause := by
  unfold Interpreter.entry at refused
  split at refused
  next =>
    obtain rfl := Except.error.inj refused
    trivial
  next =>
    split at refused
    next =>
      obtain rfl := Except.error.inj refused
      trivial
    next => contradiction

/-- A switch to a program is accounted for. -/
theorem Consistent.switchProgram
    (consistent : Consistent database stackCapacity history interpreter)
    (id : UInt16) :
    Accounted database stackCapacity (history ++ interpreter.events (.switchProgram id))
      (interpreter.switchProgram id) := by
  rw [Interpreter.events]
  unfold Interpreter.switchProgram
  cases entered : interpreter.entry id with
  | error cause =>
      rw [List.append_nil]
      refine ⟨consistent, ?_⟩
      rintro _ ⟨⟩
      exact justified_of_entry entered
  | ok script =>
      refine ⟨⟨consistent.sameDatabase, consistent.sameCapacity, ?_⟩, nofun⟩
      rintro _ ⟨⟩
      exact activeState_of_entry consistent entered

/-- Setting a jump is accounted for. -/
theorem Consistent.setPendingJump
    (consistent : Consistent database stackCapacity history interpreter)
    (target : UInt32) :
    Accounted database stackCapacity (history ++ interpreter.events (.setPendingJump target))
      (interpreter.setPendingJump target) := by
  rw [Interpreter.events]
  unfold Interpreter.setPendingJump
  cases doing : interpreter.activity with
  | idle =>
      rw [List.append_nil]
      refine ⟨consistent, ?_⟩
      rintro _ ⟨⟩
      trivial
  | running script =>
      refine ⟨⟨consistent.sameDatabase, consistent.sameCapacity, ?_⟩, nofun⟩
      rintro _ ⟨⟩
      exact (consistent.active script (congrArg Activity.script? doing)).jumpSet target
  | terminated script =>
      refine ⟨⟨consistent.sameDatabase, consistent.sameCapacity, ?_⟩, nofun⟩
      rintro _ ⟨⟩
      exact (consistent.active script (congrArg Activity.script? doing)).jumpSet target

/-- A command leaves an interpreter consistent, and its errors are justified. -/
theorem Consistent.perform
    (consistent : Consistent database stackCapacity history interpreter)
    (command : Command) :
    Consistent database stackCapacity (history ++ interpreter.events command)
        (interpreter.perform command).2 ∧
      ∀ cause, (interpreter.perform command).1.error? = some cause →
        Justified stackCapacity (history ++ interpreter.events command) cause := by
  cases command with
  | switchProgram id =>
      obtain ⟨consistent, justified⟩ := consistent.switchProgram id
      exact ⟨consistent, justified⟩
  | setPendingJump target =>
      obtain ⟨consistent, justified⟩ := consistent.setPendingJump target
      exact ⟨consistent, justified⟩
  | step =>
      obtain ⟨consistent, justified⟩ := consistent.step
      exact ⟨consistent, justified⟩
  | runUntilStop maxSteps =>
      obtain ⟨consistent, justified⟩ := consistent.runUntilStop maxSteps
      exact ⟨consistent, justified⟩

end Interpreter

end Steps

/-! ## Sessions -/

/-- Every session keeps its interpreter consistent. -/
theorem Session.consistent_after
    (database : Database)
    (stackCapacity : Nat)
    (commands : List Command) :
    Interpreter.Consistent database stackCapacity (after database stackCapacity commands).history
      (after database stackCapacity commands).interpreter := by
  induction commands using List.reverseRecOn with
  | nil => exact ⟨rfl, rfl, nofun⟩
  | append_singleton commands command inductionHypothesis =>
      rw [after, List.foldl_append]
      exact (inductionHypothesis.perform command).1

/-- The registers of a consistent interpreter are coherent. -/
theorem Interpreter.Consistent.coherent_registers
    {database : Database}
    {stackCapacity : Nat}
    {history : List Event}
    {interpreter : Interpreter}
    (consistent : Interpreter.Consistent database stackCapacity history interpreter) :
    Registers.Coherent database stackCapacity history interpreter.registers := by
  refine ⟨consistent.sameDatabase, consistent.sameCapacity, ?_, ?_⟩
  · cases doing : interpreter.activity with
    | _ => simp [Interpreter.registers, doing, Activity.status, Activity.script?]
  · intro notIdle
    cases found : interpreter.activity.script? with
    | none =>
        cases doing : interpreter.activity with
        | idle => exact absurd (congrArg Activity.status doing) notIdle
        | _ =>
            rw [doing] at found
            contradiction
    | some script =>
        exact ⟨script.program, script.state, congrArg (Option.map ActiveScript.program) found,
          congrArg (Option.map ActiveScript.state) found, consistent.active script found⟩

namespace Registers

/--
After any commands the registers agree with each other and with what has
happened, and whatever the next command returns is what the session says: a
stack overflow only without any slot, an unknown offset only if it has been
returned to since the last switch.
-/
theorem coherent_after
    (database : Database)
    (stackCapacity : Nat)
    (commands : List Command) :
    let session := Session.after database stackCapacity commands
    let registers := Registers.after database stackCapacity commands
    registers = session.interpreter.registers ∧
      Registers.Coherent database stackCapacity session.history registers ∧
      ∀ command,
        (registers.perform command).1 = (session.interpreter.perform command).1 ∧
        ∀ cause, (registers.perform command).1.error? = some cause →
          Justified stackCapacity (session.perform command).history cause := by
  have consistent := Session.consistent_after database stackCapacity commands
  intro session registers
  have sameRegisters : registers = session.interpreter.registers :=
    after_eq database stackCapacity commands
  refine ⟨sameRegisters, ?_, ?_⟩
  · rw [sameRegisters]
    exact consistent.coherent_registers
  · intro command
    rw [sameRegisters, perform_registers]
    exact ⟨rfl, (consistent.perform command).2⟩

/-- A program that fetches a literal and stops, alone in its database. -/
def fetchingDatabase : Database :=
  { Database.empty with
    programs := ResourceTable.empty.insert 1
      { Program.empty with
        instructions := SortedMap.ofList [(0, .pushByte 5), (2, .stopScript)] } }

/-- A jump to an offset without an instruction is taken and found out in the next step. -/
theorem coherent_strayJump :
    let session :=
      Session.after fetchingDatabase 4 [.switchProgram 1, .setPendingJump 7, .runUntilStop 2]
    let registers :=
      Registers.after fetchingDatabase 4 [.switchProgram 1, .setPendingJump 7, .runUntilStop 2]
    (registers.perform .step).1.error? = some (.unknownOffset 1 7) ∧
      7 ∈ returnTargets (session.perform .step).history ∧
      lastLiteral session.history = 5 ∧
      Registers.Coherent fetchingDatabase 4 session.history registers := by
  obtain ⟨-, coherent, replies⟩ := coherent_after fetchingDatabase 4
    [.switchProgram 1, .setPendingJump 7, .runUntilStop 2]
  have strays :
      ((Registers.after fetchingDatabase 4
        [.switchProgram 1, .setPendingJump 7, .runUntilStop 2]).perform .step).1.error? =
        some (.unknownOffset 1 7) := by
    decide +kernel
  exact ⟨strays, (replies .step).2 _ strays, by decide +kernel, coherent⟩

end Registers

end AdventureArchive
