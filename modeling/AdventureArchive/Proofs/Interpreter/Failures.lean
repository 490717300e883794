import AdventureArchive.Proofs.Interpreter.Reachable
import AdventureArchive.Proofs.Interpreter.Reached

namespace AdventureArchive

/-!
# Failing operations and ended scripts

The registers of an interpreter are written one after the other, and an
operation can fail between two writes.  Nevertheless one that fails leaves all of
them as they were (`Registers.KeepsOnError`), unless the failure is the end of
the script; that only sets the status and the slot of a last literal.  A script
that has ended is left by a switch that succeeds and by nothing else
(`Registers.StaysTerminated`).  `Registers.failures_after` says so of all
registers that can be reached.
-/

/-! ## Steps -/

section Steps

variable {before after : Activity} {script ended : ActiveScript}

/-- A step that fails, but not because the script has ended, changes nothing. -/
theorem eq_of_stepOf_error
    {result : Except InterpreterError StepOutcome}
    (did : StepOf before result after)
    {cause : InterpreterError}
    (failed : result = .error cause)
    (notEnded : ∀ program, cause ≠ .endOfScript program) :
    after = before := by
  cases did with
  | idle => rfl
  | lost => rfl
  | overflowed => rfl
  | returned => contradiction
  | moved => contradiction
  | _ => exact absurd (Except.error.inj failed).symm (notEnded _)

/-- A running script runs on, without being reported as ended, or it ends. -/
theorem running_or_terminated_of_stepOf
    {result : Except InterpreterError StepOutcome}
    (did : StepOf (.running script) result after) :
    (∃ next, after = .running next) ∧ (∀ program, result ≠ .error (.endOfScript program)) ∨
      ∃ ended, after = .terminated ended := by
  cases did with
  | stopped => exact Or.inr ⟨_, rfl⟩
  | finished => exact Or.inr ⟨_, rfl⟩
  | _ => exact Or.inl ⟨⟨_, rfl⟩, nofun⟩

/-- A script ends with the instruction that is executed last. -/
theorem fetches_of_stepOf
    {result : Except InterpreterError StepOutcome}
    (did : StepOf (.running script) result (.terminated ended)) :
    result = .error (.endOfScript script.id) ∧
      ∃ instruction, script.instruction? = some instruction ∧
        script.Fetches instruction ended := by
  cases did with
  | stopped current => exact ⟨rfl, .stopScript, current, rfl⟩
  | finished current _ fetches => exact ⟨rfl, _, current, fetches⟩

/-- The slots of a stack after an instruction whose literal, if any, goes into the lowest. -/
def ProgramState.stackAfter (state : ProgramState) (instruction : Instruction) : List Int32 :=
  match instruction.literal? with
  | some value => state.stack.set 0 value
  | none => state.stack

/-- Fetching changes nothing of a state but the lowest slot. -/
theorem state_of_fetches
    {instruction : Instruction}
    (fetches : script.Fetches instruction ended)
    (pointer : script.stackPointer = 0) :
    ended.state = { script.state with stack := script.state.stackAfter instruction } := by
  rw [ProgramState.stackAfter]
  rw [ActiveScript.Fetches] at fetches
  cases literal : instruction.literal? with
  | some value =>
      rw [literal] at fetches
      obtain ⟨stack, written, rfl⟩ := ActiveScript.fetch_eq_ok_iff.mp fetches
      rw [pointer] at written
      simp only [ActiveScript.state, OperandStack.toList_of_set?_eq_some written]
  | none =>
      rw [literal] at fetches
      obtain rfl := fetches
      rfl

end Steps

namespace Registers

/-- Registers in which nothing changes when an operation fails before the script has ended. -/
structure KeepsOnError (registers : Registers) : Prop where
  switchProgram :
    ∀ id cause, (registers.switchProgram id).1 = .error cause →
      (registers.switchProgram id).2 = registers
  setPendingJump :
    ∀ target cause, (registers.setPendingJump target).1 = .error cause →
      (registers.setPendingJump target).2 = registers
  step :
    ∀ cause, registers.step.1 = .error cause → (∀ program, cause ≠ .endOfScript program) →
      registers.step.2 = registers

/--
Registers of a script that has ended and stays so.  Steps and runs change
nothing, a jump that is set is only noted, and whatever commands follow, as long
as no switch among them succeeds, nothing but the pending jump changes.
-/
structure StaysTerminated (registers : Registers) (state : ProgramState) : Prop where
  step : registers.step = (.error (.endOfScript state.program), registers)
  runUntilStop : ∀ maxSteps, registers.runUntilStop maxSteps = (.ok 0, registers)
  setPendingJump :
    ∀ target, registers.setPendingJump target =
      (.ok (), { registers with state? := some { state with pendingJump? := some target } })
  revived :
    ∀ command, (registers.perform command).2.status ≠ .terminated →
      ∃ id, command = .switchProgram id ∧ (registers.switchProgram id).1 = .ok ()
  absorbing :
    ∀ further : List Command,
      (∀ id, .switchProgram id ∈ further → (registers.switchProgram id).1 ≠ .ok ()) →
      ∃ pendingJump?,
        further.foldl (fun registers command => (registers.perform command).2) registers =
          { registers with state? := some { state with pendingJump? } }

variable
  {registers : Registers}
  {state : ProgramState}
  {interpreter : Interpreter}

/-! ## Failing operations -/

/-- A switch that fails leaves the registers as they were. -/
theorem switchProgram_of_error
    {id : UInt16}
    (failed : (registers.switchProgram id).1 ≠ .ok ()) :
    (registers.switchProgram id).2 = registers := by
  unfold switchProgram at failed ⊢
  split
  next => rfl
  next program found =>
    split
    next => rfl
    next entry first => simp [found, first] at failed

/-- Whether a switch succeeds depends on the database alone. -/
theorem switchProgram_fst_congr
    {other : Registers}
    (sameDatabase : registers.database = other.database)
    {id : UInt16} :
    (registers.switchProgram id).1 = (other.switchProgram id).1 := by
  unfold switchProgram
  rw [sameDatabase]
  cases other.database.programs.get? id with
  | none => rfl
  | some program =>
      dsimp only
      cases program.firstOffset? with
      | none => rfl
      | some entry => rfl

/-- The registers of an interpreter are kept when an operation fails. -/
theorem keepsOnError_registers (interpreter : Interpreter) :
    KeepsOnError interpreter.registers := by
  constructor
  case switchProgram =>
    intro id cause failed
    apply switchProgram_of_error
    rw [failed]
    nofun
  case setPendingJump =>
    intro target cause failed
    rw [setPendingJump_registers] at failed ⊢
    exact congrArg Interpreter.registers
      (Interpreter.eq_of_setPendingJump_error (Prod.ext failed rfl))
  case step =>
    intro cause failed notEnded
    rw [step_registers] at failed ⊢
    have sameActivity := eq_of_stepOf_error interpreter.stepOf_step failed notEnded
    have unchanged := interpreter.step_eq
    rw [sameActivity] at unchanged
    exact congrArg Interpreter.registers unchanged

/-! ## Ended scripts -/

section Terminated

variable
  (terminated : registers.status = .terminated)
  (active : registers.state? = some state)

include terminated

/-- A run of a script that has ended takes no step. -/
theorem runUntilStop_of_terminated (maxSteps : Nat) :
    registers.runUntilStop maxSteps = (.ok 0, registers) := by
  rw [runUntilStop, terminated]

include active

/-- A step of a script that has ended says so and changes nothing. -/
theorem step_of_terminated :
    registers.step = (.error (.endOfScript state.program), registers) := by
  have inactive : registers.inactiveError? = some (.endOfScript state.program) := by
    rw [inactiveError?, terminated, active]
  rw [step, inactive]

/-- As long as no switch succeeds, a command can only set the pending jump. -/
theorem perform_of_terminated
    {command : Command}
    (noSwitch : ∀ id, command = .switchProgram id → (registers.switchProgram id).1 ≠ .ok ()) :
    ∃ pendingJump?,
      (registers.perform command).2 =
        { registers with state? := some { state with pendingJump? } } := by
  have unchanged : registers = { registers with state? := some state } := by
    rw [← active]
  cases command with
  | switchProgram id =>
      have kept := switchProgram_of_error (noSwitch id rfl)
      exact ⟨state.pendingJump?, kept.trans unchanged⟩
  | setPendingJump target =>
      refine ⟨some target, ?_⟩
      rw [perform, Registers.setPendingJump, active]
  | step =>
      refine ⟨state.pendingJump?, ?_⟩
      rw [perform, step_of_terminated terminated active]
      exact unchanged
  | runUntilStop maxSteps =>
      refine ⟨state.pendingJump?, ?_⟩
      rw [perform, runUntilStop_of_terminated terminated]
      exact unchanged

/-- Whatever commands follow, as long as no switch succeeds only the pending jump changes. -/
theorem foldl_perform_of_terminated
    {further : List Command}
    (noSwitch :
      ∀ id, .switchProgram id ∈ further → (registers.switchProgram id).1 ≠ .ok ()) :
    ∃ pendingJump?,
      further.foldl (fun registers command => (registers.perform command).2) registers =
        { registers with state? := some { state with pendingJump? } } := by
  induction further generalizing registers state with
  | nil => exact ⟨state.pendingJump?, by rw [List.foldl_nil, ← active]⟩
  | cons command rest inductionHypothesis =>
      obtain ⟨pendingJump?, performed⟩ := perform_of_terminated terminated active fun id same =>
        noSwitch id (same ▸ List.mem_cons_self)
      have stillTerminated : (registers.perform command).2.status = .terminated := by
        rw [performed]
        exact terminated
      have stillActive :
          (registers.perform command).2.state? = some { state with pendingJump? } := by
        rw [performed]
      have sameDatabase : (registers.perform command).2.database = registers.database := by
        rw [performed]
      have restPerformed := inductionHypothesis stillTerminated stillActive fun id member => by
        rw [switchProgram_fst_congr sameDatabase]
        exact noSwitch id (List.mem_cons_of_mem _ member)
      rw [List.foldl_cons]
      rwa [performed] at restPerformed ⊢

/-- A script that has ended stays so. -/
theorem staysTerminated : StaysTerminated registers state := by
  constructor
  case step => exact step_of_terminated terminated active
  case runUntilStop => exact runUntilStop_of_terminated terminated
  case setPendingJump =>
    intro target
    rw [Registers.setPendingJump, active]
  case revived =>
    intro command revives
    by_contra isNoSwitch
    have noSwitch :
        ∀ id, command = .switchProgram id → (registers.switchProgram id).1 ≠ .ok () :=
      fun id same succeeds => isNoSwitch ⟨id, same, succeeds⟩
    obtain ⟨pendingJump?, performed⟩ := perform_of_terminated terminated active noSwitch
    rw [performed] at revives
    exact revives terminated
  case absorbing => exact fun _ => foldl_perform_of_terminated terminated active

end Terminated

/-- An interpreter whose registers say that its script has ended has one. -/
theorem exists_terminated_of_status
    (terminated : interpreter.registers.status = .terminated) :
    ∃ script, interpreter.activity = .terminated script := by
  cases doing : interpreter.activity with
  | terminated script => exact ⟨script, rfl⟩
  | idle => simp [Interpreter.registers, doing, Activity.status] at terminated
  | running script => simp [Interpreter.registers, doing, Activity.status] at terminated

/-- A step that ends a script changes only the status and the slot of a literal. -/
theorem step_of_ends
    {script ended : ActiveScript}
    (running : interpreter.activity = .running script)
    (pointer : script.stackPointer = 0)
    (ends : interpreter.step.2.activity = .terminated ended) :
    ∃ instruction, script.instruction? = some instruction ∧
      interpreter.registers.step =
        (.error (.endOfScript script.id),
          { interpreter.registers with
            status := .terminated
            state? := some { script.state with stack := script.state.stackAfter instruction } }) := by
  have did := interpreter.stepOf_step
  rw [running, ends] at did
  obtain ⟨result, instruction, current, fetches⟩ := fetches_of_stepOf did
  have sameProgram : ended.program = script.program := by
    rw [ActiveScript.eq_of_fetches fetches]
  refine ⟨instruction, current, ?_⟩
  rw [step_registers, result, interpreter.step_eq, ends, ← state_of_fetches fetches pointer]
  simp [Interpreter.registers, running, Activity.script?, Activity.status, sameProgram]

/-! ## Sessions -/

/--
After any commands an operation that fails leaves the registers as they were,
and an ended script stays as it is.  A running script runs on, or it ends and
nothing changes but the status and, if its last instruction has a literal, the
lowest slot.
-/
theorem failures_after
    (database : Database)
    (stackCapacity : Nat)
    (commands : List Command) :
    let registers := Registers.after database stackCapacity commands
    KeepsOnError registers ∧
      (registers.status = .terminated →
        ∃ state, registers.state? = some state ∧ StaysTerminated registers state) ∧
      (registers.status = .running →
        (registers.step.2.status = .running ∧
          ∀ program, registers.step.1 ≠ .error (.endOfScript program)) ∨
        ∃ state instruction, registers.state? = some state ∧
          registers.currentInstruction? = some instruction ∧
          registers.step =
            (.error (.endOfScript state.program),
              { registers with
                status := .terminated
                state? := some { state with stack := state.stackAfter instruction } })) := by
  have consistent := Session.consistent_after database stackCapacity commands
  rw [after_eq]
  generalize (Session.after database stackCapacity commands).interpreter = interpreter
    at consistent
  refine ⟨keepsOnError_registers interpreter, ?_, ?_⟩
  · intro terminated
    obtain ⟨script, doing⟩ := exists_terminated_of_status terminated
    have active : interpreter.registers.state? = some script.state := by
      rw [Interpreter.registers, doing]
      rfl
    exact ⟨script.state, active, staysTerminated terminated active⟩
  · intro running
    obtain ⟨script, doing⟩ := exists_running_of_status running
    rcases running_or_terminated_of_stepOf (doing ▸ interpreter.stepOf_step) with
      ⟨⟨next, runsOn⟩, notEnded⟩ | ⟨ended, ends⟩
    · rw [step_registers]
      refine Or.inl ⟨?_, notEnded⟩
      rw [Interpreter.registers, runsOn]
      rfl
    · have active := consistent.active script (congrArg Activity.script? doing)
      obtain ⟨instruction, current, stepped⟩ := step_of_ends doing active.stackPointer ends
      refine Or.inr ⟨script.state, instruction, ?_, ?_, stepped⟩
      · rw [Interpreter.registers, doing]
        rfl
      · rw [currentInstruction?_registers, Interpreter.currentInstruction?, doing]
        exact current

/-- A program that does nothing and then fetches a literal, alone in its database. -/
def unstoppedDatabase : Database :=
  { Database.empty with
    programs := ResourceTable.empty.insert 1
      { Program.empty with
        instructions := SortedMap.ofList [(0, .noop), (1, .pushByte 5)] } }

/-- The script ends with its literal in the lowest slot and its jump still pending. -/
theorem failures_unstopped :
    let running :=
      Registers.after unstoppedDatabase 2 [.switchProgram 1, .setPendingJump 0, .step]
    let ended :=
      Registers.after unstoppedDatabase 2 [.switchProgram 1, .setPendingJump 0, .step, .step]
    (∃ state instruction, running.state? = some state ∧
      running.currentInstruction? = some instruction ∧
      running.step.1 = .error (.endOfScript state.program)) ∧
      ended.state? = some ⟨1, 1, some 0, [5, 0], 0⟩ ∧
      ended.step = (.error (.endOfScript 1), ended) ∧
      ended.runUntilStop 3 = (.ok 0, ended) ∧
      (ended.switchProgram 9).2 = ended := by
  intro running ended
  obtain ⟨-, -, ends⟩ :=
    failures_after unstoppedDatabase 2 [.switchProgram 1, .setPendingJump 0, .step]
  obtain ⟨state, instruction, active, current, stepped⟩ :=
    (ends (by decide +kernel)).resolve_left fun runsOn => absurd runsOn.1 (by decide +kernel)
  obtain ⟨keeps, stays, -⟩ :=
    failures_after unstoppedDatabase 2 [.switchProgram 1, .setPendingJump 0, .step, .step]
  obtain ⟨last, lastActive, staysTerminated⟩ := stays (by decide +kernel)
  have lastState : ended.state? = some ⟨1, 1, some 0, [5, 0], 0⟩ := by decide +kernel
  obtain rfl := Option.some.inj (lastActive.symm.trans lastState)
  exact ⟨⟨state, instruction, active, current, congrArg Prod.fst stepped⟩, lastState,
    staysTerminated.step, staysTerminated.runUntilStop 3,
    keeps.switchProgram 9 (.unknownProgram 9) (by decide +kernel)⟩

end Registers

end AdventureArchive
