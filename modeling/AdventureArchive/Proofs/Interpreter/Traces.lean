import AdventureArchive.Proofs.Interpreter.Runs
import AdventureArchive.Proofs.SortedMap
import Mathlib.Data.List.Chain

namespace AdventureArchive

/-!
# Traces and runs

A program can be traced or just run, and each has a loop of its own.  Both take
the same steps, so a run counts what a trace records and fails where it fails
(`Interpreter.runProgram_iff_traceProgram`).  In a trace every step leads to the
offset of the next one, as its outcome tells (`Interpreter.Takes.isChain`).
-/

/-- The offset that an outcome leads to in a program. -/
def StepOutcome.resultingOffset? (program : Program) : StepOutcome → Option UInt32
  | .advanced offset => some offset
  | .returned target => some target
  | .unhandled offset _ => program.instructions.keys.find? fun key => offset < key

/-- Whether a recorded step leads to the offset of another one. -/
def TraceStep.LeadsTo (program : Program) (step next : TraceStep) : Prop :=
  ∃ outcome, step.outcome? = some outcome ∧
    outcome.resultingOffset? program = some next.offset

/-- The offset behind the current one is the first key above it. -/
theorem ActiveScript.nextOffset?_eq_find? (script : ActiveScript) :
    script.nextOffset? = script.program.instructions.keys.find? fun key => script.offset < key := by
  rw [nextOffset?, SortedMap.next?_eq_find?, SortedMap.keys, List.find?_map]
  rfl

/-- A running script comes to the offset that the outcome of its step leads to. -/
theorem resultingOffset?_of_stepOf
    {script : ActiveScript}
    {result : Except InterpreterError StepOutcome}
    {after : Activity}
    (did : StepOf (.running script) result after)
    {outcome : StepOutcome}
    (succeeds : result = .ok outcome) :
    ∃ next, after = .running next ∧ next.program = script.program ∧
      outcome.resultingOffset? script.program = some next.offset := by
  cases did with
  | returned =>
      obtain rfl := Except.ok.inj succeeds
      exact ⟨_, rfl, rfl, rfl⟩
  | @moved _ fetched instruction offset _ _ fetches next =>
      obtain rfl := Except.ok.inj succeeds
      -- An instruction without effect does not name the offset behind it, the program does.
      have onlyStack := ActiveScript.eq_of_fetches fetches
      refine ⟨_, rfl, by rw [onlyStack], ?_⟩
      rw [onlyStack] at next
      unfold ActiveScript.outcome
      split
      next => rfl
      next => exact (script.nextOffset?_eq_find?).symm.trans next
  | _ => contradiction

namespace Interpreter

variable
  {interpreter last stopped : Interpreter}
  {steps : List TraceStep}
  {script : ActiveScript}
  {allowed maxSteps : Nat}
  {recorded : Array TraceStep}

/-! ## Steps of a trace -/

/-- What is recorded of a running script is where it stands. -/
theorem offset_observe
    (running : interpreter.activity = .running script)
    (outcome? : Option StepOutcome) :
    (interpreter.observe outcome?).offset = script.offset := by
  rw [observe, running]
  rfl

/-- The first of the steps that a running script takes is recorded where the script stands. -/
theorem Takes.offset_head
    (takes : interpreter.Takes steps last)
    (running : interpreter.activity = .running script)
    {step : TraceStep}
    {outcome? : Option StepOutcome}
    (isFirst : (steps ++ [last.observe outcome?]).head? = some step) :
    step.offset = script.offset := by
  cases takes with
  | nil =>
      obtain rfl := Option.some.inj isFirst
      exact offset_observe running outcome?
  | next =>
      obtain rfl := Option.some.inj isFirst
      exact offset_observe running _

/-- Each step that is taken leads to the next one, and the last one to where the interpreter is. -/
theorem Takes.isChain
    (takes : interpreter.Takes steps last)
    (running : interpreter.activity = .running script)
    (outcome? : Option StepOutcome) :
    (steps ++ [last.observe outcome?]).IsChain (TraceStep.LeadsTo script.program) := by
  induction takes generalizing script with
  | nil => exact .singleton _
  | @next interpreter _ _ outcome steps stepped later inductionHypothesis =>
      have did := interpreter.stepOf_step
      rw [running, stepped] at did
      obtain ⟨next, runsOn, sameProgram, leads⟩ := resultingOffset?_of_stepOf did rfl
      have laterLead := inductionHypothesis runsOn
      rw [sameProgram] at laterLead
      refine laterLead.cons fun following isFirst => ⟨outcome, rfl, ?_⟩
      rw [later.offset_head runsOn isFirst, leads]

/-! ## What traces return -/

/-- A trace goes on behind the steps that have been taken. -/
theorem Takes.traceOnto_eq
    (takes : interpreter.Takes steps last)
    (maxSteps : Nat)
    (recorded : Array TraceStep)
    (remaining : Nat) :
    traceOnto maxSteps recorded (steps.length + remaining) interpreter =
      traceOnto maxSteps (recorded ++ steps.toArray) remaining last := by
  induction takes generalizing recorded with
  | nil => simp
  | @next _ _ _ _ steps stepped _ inductionHypothesis =>
      have oneMore : steps.length + 1 + remaining = steps.length + remaining + 1 := by omega
      rw [List.length_cons, oneMore, traceOnto, stepped]
      dsimp only
      rw [inductionHypothesis]
      simp

/-- A trace whose limit is reached says so. -/
theorem Takes.traceOnto_of_limited
    (takes : interpreter.Takes steps last)
    (all : steps.length = allowed) :
    traceOnto maxSteps recorded allowed interpreter = .error (.stepLimitExceeded maxSteps) := by
  subst all
  exact takes.traceOnto_eq maxSteps recorded 0

/-- A trace records the steps up to the one that ends the script. -/
theorem Takes.traceOnto_of_ended
    (takes : interpreter.Takes steps last)
    (within : steps.length < allowed)
    {program : UInt16}
    (ends : last.step = (.error (.endOfScript program), stopped)) :
    traceOnto maxSteps recorded allowed interpreter =
      .ok ((recorded ++ steps.toArray).push (last.observe none)) := by
  obtain ⟨remaining, rfl⟩ := Nat.exists_eq_add_of_lt within
  rw [Nat.add_assoc, takes.traceOnto_eq, traceOnto, ends]

/-- A trace fails with the step that fails. -/
theorem Takes.traceOnto_of_failed
    (takes : interpreter.Takes steps last)
    (within : steps.length < allowed)
    {cause : InterpreterError}
    (fails : last.step = (.error cause, stopped))
    (notEnded : ∀ program, cause ≠ .endOfScript program) :
    traceOnto maxSteps recorded allowed interpreter = .error cause := by
  obtain ⟨remaining, rfl⟩ := Nat.exists_eq_add_of_lt within
  rw [Nat.add_assoc, takes.traceOnto_eq, traceOnto, fails]
  cases cause with
  | endOfScript program => exact absurd rfl (notEnded program)
  | _ => rfl

/-- A run counts the steps that a trace records. -/
theorem runFrom_eq_map_traceOnto
    (interpreter : Interpreter)
    (maxSteps allowed : Nat) :
    (runFrom maxSteps 0 allowed interpreter).1 =
      (traceOnto maxSteps #[] allowed interpreter).map Array.size := by
  cases interpreter.course allowed with
  | limited takes all =>
      rw [takes.runFrom_of_limited all, takes.traceOnto_of_limited all]
      rfl
  | ended takes within ends =>
      rw [takes.runFrom_of_ended within ends, takes.traceOnto_of_ended within ends]
      simp [Except.map]
  | failed takes within fails notEnded =>
      rw [takes.runFrom_of_failed within fails notEnded,
        takes.traceOnto_of_failed within fails notEnded]
      rfl

/-- The steps of a trace of a running script lead from one to the next. -/
theorem isChain_of_traceOnto
    (running : interpreter.activity = .running script)
    (traced : traceOnto maxSteps #[] allowed interpreter = .ok recorded) :
    recorded.toList.IsChain (TraceStep.LeadsTo script.program) := by
  cases interpreter.course allowed with
  | limited takes all =>
      rw [takes.traceOnto_of_limited all] at traced
      contradiction
  | ended takes within ends =>
      rw [takes.traceOnto_of_ended within ends] at traced
      obtain rfl := Except.ok.inj traced
      simpa using takes.isChain running none
  | failed takes within fails notEnded =>
      rw [takes.traceOnto_of_failed within fails notEnded] at traced
      contradiction

/-! ## Programs -/

/-- Runs a program on an interpreter that has done nothing before. -/
def runProgram
    (database : Database)
    (id : UInt16)
    (stackCapacity maxSteps : Nat) :
    Except InterpreterError Nat :=
  match (ofDatabase database stackCapacity).switchProgram id with
  | (.ok (), interpreter) => (interpreter.runUntilStop maxSteps).1
  | (.error cause, _) => .error cause

section Programs

variable {database : Database} {id : UInt16} {stackCapacity : Nat}

/-- A script that can be entered is run from there. -/
theorem runProgram_of_entry
    (entered : (ofDatabase database stackCapacity).entry id = .ok script)
    (maxSteps : Nat) :
    runProgram database id stackCapacity maxSteps =
      (runFrom maxSteps 0 maxSteps ⟨database, stackCapacity, .running script⟩).1 := by
  rw [runProgram, switchProgram, entered]
  exact congrArg Prod.fst (runUntilStop_eq_runFrom (not_terminated_of_running rfl) maxSteps)

/-- A script that can be entered is traced from there. -/
theorem traceProgram_of_entry
    (entered : (ofDatabase database stackCapacity).entry id = .ok script)
    (maxSteps : Nat) :
    traceProgram database id stackCapacity maxSteps =
      (traceOnto maxSteps #[] maxSteps ⟨database, stackCapacity, .running script⟩).map
        fun steps => ⟨id, steps.toList⟩ := by
  rw [traceProgram, switchProgram, entered]
  rfl

/-- A run of a program counts the steps that its trace records. -/
theorem runProgram_eq_map_traceProgram
    (database : Database)
    (id : UInt16)
    (stackCapacity maxSteps : Nat) :
    runProgram database id stackCapacity maxSteps =
      (traceProgram database id stackCapacity maxSteps).map fun trace => trace.steps.length := by
  cases entered : (ofDatabase database stackCapacity).entry id with
  | error cause =>
      rw [runProgram, traceProgram, switchProgram, entered]
      rfl
  | ok script =>
      rw [runProgram_of_entry entered, traceProgram_of_entry entered, runFrom_eq_map_traceOnto,
        Except.map_map]
      rfl

/-- The steps of the trace of a program lead from one to the next. -/
theorem isChain_of_traceProgram
    {trace : ProgramTrace}
    (traced : traceProgram database id stackCapacity maxSteps = .ok trace) :
    ∃ program, database.programs.get? id = some program ∧
      trace.steps.IsChain (TraceStep.LeadsTo program) := by
  cases entered : (ofDatabase database stackCapacity).entry id with
  | error cause =>
      rw [traceProgram, switchProgram, entered] at traced
      contradiction
  | ok script =>
      rw [traceProgram_of_entry entered] at traced
      obtain ⟨recorded, found, rfl⟩ := Except.map_eq_ok_iff.mp traced
      obtain ⟨program, offset, loaded, -, rfl⟩ := entry_eq_ok_iff.mp entered
      exact ⟨program, loaded, isChain_of_traceOnto rfl found⟩

/--
A run of a program comes to an end exactly if its trace does, with as many steps,
and fails exactly if its trace does, with the same error.  In a trace every step
but the last leads to the offset of the one behind it.
-/
theorem runProgram_iff_traceProgram
    (database : Database)
    (id : UInt16)
    (stackCapacity maxSteps : Nat) :
    (∀ count,
      runProgram database id stackCapacity maxSteps = .ok count ↔
        ∃ trace, traceProgram database id stackCapacity maxSteps = .ok trace ∧
          trace.steps.length = count) ∧
      (∀ cause,
        runProgram database id stackCapacity maxSteps = .error cause ↔
          traceProgram database id stackCapacity maxSteps = .error cause) ∧
      ∀ trace, traceProgram database id stackCapacity maxSteps = .ok trace →
        ∃ program, database.programs.get? id = some program ∧
          trace.steps.IsChain (TraceStep.LeadsTo program) := by
  rw [runProgram_eq_map_traceProgram]
  exact ⟨fun _ => Except.map_eq_ok_iff, fun _ => Except.map_eq_error_iff,
    fun _ => isChain_of_traceProgram⟩

end Programs

end Interpreter

end AdventureArchive
