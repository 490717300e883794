import AdventureArchive.Interpreter.Trace
import AdventureArchive.Proofs.Interpreter.Session

namespace AdventureArchive

/-!
# Runs as steps

`Interpreter.Takes` lists steps that an interpreter takes one after the other,
none of which fails.  Every run with a limit is such a list, and then either the
limit is reached, or the script ends, or a step fails (`Interpreter.course`).
What runs and traces return is told case by case, so that both can be compared
with each other and with what is known of single steps.

A run that has reached its limit goes on where it stopped, as if it had not been
interrupted (`Interpreter.resumes_of_limited`).
-/

/-! ## Single steps -/

section Steps

variable {before after : Activity}

/-- A step that succeeds leaves a script running. -/
theorem exists_running_of_stepOf
    {result : Except InterpreterError StepOutcome}
    (did : StepOf before result after)
    {outcome : StepOutcome}
    (succeeds : result = .ok outcome) :
    ∃ script, after = .running script := by
  cases did with
  | returned => exact ⟨_, rfl⟩
  | moved => exact ⟨_, rfl⟩
  | _ => contradiction

/-- A single step that fails knows of no limit. -/
theorem ne_stepLimitExceeded_of_stepOf
    {cause : InterpreterError}
    (did : StepOf before (.error cause) after)
    (limit : Nat) :
    cause ≠ .stepLimitExceeded limit := by
  cases did with
  | _ => nofun

end Steps

namespace Interpreter

/-- An interpreter takes the recorded steps, one after the other, and comes to another one. -/
inductive Takes : Interpreter → List TraceStep → Interpreter → Prop where
  | nil {interpreter : Interpreter} : Takes interpreter [] interpreter
  | next
      {interpreter next last : Interpreter}
      {outcome : StepOutcome}
      {steps : List TraceStep}
      (stepped : interpreter.step = (.ok outcome, next))
      (later : Takes next steps last) :
      Takes interpreter (interpreter.observe (some outcome) :: steps) last

/-- How an interpreter fares that is allowed a number of steps. -/
inductive Course (interpreter : Interpreter) (allowed : Nat) : Prop where
  | limited
      {steps : List TraceStep}
      {last : Interpreter}
      (takes : interpreter.Takes steps last)
      (all : steps.length = allowed)
  | ended
      {steps : List TraceStep}
      {last stopped : Interpreter}
      {program : UInt16}
      (takes : interpreter.Takes steps last)
      (within : steps.length < allowed)
      (ends : last.step = (.error (.endOfScript program), stopped))
  | failed
      {steps : List TraceStep}
      {last stopped : Interpreter}
      {cause : InterpreterError}
      (takes : interpreter.Takes steps last)
      (within : steps.length < allowed)
      (fails : last.step = (.error cause, stopped))
      (notEnded : ∀ program, cause ≠ .endOfScript program)

variable
  {interpreter last stopped : Interpreter}
  {steps : List TraceStep}
  {allowed : Nat}

/-- Every interpreter fares in one of these ways, however many steps it is allowed. -/
theorem course (interpreter : Interpreter) (allowed : Nat) : interpreter.Course allowed := by
  induction allowed generalizing interpreter with
  | zero => exact .limited .nil rfl
  | succ allowed inductionHypothesis =>
      match stepped : interpreter.step with
      | (.error (.endOfScript program), stopped) =>
          exact .ended .nil (Nat.succ_pos allowed) stepped
      | (.ok outcome, next) =>
          cases inductionHypothesis next with
          | limited takes all => exact .limited (.next stepped takes) (congrArg (· + 1) all)
          | ended takes within ends =>
              exact .ended (.next stepped takes) (Nat.succ_lt_succ within) ends
          | failed takes within fails notEnded =>
              exact .failed (.next stepped takes) (Nat.succ_lt_succ within) fails notEnded
      | (.error .noActiveProgram, stopped)
      | (.error (.unknownProgram _), stopped)
      | (.error (.emptyProgram _), stopped)
      | (.error (.unknownOffset _ _), stopped)
      | (.error (.stackOverflow _ _), stopped)
      | (.error (.stepLimitExceeded _), stopped) =>
          exact .failed .nil (Nat.succ_pos allowed) stepped nofun

/-- A script that is running has not ended. -/
theorem not_terminated_of_running
    {script : ActiveScript}
    (running : interpreter.activity = .running script) :
    ∀ ended, interpreter.activity ≠ .terminated ended := by
  rw [running]
  nofun

/-- Steps do not end a script. -/
theorem Takes.not_terminated
    (takes : interpreter.Takes steps last)
    (notTerminated : ∀ script, interpreter.activity ≠ .terminated script) :
    ∀ script, last.activity ≠ .terminated script := by
  induction takes with
  | nil => exact notTerminated
  | @next interpreter _ _ _ _ stepped _ inductionHypothesis =>
      apply inductionHypothesis
      have did := interpreter.stepOf_step
      rw [stepped] at did
      obtain ⟨script, running⟩ := exists_running_of_stepOf did rfl
      exact not_terminated_of_running running

/-! ## What runs return -/

section Runs

variable {maxSteps taken : Nat}

/-- A run goes on behind the steps that have been taken. -/
theorem Takes.runFrom_eq
    (takes : interpreter.Takes steps last)
    (maxSteps taken remaining : Nat) :
    runFrom maxSteps taken (steps.length + remaining) interpreter =
      runFrom maxSteps (taken + steps.length) remaining last := by
  induction takes generalizing taken with
  | nil => rw [List.length_nil, Nat.zero_add, Nat.add_zero]
  | @next _ _ _ _ steps stepped _ inductionHypothesis =>
      have oneMore : steps.length + 1 + remaining = steps.length + remaining + 1 := by omega
      rw [List.length_cons, oneMore, runFrom, stepped]
      dsimp only
      rw [inductionHypothesis]
      congr 1
      omega

/-- A run whose limit is reached says so. -/
theorem Takes.runFrom_of_limited
    (takes : interpreter.Takes steps last)
    (all : steps.length = allowed) :
    runFrom maxSteps taken allowed interpreter = (.error (.stepLimitExceeded maxSteps), last) := by
  subst all
  exact takes.runFrom_eq maxSteps taken 0

/-- A run counts the steps up to the one that ends the script. -/
theorem Takes.runFrom_of_ended
    (takes : interpreter.Takes steps last)
    (within : steps.length < allowed)
    {program : UInt16}
    (ends : last.step = (.error (.endOfScript program), stopped)) :
    runFrom maxSteps taken allowed interpreter = (.ok (taken + steps.length + 1), stopped) := by
  obtain ⟨remaining, rfl⟩ := Nat.exists_eq_add_of_lt within
  rw [Nat.add_assoc, takes.runFrom_eq, runFrom, ends]

/-- A run fails with the step that fails. -/
theorem Takes.runFrom_of_failed
    (takes : interpreter.Takes steps last)
    (within : steps.length < allowed)
    {cause : InterpreterError}
    (fails : last.step = (.error cause, stopped))
    (notEnded : ∀ program, cause ≠ .endOfScript program) :
    runFrom maxSteps taken allowed interpreter = (.error cause, stopped) := by
  obtain ⟨remaining, rfl⟩ := Nat.exists_eq_add_of_lt within
  rw [Nat.add_assoc, takes.runFrom_eq, runFrom, fails]
  cases cause with
  | endOfScript program => exact absurd rfl (notEnded program)
  | _ => rfl

/-- Where no script has ended yet, a run takes its steps. -/
theorem runUntilStop_eq_runFrom
    (notTerminated : ∀ script, interpreter.activity ≠ .terminated script)
    (maxSteps : Nat) :
    interpreter.runUntilStop maxSteps = runFrom maxSteps 0 maxSteps interpreter := by
  unfold runUntilStop
  split
  next script terminated => exact absurd terminated (notTerminated script)
  next => rfl

/-- A run that reaches its limit has taken all its steps, and no script has ended. -/
theorem takes_of_limited
    {limit : Nat}
    (limited : (interpreter.runUntilStop maxSteps).1 = .error (.stepLimitExceeded limit)) :
    (∀ script, interpreter.activity ≠ .terminated script) ∧
      ∃ steps, interpreter.Takes steps (interpreter.runUntilStop maxSteps).2 ∧
        steps.length = maxSteps := by
  have notTerminated : ∀ script, interpreter.activity ≠ .terminated script := by
    intro script terminated
    rw [runUntilStop, terminated] at limited
    contradiction
  refine ⟨notTerminated, ?_⟩
  rw [runUntilStop_eq_runFrom notTerminated] at limited ⊢
  cases interpreter.course maxSteps with
  | @limited steps last takes all =>
      rw [takes.runFrom_of_limited all]
      exact ⟨steps, takes, all⟩
  | ended takes within ends =>
      rw [takes.runFrom_of_ended within ends] at limited
      contradiction
  | @failed _ last _ _ takes within fails notEnded =>
      rw [takes.runFrom_of_failed within fails notEnded] at limited
      have did := last.stepOf_step
      rw [fails] at did
      exact absurd (Except.error.inj limited) (ne_stepLimitExceeded_of_stepOf did limit)

end Runs

end Interpreter

/-! ## Interrupted runs -/

/--
What has to come of an interrupted run that goes on, next to what comes of a run
with both limits at once: the same interpreter, a count that lacks the steps of
the first part, and the same errors.
-/
structure Resumes
    (first second : Nat)
    (resumed whole : Except InterpreterError Nat × Interpreter) : Prop where
  interpreter : resumed.2 = whole.2
  ended : ∀ count, resumed.1 = .ok count ↔ whole.1 = .ok (first + count)
  limited :
    resumed.1 = .error (.stepLimitExceeded second) ↔
      whole.1 = .error (.stepLimitExceeded (first + second))
  failed :
    ∀ cause, cause ≠ .stepLimitExceeded second → cause ≠ .stepLimitExceeded (first + second) →
      (resumed.1 = .error cause ↔ whole.1 = .error cause)

namespace Interpreter

/-- A run that is interrupted by its limit goes on as if there had been no limit there. -/
theorem resumes_of_limited
    (interpreter : Interpreter)
    (first second : Nat)
    (limited : (interpreter.runUntilStop first).1 = .error (.stepLimitExceeded first)) :
    Resumes first second
      ((interpreter.runUntilStop first).2.runUntilStop second)
      (interpreter.runUntilStop (first + second)) := by
  obtain ⟨notTerminated, steps, takes, all⟩ := takes_of_limited limited
  generalize (interpreter.runUntilStop first).2 = last at takes
  have whole :
      interpreter.runUntilStop (first + second) =
        runFrom (first + second) first second last := by
    rw [runUntilStop_eq_runFrom notTerminated, ← all, takes.runFrom_eq, Nat.zero_add]
  rw [whole, runUntilStop_eq_runFrom (takes.not_terminated notTerminated)]
  cases last.course second with
  | limited further full =>
      rw [further.runFrom_of_limited full, further.runFrom_of_limited full]
      constructor
      case interpreter => rfl
      case ended => simp
      case limited => simp
      case failed =>
        intro cause notSecond notBoth
        simp [Ne.symm notSecond, Ne.symm notBoth]
  | ended further within ends =>
      rw [further.runFrom_of_ended within ends, further.runFrom_of_ended within ends]
      constructor
      case interpreter => rfl
      case ended =>
        intro count
        simp only [Except.ok.injEq]
        omega
      case limited => simp
      case failed => simp
  | @failed _ broken _ cause further within fails notEnded =>
      rw [further.runFrom_of_failed within fails notEnded,
        further.runFrom_of_failed within fails notEnded]
      have did := broken.stepOf_step
      rw [fails] at did
      constructor
      case interpreter => rfl
      case ended => simp
      case limited => simp only [Except.error.injEq, ne_stepLimitExceeded_of_stepOf did]
      case failed => exact fun _ _ _ => Iff.rfl

/-- A program that fetches a literal, does nothing for a step and stops. -/
def circlingProgram : Program :=
  { Program.empty with
    instructions := SortedMap.ofList [(0, .pushByte 5), (2, .noop), (3, .stopScript)] }

/-- The program alone in its database. -/
def circlingDatabase : Database :=
  { Database.empty with programs := ResourceTable.empty.insert 1 circlingProgram }

/-- A run that is interrupted behind a return goes on to the end, on its last allowed step. -/
theorem resumes_circling :
    let interpreter :=
      (Session.after circlingDatabase 4 [.switchProgram 1, .setPendingJump 0]).interpreter
    (interpreter.runUntilStop 4).1 = .error (.stepLimitExceeded 4) ∧
      Resumes 4 2 ((interpreter.runUntilStop 4).2.runUntilStop 2) (interpreter.runUntilStop 6) ∧
      ((interpreter.runUntilStop 4).2.runUntilStop 2).1 = .ok 2 ∧
      (interpreter.runUntilStop 6).1 = .ok 6 := by
  intro interpreter
  have limited : (interpreter.runUntilStop 4).1 = .error (.stepLimitExceeded 4) := by
    decide +kernel
  have resumes := resumes_of_limited interpreter 4 2 limited
  have ended : ((interpreter.runUntilStop 4).2.runUntilStop 2).1 = .ok 2 := by decide +kernel
  exact ⟨limited, resumes, ended, (resumes.ended 2).mp ended⟩

end Interpreter

end AdventureArchive
