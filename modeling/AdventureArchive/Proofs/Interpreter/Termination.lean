import AdventureArchive.Proofs.Interpreter.Reachable
import AdventureArchive.Proofs.Interpreter.Runs

namespace AdventureArchive

/-!
# Scripts stop

Every step of a script moves on in its program, except for a return, which may go
back but uses up the pending jump.  `ActiveScript.stepsLeft` counts the steps that
are left in this way: those from the current offset to the end of the program, and
all instructions once more if a jump is pending.  Each step that succeeds leaves
fewer (`stepsLeft_lt_of_stepOf`), so a limit of one pass over the program, or of two
if a jump is pending, is never exceeded (`Session.stopsWithin_after`).
-/

/-- Number of instructions from an offset on. -/
def Program.instructionsFrom (program : Program) (offset : UInt32) : Nat :=
  program.instructions.keys.countP fun key => offset ≤ key

namespace ActiveScript

/--
Number of steps that a script takes at most.  A step is left even where there is
no instruction: it fails.
-/
def stepsLeft (script : ActiveScript) : Nat :=
  max 1 (script.program.instructionsFrom script.offset) +
    if script.pendingJump?.isSome then script.program.instructions.size else 0

/-- How often a script goes through its program at most. -/
def passes (script : ActiveScript) : Nat :=
  if script.pendingJump?.isSome then 2 else 1

end ActiveScript

/-! ## Instructions that are left -/

section Instructions

variable {program : Program} {offset next : UInt32}

/-- From no offset on there are more instructions than the program has. -/
theorem instructionsFrom_le_size (program : Program) (offset : UInt32) :
    program.instructionsFrom offset ≤ program.instructions.size := by
  have counted := List.countP_le_length (p := fun key => decide (offset ≤ key))
    (l := program.instructions.keys)
  rwa [SortedMap.keys, List.length_map, SortedMap.length_toList] at counted

/-- From an instruction on there is at least that instruction. -/
theorem instructionsFrom_pos (member : offset ∈ program.instructions.keys) :
    0 < program.instructionsFrom offset :=
  List.countP_pos_iff.mpr ⟨offset, member, decide_eq_true (UInt32.le_refl offset)⟩

/-- Behind an instruction there are fewer instructions than from it on. -/
theorem instructionsFrom_lt
    (member : offset ∈ program.instructions.keys)
    (below : offset < next) :
    program.instructionsFrom next < program.instructionsFrom offset := by
  have above (keys : List UInt32) :
      keys.countP (fun key => next ≤ key) ≤ keys.countP (fun key => offset ≤ key) := by
    apply List.countP_mono_left
    intro key _ isBehind
    rw [decide_eq_true_eq] at isBehind ⊢
    exact UInt32.le_trans (UInt32.le_of_lt below) isBehind
  have notBehind : ¬ next ≤ offset := UInt32.not_le.mpr below
  -- The instruction at the offset itself is counted on one side only.
  obtain ⟨before, behind, split⟩ := List.append_of_mem member
  have fewerBefore := above before
  have fewerBehind := above behind
  simp only [Program.instructionsFrom, split, List.countP_append, List.countP_cons, notBehind,
    UInt32.le_refl, decide_true, decide_false, if_true, Bool.false_eq_true, if_false]
  omega

end Instructions

/-! ## Steps -/

section Steps

variable
  {script : ActiveScript}
  {result : Except InterpreterError StepOutcome}
  {after : Activity}

/-- The offset behind the current one is above it. -/
theorem ActiveScript.offset_lt_of_nextOffset?
    {offset : UInt32}
    (next : script.nextOffset? = some offset) :
    script.offset < offset := by
  obtain ⟨entry, found, rfl⟩ := Option.map_eq_some_iff.mp next
  exact UInt32.lt_iff_toNat_lt.mpr (SortedMap.rank_lt_of_next? found)

/-- A script has at least one step left. -/
theorem ActiveScript.stepsLeft_pos (script : ActiveScript) : 0 < script.stepsLeft := by
  unfold stepsLeft
  omega

/-- A step that succeeds leaves fewer steps. -/
theorem stepsLeft_lt_of_stepOf
    (did : StepOf (.running script) result after)
    (nonempty : 0 < script.program.instructions.size)
    {outcome : StepOutcome}
    (succeeds : result = .ok outcome) :
    ∃ next, after = .running next ∧ next.program = script.program ∧
      next.stepsLeft < script.stepsLeft := by
  cases did with
  | @returned _ target _ pending =>
      refine ⟨_, rfl, rfl, ?_⟩
      -- The target may lie anywhere, but the jump that allowed for all instructions is gone.
      have atTarget := instructionsFrom_le_size script.program target
      simp only [ActiveScript.stepsLeft, pending, Option.isSome_some, Option.isSome_none, if_true,
        Bool.false_eq_true, if_false]
      omega
  | @moved _ fetched instruction offset current _ fetches next =>
      have onlyStack := ActiveScript.eq_of_fetches fetches
      have ahead : script.nextOffset? = some offset := by
        rw [onlyStack] at next
        exact next
      have isKey := isSome_instruction?_iff.mp (Option.isSome_of_eq_some current)
      have fewer := instructionsFrom_lt isKey (ActiveScript.offset_lt_of_nextOffset? ahead)
      have notNone := instructionsFrom_pos (mem_keys_of_nextOffset? ahead)
      refine ⟨_, rfl, by rw [onlyStack], ?_⟩
      rw [onlyStack]
      simp only [ActiveScript.stepsLeft]
      omega
  | _ => contradiction

/-- A step of a running script that fails ends it, or finds no instruction or no slot. -/
theorem cause_of_stepOf
    {cause : InterpreterError}
    (did : StepOf (.running script) (.error cause) after) :
    (cause = .endOfScript script.id ∧ ∃ ended, after = .terminated ended) ∨
      (∃ offset, cause = .unknownOffset script.id offset) ∨
        ∃ pointer capacity, cause = .stackOverflow pointer capacity := by
  cases did with
  | lost => exact Or.inr (Or.inl ⟨_, rfl⟩)
  | overflowed => exact Or.inr (Or.inr ⟨_, _, rfl⟩)
  | stopped => exact Or.inl ⟨rfl, _, rfl⟩
  | finished => exact Or.inl ⟨rfl, _, rfl⟩

end Steps

/-! ## Runs -/

/-- What a run comes to that is stopped by its script and not by its limit. -/
inductive StopsWithin (bound : Nat) : Except InterpreterError Nat × Interpreter → Prop where
  | ended
      {count : Nat}
      {last : Interpreter}
      {script : ActiveScript}
      (positive : 1 ≤ count)
      (within : count ≤ bound)
      (terminated : last.activity = .terminated script) :
      StopsWithin bound (.ok count, last)
  | unknownOffset
      {program : UInt16}
      {offset : UInt32}
      {last : Interpreter} :
      StopsWithin bound (.error (.unknownOffset program offset), last)
  | stackOverflow
      {pointer capacity : Nat}
      {last : Interpreter} :
      StopsWithin bound (.error (.stackOverflow pointer capacity), last)

/-- A run that is stopped by its script has not exceeded a limit. -/
theorem StopsWithin.ne_stepLimitExceeded
    {bound : Nat}
    {came : Except InterpreterError Nat × Interpreter}
    (stops : StopsWithin bound came)
    (limit : Nat) :
    came.1 ≠ .error (.stepLimitExceeded limit) := by
  cases stops with
  | _ => nofun

namespace Interpreter

variable
  {interpreter last : Interpreter}
  {script : ActiveScript}
  {steps : List TraceStep}

/-- The steps that are taken and those that are left are no more than were left at first. -/
theorem Takes.length_add_stepsLeft_le
    (takes : interpreter.Takes steps last)
    (running : interpreter.activity = .running script)
    (nonempty : 0 < script.program.instructions.size) :
    ∃ final, last.activity = .running final ∧
      steps.length + final.stepsLeft ≤ script.stepsLeft := by
  induction takes generalizing script with
  | nil => exact ⟨script, running, by rw [List.length_nil, Nat.zero_add]⟩
  | @next interpreter _ _ _ steps stepped _ inductionHypothesis =>
      have did := interpreter.stepOf_step
      rw [running, stepped] at did
      obtain ⟨next, runsOn, sameProgram, fewer⟩ := stepsLeft_lt_of_stepOf did nonempty rfl
      obtain ⟨final, doing, bounded⟩ :=
        inductionHypothesis runsOn (by rw [sameProgram]; exact nonempty)
      refine ⟨final, doing, ?_⟩
      rw [List.length_cons]
      omega

/-- A run that is allowed the steps that are left is stopped by its script. -/
theorem stopsWithin_of_stepsLeft_le
    (running : interpreter.activity = .running script)
    (nonempty : 0 < script.program.instructions.size)
    {bound maxSteps : Nat}
    (left : script.stepsLeft ≤ bound)
    (enough : bound ≤ maxSteps) :
    StopsWithin bound (interpreter.runUntilStop maxSteps) := by
  rw [runUntilStop_eq_runFrom (not_terminated_of_running running)]
  have positive := ActiveScript.stepsLeft_pos
  cases interpreter.course maxSteps with
  | limited takes all =>
      obtain ⟨final, -, bounded⟩ := takes.length_add_stepsLeft_le running nonempty
      have oneLeft := positive final
      omega
  | @ended _ last _ _ takes within ends =>
      obtain ⟨final, doing, bounded⟩ := takes.length_add_stepsLeft_le running nonempty
      have oneLeft := positive final
      have did := last.stepOf_step
      rw [doing, ends] at did
      rw [takes.runFrom_of_ended within ends]
      rcases cause_of_stepOf did with ⟨-, script, terminated⟩ | ⟨_, _⟩ | ⟨_, _, _⟩
      · exact .ended (by omega) (by omega) terminated
      · contradiction
      · contradiction
  | @failed _ last _ _ takes within fails notEnded =>
      obtain ⟨final, doing, -⟩ := takes.length_add_stepsLeft_le running nonempty
      have did := last.stepOf_step
      rw [doing, fails] at did
      rw [takes.runFrom_of_failed within fails notEnded]
      rcases cause_of_stepOf did with ⟨isEnd, -⟩ | ⟨offset, rfl⟩ | ⟨pointer, capacity, rfl⟩
      · exact absurd isEnd (notEnded _)
      · exact .unknownOffset
      · exact .stackOverflow

end Interpreter

/-! ## Sessions -/

/-- The steps that are left are no more than all passes over the program take. -/
theorem ActiveScript.stepsLeft_le
    {script : ActiveScript}
    (nonempty : 0 < script.program.instructions.size) :
    script.stepsLeft ≤ script.passes * script.program.instructions.size := by
  have onePass := instructionsFrom_le_size script.program script.offset
  unfold stepsLeft passes
  split <;> omega

/-- A script that a session is stepping through has an instruction. -/
theorem Session.size_pos_of_running
    {database : Database}
    {stackCapacity : Nat}
    {commands : List Command}
    {script : ActiveScript}
    (running : (after database stackCapacity commands).interpreter.activity = .running script) :
    0 < script.program.instructions.size := by
  have consistent := consistent_after database stackCapacity commands
  have active := consistent.active script (congrArg Activity.script? running)
  rw [← SortedMap.length_toList]
  exact List.length_pos_iff.mpr active.nonempty

/--
After any commands a running script stops within one pass over its program, or
within two if a jump is pending: no run that is allowed as many steps exceeds its
limit.
-/
theorem Session.stopsWithin_after
    (database : Database)
    (stackCapacity : Nat)
    (commands : List Command)
    (script : ActiveScript)
    (running : (after database stackCapacity commands).interpreter.activity = .running script)
    (maxSteps : Nat)
    (enough : script.passes * script.program.instructions.size ≤ maxSteps) :
    let run := (after database stackCapacity commands).interpreter.runUntilStop maxSteps
    StopsWithin (script.passes * script.program.instructions.size) run ∧
      run.1 ≠ .error (.stepLimitExceeded maxSteps) := by
  have nonempty := size_pos_of_running running
  have stops :=
    Interpreter.stopsWithin_of_stepsLeft_le running nonempty (ActiveScript.stepsLeft_le nonempty)
      enough
  exact ⟨stops, stops.ne_stepLimitExceeded maxSteps⟩

/-- A script that returns to its first instruction at its end, as it has just started. -/
def circlingScript : ActiveScript :=
  { ActiveScript.start 1 Interpreter.circlingProgram 0 4 with pendingJump? := some 0 }

/-- Two passes over three instructions take six steps, and six are enough. -/
theorem Session.stopsWithin_circling :
    let interpreter :=
      (after Interpreter.circlingDatabase 4 [.switchProgram 1, .setPendingJump 0]).interpreter
    interpreter.activity = .running circlingScript ∧
      circlingScript.passes * circlingScript.program.instructions.size = 6 ∧
      StopsWithin 6 (interpreter.runUntilStop 6) ∧
      (interpreter.runUntilStop 6).1 = .ok 6 := by
  intro interpreter
  have running : interpreter.activity = .running circlingScript := by decide +kernel
  have sixSteps : circlingScript.passes * circlingScript.program.instructions.size = 6 := by
    decide +kernel
  have stops := stopsWithin_after Interpreter.circlingDatabase 4
    [.switchProgram 1, .setPendingJump 0] circlingScript running 6 (Nat.le_of_eq sixSteps)
  rw [sixSteps] at stops
  exact ⟨running, sixSteps, stops.1, by decide +kernel⟩

end AdventureArchive
