import AdventureArchive.Proofs.Interpreter.Traces

namespace AdventureArchive

/-!
# The path of a program

When a program is traced no jump is pending, so it is gone through in the order
of its offsets up to the first end of a script.  These instructions are its path,
and the path tells the whole trace (`Interpreter.traceProgram_eq_of_loaded`): a
literal needs a slot, the limit is reached if the path is longer, and otherwise
there is one step for each instruction.

`traceAhead` says what is still to come of a trace with a path ahead of it.  It
unfolds in the same steps as the trace, by `StepAlong`.
-/

/-- The instructions up to the first end of a script, which is included, or all of them. -/
def upToStop : List (UInt32 × Instruction) → List (UInt32 × Instruction)
  | [] => []
  | entry :: ahead => if entry.2 = .stopScript then [entry] else entry :: upToStop ahead

/-- The instructions that a program goes through. -/
def Program.path (program : Program) : List (UInt32 × Instruction) :=
  upToStop program.instructions.toList

/-- The place on a path where a literal is fetched for the first time. -/
def firstFetch? (path : List (UInt32 × Instruction)) : Option Nat :=
  path.findIdx? fun entry => entry.2.literal?.isSome

/-- What is reported of an instruction when the next one has the given offset. -/
def passing (entry : UInt32 × Instruction) (next : UInt32) : StepOutcome :=
  match entry.2 with
  | .noop | .pushByte _ | .pushWord _ | .pushLong _ => .advanced next
  | instruction => .unhandled entry.1 instruction

/-- The steps that go through a path to its end. -/
def stepsAlong : List (UInt32 × Instruction) → List TraceStep
  | [] => []
  | [entry] => [⟨entry.1, some entry.2, none⟩]
  | entry :: next :: ahead =>
      ⟨entry.1, some entry.2, some (passing entry next.1)⟩ :: stepsAlong (next :: ahead)

/-! ## What is still to come -/

/-- What comes of a trace that has a path ahead and is allowed a number of steps. -/
def traceAhead
    (stackCapacity maxSteps allowed : Nat)
    (path : List (UInt32 × Instruction)) :
    Except InterpreterError (List TraceStep) :=
  if stackCapacity = 0 ∧ ∃ position ∈ firstFetch? path, position < allowed then
    .error (.stackOverflow 0 0)
  else if path.length ≤ allowed then
    .ok (stepsAlong path)
  else
    .error (.stepLimitExceeded maxSteps)

section Ahead

variable
  {stackCapacity : Nat}
  {entry next : UInt32 × Instruction}
  {ahead : List (UInt32 × Instruction)}

/-- A path starts with the first instruction. -/
theorem exists_upToStop_eq
    (entry : UInt32 × Instruction)
    (ahead : List (UInt32 × Instruction)) :
    ∃ path, upToStop (entry :: ahead) = entry :: path := by
  rw [upToStop]
  split
  next => exact ⟨[], rfl⟩
  next => exact ⟨upToStop ahead, rfl⟩

/-- A path ends with the end of a script or where there are no more instructions. -/
theorem upToStop_eq_singleton (isLast : entry.2 = .stopScript ∨ ahead = []) :
    upToStop (entry :: ahead) = [entry] := by
  rcases isLast with stops | rfl
  · rw [upToStop, if_pos stops]
  · rw [upToStop, upToStop, ite_self]

/-- Without steps nothing is traced. -/
theorem traceAhead_zero
    (maxSteps : Nat)
    (entry : UInt32 × Instruction)
    (ahead : List (UInt32 × Instruction)) :
    traceAhead stackCapacity maxSteps 0 (upToStop (entry :: ahead)) =
      .error (.stepLimitExceeded maxSteps) := by
  obtain ⟨path, split⟩ := exists_upToStop_eq entry ahead
  simp [traceAhead, split]

/-- The first literal overflows a stack without slots. -/
theorem traceAhead_of_fetch
    (maxSteps allowed : Nat)
    (fetches : entry.2.literal?.isSome) :
    traceAhead 0 maxSteps (allowed + 1) (upToStop (entry :: ahead)) =
      .error (.stackOverflow 0 0) := by
  obtain ⟨path, split⟩ := exists_upToStop_eq entry ahead
  have first : firstFetch? (upToStop (entry :: ahead)) = some 0 := by
    rw [split, firstFetch?, List.findIdx?_cons, if_pos fetches]
  simp [traceAhead, first]

/-- The last instruction of a path is the last step. -/
theorem traceAhead_singleton
    (maxSteps allowed : Nat)
    (fits : stackCapacity = 0 → entry.2.literal? = none) :
    traceAhead stackCapacity maxSteps (allowed + 1) [entry] =
      .ok [⟨entry.1, some entry.2, none⟩] := by
  have noOverflow :
      ¬ (stackCapacity = 0 ∧ ∃ position ∈ firstFetch? [entry], position < allowed + 1) := by
    rintro ⟨noSlots, _, found, -⟩
    simp [firstFetch?, fits noSlots] at found
  rw [traceAhead, if_neg noOverflow, if_pos (by simp)]
  rfl

/-- An instruction that is not the last one adds its step. -/
theorem traceAhead_cons
    (maxSteps allowed : Nat)
    (fits : stackCapacity = 0 → entry.2.literal? = none)
    (path : List (UInt32 × Instruction)) :
    traceAhead stackCapacity maxSteps (allowed + 1) (entry :: next :: path) =
      (traceAhead stackCapacity maxSteps allowed (next :: path)).map
        (⟨entry.1, some entry.2, some (passing entry next.1)⟩ :: ·) := by
  have sameOverflow :
      (stackCapacity = 0 ∧
          ∃ position ∈ firstFetch? (entry :: next :: path), position < allowed + 1) ↔
        stackCapacity = 0 ∧ ∃ position ∈ firstFetch? (next :: path), position < allowed := by
    refine and_congr_right fun noSlots => ?_
    rw [firstFetch?, List.findIdx?_cons, fits noSlots]
    simp [firstFetch?]
  have sameLength :
      (entry :: next :: path).length ≤ allowed + 1 ↔ (next :: path).length ≤ allowed := by
    simp
  rw [traceAhead, traceAhead, if_congr sameOverflow rfl rfl, if_congr sameLength rfl rfl]
  split
  next => rfl
  next =>
    split
    next => rfl
    next => rfl

end Ahead

/-! ## Steps on a path -/

/--
A script that stands at an entry of its program, with the entries behind it still
to come, with no jump pending and with the pointer at the lowest slot.
-/
structure ActiveScript.StandsAt
    (script : ActiveScript)
    (stackCapacity : Nat)
    (entry : UInt32 × Instruction)
    (ahead : List (UInt32 × Instruction)) : Prop where
  entries : ∃ before, script.program.instructions.toList = before ++ entry :: ahead
  offset : script.offset = entry.1
  notPending : script.pendingJump? = none
  stackPointer : script.stackPointer = 0
  capacity : script.stack.capacity = stackCapacity

/-- What a step comes to at an entry with others behind it. -/
inductive StepAlong
    (stackCapacity : Nat)
    (entry : UInt32 × Instruction)
    (ahead : List (UInt32 × Instruction)) :
    Except InterpreterError StepOutcome → Activity → Prop where
  | overflows
      {after : Activity}
      (noSlots : stackCapacity = 0)
      (fetches : entry.2.literal?.isSome) :
      StepAlong stackCapacity entry ahead (.error (.stackOverflow 0 0)) after
  | ends
      {program : UInt16}
      {after : Activity}
      (fits : stackCapacity = 0 → entry.2.literal? = none)
      (isLast : entry.2 = .stopScript ∨ ahead = []) :
      StepAlong stackCapacity entry ahead (.error (.endOfScript program)) after
  | passes
      {next : UInt32 × Instruction}
      {behind : List (UInt32 × Instruction)}
      {moved : ActiveScript}
      (fits : stackCapacity = 0 → entry.2.literal? = none)
      (notStop : entry.2 ≠ .stopScript)
      (isNext : ahead = next :: behind)
      (stands : moved.StandsAt stackCapacity next behind) :
      StepAlong stackCapacity entry ahead (.ok (passing entry next.1)) (.running moved)

namespace ActiveScript

section Steps

variable
  {script fetched : ActiveScript}
  {stackCapacity : Nat}
  {entry : UInt32 × Instruction}
  {ahead : List (UInt32 × Instruction)}

/-- A script that goes on behind an instruction reports what passing it reports. -/
theorem outcome_eq_passing
    {instruction : Instruction}
    (notStop : instruction ≠ .stopScript)
    (next : UInt32) :
    script.outcome instruction next = passing (script.offset, instruction) next := by
  unfold passing
  split
  next isNoop =>
    obtain rfl : instruction = .noop := isNoop
    rfl
  next isByte =>
    obtain rfl : instruction = .pushByte _ := isByte
    rfl
  next isWord =>
    obtain rfl : instruction = .pushWord _ := isWord
    rfl
  next isLong =>
    obtain rfl : instruction = .pushLong _ := isLong
    rfl
  next notNoop notByte notWord notLong =>
    have noLiteral := Instruction.literal?_eq_none notByte notWord notLong
    have notNoop : instruction ≠ .noop := notNoop
    simp [outcome, Interpreter.isHandled, notStop, notNoop, noLiteral]

/-- Fetching keeps the number of slots, and without slots no literal is fetched. -/
theorem capacity_of_fetches
    {instruction : Instruction}
    (fetches : script.Fetches instruction fetched) :
    fetched.stack.capacity = script.stack.capacity ∧
      (script.stack.capacity = 0 → instruction.literal? = none) := by
  unfold Fetches at fetches
  split at fetches
  next value literal =>
    obtain ⟨stack, written, rfl⟩ := fetch_eq_ok_iff.mp fetches
    have slots := congrArg List.length (OperandStack.toList_of_set?_eq_some written)
    rw [List.length_set, OperandStack.length_toList, OperandStack.length_toList] at slots
    refine ⟨slots, fun noSlots => ?_⟩
    have noSlot : script.stack.set? script.stackPointer value = none := by
      rw [OperandStack.set?_eq_none_iff, noSlots]
      exact Nat.zero_le _
    rw [noSlot] at written
    contradiction
  next noLiteral =>
    obtain rfl := fetches
    exact ⟨rfl, fun _ => noLiteral⟩

/-- The current instruction is the one of the entry. -/
theorem StandsAt.instruction?_eq (stands : script.StandsAt stackCapacity entry ahead) :
    script.instruction? = some entry.2 := by
  obtain ⟨before, split⟩ := stands.entries
  rw [instruction?, stands.offset, SortedMap.get?_eq_some_iff, split]
  exact List.mem_append_right _ List.mem_cons_self

/-- The next instruction is the one behind the entry. -/
theorem StandsAt.nextOffset?_eq (stands : script.StandsAt stackCapacity entry ahead) :
    script.nextOffset? = ahead.head?.map Prod.fst := by
  obtain ⟨before, split⟩ := stands.entries
  rw [nextOffset?, stands.offset, SortedMap.next?_of_split split]

/-- A script that has fetched and moved on stands at the next entry. -/
theorem StandsAt.move
    {next : UInt32 × Instruction}
    (stands : script.StandsAt stackCapacity entry (next :: ahead))
    {instruction : Instruction}
    (fetches : script.Fetches instruction fetched) :
    ({ fetched with offset := next.1 } : ActiveScript).StandsAt stackCapacity next ahead := by
  obtain ⟨before, split⟩ := stands.entries
  have onlyStack := eq_of_fetches fetches
  constructor
  case entries =>
    refine ⟨before ++ [entry], ?_⟩
    rw [onlyStack, List.append_assoc]
    exact split
  case offset => rfl
  case notPending =>
    rw [onlyStack]
    exact stands.notPending
  case stackPointer =>
    rw [onlyStack]
    exact stands.stackPointer
  case capacity => exact (capacity_of_fetches fetches).1.trans stands.capacity

/-- A step at an entry does one of the things that it can do there. -/
theorem StandsAt.stepAlong
    (stands : script.StandsAt stackCapacity entry ahead)
    {result : Except InterpreterError StepOutcome}
    {after : Activity}
    (did : StepOf (.running script) result after) :
    StepAlong stackCapacity entry ahead result after := by
  have isCurrent := stands.instruction?_eq
  have isNext := stands.nextOffset?_eq
  cases did with
  | lost nothingThere =>
      rw [isCurrent] at nothingThere
      contradiction
  | returned _ pending =>
      rw [stands.notPending] at pending
      contradiction
  | stopped current =>
      obtain stops := Option.some.inj (isCurrent.symm.trans current)
      exact .ends (fun _ => by rw [stops]; rfl) (Or.inl stops)
  | overflowed current literal noSlot =>
      obtain rfl := Option.some.inj (isCurrent.symm.trans current)
      rw [OperandStack.set?_eq_none_iff, stands.stackPointer, stands.capacity] at noSlot
      have noSlots := Nat.le_zero.mp noSlot
      rw [stands.stackPointer, stands.capacity, noSlots]
      exact .overflows rfl (by rw [literal]; rfl)
  | moved current notStop fetches next =>
      obtain rfl := Option.some.inj (isCurrent.symm.trans current)
      have fits := (capacity_of_fetches fetches).2
      rw [stands.capacity] at fits
      rw [eq_of_fetches fetches] at next
      obtain ⟨following, found, rfl⟩ := Option.map_eq_some_iff.mp (isNext.symm.trans next)
      obtain ⟨behind, rfl⟩ := List.head?_eq_some_iff.mp found
      rw [outcome_eq_passing notStop, stands.offset]
      exact .passes fits notStop rfl (stands.move fetches)
  | finished current notStop fetches last =>
      obtain rfl := Option.some.inj (isCurrent.symm.trans current)
      have fits := (capacity_of_fetches fetches).2
      rw [stands.capacity] at fits
      rw [eq_of_fetches fetches] at last
      have nothingAhead := Option.map_eq_none_iff.mp (isNext.symm.trans last)
      exact .ends fits (Or.inr (List.head?_eq_none_iff.mp nothingAhead))

end Steps

end ActiveScript

namespace Interpreter

/-! ## Traces of programs -/

/-- What is recorded at an entry. -/
theorem observe_of_standsAt
    {interpreter : Interpreter}
    {script : ActiveScript}
    {stackCapacity : Nat}
    {entry : UInt32 × Instruction}
    {ahead : List (UInt32 × Instruction)}
    (running : interpreter.activity = .running script)
    (stands : script.StandsAt stackCapacity entry ahead)
    (outcome? : Option StepOutcome) :
    interpreter.observe outcome? = ⟨entry.1, some entry.2, outcome?⟩ := by
  have current := stands.instruction?_eq
  have offset := stands.offset
  simp only [observe, currentInstruction?, running, Activity.script?, Option.map_some,
    Option.getD_some, Option.bind_some, current, offset]

/-- A trace from an entry on is told by the path that is ahead. -/
theorem map_toList_traceOnto
    {interpreter : Interpreter}
    {script : ActiveScript}
    {stackCapacity : Nat}
    {entry : UInt32 × Instruction}
    {ahead : List (UInt32 × Instruction)}
    (running : interpreter.activity = .running script)
    (stands : script.StandsAt stackCapacity entry ahead)
    (maxSteps allowed : Nat)
    (recorded : Array TraceStep) :
    (traceOnto maxSteps recorded allowed interpreter).map Array.toList =
      (traceAhead stackCapacity maxSteps allowed (upToStop (entry :: ahead))).map
        (recorded.toList ++ ·) := by
  -- The steps may run out before the path does, so they are what the induction is on.
  induction allowed generalizing interpreter script entry ahead recorded with
  | zero =>
      rw [traceAhead_zero]
      rfl
  | succ allowed inductionHypothesis =>
      have did := interpreter.stepOf_step
      rw [running] at did
      have along := stands.stepAlong did
      have observed := observe_of_standsAt running stands
      rw [traceOnto]
      generalize interpreter.step = came at along
      rcases came with ⟨result, database, capacity, after⟩
      dsimp only at along
      cases along with
      | overflows noSlots fetches =>
          subst noSlots
          rw [traceAhead_of_fetch maxSteps allowed fetches]
          rfl
      | ends fits isLast =>
          rw [upToStop_eq_singleton isLast, traceAhead_singleton maxSteps allowed fits]
          simp [observed, Except.map]
      | @passes following behind moved fits notStop isNext standsNext =>
          subst isNext
          have running : (⟨database, capacity, .running moved⟩ : Interpreter).activity =
              .running moved := rfl
          have later := inductionHypothesis running standsNext
            (recorded.push (interpreter.observe (some (passing entry following.1))))
          obtain ⟨path, split⟩ := exists_upToStop_eq following behind
          rw [split] at later
          rw [upToStop, if_neg notStop, split, traceAhead_cons maxSteps allowed fits]
          dsimp only
          rw [later, observed]
          cases traceAhead stackCapacity maxSteps allowed (following :: path) with
          | error cause => rfl
          | ok steps => simp [Except.map]

/-- A program that is loaded is entered at its first instruction, with all others behind it. -/
theorem standsAt_of_loaded
    {database : Database}
    {id : UInt16}
    {program : Program}
    {entry : UInt32 × Instruction}
    {ahead : List (UInt32 × Instruction)}
    (loaded : database.programs.get? id = some program)
    (entries : program.instructions.toList = entry :: ahead)
    (stackCapacity : Nat) :
    ∃ script, (ofDatabase database stackCapacity).entry id = .ok script ∧
      script.StandsAt stackCapacity entry ahead := by
  have first : program.firstOffset? = some entry.1 := by
    rw [Program.firstOffset?, SortedMap.first?_eq_head?, entries, List.head?_cons, Option.map_some]
  refine ⟨_, entry_eq_ok_iff.mpr ⟨program, entry.1, loaded, first, rfl⟩, ?_⟩
  exact ⟨⟨[], entries⟩, rfl, rfl, rfl, rfl⟩

/--
The trace of a program that is loaded and not empty.  It overflows a stack without
slots if the first literal is fetched within the limit.  Otherwise it has one step
for each instruction of the path if these are within the limit, and else the limit
is exceeded.
-/
theorem traceProgram_eq_of_loaded
    (database : Database)
    (id : UInt16)
    (program : Program)
    (loaded : database.programs.get? id = some program)
    (nonempty : program.instructions.toList ≠ [])
    (stackCapacity maxSteps : Nat) :
    traceProgram database id stackCapacity maxSteps =
      if stackCapacity = 0 ∧ ∃ position ∈ firstFetch? program.path, position < maxSteps then
        .error (.stackOverflow 0 0)
      else if program.path.length ≤ maxSteps then
        .ok ⟨id, stepsAlong program.path⟩
      else
        .error (.stepLimitExceeded maxSteps) := by
  obtain ⟨entry, ahead, entries⟩ := List.exists_cons_of_ne_nil nonempty
  obtain ⟨script, entered, stands⟩ := standsAt_of_loaded loaded entries stackCapacity
  have running : (⟨database, stackCapacity, .running script⟩ : Interpreter).activity =
      .running script := rfl
  have traced := map_toList_traceOnto running stands maxSteps maxSteps #[]
  rw [← entries, ← Program.path] at traced
  calc
    traceProgram database id stackCapacity maxSteps
        = ((traceOnto maxSteps #[] maxSteps ⟨database, stackCapacity, .running script⟩).map
            Array.toList).map (⟨id, ·⟩) := by
          rw [traceProgram_of_entry entered, Except.map_map]
      _ = (traceAhead stackCapacity maxSteps maxSteps program.path).map (⟨id, ·⟩) := by
          rw [traced, Except.map_map]
          simp
      _ = _ := by
          unfold traceAhead
          split
          next => rfl
          next =>
            split
            next => rfl
            next => rfl

/-- A program with gaps between its offsets and instructions behind its first end. -/
def sparseProgram : Program :=
  { Program.empty with
    instructions := SortedMap.ofList
      [(4, .noop), (9, .pushWord 300), (20, .playSound 4), (21, .stopScript), (40, .noop)] }

/-- The program alone in its database. -/
def sparseDatabase : Database :=
  { Database.empty with programs := ResourceTable.empty.insert 3 sparseProgram }

/-- With a slot and four steps the program is traced; without either it is not. -/
theorem traceProgram_sparse :
    sparseDatabase.programs.get? 3 = some sparseProgram ∧
      sparseProgram.instructions.toList ≠ [] ∧
      traceProgram sparseDatabase 3 1 4 =
        .ok ⟨3, [
          ⟨4, some .noop, some (.advanced 9)⟩,
          ⟨9, some (.pushWord 300), some (.advanced 20)⟩,
          ⟨20, some (.playSound 4), some (.unhandled 20 (.playSound 4))⟩,
          ⟨21, some .stopScript, none⟩]⟩ ∧
      traceProgram sparseDatabase 3 1 3 = .error (.stepLimitExceeded 3) ∧
      traceProgram sparseDatabase 3 0 2 = .error (.stackOverflow 0 0) ∧
      traceProgram sparseDatabase 3 0 1 = .error (.stepLimitExceeded 1) := by
  have loaded : sparseDatabase.programs.get? 3 = some sparseProgram := by decide +kernel
  have nonempty : sparseProgram.instructions.toList ≠ [] := by decide +kernel
  have traced := traceProgram_eq_of_loaded sparseDatabase 3 sparseProgram loaded nonempty
  refine ⟨loaded, nonempty, ?_, ?_, ?_, ?_⟩
  all_goals
    rw [traced]
    decide +kernel

end Interpreter

end AdventureArchive
