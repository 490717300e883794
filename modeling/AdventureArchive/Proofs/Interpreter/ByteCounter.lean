import AdventureArchive.Proofs.Interpreter.Reachable
import AdventureArchive.Proofs.Program.Storable

namespace AdventureArchive

/-!
# Scripts that count bytes

Behind an instruction an interpreter looks for the next key of the program,
however far away it is.  In a program that has been read the keys follow one
another as the instructions do in the code, so that the next key is where the
bytes of the instruction end, and there is none exactly at the end of the code
(`Program.next?_of_keyedFrom`).  A script of such a program moves on as a counter
of bytes does, also behind a return (`Session.countsBytes_after`).
-/

/-! ## Keys that follow one another -/

namespace Program

/-- A program that has been read has keys that follow one another, behind the length of its code. -/
theorem keyedFrom_of_decode
    {registry : OpcodeRegistry}
    {bytes : List UInt8}
    {program : Program}
    (accepted : decode registry bytes = .ok program) :
    KeyedFrom 0 program.instructions.toList ∧
      LittleEndian.decode (bytes.take 4) = program.codeLength := by
  obtain ⟨-, code, sections, strings, written, -, -, rfl⟩ := parts_of_decode accepted
  have keyed := ((writeCode_isOk_iff program).mp ⟨code, written⟩).1
  exact ⟨keyed, decode_take_of_writeCode written _⟩

section Offsets

variable
  {program : Program}
  (keyed : KeyedFrom 0 program.instructions.toList)

include keyed

/-- The first instruction stands at the beginning of the code, if there is code. -/
theorem firstOffset?_of_keyedFrom :
    program.firstOffset? = if 0 < program.codeLength then some 0 else none := by
  have starts := keyed.head?_eq
  rw [length_codeOf] at starts
  rw [firstOffset?, SortedMap.first?_eq_head?]
  split at starts
  next hasCode =>
    obtain ⟨entry, found, isFirst⟩ := Option.map_eq_some_iff.mp starts
    have zero : entry.1 = 0 := UInt32.toNat_inj.mp isFirst
    rw [found, Option.map_some, zero, if_pos hasCode]
  next noCode => rw [Option.map_eq_none_iff.mp starts, Option.map_none, if_neg noCode]

/-- Behind an instruction comes the one where its bytes end, unless the code ends there. -/
theorem next?_of_keyedFrom
    {offset : UInt32}
    {instruction : Instruction}
    (current : program.instructions.get? offset = some instruction) :
    offset.toNat + 1 + instruction.width ≤ program.codeLength ∧
      (program.instructions.next? offset).map (fun entry => entry.1.toNat) =
        if offset.toNat + 1 + instruction.width < program.codeLength then
          some (offset.toNat + 1 + instruction.width)
        else
          none := by
  have member := SortedMap.get?_eq_some_iff.mp current
  obtain ⟨before, ahead, parts⟩ := List.append_of_mem member
  have lengths := length_codeOf program
  rw [parts] at keyed lengths
  obtain ⟨aheadKeyed, whole⟩ := keyed.behind
  rw [lengths, Nat.zero_add] at whole
  refine ⟨Nat.le.intro whole, ?_⟩
  rw [SortedMap.next?_of_split parts, aheadKeyed.head?_eq, ← whole]
  simp only [Nat.lt_add_right_iff_pos]

end Offsets

end Program

/-! ## Steps -/

/-- Where the bytes of an instruction end at which a script stands. -/
def ActiveScript.behind (script : ActiveScript) (instruction : Instruction) : Nat :=
  script.offset.toNat + 1 + instruction.width

/--
What has to come of a step at an instruction that is not the end of a script, in
code of the given length.  The script moves on to where the bytes of the
instruction end, or it ends where it is if this is the end of the code.
-/
structure CountsBytes
    (codeLength : Nat)
    (script : ActiveScript)
    (instruction : Instruction)
    (result : Except InterpreterError StepOutcome)
    (after : Activity) : Prop where
  inside : script.behind instruction ≤ codeLength
  succeeds_iff : (∃ outcome, result = .ok outcome) ↔ script.behind instruction < codeLength
  moves :
    script.behind instruction < codeLength →
      ∃ moved, after = .running moved ∧ moved.program = script.program ∧
        moved.offset.toNat = script.behind instruction
  ends_iff : result = .error (.endOfScript script.id) ↔ script.behind instruction = codeLength
  ends :
    script.behind instruction = codeLength →
      ∃ ended, after = .terminated ended ∧ ended.offset = script.offset

/-- A step counts bytes where keys follow one another and the stack has a slot for a literal. -/
theorem countsBytes_of_stepOf
    {script : ActiveScript}
    {instruction : Instruction}
    {result : Except InterpreterError StepOutcome}
    {after : Activity}
    (did : StepOf (.running script) result after)
    (keyed : Program.KeyedFrom 0 script.program.instructions.toList)
    (hasSlot : script.stackPointer < script.stack.capacity)
    (current : script.instruction? = some instruction)
    (notStop : instruction ≠ .stopScript) :
    CountsBytes script.program.codeLength script instruction result after := by
  obtain ⟨inside, behind⟩ := Program.next?_of_keyedFrom keyed current
  change script.behind instruction ≤ _ at inside
  change _ = (if script.behind instruction < _ then some (script.behind instruction) else none)
    at behind
  cases did with
  | lost nothingThere =>
      rw [nothingThere] at current
      contradiction
  | returned isStop =>
      rw [isStop] at current
      exact absurd (Option.some.inj current).symm notStop
  | stopped isStop =>
      rw [isStop] at current
      exact absurd (Option.some.inj current).symm notStop
  | overflowed _ _ noSlot =>
      exact absurd (OperandStack.set?_eq_none_iff.mp noSlot) (Nat.not_le.mpr hasSlot)
  | @moved _ fetched found offset foundCurrent _ fetches next =>
      have onlyStack := ActiveScript.eq_of_fetches fetches
      rw [onlyStack] at next
      obtain ⟨entry, isNext, rfl⟩ := Option.map_eq_some_iff.mp next
      have isNext : script.program.instructions.next? script.offset = some entry := isNext
      rw [isNext, Option.map_some] at behind
      split at behind
      next before =>
        have moved := Option.some.inj behind
        constructor
        case inside => exact inside
        case succeeds_iff => exact iff_of_true ⟨_, rfl⟩ before
        case moves =>
          intro _
          exact ⟨_, rfl, by rw [onlyStack], moved⟩
        case ends_iff => exact iff_of_false nofun (Nat.ne_of_lt before)
        case ends => exact fun atEnd => absurd atEnd (Nat.ne_of_lt before)
      next => contradiction
  | @finished _ fetched found foundCurrent _ fetches last =>
      have onlyStack := ActiveScript.eq_of_fetches fetches
      rw [onlyStack] at last
      have noNext : script.program.instructions.next? script.offset = none :=
        Option.map_eq_none_iff.mp last
      rw [noNext, Option.map_none] at behind
      split at behind
      next => contradiction
      next notBefore =>
        constructor
        case inside => exact inside
        case succeeds_iff => exact iff_of_false nofun notBefore
        case moves => exact fun before => absurd before notBefore
        case ends_iff => exact iff_of_true rfl (Nat.le_antisymm inside (Nat.le_of_not_lt notBefore))
        case ends =>
          intro _
          exact ⟨fetched, rfl, by rw [onlyStack]⟩

/-! ## Sessions -/

namespace Session

/--
In every session the scripts of a program that has been read count bytes, as long
as the stack has a slot.  They start at the first byte of the code; a program
without code cannot be switched to.
-/
theorem countsBytes_after
    {registry : OpcodeRegistry}
    {bytes : List UInt8}
    {program : Program}
    (decoded : Program.decode registry bytes = .ok program)
    (database : Database)
    (stackCapacity : Nat)
    (commands : List Command) :
    let interpreter := (after database stackCapacity commands).interpreter
    let codeLength := LittleEndian.decode (bytes.take 4)
    program.codeLength = codeLength ∧
      (0 < stackCapacity →
        ∀ script instruction,
          interpreter.activity = .running script →
            script.program = program →
              script.instruction? = some instruction →
                instruction ≠ .stopScript →
                  CountsBytes codeLength script instruction interpreter.step.1
                    interpreter.step.2.activity) ∧
      ∀ id, database.programs.get? id = some program →
        (0 < codeLength →
          interpreter.switchProgram id =
            (.ok (), { interpreter with
              activity := .running (.start id program 0 stackCapacity) })) ∧
        (codeLength = 0 →
          interpreter.switchProgram id = (.error (.emptyProgram id), interpreter)) := by
  obtain ⟨keyed, stored⟩ := Program.keyedFrom_of_decode decoded
  have consistent := consistent_after database stackCapacity commands
  intro interpreter codeLength
  have sameLength : program.codeLength = codeLength := stored.symm
  refine ⟨sameLength, ?_, ?_⟩
  · rintro hasSlots script instruction running rfl current notStop
    have did := interpreter.stepOf_step
    rw [running] at did
    have active := consistent.active script (congrArg Activity.script? running)
    have hasSlot : script.stackPointer < script.stack.capacity := by
      apply Nat.lt_of_not_le
      intro noSlot
      have overflows : script.stack.set? script.stackPointer 0 = none :=
        OperandStack.set?_eq_none_iff.mpr noSlot
      exact Nat.ne_of_gt hasSlots (active.stackCapacity_eq_zero overflows)
    rw [← sameLength]
    exact countsBytes_of_stepOf did keyed hasSlot current notStop
  · intro id loaded
    have found : interpreter.database.programs.get? id = some program := by
      rw [consistent.sameDatabase, loaded]
    have entry := Program.firstOffset?_of_keyedFrom keyed
    rw [sameLength] at entry
    constructor
    · intro positive
      rw [if_pos positive] at entry
      simp only [Interpreter.switchProgram, Interpreter.entry, found, entry]
      rw [consistent.sameCapacity]
    · intro noCode
      rw [if_neg (Nat.not_lt.mpr (Nat.le_of_eq noCode))] at entry
      simp only [Interpreter.switchProgram, Interpreter.entry, found, entry]

/-- A program that fetches a literal and stops, and does nothing where it may be told to go on. -/
def resumableProgram : Program :=
  { Program.empty with
    instructions := SortedMap.ofList [(0, .pushByte 5), (2, .stopScript), (3, .noop)] }

/-- The resumable program as it is stored: four bytes of code, and nothing else. -/
def resumableBytes : List UInt8 :=
  [4, 0, 0, 0, 0x06, 5, 0x01, 0x00] ++ List.replicate 20 0

/-- A database with the resumable program alone. -/
def resumableDatabase : Database :=
  { Database.empty with programs := ResourceTable.empty.insert 1 resumableProgram }

/--
Behind a return the last instruction is one byte from the end of the code, and
ends the script; a switch starts it again at the beginning.
-/
theorem countsBytes_resumable :
    let commands := [.switchProgram 1, .setPendingJump 3, .step, .step]
    let interpreter := (after resumableDatabase 4 commands).interpreter
    (∃ script,
      interpreter.activity = .running script ∧
        script.offset = 3 ∧
        CountsBytes 4 script .noop interpreter.step.1 interpreter.step.2.activity ∧
        interpreter.step.1 = .error (.endOfScript 1)) ∧
      interpreter.switchProgram 1 =
        (.ok (), { interpreter with activity := .running (.start 1 resumableProgram 0 4) }) := by
  have decoded : Program.decode .standard resumableBytes = .ok resumableProgram := by
    decide +kernel
  obtain ⟨-, counts, starts⟩ := countsBytes_after decoded resumableDatabase 4
    [.switchProgram 1, .setPendingJump 3, .step, .step]
  intro commands interpreter
  constructor
  · let script : ActiveScript :=
      { ActiveScript.start 1 resumableProgram 3 4 with stack := ⟨4, [5], by decide⟩ }
    have running : interpreter.activity = .running script := by decide +kernel
    have current : script.instruction? = some .noop := by decide +kernel
    have step := counts (by decide) script .noop running rfl current nofun
    have atEnd : script.behind .noop = 4 := by decide
    exact ⟨script, running, rfl, step, step.ends_iff.mpr atEnd⟩
  · have loaded : resumableDatabase.programs.get? 1 = some resumableProgram := by
      decide +kernel
    exact (starts 1 loaded).1 (by decide)

end Session

end AdventureArchive
