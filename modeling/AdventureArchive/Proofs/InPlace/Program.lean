import Mathlib.Tactic.SplitIfs
import AdventureArchive.Program.Format
import AdventureArchive.Proofs.InPlace.Access
import AdventureArchive.Proofs.Program.Instruction

namespace AdventureArchive

/-!
# Programs in place

Instructions, records and strings are read in place with cursors.  The width of
the operands and the room for the records are checked before they are read, so
the branches for operands and records that are cut short are never taken
(`decodeInstruction_eq`, `follows_readSection`), and a program is read as in
order (`decodeProgram_eq`).
-/

namespace InPlace

/-! ## Code -/

/-- Reads the operands behind an opcode. -/
def decodeInstruction
    (registry : OpcodeRegistry)
    (opcode : UInt8)
    (cursor : Cursor) :
    Except (Stop InstructionError) (Instruction × Cursor) :=
  match registry.lookup opcode with
  | .error cause => .error (.fault cause)
  | .ok descriptor =>
      if cursor.remaining < descriptor.width then
        .error (.fault (.truncated descriptor.name descriptor.width cursor.remaining))
      else
        match Instruction.readOperands descriptor.opcode cursor.rest with
        | some (instruction, _) => .ok (instruction, cursor.advance instruction.width)
        | none => .error (.stray (.branch .operands))

/-- Reading operands only moves on. -/
theorem advance_of_decodeInstruction
    {registry : OpcodeRegistry}
    {opcode : UInt8}
    {cursor behind : Cursor}
    {instruction : Instruction}
    (accepted : decodeInstruction registry opcode cursor = .ok (instruction, behind)) :
    behind = cursor.advance instruction.width := by
  unfold decodeInstruction at accepted
  split at accepted
  next => contradiction
  next =>
    split at accepted
    next => contradiction
    next =>
      split at accepted
      next =>
        obtain ⟨rfl, rfl⟩ := Prod.mk.inj (Except.ok.inj accepted)
        rfl
      next => contradiction

/-- Behind an instruction there is less to read than before its opcode. -/
theorem remaining_lt_of_decodeInstruction
    {registry : OpcodeRegistry}
    {opcode : UInt8}
    {cursor behindOpcode behind : Cursor}
    {instruction : Instruction}
    (unread : 0 < cursor.remaining)
    (opcodeRead : cursor.read? UInt8 = some (opcode, behindOpcode))
    (accepted : decodeInstruction registry opcode behindOpcode = .ok (instruction, behind)) :
    behind.remaining < cursor.remaining := by
  rw [advance_of_decodeInstruction accepted, Cursor.eq_advance_of_read? opcodeRead]
  simp only [Cursor.remaining, Cursor.advance, Layout.width] at unread ⊢
  omega

/-- Operands are read in place as in order. -/
theorem follows_decodeInstruction
    (registry : OpcodeRegistry)
    (opcode : UInt8)
    (cursor : Cursor) :
    Follows (decodeInstruction registry opcode cursor)
      (registry.decode opcode cursor.rest) := by
  rw [decodeInstruction, OpcodeRegistry.decode]
  cases found : registry.lookup opcode with
  | error cause => exact .fault cause
  | ok descriptor =>
      obtain ⟨member, rfl⟩ := OpcodeRegistry.descriptor_of_lookup found
      dsimp only
      by_cases short : cursor.remaining < descriptor.width
      · have unread : Instruction.readOperands descriptor.opcode cursor.rest = none := by
          rw [Instruction.readOperands_eq_none_iff member, Cursor.length_rest]
          exact short
        rw [if_pos short, unread, Cursor.length_rest]
        exact .fault _
      · rw [if_neg short]
        cases operandsRead : Instruction.readOperands descriptor.opcode cursor.rest with
        | none =>
            rw [Instruction.readOperands_eq_none_iff member, Cursor.length_rest] at operandsRead
            exact absurd operandsRead short
        | some taken =>
            apply Follows.ok
            rw [Cursor.rest_advance, (Instruction.eq_append_of_readOperands operandsRead).2,
              ← Instruction.length_payload, List.drop_left]

/-- Reads instructions until the code ends, adding them to those read before. -/
def decodeCodeFrom
    (registry : OpcodeRegistry)
    (codeLength : UInt32)
    (collected : SortedMap UInt32 Instruction)
    (cursor : Cursor) :
    Except (Stop ProgramError) (SortedMap UInt32 Instruction) :=
  if unread : 0 < cursor.remaining then
    match opcodeRead : cursor.read? UInt8 with
    | none => .error (.stray (.branch .opcodeByte))
    | some (opcode, behindOpcode) =>
        match decoded : decodeInstruction registry opcode behindOpcode with
        | .ok (instruction, behind) =>
            have _shorter := remaining_lt_of_decodeInstruction unread opcodeRead decoded
            decodeCodeFrom registry codeLength
              (collected.insert (UInt32.ofNat cursor.position) instruction) behind
        | .error (.fault (.truncated mnemonic needed _)) =>
            .error (.fault (.misalignedStream
              (UInt32.ofNat cursor.position) mnemonic needed codeLength))
        | .error (.fault (.unknownOpcode unknown)) =>
            .error (.fault (.instruction
              (UInt32.ofNat cursor.position) (.unknownOpcode unknown)))
        | .error (.stray what) => .error (.stray what)
  else
    .ok collected
termination_by cursor.remaining

/-- What begins with an opcode leaves it to be read. -/
theorem read?_of_rest_cons
    {cursor : Cursor}
    {opcode : UInt8}
    {behind : List UInt8}
    (whole : cursor.rest = opcode :: behind) :
    0 < cursor.remaining ∧
      ∃ next, cursor.read? UInt8 = some (opcode, next) ∧ next.rest = behind ∧
        next = cursor.advance 1 := by
  constructor
  · rw [← Cursor.length_rest, whole]
    exact Nat.zero_lt_succ _
  · exact Cursor.read?_of_read cursor (by rw [whole]; rfl)

/-- One round of reading: an opcode and its operands. -/
theorem decodeCodeFrom_of_read?
    {registry : OpcodeRegistry}
    {codeLength : UInt32}
    {collected : SortedMap UInt32 Instruction}
    {cursor behindOpcode : Cursor}
    {opcode : UInt8}
    (unread : 0 < cursor.remaining)
    (opcodeRead : cursor.read? UInt8 = some (opcode, behindOpcode)) :
    decodeCodeFrom registry codeLength collected cursor =
      match decodeInstruction registry opcode behindOpcode with
      | .ok (instruction, behind) =>
          decodeCodeFrom registry codeLength
            (collected.insert (UInt32.ofNat cursor.position) instruction) behind
      | .error (.fault (.truncated mnemonic needed _)) =>
          .error (.fault (.misalignedStream
            (UInt32.ofNat cursor.position) mnemonic needed codeLength))
      | .error (.fault (.unknownOpcode unknown)) =>
          .error (.fault (.instruction
            (UInt32.ofNat cursor.position) (.unknownOpcode unknown)))
      | .error (.stray what) => .error (.stray what) := by
  rw [decodeCodeFrom, dif_pos unread]
  split
  next nothingRead =>
    rw [opcodeRead] at nothingRead
    contradiction
  next found behindFound foundRead =>
    obtain ⟨rfl, rfl⟩ := Prod.mk.inj (Option.some.inj (opcodeRead.symm.trans foundRead))
    split
    all_goals
      next decoded => simp only [decoded]

/-- Instructions are read in place as in order. -/
theorem decodeCodeFrom_eq
    (registry : OpcodeRegistry)
    (codeLength : UInt32)
    (collected : SortedMap UInt32 Instruction)
    (cursor : Cursor) :
    decodeCodeFrom registry codeLength collected cursor =
      safely
        (Program.decodeCodeFrom registry codeLength cursor.position collected cursor.rest) := by
  -- The induction is on reading in order; the cursor stands where its bytes begin.
  generalize whole : cursor.rest = bytes, start : cursor.position = offset
  fun_induction Program.decodeCodeFrom registry codeLength offset collected bytes
      generalizing cursor with
  | case1 offset collected =>
      have nothing : ¬ 0 < cursor.remaining := by
        rw [← Cursor.length_rest, whole]
        exact Nat.lt_irrefl 0
      rw [decodeCodeFrom, dif_neg nothing]
      rfl
  | case2 offset collected opcode behindOpcode instruction rest decoded shorter
      inductionHypothesis =>
      obtain ⟨unread, next, opcodeRead, rfl, sameNext⟩ := read?_of_rest_cons whole
      obtain ⟨behind, operandsRead, sameRest⟩ :=
        (follows_decodeInstruction registry opcode next).exists_ok decoded
      have position : behind.position = offset + instruction.size := by
        rw [advance_of_decodeInstruction operandsRead, sameNext, ← start]
        exact Nat.add_assoc _ _ _
      rw [decodeCodeFrom_of_read? unread opcodeRead, operandsRead, start]
      exact inductionHypothesis behind sameRest position
  | case3 offset collected opcode behindOpcode mnemonic needed available decoded =>
      obtain ⟨unread, next, opcodeRead, rfl, -⟩ := read?_of_rest_cons whole
      rw [decodeCodeFrom_of_read? unread opcodeRead,
        (follows_decodeInstruction registry opcode next).eq_fault decoded, start]
      rfl
  | case4 offset collected opcode behindOpcode unknown decoded =>
      obtain ⟨unread, next, opcodeRead, rfl, -⟩ := read?_of_rest_cons whole
      rw [decodeCodeFrom_of_read? unread opcodeRead,
        (follows_decodeInstruction registry opcode next).eq_fault decoded, start]
      rfl

/-- The instructions of a code section. -/
def decodeCode
    (registry : OpcodeRegistry)
    (code : List UInt8) :
    Except (Stop ProgramError) (SortedMap UInt32 Instruction) :=
  decodeCodeFrom registry (UInt32.ofNat code.length) .empty (.start code)

theorem decodeCode_eq
    (registry : OpcodeRegistry)
    (code : List UInt8) :
    decodeCode registry code = safely (Program.decodeCode registry code) :=
  decodeCodeFrom_eq registry _ _ _

/-! ## Sections -/

/-- Reads a record section. -/
def readSection
    {α : Type}
    [Layout α]
    (part : ProgramSection)
    (cursor : Cursor) :
    Except (Stop ProgramError) (List α × Cursor) :=
  match cursor.read? UInt16 with
  | none => .error (.fault (.truncatedSection part (Layout.width UInt16) 0))
  | some (count, behindCount) => do
      let needed ← within64 (count.toNat * Layout.width α)
      if behindCount.remaining < needed then
        .error (.fault (.truncatedSection part needed behindCount.remaining))
      else
        behindCount.readEach .sectionRecord [] count.toNat

/-- The room for the records is checked first, so each of them is read. -/
theorem follows_readSection
    {α : Type}
    [Layout α]
    [LawfulLayout α]
    (part : ProgramSection)
    (narrow : Layout.width α < UInt16.size)
    (cursor : Cursor) :
    Follows (readSection (α := α) part cursor) (Program.readSection part cursor.rest) := by
  rw [readSection, Program.readSection]
  match countRead : (Layout.read cursor.rest : Option (UInt16 × List UInt8)) with
  | none =>
      rw [Cursor.read?_of_read_eq_none _ countRead]
      exact .fault _
  | some (count, behindCount) =>
      obtain ⟨next, cursorRead, rfl, -⟩ := Cursor.read?_of_read _ countRead
      have fits : count.toNat * Layout.width α < UInt64.size :=
        Nat.lt_trans (Nat.mul_lt_mul'' count.toNat_lt narrow) (by decide)
      rw [cursorRead]
      dsimp only
      rw [within64_eq fits, Except.ok_bind]
      match recordsRead : (Layout.readMany count.toNat next.rest :
          Option (List α × List UInt8)) with
      | none =>
          have short := Layout.length_lt_of_readMany_eq_none recordsRead
          rw [Cursor.length_rest] at short
          rw [if_pos short, Cursor.length_rest]
          exact .fault _
      | some (records, rest) =>
          have enough : ¬ next.remaining < count.toNat * Layout.width α := by
            intro short
            rw [← Cursor.length_rest] at short
            rw [Layout.readMany_eq_none_iff.mpr short] at recordsRead
            contradiction
          obtain ⟨behind, eachRead, sameRest⟩ := Cursor.readEach_of_readOnto recordsRead
          rw [if_neg enough, eachRead]
          exact .ok records sameRest

/-- Reads strings, adding them to those read before. -/
def readStringsOnto
    (collected : SortedMap UInt16 String) :
    Nat → Cursor → Except (Stop ProgramError) (SortedMap UInt16 String × Cursor)
  | 0, cursor => .ok (collected, cursor)
  | count + 1, cursor =>
      match cursor.read? UInt16 with
      | none => .error (.fault (.truncatedSection .strings 4 0))
      | some (id, behindId) =>
          match behindId.read? UInt16 with
          | none => .error (.fault (.truncatedSection .strings 2 0))
          | some (length, behindLength) =>
              match behindLength.take? length.toNat with
              | none =>
                  .error (.fault (.truncatedSection .strings
                    length.toNat behindLength.remaining))
              | some (text, behind) =>
                  if collected.contains id then
                    .error (.fault (.duplicateString id))
                  else
                    readStringsOnto
                      (collected.insert id (SingleByteText.decode text))
                      count behind

/-- Reads the string section. -/
def readStrings
    (cursor : Cursor) :
    Except (Stop ProgramError) (SortedMap UInt16 String × Cursor) :=
  match cursor.read? UInt16 with
  | none => .error (.fault (.truncatedSection .strings 2 0))
  | some (count, behindCount) => readStringsOnto .empty count.toNat behindCount

/-- Strings are read in place as in order. -/
theorem follows_readStringsOnto
    (collected : SortedMap UInt16 String)
    (count : Nat)
    (cursor : Cursor) :
    Follows (readStringsOnto collected count cursor)
      (Program.readStringsOnto collected count cursor.rest) := by
  induction count generalizing collected cursor with
  | zero => exact .ok collected rfl
  | succ count inductionHypothesis =>
      rw [readStringsOnto, Program.readStringsOnto]
      match idRead : (Layout.read cursor.rest : Option (UInt16 × List UInt8)) with
      | none =>
          rw [Cursor.read?_of_read_eq_none _ idRead]
          exact .fault _
      | some (id, behindId) =>
          obtain ⟨next, cursorRead, rfl, -⟩ := Cursor.read?_of_read _ idRead
          rw [cursorRead]
          dsimp only
          match lengthRead : (Layout.read next.rest : Option (UInt16 × List UInt8)) with
          | none =>
              rw [Cursor.read?_of_read_eq_none _ lengthRead]
              exact .fault _
          | some (length, behindLength) =>
              obtain ⟨_, cursorRead, rfl, rfl⟩ := Cursor.read?_of_read _ lengthRead
              have inside := Cursor.position_le_of_read lengthRead (by decide)
              rw [cursorRead]
              dsimp only
              match taken : takeBytes? length.toNat (next.advance (Layout.width UInt16)).rest with
              | none =>
                  rw [Cursor.take?_of_takeBytes?_eq_none taken, Cursor.length_rest]
                  exact .fault _
              | some (text, rest) =>
                  obtain ⟨behind, textTaken, rfl⟩ := Cursor.take?_of_takeBytes? inside taken
                  rw [textTaken]
                  dsimp only
                  split_ifs with repeated
                  · exact .fault _
                  · exact inductionHypothesis _ behind

theorem follows_readStrings (cursor : Cursor) :
    Follows (readStrings cursor) (Program.readStrings cursor.rest) := by
  rw [readStrings, Program.readStrings]
  match countRead : (Layout.read cursor.rest : Option (UInt16 × List UInt8)) with
  | none =>
      rw [Cursor.read?_of_read_eq_none _ countRead]
      exact .fault _
  | some (count, behindCount) =>
      obtain ⟨next, cursorRead, rfl, -⟩ := Cursor.read?_of_read _ countRead
      rw [cursorRead]
      exact follows_readStringsOnto .empty count.toNat next

/-! ## Programs -/

/-- Splits a stored program into its code and what follows the code. -/
def splitCode (bytes : List UInt8) : Except (Stop ProgramError) (List UInt8 × Cursor) :=
  match (Cursor.start bytes).read? UInt32 with
  | none => .error (.fault .truncatedHeader)
  | some (codeLength, behindLength) =>
      match behindLength.take? codeLength.toNat with
      | none => .error (.fault (.codeOverrun codeLength behindLength.remaining))
      | some split => .ok split

theorem follows_splitCode (bytes : List UInt8) :
    Follows (splitCode bytes) (Program.splitCode bytes) := by
  rw [splitCode, Program.splitCode, ← Cursor.rest_start bytes]
  match lengthRead : (Layout.read (Cursor.start bytes).rest :
      Option (UInt32 × List UInt8)) with
  | none =>
      rw [Cursor.rest_start, Cursor.read?_of_read_eq_none _ lengthRead]
      exact .fault _
  | some (codeLength, behindLength) =>
      obtain ⟨next, cursorRead, rfl, sameNext⟩ := Cursor.read?_of_read _ lengthRead
      have inside := Cursor.position_le_of_read lengthRead (by decide)
      rw [← sameNext] at inside
      rw [Cursor.rest_start, cursorRead]
      dsimp only
      match taken : takeBytes? codeLength.toNat next.rest with
      | none =>
          rw [Cursor.take?_of_takeBytes?_eq_none taken, Cursor.length_rest]
          exact .fault _
      | some (code, rest) =>
          obtain ⟨behind, codeTaken, rfl⟩ := Cursor.take?_of_takeBytes? inside taken
          rw [codeTaken]
          exact .ok code rfl

/-- Reads a stored program. -/
def decodeProgram
    (registry : OpcodeRegistry)
    (bytes : List UInt8) :
    Except (Stop ProgramError) Program := do
  let (code, cursor) ← splitCode bytes
  let instructions ← decodeCode registry code
  let (rects, cursor) ← readSection .rects cursor
  let (points, cursor) ← readSection .points cursor
  let (walkLinks, cursor) ← readSection .walkLinks cursor
  let (areas, cursor) ← readSection .areas cursor
  let (backgrounds, cursor) ← readSection .backgrounds cursor
  let (hitboxes, cursor) ← readSection .hitboxes cursor
  let (actionScripts, cursor) ← readSection .actionScripts cursor
  let (conversations, cursor) ← readSection .conversations cursor
  let (characterScripts, cursor) ← readSection .characterScripts cursor
  let (strings, cursor) ← readStrings cursor
  if cursor.remaining = 0 then
    return {
      rects, points, walkLinks, areas, backgrounds, hitboxes, actionScripts,
      conversations, characterScripts, strings, instructions
    }
  else
    throw (.fault (.trailingBytes cursor.remaining))

/-- A program is read in place as in order. -/
theorem decodeProgram_eq
    (registry : OpcodeRegistry)
    (bytes : List UInt8) :
    decodeProgram registry bytes = safely (Program.decode registry bytes) := by
  refine (follows_splitCode bytes).bind_safely fun code cursor => ?_
  dsimp only
  rw [decodeCode_eq, safely_bind]
  congr 1
  funext instructions
  refine (follows_readSection .rects (by decide) cursor).bind_safely fun rects cursor => ?_
  refine (follows_readSection .points (by decide) cursor).bind_safely fun points cursor => ?_
  refine (follows_readSection .walkLinks (by decide) cursor).bind_safely
    fun walkLinks cursor => ?_
  refine (follows_readSection .areas (by decide) cursor).bind_safely fun areas cursor => ?_
  refine (follows_readSection .backgrounds (by decide) cursor).bind_safely
    fun backgrounds cursor => ?_
  refine (follows_readSection .hitboxes (by decide) cursor).bind_safely
    fun hitboxes cursor => ?_
  refine (follows_readSection .actionScripts (by decide) cursor).bind_safely
    fun actionScripts cursor => ?_
  refine (follows_readSection .conversations (by decide) cursor).bind_safely
    fun conversations cursor => ?_
  refine (follows_readSection .characterScripts (by decide) cursor).bind_safely
    fun characterScripts cursor => ?_
  refine (follows_readStrings cursor).bind_safely fun strings cursor => ?_
  have sameEnd : cursor.rest.isEmpty = true ↔ cursor.remaining = 0 := by
    rw [List.isEmpty_iff_length_eq_zero, Cursor.length_rest]
  simp only [sameEnd, Cursor.length_rest]
  split_ifs
  all_goals rfl

end InPlace

end AdventureArchive
