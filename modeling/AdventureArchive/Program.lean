import AdventureArchive.Instruction.Registry
import AdventureArchive.Program.Records

namespace AdventureArchive

/-!
# Script programs

A program is a list of instructions keyed by code offset, together with the
records and strings the instructions refer to.  This module holds the type, its
listing, and the ways in which its stored form can be wrong.
-/

/-- A script with its geometry, entry points and strings. -/
structure Program where
  rects : List Rect
  points : List Point
  walkLinks : List WalkLink
  areas : List Area
  backgrounds : List Background
  hitboxes : List Hitbox
  actionScripts : List ActionScript
  conversations : List Conversation
  characterScripts : List CharacterScript
  strings : SortedMap UInt16 String
  instructions : SortedMap UInt32 Instruction
  deriving DecidableEq, Inhabited

/-- The parts of a stored program behind its code. -/
inductive ProgramSection where
  | rects
  | points
  | walkLinks
  | areas
  | backgrounds
  | hitboxes
  | actionScripts
  | conversations
  | characterScripts
  | strings
  deriving Repr, DecidableEq

/-- The name errors give a section. -/
def ProgramSection.name : ProgramSection → String
  | .rects => "rects"
  | .points => "points"
  | .walkLinks => "walk links"
  | .areas => "areas"
  | .backgrounds => "backgrounds"
  | .hitboxes => "hitboxes"
  | .actionScripts => "action scripts"
  | .conversations => "conversations"
  | .characterScripts => "character scripts"
  | .strings => "strings"

/-- What is wrong with a program or its stored form. -/
inductive ProgramError where
  | truncatedHeader
  | codeOverrun (declared : UInt32) (available : Nat)
  | instruction (offset : UInt32) (cause : InstructionError)
  | misalignedStream
      (offset : UInt32) (mnemonic : String) (width : Nat) (codeLength : UInt32)
  | truncatedSection (part : ProgramSection) (needed available : Nat)
  | trailingBytes (count : Nat)
  | duplicateString (id : UInt16)
  | offsetGap (expected found : UInt32)
  | sectionTooLarge (part : ProgramSection) (count : Nat)
  | unencodableText (id : UInt16)
  | stringTooLong (id : UInt16) (length : Nat)
  | codeTooLarge (length : Nat)
  deriving Repr, DecidableEq

/-- The wording of a program error and then of its cause, if it has one. -/
def ProgramError.explanation : ProgramError → List String
  | .truncatedHeader => ["program header truncated"]
  | .codeOverrun declared available =>
      [s!"code section declares {declared} bytes but only {available} remain"]
  | .instruction offset cause =>
      [s!"instruction at offset {offset} failed to decode", cause.message]
  | .misalignedStream offset mnemonic width codeLength =>
      [s!"{mnemonic} at offset {offset} needs {width} payload bytes, " ++
        s!"crossing the {codeLength}-byte code section"]
  | .truncatedSection part needed available =>
      [s!"{part.name} section truncated: needs {needed} bytes, {available} remain"]
  | .trailingBytes count => [s!"{count} trailing bytes after the strings section"]
  | .duplicateString id => [s!"string {id} appears more than once"]
  | .offsetGap expected found =>
      [s!"instruction expected at offset {expected} but next key is {found}"]
  | .sectionTooLarge part count =>
      [s!"{part.name} section holds {count} records, more than its u16 count can hold"]
  | .unencodableText id =>
      [s!"string {id} contains characters outside the single-byte range"]
  | .stringTooLong id length =>
      [s!"string {id} is {length} bytes, longer than a u16 length prefix"]
  | .codeTooLarge length =>
      [s!"code section of {length} bytes exceeds the u32 length prefix"]

namespace Program

/-- The program without anything in it. -/
def empty : Program where
  rects := []
  points := []
  walkLinks := []
  areas := []
  backgrounds := []
  hitboxes := []
  actionScripts := []
  conversations := []
  characterScripts := []
  strings := .empty
  instructions := .empty

/-- Offset of the first instruction. -/
def firstOffset? (program : Program) : Option UInt32 :=
  program.instructions.first?.map Prod.fst

/-- Number of bytes the instructions take. -/
def codeLength (program : Program) : Nat :=
  totalSize Instruction.size program.instructions.values

/-- One line per instruction: offset, opcode, and the instruction itself. -/
def disassembly (program : Program) : String :=
  String.join <|
    program.instructions.toList.map fun entry =>
      Columns.offsetText entry.1 ++ "  " ++
        Columns.hexadecimal 2 entry.2.opcode.toNat ++ "  " ++
        entry.2.text ++ "\n"

end Program

end AdventureArchive
