import AdventureArchive.Archive.File
import AdventureArchive.CommandLine.Arguments
import AdventureArchive.CommandLine.Outcome
import AdventureArchive.Json.Printer
import AdventureArchive.Json.Resource

namespace AdventureArchive.CommandLine

/-!
# Inspecting archives

Prints what an archive holds: a line per kind, the failed entries and the
warnings, all of it as JSON, or the listing of one program.  The instruction
set can be listed as well, with or without an archive.
-/

/-- What can be said on the command line of an inspection. -/
inductive InspectArgument where
  | archive
  | json
  | opcodes
  | disassemble
  | sequential
  deriving Repr, DecidableEq

namespace InspectArgument

/-- The archive is positional, everything else an option. -/
def grammar : Grammar InspectArgument where
  options := [
    ("json", .json), ("opcodes", .opcodes), ("disassemble", .disassemble),
    ("sequential", .sequential)]
  positional? := some .archive
  kind
    | .archive => .path
    | .json => .flag
    | .opcodes => .flag
    | .disassemble => .identifier
    | .sequential => .flag

end InspectArgument

/-- What to inspect and how to print it. -/
structure Inspection where
  archive? : Option String
  json : Bool
  opcodes : Bool
  disassemble? : Option UInt16
  sequential : Bool
  deriving Repr, DecidableEq

namespace Inspection

/-- Reads a command line; without a listing of the opcodes, an archive is required. -/
def parse (arguments : List String) : Except UsageFault Inspection := do
  let given ← InspectArgument.grammar.parse arguments
  let inspection : Inspection := {
    archive? := given .archive
    json := (given .json).isSome
    opcodes := (given .opcodes).isSome
    disassemble? := given .disassemble
    sequential := (given .sequential).isSome
  }
  if inspection.archive?.isNone && !inspection.opcodes then
    throw .missingArgument
  else
    return inspection

/-- A line for each instruction that a registry holds. -/
def opcodeListing (registry : OpcodeRegistry) : String :=
  lines <| registry.descriptors.map fun descriptor =>
    s!"{Columns.opcodeText descriptor.opcode}  " ++
      s!"{Columns.alignLeft 20 descriptor.name} {descriptor.width} byte(s)"

/-- The content of an archive file as JSON. -/
def structured (file : ArchiveFile) : Json :=
  .record [
    ("path", toJson file.path),
    ("tables", toJson file.loaded.database.summary),
    ("report", toJson file.loaded.report)]

/-- A line for a kind of which there is anything. -/
def summaryLine? (summary : TableSummary) : Option String :=
  let count (number : Nat) := Columns.alignRight ' ' 6 (toString number)
  if summary.loaded = 0 ∧ summary.failed = 0 then
    none
  else
    some (Columns.alignLeft 14 summary.kind.name ++ " " ++
      count summary.loaded ++ " loaded " ++ count summary.failed ++ " failed")

/-- The content of an archive file in lines. -/
def listing (file : ArchiveFile) : String :=
  let report := file.loaded.report
  lines <|
    file.path ::
      file.loaded.database.summary.filterMap summaryLine? ++
      report.failures.map (fun failure =>
        s!"failed {failure.kind.name} {failure.id}: {failure.message}") ++
      report.warnings.map (fun warning => s!"warning: {warning.message}")

/-- The listing of one program. -/
def disassembly (file : ArchiveFile) (id : UInt16) : Outcome :=
  let programs := file.loaded.database.programs
  match programs.get? id, programs.failure? id with
  | some program, _ => .success program.disassembly
  | none, some message =>
      .failed (.of s!"program {id} failed to decode: {message}")
  | none, none => .failed (.of s!"no program {id} in {file.path}")

/-- What is printed about an archive file. -/
def present (inspection : Inspection) (file : ArchiveFile) : Outcome :=
  match inspection.disassemble? with
  | some id => disassembly file id
  | none =>
      if inspection.json then
        .success ((structured file).pretty ++ "\n")
      else
        .success (listing file)

/-- Carries out an inspection. -/
def run
    {m : Type → Type}
    [Monad m]
    [FileSystem m]
    (inspection : Inspection) :
    m Outcome := do
  let codec : ArchiveCodec :=
    { ArchiveCodec.standard with parallel := !inspection.sequential }
  let opcodes := if inspection.opcodes then opcodeListing codec.registry else ""
  match inspection.archive? with
  | none => return .success opcodes
  | some path =>
      match ← ArchiveFile.load codec path with
      | .error failure => return .behind opcodes (.failed failure)
      | .ok file => return .behind opcodes (inspection.present file)

end Inspection

end AdventureArchive.CommandLine
