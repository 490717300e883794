import AdventureArchive.Archive.File
import AdventureArchive.CommandLine.Arguments
import AdventureArchive.CommandLine.Outcome
import AdventureArchive.EngineConfig.File
import AdventureArchive.Json.Printer
import AdventureArchive.Json.Trace

namespace AdventureArchive.CommandLine

/-!
# Running programs

Steps through one program of an archive and prints its trace.  Settings come
from a configuration file, then from the environment, then from the command
line; each overrides the ones before.
-/

/-- What can be said on the command line of a run. -/
inductive RunArgument where
  | archive
  | program
  | config
  | maxSteps
  | stackCapacity
  | sequential
  | json
  deriving Repr, DecidableEq

namespace RunArgument

/-- Everything is an option. -/
def grammar : Grammar RunArgument where
  options := [
    ("archive", .archive), ("program", .program), ("config", .config),
    ("max-steps", .maxSteps), ("stack-capacity", .stackCapacity),
    ("sequential", .sequential), ("json", .json)]
  positional? := none
  kind
    | .archive => .path
    | .program => .identifier
    | .config => .path
    | .maxSteps => .count
    | .stackCapacity => .count
    | .sequential => .flag
    | .json => .flag

end RunArgument

/-- A command line that names an archive and a program. -/
structure RunArguments where
  archive : String
  program : UInt16
  config? : Option String
  maxSteps? : Option Nat
  stackCapacity? : Option Nat
  sequential : Bool
  json : Bool
  deriving Repr, DecidableEq

/-- A program to run, with all settings made. -/
structure RunRequest where
  archive : String
  program : UInt16
  config : EngineConfig
  json : Bool
  deriving Repr, DecidableEq

namespace RunArguments

/-- Reads a command line. -/
def parse (arguments : List String) : Except UsageFault RunArguments := do
  let given ← RunArgument.grammar.parse arguments
  return {
    archive := ← require (given .archive)
    program := ← require (given .program)
    config? := given .config
    maxSteps? := given .maxSteps
    stackCapacity? := given .stackCapacity
    sequential := (given .sequential).isSome
    json := (given .json).isSome
  }

/-- The settings after those the command line makes. -/
def override (arguments : RunArguments) (config : EngineConfig) : EngineConfig :=
  { config with
    maxSteps := arguments.maxSteps?.getD config.maxSteps
    stackCapacity := arguments.stackCapacity?.getD config.stackCapacity
    parallelDecode := config.parallelDecode && !arguments.sequential }

/-- Makes all settings; `toggle?` is what the environment says about decoding. -/
def request
    {m : Type → Type}
    [Monad m]
    [FileSystem m]
    (arguments : RunArguments)
    (toggle? : Option String) :
    m (Except Failure RunRequest) := do
  match ← EngineConfig.load arguments.config? with
  | .error failure => return .error (failure.within "loading engine config")
  | .ok loaded =>
      let config := arguments.override (loaded.withEnvironment toggle?)
      if config.maxSteps = 0 then
        return .error (.of "--max-steps must be at least 1")
      else
        return .ok ⟨arguments.archive, arguments.program, config, arguments.json⟩

end RunArguments

namespace RunRequest

/-- A trace in lines. -/
def listing (trace : ProgramTrace) : String :=
  lines <|
    (s!"program {trace.program} ({trace.steps.length} steps, " ++
      s!"{trace.unhandled} unhandled)") ::
      trace.steps.map TraceStep.text

/-- Runs a program of a loaded archive. -/
def trace (request : RunRequest) (database : Database) : Outcome :=
  match Interpreter.traceProgram database request.program
      request.config.stackCapacity request.config.maxSteps with
  | .error cause =>
      .failed (.because s!"running program {request.program}" cause.message)
  | .ok trace =>
      if request.json then
        .success ((toJson trace).pretty ++ "\n")
      else
        .success (listing trace)

/-- Carries out a request. -/
def run
    {m : Type → Type}
    [Monad m]
    [FileSystem m]
    (request : RunRequest) :
    m Outcome := do
  let codec : ArchiveCodec :=
    { ArchiveCodec.standard with parallel := request.config.parallelDecode }
  match ← ArchiveFile.load codec request.archive with
  | .error failure => return .failed failure
  | .ok file => return request.trace file.loaded.database

end RunRequest

end AdventureArchive.CommandLine
