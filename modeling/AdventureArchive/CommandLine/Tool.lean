import AdventureArchive.CommandLine.Inspect
import AdventureArchive.CommandLine.RoundTrip
import AdventureArchive.CommandLine.Run

namespace AdventureArchive.CommandLine

/-!
# Tools

The three tools side by side: what their command line looks like and what
becomes of one.  A command line that is not accepted ends with exit code 2.
-/

/-- The tools of this library. -/
inductive Tool where
  | inspect
  | roundTrip
  | run
  deriving Repr, DecidableEq

/-- What a process leaves behind. -/
structure Exit where
  code : UInt8
  output : String
  errors : String
  deriving Repr, DecidableEq

namespace Exit

/-- What a tool that was started leaves behind. -/
def ofOutcome (outcome : Outcome) : Exit :=
  ⟨outcome.exitCode, outcome.output, outcome.errors⟩

end Exit

namespace Tool

/-- The name a tool is called by. -/
def name : Tool → String
  | .inspect => "inspect"
  | .roundTrip => "roundtrip"
  | .run => "run"

/-- Every tool. -/
def all : List Tool := [.inspect, .roundTrip, .run]

/-- The arguments of a tool in short. -/
def usage : Tool → String
  | .inspect =>
      "inspect [--json] [--opcodes] [--disassemble ID] [--sequential] [ARCHIVE]"
  | .roundTrip => "roundtrip [--output PATH] ARCHIVE"
  | .run =>
      "run --archive PATH --program ID [--config FILE] [--max-steps N] " ++
        "[--stack-capacity N] [--sequential] [--json]"

/-- What becomes of a command line that is not accepted or asks for help. -/
def refuse (tool : Tool) (fault : UsageFault) : Exit :=
  match fault with
  | .helpWanted => ⟨0, lines ["Usage: " ++ tool.usage], ""⟩
  | .versionWanted => ⟨0, lines [tool.name ++ " 0.1.0"], ""⟩
  | fault => ⟨2, "", lines ["error: " ++ fault.message, "Usage: " ++ tool.usage]⟩

/-- Runs a tool; `toggle?` is what the environment says about decoding. -/
def execute
    {m : Type → Type}
    [Monad m]
    [FileSystem m]
    (tool : Tool)
    (arguments : List String)
    (toggle? : Option String) :
    m Exit := do
  match tool with
  | .inspect =>
      match Inspection.parse arguments with
      | .error fault => return tool.refuse fault
      | .ok inspection => return .ofOutcome (← inspection.run)
  | .roundTrip =>
      match RoundTrip.parse arguments with
      | .error fault => return tool.refuse fault
      | .ok trip => return .ofOutcome (← trip.run)
  | .run =>
      match RunArguments.parse arguments with
      | .error fault => return tool.refuse fault
      | .ok parsed =>
          match ← parsed.request toggle? with
          | .error failure => return .ofOutcome (.failed failure)
          | .ok request => return .ofOutcome (← request.run)

end Tool

end AdventureArchive.CommandLine
