import AdventureArchive.Archive.File
import AdventureArchive.CommandLine.Arguments
import AdventureArchive.CommandLine.Outcome

namespace AdventureArchive.CommandLine

/-!
# Round trips

Loads an archive, saves it and loads the result.  But for failed entries, which
cannot be saved, the second load has to give what the first one gave.  The first
one is looked at last, so saving an archive over itself can make a difference.
-/

/-- What can be said on the command line of a round trip. -/
inductive RoundTripArgument where
  | archive
  | output
  deriving Repr, DecidableEq

namespace RoundTripArgument

/-- The archive is positional, where to save it an option. -/
def grammar : Grammar RoundTripArgument where
  options := [("output", .output)]
  positional? := some .archive
  kind
    | .archive => .path
    | .output => .path

end RoundTripArgument

/-- Which archive to check, and where to save it if it is to be kept. -/
structure RoundTrip where
  archive : String
  output? : Option String
  deriving Repr, DecidableEq

namespace RoundTrip

/-- Reads a command line. -/
def parse (arguments : List String) : Except UsageFault RoundTrip := do
  let given ← RoundTripArgument.grammar.parse arguments
  return ⟨← require (given .archive), given .output⟩

/-- Saves and loads a database without a file. -/
def reloadInMemory
    (codec : ArchiveCodec)
    (database : Database) :
    Except Failure LoadedArchive := do
  let bytes ← (codec.save database).mapError fun cause =>
    .ofCauses "re-encoding archive" cause.explanation
  (codec.load bytes).mapError fun cause =>
    .because "reloading re-encoded archive" cause.message

/-- Saves and loads a database, through a file if there is a path. -/
def reload
    {m : Type → Type}
    [Monad m]
    [FileSystem m]
    (codec : ArchiveCodec)
    (database : Database)
    (output? : Option String) :
    m (Except Failure LoadedArchive) := do
  match output? with
  | none => return reloadInMemory codec database
  | some path =>
      match ← ArchiveFile.save codec database path with
      | .error failure => return .error failure
      | .ok () => return (← ArchiveFile.load codec path).map ArchiveFile.loaded

/-- The names of the kinds that have other numbers of resources or failed ids. -/
def changedKinds (expected found : Database) : List String :=
  (ResourceKind.all.filter fun kind =>
    expected.summaryOf kind ≠ found.summaryOf kind).map ResourceKind.name

/-- What a reload says about the archive it started from, which shows a database by now. -/
def verdict
    (opened : ArchiveFile)
    (shown : Database)
    (reloaded : LoadedArchive) :
    Outcome :=
  let expected := shown.clearFailures
  if reloaded.database == expected then
    .success (lines [s!"{opened.path}: round trip ok " ++
      s!"({opened.loaded.report.failures.length} failed entries dropped)"])
  else
    match changedKinds expected reloaded.database with
    | [] => .failed (.of "round trip changed resource contents")
    | kinds => .failed (.of ("round trip changed tables: " ++ String.intercalate ", " kinds))

/-- Carries out a round trip. -/
def run
    {m : Type → Type}
    [Monad m]
    [FileSystem m]
    (trip : RoundTrip) :
    m Outcome := do
  let codec := ArchiveCodec.standard
  match ← ArchiveFile.load codec trip.archive with
  | .error failure => return .failed failure
  | .ok opened =>
      match ← reload codec opened.loaded.database trip.output? with
      | .error failure => return .failed failure
      | .ok reloaded => return verdict opened (← opened.currentDatabase) reloaded

end RoundTrip

end AdventureArchive.CommandLine
