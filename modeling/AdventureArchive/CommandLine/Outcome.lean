import AdventureArchive.Failure

namespace AdventureArchive.CommandLine

/-!
# Outcomes of tools

What a tool has printed and whether it failed.  What was printed before a
failure stays printed.
-/

/-- What a tool prints and why it failed, if it did. -/
structure Outcome where
  output : String
  failure? : Option Failure
  deriving Repr, DecidableEq

namespace Outcome

/-- A tool that printed something and succeeded. -/
def success (output : String) : Outcome :=
  ⟨output, none⟩

/-- A tool that failed without printing anything. -/
def failed (failure : Failure) : Outcome :=
  ⟨"", some failure⟩

/-- The outcome of a tool that printed something before. -/
def behind (printed : String) (outcome : Outcome) : Outcome :=
  { outcome with output := printed ++ outcome.output }

/-- Zero after a success, one after a failure. -/
def exitCode (outcome : Outcome) : UInt8 :=
  if outcome.failure?.isSome then 1 else 0

/-- What is printed about the failure. -/
def errors (outcome : Outcome) : String :=
  match outcome.failure? with
  | some failure => failure.report
  | none => ""

end Outcome

/-- Lines of text, each with its line end. -/
def lines (texts : List String) : String :=
  String.join (texts.map (· ++ "\n"))

end AdventureArchive.CommandLine
