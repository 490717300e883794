import AdventureArchive.Text.Columns

namespace AdventureArchive

/-!
# Failures of whole tasks

A failure says what was being attempted and then, from the general to the
particular, why it did not succeed.
-/

/-- What failed, with its causes. -/
structure Failure where
  attempt : String
  causes : List String
  deriving Repr, DecidableEq

namespace Failure

/-- A failure that needs no cause. -/
def of (attempt : String) : Failure :=
  ⟨attempt, []⟩

/-- A failure with one cause. -/
def because (attempt cause : String) : Failure :=
  ⟨attempt, [cause]⟩

/-- A failure with causes from the general to the particular. -/
def ofCauses (attempt : String) (causes : List String) : Failure :=
  ⟨attempt, causes⟩

/-- The failure of a larger attempt that some failure brought about. -/
def within (attempt : String) (failure : Failure) : Failure :=
  ⟨attempt, failure.attempt :: failure.causes⟩

/-- Attempt and causes in one line. -/
def message (failure : Failure) : String :=
  String.intercalate ": " (failure.attempt :: failure.causes)

/-- Lines of a cause, the first behind a label and the others indented as far. -/
def indentedLines (label indent : String) (cause : String) : String :=
  label ++ String.intercalate ("\n" ++ indent) (cause.splitOn "\n")

/--
The report of a failure: the attempt, and its causes one below the other.
Several causes are numbered.
-/
def report (failure : Failure) : String :=
  let causes :=
    match failure.causes with
    | [] => ""
    | [cause] => "\n\nCaused by:\n" ++ indentedLines "    " "    " cause
    | causes =>
        "\n\nCaused by:" ++ String.join (causes.zipIdx.map fun (cause, number) =>
          let label := Columns.alignRight ' ' 5 (toString number) ++ ": "
          "\n" ++ indentedLines label "       " cause)
  "Error: " ++ failure.attempt ++ causes ++ "\n"

end Failure

end AdventureArchive
