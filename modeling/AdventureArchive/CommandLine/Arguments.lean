namespace AdventureArchive.CommandLine

/-!
# Command line arguments

Options have long names; the value of an option stands behind an equals sign or
is the next argument.  Arguments are taken from left to right.  A value that
stands alone is looked at only when the option after it, or the end, is
reached, so an unknown option behind it is reported first.  Everything behind
`--` is positional.
-/

/-- Why a command line is not accepted, or what it asks for instead. -/
inductive UsageFault where
  | unknownArgument
  | unexpectedValue
  | missingValue
  | malformedValue
  | repeatedArgument
  | missingArgument
  | helpWanted
  | versionWanted
  deriving Repr, DecidableEq

/-- The wording of a usage fault. -/
def UsageFault.message : UsageFault → String
  | .unknownArgument => "an argument is not known"
  | .unexpectedValue => "a flag takes no value"
  | .missingValue => "an argument needs a value"
  | .malformedValue => "a number is malformed or out of range"
  | .repeatedArgument => "an argument is given twice"
  | .missingArgument => "a required argument is missing"
  | .helpWanted => "help"
  | .versionWanted => "version"

/-- What an argument has for a value. -/
inductive ArgumentKind where
  | flag
  | path
  | identifier
  | count
  deriving Repr, DecidableEq

namespace ArgumentKind

/-- The type of the values of an argument. -/
abbrev Value : ArgumentKind → Type
  | .flag => Unit
  | .path => String
  | .identifier => UInt16
  | .count => Nat

/-- The number that decimal digits stand for. -/
def decimal? (digits : List Char) : Option Nat :=
  if !digits.isEmpty && digits.all Char.isDigit then
    some (digits.foldl (fun number digit => 10 * number + (digit.toNat - '0'.toNat)) 0)
  else
    none

/-- The number that digits stand for, which may have a plus sign. -/
def unsigned? (text : String) : Option Nat :=
  match text.toList with
  | '+' :: digits => decimal? digits
  | digits => decimal? digits

/-- The number that digits stand for, which may have a sign. -/
def signed? (text : String) : Option Int :=
  match text.toList with
  | '-' :: digits => (decimal? digits).map fun number => -(number : Int)
  | _ => (unsigned? text).map fun number => (number : Int)

/-- Reads the value of an argument. -/
def read : (kind : ArgumentKind) → String → Except UsageFault kind.Value
  | .flag, _ => .ok ()
  | .path, text => if text.isEmpty then .error .missingValue else .ok text
  | .identifier, text =>
      match signed? text with
      | some number =>
          if 0 ≤ number ∧ number < UInt16.size then
            .ok (UInt16.ofNat number.toNat)
          else
            .error .malformedValue
      | none => .error .malformedValue
  | .count, text =>
      match unsigned? text with
      | some number => if number < UInt64.size then .ok number else .error .malformedValue
      | none => .error .malformedValue

end ArgumentKind

/-- The arguments a tool knows: options by name and at most one positional one. -/
structure Grammar (ι : Type) where
  options : List (String × ι)
  positional? : Option ι
  kind : ι → ArgumentKind

/-- The values that some arguments have been given. -/
abbrev Given {ι : Type} (grammar : Grammar ι) : Type :=
  (argument : ι) → Option (grammar.kind argument).Value

namespace Given

variable {ι : Type} [DecidableEq ι] {grammar : Grammar ι}

/-- No argument has been given. -/
def none : Given grammar := fun _ => Option.none

/-- Gives one argument a value. -/
def set
    (given : Given grammar)
    (argument : ι)
    (value : (grammar.kind argument).Value) :
    Given grammar :=
  fun other =>
    if same : argument = other then some (same ▸ value) else given other

/-- What has been set is there. -/
@[simp] theorem set_self
    (given : Given grammar)
    (argument : ι)
    (value : (grammar.kind argument).Value) :
    given.set argument value argument = some value := by
  simp [set]

/-- Setting one argument leaves the others alone. -/
theorem set_of_ne
    (given : Given grammar)
    {argument other : ι}
    (value : (grammar.kind argument).Value)
    (different : argument ≠ other) :
    given.set argument value other = given other := by
  simp [set, different]

end Given

/-- How far a command line has been taken in. -/
structure Progress {ι : Type} (grammar : Grammar ι) where
  given : Given grammar
  pending? : Option (ι × Option String)
  positionalOnly : Bool
  positionalTaken : Bool

namespace Progress

variable {ι : Type} [DecidableEq ι] {grammar : Grammar ι}

/-- Nothing has been taken in. -/
def start : Progress grammar := ⟨.none, none, false, false⟩

/-- Gives an argument its value; a repetition is reported before a bad value. -/
def accept
    (progress : Progress grammar)
    (argument : ι)
    (text : String) :
    Except UsageFault (Progress grammar) := do
  if (progress.given argument).isSome then
    throw .repeatedArgument
  else
    let value ← (grammar.kind argument).read text
    return { progress with given := progress.given.set argument value }

/-- Looks at the argument that is still waiting, if there is one. -/
def resolve (progress : Progress grammar) : Except UsageFault (Progress grammar) :=
  match progress.pending? with
  | none => .ok progress
  | some (_, none) => .error .missingValue
  | some (argument, some text) => { progress with pending? := none }.accept argument text

/-- Takes a positional argument. -/
def takePositional
    (progress : Progress grammar)
    (text : String) :
    Except UsageFault (Progress grammar) :=
  match grammar.positional?, progress.positionalTaken with
  | some argument, false => do
      let resolved ← progress.resolve
      return { resolved with pending? := some (argument, some text), positionalTaken := true }
  | _, _ => .error .unknownArgument

/-- Takes an option by its name, with the value behind its equals sign. -/
def takeOption
    (progress : Progress grammar)
    (name : String)
    (value? : Option String) :
    Except UsageFault (Progress grammar) :=
  if name = "help" ∨ name = "version" then
    match value? with
    | some _ => .error .unexpectedValue
    | none => do
        discard progress.resolve
        throw (if name = "help" then .helpWanted else .versionWanted)
  else
    match grammar.options.lookup name with
    | none => .error .unknownArgument
    | some argument =>
        match grammar.kind argument, value? with
        | .flag, some _ => .error .unexpectedValue
        | .flag, none => do (← progress.resolve).accept argument ""
        | _, some text => do (← progress.resolve).accept argument text
        | _, none => do
            return { ← progress.resolve with pending? := some (argument, none) }

/-- Takes letters behind a single dash, of which only two are known. -/
def takeLetters
    (progress : Progress grammar) :
    List Char → Except UsageFault (Progress grammar)
  | 'h' :: _ => do discard progress.resolve; throw .helpWanted
  | 'V' :: _ => do discard progress.resolve; throw .versionWanted
  | _ => .error .unknownArgument

/-- Takes an argument that does not look like an option. -/
def takePlain
    (progress : Progress grammar)
    (text : String) :
    Except UsageFault (Progress grammar) :=
  match progress.pending? with
  | some (argument, none) =>
      .ok { progress with pending? := some (argument, some text) }
  | _ => progress.takePositional text

/-- Takes one argument. -/
def take
    (progress : Progress grammar)
    (argument : String) :
    Except UsageFault (Progress grammar) :=
  if progress.positionalOnly then
    progress.takePositional argument
  else
    match argument.toList with
    | ['-', '-'] => .ok { progress with positionalOnly := true }
    | '-' :: '-' :: characters =>
        let name := characters.takeWhile (· ≠ '=')
        let value? :=
          match characters.dropWhile (· ≠ '=') with
          | _ :: value => some (String.ofList value)
          | [] => none
        progress.takeOption (String.ofList name) value?
    | '-' :: letter :: letters => progress.takeLetters (letter :: letters)
    | _ => progress.takePlain argument

end Progress

/-- The values a command line gives. -/
def Grammar.parse
    {ι : Type}
    [DecidableEq ι]
    (grammar : Grammar ι)
    (arguments : List String) :
    Except UsageFault (Given grammar) := do
  let progress : Progress grammar ← arguments.foldlM Progress.take .start
  return (← progress.resolve).given

/-- The value of an argument that has to be given. -/
def require {α : Type} (value? : Option α) : Except UsageFault α :=
  match value? with
  | some value => .ok value
  | none => .error .missingArgument

end AdventureArchive.CommandLine
