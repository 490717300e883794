import AdventureArchive.EngineConfig
import AdventureArchive.Json.Form
import AdventureArchive.Json.Reader

namespace AdventureArchive

/-!
# Engine configuration as JSON

A configuration is an object of settings by name or a list of settings in
order.  Settings that are left out keep their default.  An object may have
fields of other names, but no setting twice; a list may end early, but has
nothing behind the last setting.
-/

namespace Json

/-- The values of a record's fields, each of which may be left out. -/
def settings? (names : List String) : Json → Option (List (Option Json))
  | .array items =>
      if items.length ≤ names.length then
        some (names.zipIdx.map fun (_, index) => items[index]?)
      else
        none
  | .object fields =>
      if fields.all fun field => field.1.isSome then
        names.mapM fun name =>
          match fieldsNamed fields name with
          | [] => some none
          | [value] => some (some value)
          | _ => none
      else
        none
  | _ => none

/-- A setting, or its default where it is left out; none if it has a wrong form. -/
def settingOr
    {α : Type}
    (standard : α)
    (read : Json → Option α) :
    Option Json → Option α
  | none => some standard
  | some value => read value

/-- A number below a bound. -/
def below? (bound : Nat) : Json → Option Nat
  | .integer (.ofNat value) => if value < bound then some value else none
  | _ => none

/-- A truth value. -/
def bool? : Json → Option Bool
  | .bool value => some value
  | _ => none

/-- An index into a palette. -/
def paletteIndex? (value : Json) : Option UInt8 :=
  (value.below? UInt8.size).map UInt8.ofNat

/-- A list of palette indices. -/
def paletteIndices? : Json → Option (List UInt8)
  | .array items => items.mapM paletteIndex?
  | _ => none

end Json

/-- Reads palette conventions. -/
def PaletteConventions.ofJson? (value : Json) : Option PaletteConventions := do
  match ← value.settings? ["transparent_index", "ui_marker_indices"] with
  | [transparent, markers] =>
      return {
        transparentIndex := ←
          Json.settingOr standard.transparentIndex Json.paletteIndex? transparent
        markerIndices := ←
          Json.settingOr standard.markerIndices Json.paletteIndices? markers
      }
  | _ => none

/-- Reads a configuration; counts have to fit 64 bits. -/
def EngineConfig.ofJson? (value : Json) : Option EngineConfig := do
  match ← value.settings? ["stack_capacity", "max_steps", "parallel_decode", "palette"] with
  | [stackCapacity, maxSteps, parallelDecode, palette] =>
      let count? := Json.below? UInt64.size
      return {
        stackCapacity := ← Json.settingOr standard.stackCapacity count? stackCapacity
        maxSteps := ← Json.settingOr standard.maxSteps count? maxSteps
        parallelDecode := ←
          Json.settingOr standard.parallelDecode Json.bool? parallelDecode
        palette := ←
          Json.settingOr standard.palette PaletteConventions.ofJson? palette
      }
  | _ => none

/-- Reads the text of a configuration. -/
def EngineConfig.ofText? (text : String) : Option EngineConfig :=
  (Json.parse? text).bind ofJson?

instance : ToJson PaletteConventions where
  toJson conventions := .record [
    ("transparent_index", toJson conventions.transparentIndex),
    ("ui_marker_indices", toJson conventions.markerIndices)]

instance : ToJson EngineConfig where
  toJson config := .record [
    ("stack_capacity", toJson config.stackCapacity),
    ("max_steps", toJson config.maxSteps),
    ("parallel_decode", toJson config.parallelDecode),
    ("palette", toJson config.palette)]

end AdventureArchive
