import AdventureArchive.Text.Blank

namespace AdventureArchive

/-!
# Engine configuration

Limits of the interpreter, how archives are decoded, and the palette indices
the engine keeps for itself.  Every setting has a default.
-/

/-- Palette indices with a meaning of their own, which archives do not store. -/
structure PaletteConventions where
  transparentIndex : UInt8
  markerIndices : List UInt8
  deriving Repr, DecidableEq

namespace PaletteConventions

/-- Index 0 is transparent and the last two indices mark the user interface. -/
def standard : PaletteConventions where
  transparentIndex := 0
  markerIndices := [254, 255]

/-- Whether pixels of an index are not drawn. -/
def isTransparent (conventions : PaletteConventions) (index : UInt8) : Bool :=
  index == conventions.transparentIndex

/-- Whether an index is transparent or a marker. -/
def isReserved (conventions : PaletteConventions) (index : UInt8) : Bool :=
  conventions.isTransparent index || conventions.markerIndices.contains index

end PaletteConventions

/-- The settings of an engine. -/
structure EngineConfig where
  stackCapacity : Nat
  maxSteps : Nat
  parallelDecode : Bool
  palette : PaletteConventions
  deriving Repr, DecidableEq

namespace EngineConfig

/-- The settings an engine has unless told otherwise. -/
def standard : EngineConfig where
  stackCapacity := 32
  maxSteps := 10000
  parallelDecode := true
  palette := .standard

/-- What a spelling of yes or no says; blanks around it and case do not matter. -/
def toggle? (spelling : String) : Option Bool :=
  let spelling := (trimBlanks spelling).toLower
  if ["1", "true", "on", "yes"].contains spelling then
    some true
  else if ["0", "false", "off", "no"].contains spelling then
    some false
  else
    none

/-- The settings after the environment, which may switch parallel decoding. -/
def withEnvironment (config : EngineConfig) (spelling? : Option String) : EngineConfig :=
  match spelling?.bind toggle? with
  | some parallel => { config with parallelDecode := parallel }
  | none => config

end EngineConfig

end AdventureArchive
