import AdventureArchive.Failure
import AdventureArchive.Files
import AdventureArchive.Json.EngineConfig

namespace AdventureArchive.EngineConfig

/-!
# Configuration files

A configuration file that does not exist leaves every setting at its default;
one that exists has to be readable and well formed.
-/

/-- The settings of the file under a path, if a path is given. -/
def load
    {m : Type → Type}
    [Monad m]
    [FileSystem m]
    (path? : Option String) :
    m (Except Failure EngineConfig) := do
  match path? with
  | none => return .ok standard
  | some path =>
      match ← FileSystem.lookUp path with
      | .error _ => return .ok standard
      | .ok node =>
          match node.text? with
          | .error fault =>
              return .error
                (.because s!"failed to read engine config: {path}" fault.message)
          | .ok text =>
              match ofText? text with
              | some config => return .ok config
              | none => return .error (.of s!"failed to parse engine config: {path}")

end AdventureArchive.EngineConfig
