import AdventureArchive.Archive.Codec
import AdventureArchive.Archive.Mapped
import AdventureArchive.Failure
import AdventureArchive.Files

namespace AdventureArchive

/-!
# Archive files

Archives on a file system.  A failure says what was being done with which file
before it says what went wrong.
-/

/-- A loaded archive, the path it was loaded from and what the file held then. -/
structure ArchiveFile where
  path : String
  bytes : List UInt8
  loaded : LoadedArchive

namespace ArchiveFile

variable {m : Type → Type} [Monad m] [FileSystem m]

/-- The bytes of the archive under a path. -/
def readBytes (path : String) : m (Except Failure (List UInt8)) := do
  match ← FileSystem.lookUp path with
  | .error fault => return .error (.because s!"opening archive at {path}" fault.message)
  | .ok .directory =>
      return .error (.because s!"memory-mapping archive {path}" FileFault.unmappable.message)
  | .ok (.file bytes) => return .ok bytes

/-- Loads the archive under a path. -/
def load (codec : ArchiveCodec) (path : String) : m (Except Failure ArchiveFile) := do
  match ← readBytes path with
  | .error failure => return .error failure
  | .ok bytes =>
      match codec.load bytes with
      | .error cause => return .error (.because s!"parsing archive {path}" cause.message)
      | .ok loaded => return .ok ⟨path, bytes, loaded⟩

/-- Saves a database as an archive under a path. -/
def save
    (codec : ArchiveCodec)
    (database : Database)
    (path : String) :
    m (Except Failure Unit) := do
  match codec.save database with
  | .error cause =>
      return .error (.ofCauses s!"encoding archive for {path}" cause.explanation)
  | .ok bytes =>
      match ← FileSystem.store path bytes with
      | .error fault => return .error (.because s!"creating {path}" fault.message)
      | .ok () => return .ok ()

/-- The database of an archive as it shows by now. -/
def currentDatabase (file : ArchiveFile) : m Database := do
  match ← readBytes file.path with
  | .error _ => return file.loaded.database
  | .ok bytes =>
      if bytes = file.bytes then
        return file.loaded.database
      else
        return Archive.showDatabaseIn bytes file.bytes file.loaded.database

end ArchiveFile

end AdventureArchive
