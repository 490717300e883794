import AdventureArchive.Archive.Load
import AdventureArchive.Archive.Save

namespace AdventureArchive

/-!
# Archive codecs

A codec reads and writes archives with one opcode registry.  Whether entries
are decoded in parallel is a wish about scheduling; entries do not depend on
one another, so it never shows in a result.
-/

/-- How archives are read and written. -/
structure ArchiveCodec where
  registry : OpcodeRegistry
  parallel : Bool

namespace ArchiveCodec

/-- A codec for the whole instruction set. -/
def standard : ArchiveCodec where
  registry := .standard
  parallel := true

/-- Reads an archive. -/
def load
    (codec : ArchiveCodec)
    (bytes : List UInt8) :
    Except ArchiveError LoadedArchive :=
  Archive.load codec.registry bytes

/-- What is said while an archive is read. -/
def loadLog (codec : ArchiveCodec) (bytes : List UInt8) : List LogRecord :=
  Archive.loadLog codec.registry bytes

/-- The archive that holds a database. -/
def save (_codec : ArchiveCodec) (database : Database) : Except EncodeError (List UInt8) :=
  Archive.save database

end ArchiveCodec

end AdventureArchive
