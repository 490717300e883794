import AdventureArchive.Image
import AdventureArchive.Program.Format
import AdventureArchive.Resource.Palette
import AdventureArchive.Resource.Room
import AdventureArchive.Resource.Sequence
import AdventureArchive.Resource.Sound
import AdventureArchive.Resource.Text

namespace AdventureArchive

/-!
# Kinds of resources

An archive holds at most one text and one table for each of nine further kinds
of resources.  A kind determines the type of its resources and how one of them
is read and written.  Kinds are ordered by the number they have in an archive.
-/

/-- The kinds whose resources are kept in a table. -/
inductive TableKind where
  | backdropSize
  | program
  | image (kind : ImageKind)
  | palette
  | roomInfo
  | sequence
  | sound
  deriving Repr, DecidableEq

/-- The kinds of resources an archive may hold. -/
inductive ResourceKind where
  | text
  | table (kind : TableKind)
  deriving Repr, DecidableEq

namespace TableKind

/-- Every table kind in the order of the numbers. -/
def all : List TableKind := [
  .backdropSize, .program, .image .sprite, .image .icon, .image .roomImage,
  .palette, .roomInfo, .sequence, .sound]

/-- The number a table kind has in an archive. -/
def code : TableKind → UInt8
  | .backdropSize => 1
  | .program => 2
  | .image .sprite => 3
  | .image .icon => 4
  | .image .roomImage => 5
  | .palette => 6
  | .roomInfo => 7
  | .sequence => 8
  | .sound => 9

/-- The name people read. -/
def name : TableKind → String
  | .backdropSize => "backdrop size"
  | .program => "program"
  | .image .sprite => "sprite"
  | .image .icon => "icon"
  | .image .roomImage => "room image"
  | .palette => "palette"
  | .roomInfo => "room info"
  | .sequence => "sequence"
  | .sound => "sound"

/-- The type of the resources in a table. -/
abbrev Resource : TableKind → Type
  | .backdropSize => BackdropSize
  | .program => Program
  | .image _ => Image
  | .palette => Palette
  | .roomInfo => RoomInfo
  | .sequence => Sequence
  | .sound => Sound

/-- Whether two resources are the same; decoded pixels play no part. -/
def same : (kind : TableKind) → kind.Resource → kind.Resource → Bool
  | .backdropSize => fun first second => first == second
  | .program => fun first second => first == second
  | .image _ => fun first second => first == second
  | .palette => fun first second => first == second
  | .roomInfo => fun first second => first == second
  | .sequence => fun first second => first == second
  | .sound => fun first second => first == second

instance (kind : TableKind) : BEq kind.Resource := ⟨kind.same⟩

/-- A copy of a resource. -/
def copy : (kind : TableKind) → kind.Resource → kind.Resource
  | .backdropSize => id
  | .program => id
  | .image _ => Image.copy
  | .palette => id
  | .roomInfo => id
  | .sequence => id
  | .sound => id

/-- Reads a stored resource. -/
def decode
    (registry : OpcodeRegistry) :
    (kind : TableKind) → List UInt8 → Except ResourceError kind.Resource
  | .backdropSize => decodeRecord
  | .program => fun bytes => (Program.decode registry bytes).mapError .program
  | .image kind => fun bytes => (Image.decode kind bytes).mapError .image
  | .palette => Palette.decode
  | .roomInfo => decodeRecord
  | .sequence => Sequence.decode
  | .sound => Sound.decode

/-- The stored form of a resource. -/
def encode : (kind : TableKind) → kind.Resource → Except ResourceError (List UInt8)
  | .backdropSize => fun size => .ok (Layout.write size)
  | .program => fun program => program.encode.mapError .program
  | .image kind => fun image => (image.encode kind).mapError .image
  | .palette => Palette.encode
  | .roomInfo => fun room => .ok (Layout.write room)
  | .sequence => Sequence.encode
  | .sound => Sound.encode

end TableKind

namespace ResourceKind

/-- Every kind in the order of the numbers. -/
def all : List ResourceKind :=
  .text :: TableKind.all.map .table

/-- The number a kind has in an archive. -/
def code : ResourceKind → UInt8
  | .text => 0
  | .table kind => kind.code

/-- The kind with a given number. -/
def ofCode? (code : UInt8) : Option ResourceKind :=
  all.find? fun kind => kind.code == code

/-- The name people read. -/
def name : ResourceKind → String
  | .text => "text"
  | .table kind => kind.name

/-- The name in structured output: the words joined by underscores. -/
def identifier (kind : ResourceKind) : String :=
  String.ofList <| kind.name.toList.map fun character =>
    if character = ' ' then '_' else character

end ResourceKind

end AdventureArchive
