import AdventureArchive.Database.Kind
import AdventureArchive.Database.Table

namespace AdventureArchive

/-!
# Databases

The content of an archive in memory: the text, if there is one, and one table
for each table kind.  `Database.table` and `Database.setTable` reach a table by
its kind, so that what holds for all tables is said once.
-/

/-- Number of resources and of failed ids of one kind. -/
structure TableSummary where
  kind : ResourceKind
  loaded : Nat
  failed : Nat
  deriving Repr, DecidableEq

/-- The content of an archive. -/
structure Database where
  text? : Option TextBlob
  backdropSizes : ResourceTable BackdropSize
  programs : ResourceTable Program
  sprites : ResourceTable Image
  icons : ResourceTable Image
  roomImages : ResourceTable Image
  palettes : ResourceTable Palette
  roomInfos : ResourceTable RoomInfo
  sequences : ResourceTable Sequence
  sounds : ResourceTable Sound

namespace Database

/-- A database that holds nothing. -/
def empty : Database where
  text? := none
  backdropSizes := .empty
  programs := .empty
  sprites := .empty
  icons := .empty
  roomImages := .empty
  palettes := .empty
  roomInfos := .empty
  sequences := .empty
  sounds := .empty

instance : Inhabited Database := ⟨empty⟩

/-- The table of a kind. -/
def table (database : Database) : (kind : TableKind) → ResourceTable kind.Resource
  | .backdropSize => database.backdropSizes
  | .program => database.programs
  | .image .sprite => database.sprites
  | .image .icon => database.icons
  | .image .roomImage => database.roomImages
  | .palette => database.palettes
  | .roomInfo => database.roomInfos
  | .sequence => database.sequences
  | .sound => database.sounds

/-- Replaces the table of a kind. -/
def setTable
    (database : Database) :
    (kind : TableKind) → ResourceTable kind.Resource → Database
  | .backdropSize, changed => { database with backdropSizes := changed }
  | .program, changed => { database with programs := changed }
  | .image .sprite, changed => { database with sprites := changed }
  | .image .icon, changed => { database with icons := changed }
  | .image .roomImage, changed => { database with roomImages := changed }
  | .palette, changed => { database with palettes := changed }
  | .roomInfo, changed => { database with roomInfos := changed }
  | .sequence, changed => { database with sequences := changed }
  | .sound, changed => { database with sounds := changed }

/-- A replaced table is found again. -/
@[simp] theorem table_setTable
    (database : Database)
    (kind : TableKind)
    (changed : ResourceTable kind.Resource) :
    (database.setTable kind changed).table kind = changed := by
  cases kind with
  | image kind => cases kind <;> rfl
  | _ => rfl

/-- Replacing a table leaves the tables of other kinds alone. -/
theorem table_setTable_of_ne
    (database : Database)
    {kind other : TableKind}
    (changed : ResourceTable kind.Resource)
    (different : other ≠ kind) :
    (database.setTable kind changed).table other = database.table other := by
  cases kind with
  | image kind =>
      cases other with
      | image other =>
          cases kind <;> cases other <;> first | rfl | exact absurd rfl different
      | _ => cases kind <;> rfl
  | _ =>
      cases other with
      | image other => cases other <;> rfl
      | _ => first | rfl | exact absurd rfl different

/-- Two databases hold the same; decoded pixels play no part. -/
instance : BEq Database where
  beq first second :=
    first.text? == second.text? &&
      TableKind.all.all fun kind => first.table kind == second.table kind

/-- Changes every table. -/
def mapTables
    (change : (kind : TableKind) → ResourceTable kind.Resource → ResourceTable kind.Resource)
    (database : Database) :
    Database :=
  TableKind.all.foldl
    (fun changed kind => changed.setTable kind (change kind (changed.table kind)))
    database

/-- Forgets every failed id; what is left is what can be saved. -/
def clearFailures (database : Database) : Database :=
  database.mapTables fun _ table => table.clearFailures

/-- A copy of a database, in which every resource is copied. -/
def copy (database : Database) : Database :=
  database.mapTables fun kind table => table.mapResources kind.copy

/-- Number of resources and of failed ids; a text counts as one resource. -/
def summaryOf (database : Database) (kind : ResourceKind) : TableSummary :=
  match kind with
  | .text => ⟨.text, if database.text?.isSome then 1 else 0, 0⟩
  | .table kind =>
      let table := database.table kind
      ⟨.table kind, table.loadedCount, table.failedCount⟩

/-- The summaries of all kinds, in the order of the kinds. -/
def summary (database : Database) : List TableSummary :=
  ResourceKind.all.map database.summaryOf

/-- The pixels of an image, and the database after they have been used. -/
def usePixels
    (database : Database)
    (kind : ImageKind)
    (id : UInt16) :
    Option (Except ImageError PixelGrid × Database) :=
  ((database.table (.image kind)).get? id).map fun (image : Image) =>
    (image.pixels,
      database.setTable (.image kind)
        ((database.table (.image kind)).modify id Image.decoded))

end Database

end AdventureArchive
