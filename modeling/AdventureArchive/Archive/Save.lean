import AdventureArchive.Archive.Load

namespace AdventureArchive

/-!
# Saving a database

A saved archive lists its tables in the order of their kinds and the entries of
each table in the order of their ids.  Directory, tables, indexes and entries
follow one another without gaps.  Kinds without a resource have no table, and
failed ids are not written.

Tables and archive are put together in memory, which is taken to be allocated
however long they are.
-/

/-- Why a database cannot be saved. -/
inductive EncodeError where
  | resource (kind : ResourceKind) (id : UInt16) (cause : ResourceError)
  | tooManyEntries (kind : ResourceKind) (count : Nat)
  | tooLarge
  deriving Repr, DecidableEq

/-- The wording of an encode error and then of its causes. -/
def EncodeError.explanation : EncodeError → List String
  | .resource kind id cause =>
      s!"{kind.name} {id} cannot be encoded" :: cause.explanation
  | .tooManyEntries kind count =>
      [s!"{kind.name} table holds {count} entries, more than a table index can address"]
  | .tooLarge => ["archive would exceed the 4 GiB offset range"]

namespace Archive

/-- A table as it is written, with what the directory says about it. -/
structure StoredTable where
  kind : ResourceKind
  entryCount : UInt16
  bytes : List UInt8
  deriving Repr, DecidableEq

/--
The index of consecutive entries, the first of which starts at the given
offset, behind index entries collected before in reverse.
-/
def indexOnto
    (collected : List IndexEntry)
    (offset : Nat) :
    List (UInt16 × List UInt8) → Except EncodeError (List IndexEntry)
  | [] => .ok collected.reverse
  | (id, payload) :: rest =>
      if offset < UInt32.size ∧ payload.length < UInt32.size then
        indexOnto
          (⟨id, UInt32.ofNat offset, UInt32.ofNat payload.length⟩ :: collected)
          (offset + payload.length)
          rest
      else
        .error .tooLarge

/-- An index and the payloads it points at, one after the other. -/
def writeTable
    (payloads : List (UInt16 × List UInt8)) :
    Except EncodeError (List UInt8) := do
  let index ← indexOnto [] (payloads.length * Layout.width IndexEntry) payloads
  return Layout.writeMany index ++ payloads.flatMap Prod.snd

/-- The text as a table with one entry. -/
def storeText (blob : TextBlob) : Except EncodeError StoredTable := do
  let payload ← blob.encode.mapError (.resource .text 0)
  return ⟨.text, 1, ← writeTable [(0, payload)]⟩

/-- A table with at least one resource; too many are reported before any fault. -/
def storeResources
    (kind : TableKind)
    (resources : List (UInt16 × kind.Resource)) :
    Except EncodeError StoredTable :=
  if resources.length < UInt16.size then do
    let payloads ← resources.mapM fun (id, resource) => do
      let payload ← (kind.encode resource).mapError (.resource (.table kind) id)
      return (id, payload)
    return ⟨.table kind, UInt16.ofNat resources.length, ← writeTable payloads⟩
  else
    .error (.tooManyEntries (.table kind) resources.length)

/-- The table of a kind, if it has a resource. -/
def storeTable
    (database : Database)
    (kind : TableKind) :
    Except EncodeError (Option StoredTable) :=
  let resources := (database.table kind).loaded
  if resources.isEmpty then
    .ok none
  else
    (storeResources kind resources).map some

/-- The tables of a database in the order of their kinds. -/
def storeTables (database : Database) : Except EncodeError (List StoredTable) := do
  let text ←
    match database.text? with
    | some blob => some <$> storeText blob
    | none => pure none
  let tables ← TableKind.all.mapM (storeTable database)
  return (text :: tables).filterMap id

/-- The directory of consecutive tables, the first at the given offset. -/
def directoryFrom (offset : Nat) : List StoredTable → List DirectoryRecord
  | [] => []
  | table :: rest =>
      ⟨table.kind.code, 0, table.entryCount, UInt32.ofNat offset,
        UInt32.ofNat table.bytes.length⟩ ::
        directoryFrom (offset + table.bytes.length) rest

/-- Where the first table of an archive starts. -/
def tablesOffset (tableCount : Nat) : Nat :=
  Layout.width Header + tableCount * Layout.width DirectoryRecord

/-- The header, the directory and the tables, one after the other. -/
def assemble (tables : List StoredTable) : Except EncodeError (List UInt8) :=
  let offset := tablesOffset tables.length
  let length := offset + totalSize (fun table => table.bytes.length) tables
  if length < UInt32.size then
    let header : Header :=
      ⟨magic, version, UInt16.ofNat tables.length, UInt32.ofNat length⟩
    .ok (Layout.write header ++ Layout.writeMany (directoryFrom offset tables) ++
      tables.flatMap StoredTable.bytes)
  else
    .error .tooLarge

/-- The archive that holds a database. -/
def save (database : Database) : Except EncodeError (List UInt8) := do
  let tables ← storeTables database
  assemble tables

end Archive

end AdventureArchive
