import AdventureArchive.Database.Kind

namespace AdventureArchive

/-!
# The frame of an archive

An archive starts with a header and a directory.  The header names the format
and the total length; the directory has one record per table.  A table starts
with an index of its entries, whose ranges count from the start of the table.

Faults of this frame end the reading of the whole archive.  They are looked for
in the order in which the frame is laid out, so the first one met is reported.
Room for as many records as are announced is taken to be allocated.
-/

/-- Why the text table cannot be used. -/
inductive TextTableFault where
  | entryCount (found : Nat)
  | entry (cause : ResourceError)
  deriving Repr, DecidableEq

/-- The wording of a fault of the text table. -/
def TextTableFault.message : TextTableFault → String
  | .entryCount found => s!"expected exactly one entry, found {found}"
  | .entry cause => cause.message

/-- Faults that make an archive unreadable. -/
inductive ArchiveError where
  | truncatedHeader (length : Nat)
  | badMagic
  | unsupportedVersion (version : UInt16)
  | lengthMismatch (declared : UInt32) (actual : Nat)
  | truncatedDirectory (tables : UInt16)
  | unknownTableKind (index : Nat) (code : UInt8)
  | duplicateTable (kind : ResourceKind)
  | tableOutOfBounds (kind : ResourceKind) (offset length : UInt32)
  | truncatedIndex (kind : ResourceKind) (entries : UInt16)
  | duplicateEntry (kind : ResourceKind) (id : UInt16)
  | malformedText (fault : TextTableFault)
  deriving Repr, DecidableEq

/-- The wording of an archive error. -/
def ArchiveError.message : ArchiveError → String
  | .truncatedHeader length =>
      s!"archive is too small to contain a header ({length} bytes)"
  | .badMagic => "archive missing RDAT signature"
  | .unsupportedVersion version => s!"unsupported archive version {version}"
  | .lengthMismatch declared actual =>
      s!"archive header declares {declared} bytes but {actual} were supplied"
  | .truncatedDirectory tables =>
      s!"directory of {tables} tables extends beyond the archive"
  | .unknownTableKind index code =>
      s!"directory entry {index} names unknown table kind {code}"
  | .duplicateTable kind =>
      s!"{kind.name} table appears more than once in the directory"
  | .tableOutOfBounds kind offset length =>
      s!"{kind.name} table at {offset}+{length} lies outside the archive"
  | .truncatedIndex kind entries =>
      s!"{kind.name} table index of {entries} entries overruns the table"
  | .duplicateEntry kind id => s!"{kind.name} table lists id {id} more than once"
  | .malformedText fault => s!"text table is malformed: {fault.message}"

namespace Archive

/-- The four bytes every archive starts with, `RDAT` in ASCII. -/
def magic : Vector UInt8 4 := #v[0x52, 0x44, 0x41, 0x54]

/-- The only version of the format. -/
def version : UInt16 := 1

/-- The fields every archive starts with. -/
structure Header where
  magic : Vector UInt8 4
  version : UInt16
  tableCount : UInt16
  length : UInt32
  deriving Repr, DecidableEq

instance : Layout Header :=
  .via
    (fun header => (header.magic, header.version, header.tableCount, header.length))
    (fun (magic, version, tableCount, length) => ⟨magic, version, tableCount, length⟩)

instance : LawfulLayout Header :=
  .via (fun _ => rfl) (fun _ => rfl)

/-- What the directory says about one table. -/
structure DirectoryRecord where
  kindCode : UInt8
  reserved : UInt8
  entryCount : UInt16
  offset : UInt32
  length : UInt32
  deriving Repr, DecidableEq

instance : Layout DirectoryRecord :=
  .via
    (fun record =>
      (record.kindCode, record.reserved, record.entryCount, record.offset, record.length))
    (fun (kindCode, reserved, entryCount, offset, length) =>
      ⟨kindCode, reserved, entryCount, offset, length⟩)

instance : LawfulLayout DirectoryRecord :=
  .via (fun _ => rfl) (fun _ => rfl)

/-- Where the entry with some id lies in its table. -/
structure IndexEntry where
  id : UInt16
  offset : UInt32
  length : UInt32
  deriving Repr, DecidableEq

instance : Layout IndexEntry :=
  .via
    (fun entry => (entry.id, entry.offset, entry.length))
    (fun (id, offset, length) => ⟨id, offset, length⟩)

instance : LawfulLayout IndexEntry :=
  .via (fun _ => rfl) (fun _ => rfl)

/-- A table of known kind that lies inside the archive. -/
structure TableSpan where
  kind : ResourceKind
  entryCount : UInt16
  offset : UInt32
  length : UInt32
  deriving Repr, DecidableEq

/-- The bytes of a range. -/
def slice (bytes : Array UInt8) (offset length : Nat) : Array UInt8 :=
  bytes.extract offset (offset + length)

/-- Reads the header and returns the number of tables with what follows. -/
def readHeader (bytes : List UInt8) : Except ArchiveError (UInt16 × List UInt8) :=
  match (Layout.read bytes : Option (Header × List UInt8)) with
  | none => .error (.truncatedHeader bytes.length)
  | some (header, rest) =>
      if header.magic ≠ magic then
        .error .badMagic
      else if header.version ≠ version then
        .error (.unsupportedVersion header.version)
      else if header.length.toNat ≠ bytes.length then
        .error (.lengthMismatch header.length bytes.length)
      else
        .ok (header.tableCount, rest)

/--
Checks directory records one by one: the kind has to be known and new, the
table has to lie inside the archive.  `index` counts the records before.
-/
def checkRecords
    (archiveLength : Nat)
    (index : Nat)
    (checked : List TableSpan) :
    List DirectoryRecord → Except ArchiveError (List TableSpan)
  | [] => .ok checked.reverse
  | record :: rest =>
      match ResourceKind.ofCode? record.kindCode with
      | none => .error (.unknownTableKind index record.kindCode)
      | some kind =>
          if checked.any fun earlier => earlier.kind == kind then
            .error (.duplicateTable kind)
          else if archiveLength < record.offset.toNat + record.length.toNat then
            .error (.tableOutOfBounds kind record.offset record.length)
          else
            checkRecords archiveLength (index + 1)
              (⟨kind, record.entryCount, record.offset, record.length⟩ :: checked)
              rest

/-- The tables of an archive in the order of its directory. -/
def readDirectory (bytes : List UInt8) : Except ArchiveError (List TableSpan) := do
  let (tableCount, behindHeader) ← readHeader bytes
  match Layout.readMany tableCount.toNat behindHeader with
  | none => throw (.truncatedDirectory tableCount)
  | some (records, _) => checkRecords bytes.length 0 [] records

/-- The first id of a list that occurred before, given the ids seen so far. -/
def firstRepeated?
    (seen : SortedMap UInt16 Unit) :
    List UInt16 → Option UInt16
  | [] => none
  | id :: rest =>
      if seen.contains id then
        some id
      else
        firstRepeated? (seen.insert id ()) rest

/-- Reads the index at the start of a table; no id may be listed twice. -/
def readIndex
    (span : TableSpan)
    (table : List UInt8) :
    Except ArchiveError (List IndexEntry) :=
  match Layout.readMany span.entryCount.toNat table with
  | none => .error (.truncatedIndex span.kind span.entryCount)
  | some (entries, _) =>
      match firstRepeated? .empty (entries.map IndexEntry.id) with
      | some id => .error (.duplicateEntry span.kind id)
      | none => .ok entries

/-- The bytes of an entry, if its range lies inside the table. -/
def entryBytes
    (table : Array UInt8)
    (entry : IndexEntry) :
    Except ResourceError (List UInt8) :=
  if table.size < entry.offset.toNat + entry.length.toNat then
    .error (.entryOutOfBounds entry.offset entry.length table.size)
  else
    .ok (slice table entry.offset.toNat entry.length.toNat).toList

end Archive

end AdventureArchive
