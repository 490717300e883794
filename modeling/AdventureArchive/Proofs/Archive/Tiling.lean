import AdventureArchive.Archive.Codec
import AdventureArchive.Proofs.Archive.Frame
import AdventureArchive.Proofs.Archive.Saved

namespace AdventureArchive

/-!
# The layout of saved archives

In a saved archive nothing is left over and nothing lies twice.  Behind the
header the directory lists the kinds that have something to store, in their
order, and then their tables follow one another; a table is its index and then
the stored forms of its entries, in the order of their ids.

`Archive.Tiles` says that ranges follow one another without gap or overlap, and
`Archive.LaidOut` what is found where.  Offsets are counted up beside the bytes
they describe, once for the directory and once for each index; that the two
agree is `tiles_directoryFrom` and `tiles_consecutiveIndex`.
-/

namespace Archive

/-! ## What is laid out -/

/--
Ranges, given by offset and length, that follow one another: the first begins at
`start`, every other one where the one before it ends, and the last ends at
`stop`.
-/
def Tiles (start stop : Nat) : List (Nat × Nat) → Prop
  | [] => start = stop
  | (offset, length) :: rest => offset = start ∧ Tiles (start + length) stop rest

/-- The range of the table that a record is about. -/
def DirectoryRecord.range (record : DirectoryRecord) : Nat × Nat :=
  (record.offset.toNat, record.length.toNat)

/-- The range of an entry within its table. -/
def IndexEntry.range (entry : IndexEntry) : Nat × Nat :=
  (entry.offset.toNat, entry.length.toNat)

/-- Whether a database has something to store for a kind. -/
def holds (database : Database) : ResourceKind → Bool
  | .text => database.text?.isSome
  | .table kind => !(database.table kind).isEmpty

/-- The ids of a kind and what their resources are stored as; the text has the id zero. -/
def storedForms
    (database : Database) :
    ResourceKind → List (UInt16 × Except ResourceError (List UInt8))
  | .text => (database.text?.map fun blob => (0, blob.encode)).toList
  | .table kind =>
      (database.table kind).loaded.map fun entry => (entry.1, kind.encode entry.2)

/--
What a record of the directory and the table it is about have to be for a kind:
the index names each id with the range of its stored form, and these ranges
fill the table behind the index.
-/
structure LaidOutTable
    (database : Database)
    (bytes : List UInt8)
    (kind : ResourceKind)
    (record : DirectoryRecord) : Prop where
  kindCode : record.kindCode = kind.code
  reserved : record.reserved = 0
  entryCount : record.entryCount.toNat = (storedForms database kind).length
  ascending : (indexOf bytes record).Pairwise fun first second => first.id < second.id
  contents :
    ((indexOf bytes record).map fun entry =>
        (entry.id,
          .ok (byteRange (tableOf bytes record) entry.offset.toNat entry.length.toNat))) =
      storedForms database kind
  entries :
    Tiles (10 * record.entryCount.toNat) record.length.toNat
      ((indexOf bytes record).map IndexEntry.range)

/--
What an archive has to be for a database: its directory lists the kinds that
have something to store, and their tables fill the archive behind the directory.
-/
structure LaidOut (database : Database) (bytes : List UInt8) : Prop where
  magic : (headerOf bytes).magic.toList = [0x52, 0x44, 0x41, 0x54]
  version : (headerOf bytes).version = 1
  tableCount :
    (headerOf bytes).tableCount.toNat = (ResourceKind.all.filter (holds database)).length
  length : (headerOf bytes).length.toNat = bytes.length
  ascending :
    (directoryOf bytes).Pairwise fun first second => first.kindCode < second.kindCode
  directory :
    List.Forall₂ (LaidOutTable database bytes)
      (ResourceKind.all.filter (holds database)) (directoryOf bytes)
  tables :
    Tiles (12 + 12 * (headerOf bytes).tableCount.toNat) bytes.length
      ((directoryOf bytes).map DirectoryRecord.range)

/-! ## Running offsets -/

/-- A range that is counted in 32 bits goes in front of those that begin where it ends. -/
theorem tiles_cons_ofNat
    {offset length stop : Nat}
    {rest : List (Nat × Nat)}
    (fits : offset + length < UInt32.size)
    (tiles : Tiles (offset + length) stop rest) :
    Tiles offset stop (((UInt32.ofNat offset).toNat, (UInt32.ofNat length).toNat) :: rest) := by
  have offsetShape : (UInt32.ofNat offset).toNat = offset :=
    UInt32.toNat_ofNat_of_lt' (Nat.lt_of_le_of_lt (Nat.le_add_right _ _) fits)
  have lengthShape : (UInt32.ofNat length).toNat = length :=
    UInt32.toNat_ofNat_of_lt' (Nat.lt_of_le_of_lt (Nat.le_add_left _ _) fits)
  rw [offsetShape, lengthShape]
  exact ⟨rfl, tiles⟩

/-- The ranges of a directory follow one another as its tables do. -/
theorem tiles_directoryFrom
    {offset : Nat}
    {tables : List StoredTable}
    (fits : offset + totalSize (fun table => table.bytes.length) tables < UInt32.size) :
    Tiles offset (offset + totalSize (fun table => table.bytes.length) tables)
      ((directoryFrom offset tables).map DirectoryRecord.range) := by
  induction tables generalizing offset with
  | nil => rfl
  | cons table rest inductionHypothesis =>
      rw [totalSize_cons, ← Nat.add_assoc] at fits ⊢
      have tableFits : offset + table.bytes.length < UInt32.size :=
        Nat.lt_of_le_of_lt (Nat.le_add_right _ _) fits
      exact tiles_cons_ofNat tableFits (inductionHypothesis fits)

/-- The ranges of an index follow one another as its payloads do. -/
theorem tiles_consecutiveIndex
    {offset : Nat}
    {payloads : List (UInt16 × List UInt8)}
    (fits : offset + (payloads.flatMap Prod.snd).length < UInt32.size) :
    Tiles offset (offset + (payloads.flatMap Prod.snd).length)
      ((consecutiveIndex offset payloads).map IndexEntry.range) := by
  induction payloads generalizing offset with
  | nil => rfl
  | cons payload rest inductionHypothesis =>
      rcases payload with ⟨id, payload⟩
      rw [List.flatMap_cons, List.length_append, ← Nat.add_assoc] at fits ⊢
      have payloadFits : offset + payload.length < UInt32.size :=
        Nat.lt_of_le_of_lt (Nat.le_add_right _ _) fits
      exact tiles_cons_ofNat payloadFits (inductionHypothesis fits)

/-! ## Stored tables -/

/-- A table that holds what a database has to store for a kind. -/
structure StoresKind
    (database : Database)
    (kind : ResourceKind)
    (table : StoredTable) : Prop where
  sameKind : table.kind = kind
  entryCount : table.entryCount.toNat = (storedForms database kind).length
  bytes :
    ∃ payloads,
      table.bytes = tableBytes payloads ∧
        (payloads.map fun payload => (payload.1, .ok payload.2)) = storedForms database kind

/-- A kind is stored as a table that holds what there is, if there is anything. -/
theorem storesKind_of_storeKind
    {database : Database}
    {kind : ResourceKind}
    {table? : Option StoredTable}
    (stored : storeKind database kind = .ok table?) :
    Option.Rel (StoresKind database) (Option.guard (holds database) kind) table? := by
  cases storedAs_of_storeKind stored with
  | noText absent =>
      simp only [Option.guard, holds, absent]
      exact Option.Rel.none
  | text present encoded =>
      simp only [Option.guard, holds, present]
      refine Option.Rel.some ⟨rfl, ?_, _, rfl, ?_⟩
      · simp [storedForms, present]
      · simp [storedForms, present, encoded]
  | noResources absent =>
      simp only [Option.guard, holds, ResourceTable.isEmpty, absent]
      exact Option.Rel.none
  | @resources kind payloads present forms few =>
      simp only [Option.guard, holds, ResourceTable.isEmpty, Bool.eq_false_iff.mpr present]
      refine Option.Rel.some ⟨rfl, ?_, payloads, rfl, forms.symm⟩
      simpa only [storedForms, List.length_map] using UInt16.toNat_ofNat_of_lt' few

/-- The tables of a database are those of the kinds that have something to store. -/
theorem storesKind_of_storeTables
    {database : Database}
    {tables : List StoredTable}
    (stored : storeTables database = .ok tables) :
    List.Forall₂ (StoresKind database) (ResourceKind.all.filter (holds database)) tables := by
  rw [storeTables_eq] at stored
  obtain ⟨tables?, kindsStored, rfl⟩ := Except.map_eq_ok_iff.mp stored
  rw [← List.filterMap_eq_filter]
  have each :
      List.Forall₂
        (fun kind table? =>
          Option.Rel (StoresKind database) (Option.guard (holds database) kind) table?)
        ResourceKind.all tables? :=
    Except.forall₂_of_mapM kindsStored storesKind_of_storeKind
  exact List.rel_filterMap (fun _ _ related => related) each

/-! ## Tables in an archive -/

/-- A record that is about a stored table, which lies in the archive as the record says. -/
structure RecordOf
    (bytes : List UInt8)
    (record : DirectoryRecord)
    (table : StoredTable) : Prop where
  kindCode : record.kindCode = table.kind.code
  reserved : record.reserved = 0
  entryCount : record.entryCount = table.entryCount
  length : record.length.toNat = table.bytes.length
  bytes : tableOf bytes record = table.bytes

/-- Tables that are cut out at their spans have the records of these spans. -/
theorem recordOf_directoryFrom
    {bytes : List UInt8}
    {offset : Nat}
    {tables : List StoredTable}
    (spansOf : List.Forall₂ (SpanOf bytes.toArray) (consecutiveSpans offset tables) tables)
    (short : ∀ table ∈ tables, table.bytes.length < UInt32.size) :
    List.Forall₂ (RecordOf bytes) (directoryFrom offset tables) tables := by
  induction tables generalizing offset with
  | nil => exact List.Forall₂.nil
  | cons table rest inductionHypothesis =>
      obtain ⟨spanOf, restSpansOf⟩ := List.forall₂_cons.mp spansOf
      obtain ⟨tableShort, restShort⟩ := List.forall_mem_cons.mp short
      refine List.Forall₂.cons ?_ (inductionHypothesis restSpansOf restShort)
      have cutOut := spanOf.bytes
      rw [slice_toArray] at cutOut
      exact {
        kindCode := rfl
        reserved := rfl
        entryCount := rfl
        length := UInt32.toNat_ofNat_of_lt' tableShort
        bytes := congrArg Array.toList cutOut
      }

/-- The index of a stored table is found at its start. -/
theorem indexOf_eq
    {bytes : List UInt8}
    {record : DirectoryRecord}
    {payloads : List (UInt16 × List UInt8)}
    (table : tableOf bytes record = tableBytes payloads)
    (entryCount : record.entryCount.toNat = payloads.length) :
    indexOf bytes record =
      consecutiveIndex (payloads.length * Layout.width IndexEntry) payloads := by
  have found := Layout.map_valueAt_writeMany []
    (consecutiveIndex (payloads.length * Layout.width IndexEntry) payloads)
    (payloads.flatMap Prod.snd)
  rw [length_consecutiveIndex, List.nil_append] at found
  simp only [List.length_nil, Nat.zero_add] at found
  rw [indexOf, table, entryCount]
  exact found

/-- The ranges of an index hold the payloads it has been made for. -/
theorem byteRange_tableBytes
    {payloads : List (UInt16 × List UInt8)}
    (fits : (tableBytes payloads).length < UInt32.size) :
    ((consecutiveIndex (payloads.length * Layout.width IndexEntry) payloads).map fun entry =>
        (entry.id,
          (.ok (byteRange (tableBytes payloads) entry.offset.toNat entry.length.toNat) :
            Except ResourceError (List UInt8)))) =
      payloads.map fun payload => (payload.1, .ok payload.2) := by
  have cutOut := entryBytes_tableBytes fits
  rw [← cutOut]
  apply List.map_congr_left
  intro entry member
  have inPayloads :
      (entry.id, entryBytes (tableBytes payloads).toArray entry) ∈
        payloads.map fun payload => (payload.1, .ok payload.2) :=
    cutOut ▸ List.mem_map.mpr ⟨entry, member, rfl⟩
  obtain ⟨payload, -, same⟩ := List.mem_map.mp inPayloads
  have found := (Prod.mk.inj same).2
  unfold entryBytes at found ⊢
  split at found
  next => contradiction
  next inside => rw [if_neg inside, slice_toArray]

/-- Ids that ascend in the tables of a database do so in what it stores. -/
theorem ascending_storedForms
    (database : Database)
    (kind : ResourceKind) :
    (storedForms database kind).Pairwise fun first second => first.1 < second.1 := by
  cases kind with
  | text =>
      simp only [storedForms]
      cases database.text? with
      | none => exact List.Pairwise.nil
      | some blob => exact List.pairwise_singleton _ _
  | table kind =>
      exact List.pairwise_map.mpr
        ((database.table kind).ascending_loaded.imp fun ordered =>
          UInt16.lt_iff_toNat_lt.mpr ordered)

/-- A table that holds what there is to store for a kind is laid out as it should be. -/
theorem laidOutTable_of_storesKind
    {database : Database}
    {bytes : List UInt8}
    {kind : ResourceKind}
    {record : DirectoryRecord}
    {table : StoredTable}
    (stores : StoresKind database kind table)
    (recordOf : RecordOf bytes record table)
    (short : table.bytes.length < UInt32.size) :
    LaidOutTable database bytes kind record := by
  obtain ⟨payloads, tableShape, forms⟩ := stores.bytes
  have table_eq : tableOf bytes record = tableBytes payloads := recordOf.bytes.trans tableShape
  have formCount : (storedForms database kind).length = payloads.length := by
    rw [← forms, List.length_map]
  have entryCount : record.entryCount.toNat = payloads.length := by
    rw [recordOf.entryCount, stores.entryCount, formCount]
  have index := indexOf_eq table_eq entryCount
  rw [tableShape] at short
  have contents := (byteRange_tableBytes short).trans forms
  rw [← index, ← table_eq] at contents
  constructor
  case kindCode => rw [recordOf.kindCode, stores.sameKind]
  case reserved => exact recordOf.reserved
  case entryCount => rw [entryCount, formCount]
  case contents => exact contents
  case ascending =>
    have ascending := ascending_storedForms database kind
    rw [← contents, List.pairwise_map] at ascending
    exact ascending
  case entries =>
    rw [length_tableBytes] at short
    have tiles := tiles_consecutiveIndex short
    rw [← length_tableBytes, ← index, ← tableShape, ← recordOf.length] at tiles
    rw [entryCount, Nat.mul_comm]
    exact tiles

/-! ## Saved archives -/

/-- The header of an assembled archive. -/
theorem headerOf_of_assemble
    {tables : List StoredTable}
    {bytes : List UInt8}
    (assembled : assemble tables = .ok bytes) :
    headerOf bytes =
      ⟨magic, version, UInt16.ofNat tables.length,
        UInt32.ofNat (assembledLength tables)⟩ := by
  have found := Layout.valueAt_append []
    (⟨magic, version, UInt16.ofNat tables.length,
      UInt32.ofNat (assembledLength tables)⟩ : Header)
    (Layout.writeMany (directoryFrom (tablesOffset tables.length) tables) ++
      tables.flatMap StoredTable.bytes)
  rw [List.nil_append, ← (eq_append_of_assemble assembled).2] at found
  exact found

/-- The directory of an assembled archive. -/
theorem directoryOf_of_assemble
    {tables : List StoredTable}
    {bytes : List UInt8}
    (assembled : assemble tables = .ok bytes)
    (few : tables.length < UInt16.size) :
    directoryOf bytes = directoryFrom (tablesOffset tables.length) tables := by
  have count : (headerOf bytes).tableCount.toNat = tables.length := by
    rw [headerOf_of_assemble assembled]
    exact UInt16.toNat_ofNat_of_lt' few
  have found := Layout.map_valueAt_writeMany
    (Layout.write (⟨magic, version, UInt16.ofNat tables.length,
      UInt32.ofNat (assembledLength tables)⟩ : Header))
    (directoryFrom (tablesOffset tables.length) tables)
    (tables.flatMap StoredTable.bytes)
  rw [length_directoryFrom, LawfulLayout.length_write,
    ← (eq_append_of_assemble assembled).2] at found
  rw [directoryOf, count]
  exact found

/-- The kinds of resources are numbered in their order. -/
theorem ascending_kindCodes :
    ResourceKind.all.Pairwise fun first second => first.code < second.code := by
  decide

/-- A directory whose records are those of ascending kinds is ascending itself. -/
theorem ascending_of_laidOutTable
    {database : Database}
    {bytes : List UInt8}
    {kinds : List ResourceKind}
    {records : List DirectoryRecord}
    (laidOut : List.Forall₂ (LaidOutTable database bytes) kinds records)
    (ascending : kinds.Pairwise fun first second => first.code < second.code) :
    records.Pairwise fun first second => first.kindCode < second.kindCode := by
  have sameCodes : records.map DirectoryRecord.kindCode = kinds.map ResourceKind.code := by
    rw [← List.forall₂_eq_eq_eq, List.forall₂_map_left_iff, List.forall₂_map_right_iff]
    exact laidOut.flip.imp fun _ _ table => table.kindCode
  rw [← List.pairwise_map, sameCodes, List.pairwise_map]
  exact ascending

/-- Tables that hold what there is to store are laid out by the records that are about them. -/
theorem laidOutTables
    {database : Database}
    {bytes : List UInt8}
    {kinds : List ResourceKind}
    {records : List DirectoryRecord}
    {tables : List StoredTable}
    (stores : List.Forall₂ (StoresKind database) kinds tables)
    (recordsOf : List.Forall₂ (RecordOf bytes) records tables)
    (short : ∀ table ∈ tables, table.bytes.length < UInt32.size) :
    List.Forall₂ (LaidOutTable database bytes) kinds records := by
  induction stores generalizing records with
  | nil =>
      cases recordsOf
      exact List.Forall₂.nil
  | cons tableStores _ inductionHypothesis =>
      cases recordsOf with
      | cons recordOf restOf =>
          obtain ⟨tableShort, restShort⟩ := List.forall_mem_cons.mp short
          exact List.Forall₂.cons
            (laidOutTable_of_storesKind tableStores recordOf tableShort)
            (inductionHypothesis restOf restShort)

end Archive

namespace ArchiveCodec

open Archive

/--
A saved archive is laid out for its database: magic, version, number of tables
and length in the header, the kinds that have something to store in the
directory, and behind it table after table and entry after entry, without gap
or overlap.
-/
theorem laidOut_of_save
    {codec : ArchiveCodec}
    {database : Database}
    {bytes : List UInt8}
    (saved : codec.save database = .ok bytes) :
    LaidOut database bytes := by
  obtain ⟨tables, stored, assembled⟩ := Except.bind_eq_ok_iff.mp saved
  obtain ⟨fits, -⟩ := eq_append_of_assemble assembled
  have length := length_of_assemble assembled
  have stores := storesKind_of_storeTables stored
  have tableCount := stores.length_eq
  have few : tables.length < UInt16.size := by
    rw [← tableCount]
    exact Nat.lt_of_le_of_lt (List.length_filter_le _ _) (by decide)
  have short : ∀ table ∈ tables, table.bytes.length < UInt32.size := fun table member =>
    Nat.lt_of_le_of_lt (length_le_assembledLength member) fits
  have header := headerOf_of_assemble assembled
  have countShape : (headerOf bytes).tableCount.toNat = tables.length := by
    rw [header]
    exact UInt16.toNat_ofNat_of_lt' few
  have directory := directoryOf_of_assemble assembled few
  have laidOut :
      List.Forall₂ (LaidOutTable database bytes) (ResourceKind.all.filter (holds database))
        (directoryOf bytes) := by
    rw [directory]
    exact laidOutTables stores (recordOf_directoryFrom (spanOf_of_assemble assembled) short) short
  constructor
  case magic =>
    rw [header]
    rfl
  case version =>
    rw [header]
    rfl
  case tableCount => rw [countShape, tableCount]
  case length =>
    rw [header, length]
    exact UInt32.toNat_ofNat_of_lt' fits
  case ascending => exact ascending_of_laidOutTable laidOut (ascending_kindCodes.filter _)
  case directory => exact laidOut
  case tables =>
    rw [countShape, Nat.mul_comm, directory, length]
    exact tiles_directoryFrom fits

/-- A database with a text, a room size and two palettes; one more has failed. -/
def furnishedDatabase : Database :=
  { Database.empty with
    text? := some ⟨5, "ok"⟩
    backdropSizes := ResourceTable.empty.insert 2 ⟨320, 200⟩
    palettes :=
      ((ResourceTable.empty.insert 9 ⟨[⟨1, 2, 3⟩]⟩).markFailed 4 "truncated").insert 3 ⟨[]⟩ }

/-- The furnished database is saved with three tables, laid out as they should be. -/
theorem laidOut_furnishedDatabase :
    ∃ bytes,
      standard.save furnishedDatabase = .ok bytes ∧
        LaidOut furnishedDatabase bytes ∧
        (headerOf bytes).tableCount = 3 := by
  obtain ⟨bytes, saved⟩ :=
    Except.exists_of_isOk (show (standard.save furnishedDatabase).isOk = true by decide +kernel)
  have laidOut := laidOut_of_save saved
  have threeKinds : (ResourceKind.all.filter (holds furnishedDatabase)).length = 3 := by
    decide +kernel
  exact ⟨bytes, saved, laidOut, UInt16.toNat_inj.mp (laidOut.tableCount.trans threeKinds)⟩

end ArchiveCodec

end AdventureArchive
