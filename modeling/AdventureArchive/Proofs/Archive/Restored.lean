import AdventureArchive.Proofs.Archive.Tiling

namespace AdventureArchive.Archive

/-!
# Archives that follow from their layout

Nothing about an archive is left open once it is laid out for a database: ranges
that tile a stretch of bytes hold all of it (`flatMap_byteRange_of_tiles`), so
each table is its index and its entries, and the archive is its directory and
its tables.  What is stored for a kind is decided by the stored forms of its
resources alone (`storeKind_eq_storeForms`), and so is the whole archive
(`save_congr`).  Hence an archive that is laid out for a database is the one that
the database is saved as (`save_of_laidOut`).
-/

/-! ## Ranges that tile -/

/-- Two ranges, one of which begins where the other ends, are one range. -/
theorem byteRange_append
    (bytes : List UInt8)
    (start length more : Nat) :
    byteRange bytes start length ++ byteRange bytes (start + length) more =
      byteRange bytes start (length + more) := by
  rw [byteRange, byteRange, byteRange, List.take_add, List.drop_drop]

/-- A range that goes on to the end is all that is left. -/
theorem byteRange_to_end (bytes : List UInt8) (start : Nat) :
    byteRange bytes start (bytes.length - start) = bytes.drop start := by
  rw [byteRange, ← List.length_drop, List.take_length]

/-- Ranges that follow one another lead forward. -/
theorem le_of_tiles
    {start stop : Nat}
    {ranges : List (Nat × Nat)}
    (tiles : Tiles start stop ranges) :
    start ≤ stop := by
  induction ranges generalizing start with
  | nil => exact Nat.le_of_eq tiles
  | cons range rest inductionHypothesis =>
      exact Nat.le_trans (Nat.le_add_right _ _) (inductionHypothesis tiles.2)

/-- None of them reaches beyond the end. -/
theorem inside_of_tiles
    {start stop : Nat}
    {ranges : List (Nat × Nat)}
    (tiles : Tiles start stop ranges) :
    ∀ range ∈ ranges, range.1 + range.2 ≤ stop := by
  induction ranges generalizing start with
  | nil => exact List.forall_mem_nil _
  | cons range rest inductionHypothesis =>
      obtain ⟨offset, length⟩ := range
      obtain ⟨rfl, restTiles⟩ := tiles
      exact List.forall_mem_cons.mpr ⟨le_of_tiles restTiles, inductionHypothesis restTiles⟩

/-- Together they hold all bytes from the beginning to the end. -/
theorem flatMap_byteRange_of_tiles
    (bytes : List UInt8)
    {start stop : Nat}
    {ranges : List (Nat × Nat)}
    (tiles : Tiles start stop ranges) :
    (ranges.flatMap fun range => byteRange bytes range.1 range.2) =
      byteRange bytes start (stop - start) := by
  induction ranges generalizing start with
  | nil =>
      obtain rfl : start = stop := tiles
      rw [Nat.sub_self]
      rfl
  | cons range rest inductionHypothesis =>
      obtain ⟨offset, length⟩ := range
      obtain ⟨rfl, restTiles⟩ := tiles
      have forward := le_of_tiles restTiles
      have lengths : length + (stop - (offset + length)) = stop - offset := by omega
      rw [List.flatMap_cons, inductionHypothesis restTiles, byteRange_append, lengths]

/-! ## Tables -/

/-- The table that a record is about, as it would be stored. -/
def storedTableOf (bytes : List UInt8) (record : DirectoryRecord) : StoredTable :=
  ⟨record.kind, record.entryCount, tableOf bytes record⟩

/-- The ids and the bytes that the entries of a table stand for. -/
def payloadsOf (bytes : List UInt8) (record : DirectoryRecord) : List (UInt16 × List UInt8) :=
  (indexOf bytes record).map fun entry =>
    (entry.id, byteRange (tableOf bytes record) entry.offset.toNat entry.length.toNat)

@[simp] theorem length_payloadsOf
    (bytes : List UInt8)
    (record : DirectoryRecord) :
    (payloadsOf bytes record).length = record.entryCount.toNat := by
  rw [payloadsOf, List.length_map, length_indexOf]

/-- An index whose ranges follow one another is the index of the bytes it points at. -/
theorem consecutiveIndex_of_tiles
    {table : List UInt8}
    {start stop : Nat}
    (inside : stop ≤ table.length)
    {entries : List IndexEntry}
    (tiles : Tiles start stop (entries.map IndexEntry.range)) :
    consecutiveIndex start
        (entries.map fun entry =>
          (entry.id, byteRange table entry.offset.toNat entry.length.toNat)) =
      entries := by
  induction entries generalizing start with
  | nil => rfl
  | cons entry rest inductionHypothesis =>
      rcases entry with ⟨id, offset, length⟩
      obtain ⟨rfl, restTiles⟩ := tiles
      have payloadLength : (byteRange table offset.toNat length.toNat).length = length.toNat :=
        length_byteRange (Nat.le_trans (le_of_tiles restTiles) inside)
      rw [List.map_cons, consecutiveIndex, payloadLength, inductionHypothesis restTiles]
      simp only [UInt32.ofNat_toNat]

/-- A table whose entries fill it behind the index is the index and the entries. -/
theorem tableBytes_payloadsOf
    {bytes : List UInt8}
    {record : DirectoryRecord}
    (inside : record.Inside bytes.length)
    (tiles :
      Tiles (10 * record.entryCount.toNat) record.length.toNat
        ((indexOf bytes record).map IndexEntry.range)) :
    tableBytes (payloadsOf bytes record) = tableOf bytes record := by
  have tableLength := length_tableOf inside
  have forward := le_of_tiles tiles
  have index :
      consecutiveIndex ((payloadsOf bytes record).length * Layout.width IndexEntry)
          (payloadsOf bytes record) =
        indexOf bytes record := by
    rw [length_payloadsOf, Nat.mul_comm]
    exact consecutiveIndex_of_tiles (Nat.le_of_eq tableLength.symm) tiles
  have entries :
      (payloadsOf bytes record).flatMap Prod.snd =
        (tableOf bytes record).drop (record.entryCount.toNat * 10) := by
    have whole := flatMap_byteRange_of_tiles (tableOf bytes record) tiles
    rw [← tableLength, byteRange_to_end, List.flatMap_map, Nat.mul_comm] at whole
    rw [payloadsOf, List.flatMap_map]
    exact whole
  have wholeIndex : record.entryCount.toNat * 10 ≤ (tableOf bytes record).length := by omega
  have indexRead := readMany_index wholeIndex
  rw [tableBytes, index, entries]
  exact (Layout.eq_append_of_readMany indexRead).2.symm

/-! ## What is stored for a kind -/

/-- The id and the bytes of a stored form, if there is one. -/
def storeForm
    (kind : ResourceKind)
    (form : UInt16 × Except ResourceError (List UInt8)) :
    Except EncodeError (UInt16 × List UInt8) := do
  let payload ← form.2.mapError (.resource kind form.1)
  return (form.1, payload)

/-- The table of a kind that has the given stored forms. -/
def storeForms
    (kind : ResourceKind)
    (forms : List (UInt16 × Except ResourceError (List UInt8))) :
    Except EncodeError StoredTable :=
  if forms.length < UInt16.size then do
    let payloads ← forms.mapM (storeForm kind)
    return ⟨kind, UInt16.ofNat forms.length, ← writeTable payloads⟩
  else
    .error (.tooManyEntries kind forms.length)

/-- The table of a kind depends on the stored forms of its resources only. -/
theorem storeKind_eq_storeForms
    (database : Database)
    (kind : ResourceKind) :
    storeKind database kind =
      if (storedForms database kind).isEmpty then
        .ok none
      else
        (storeForms kind (storedForms database kind)).map some := by
  cases kind with
  | text =>
      rw [storeKind, storedForms]
      cases database.text? with
      | none => rfl
      | some blob =>
          have one : [((0 : UInt16), blob.encode)].length < UInt16.size :=
            show 1 < UInt16.size by decide
          change (storeText blob).map some = (storeForms .text [(0, blob.encode)]).map some
          rw [storeForms, if_pos one, storeText]
          cases blob.encode with
          | error fault => rfl
          | ok payload => rfl
  | table kind =>
      rw [storeKind, storedForms, storeTable, storeForms, List.isEmpty_map, List.length_map,
        List.mapM_map]
      rfl

/-- Databases whose resources have the same stored forms are saved alike, or fail alike. -/
theorem save_congr
    {first second : Database}
    (sameForms : storedForms first = storedForms second) :
    save first = save second := by
  have sameKinds : storeKind first = storeKind second := by
    funext kind
    rw [storeKind_eq_storeForms, storeKind_eq_storeForms, sameForms]
  rw [save, save, storeTables_eq, storeTables_eq, sameKinds]

/-- Stored forms that are few enough and make a table within its offsets are that table. -/
theorem storeForms_of_payloads
    {kind : ResourceKind}
    {payloads : List (UInt16 × List UInt8)}
    (few : payloads.length < UInt16.size)
    (short : (tableBytes payloads).length < UInt32.size) :
    storeForms kind (payloads.map fun payload => (payload.1, .ok payload.2)) =
      .ok ⟨kind, UInt16.ofNat payloads.length, tableBytes payloads⟩ := by
  have written : writeTable payloads = .ok (tableBytes payloads) := by
    rcases writeTable_cases payloads with asExpected | ⟨-, tooLarge⟩
    · exact asExpected
    · exact absurd short (Nat.not_lt_of_le tooLarge)
  have collected :
      (payloads.map fun payload => (payload.1, .ok payload.2)).mapM (storeForm kind) =
        .ok payloads := by
    rw [Except.mapM_eq_ok_iff, List.map_map]
    rfl
  rw [storeForms, List.length_map, if_pos few, collected, Except.ok_bind, written]
  rfl

/-- A kind has stored forms if there is something to store for it. -/
theorem holds_iff
    {database : Database}
    {kind : ResourceKind} :
    holds database kind = true ↔ storedForms database kind ≠ [] := by
  cases kind with
  | text =>
      rw [holds, storedForms]
      cases database.text? with
      | none => simp
      | some blob => simp
  | table kind =>
      rw [holds, storedForms, ResourceTable.isEmpty]
      simp

/-! ## Archives -/

section

variable
  {database : Database}
  {bytes : List UInt8}
  {kind : ResourceKind}
  {record : DirectoryRecord}

/-- A record that has the number of a kind is about that kind. -/
theorem kind_of_kindCode (sameCode : record.kindCode = kind.code) : record.kind = kind := by
  have found := ofCode?_eq record
  rw [sameCode, ofCode?_code] at found
  split at found
  next => contradiction
  next => exact (Option.some.inj found).symm

/-- A directory whose ranges follow one another is the directory of the tables it points at. -/
theorem directoryFrom_of_tiles
    {start stop : Nat}
    (inside : stop ≤ bytes.length)
    {records : List DirectoryRecord}
    (tiles : Tiles start stop (records.map DirectoryRecord.range))
    (plain : ∀ record ∈ records, record.kindCode = record.kind.code ∧ record.reserved = 0) :
    directoryFrom start (records.map (storedTableOf bytes)) = records := by
  induction records generalizing start with
  | nil => rfl
  | cons record rest inductionHypothesis =>
      obtain ⟨⟨kindCode, reserved⟩, restPlain⟩ := List.forall_mem_cons.mp plain
      obtain ⟨rfl, restTiles⟩ := tiles
      have tableLength : (tableOf bytes record).length = record.length.toNat :=
        length_tableOf (Nat.le_trans (le_of_tiles restTiles) inside)
      have sameRecord :
          (⟨record.kind.code, 0, record.entryCount, UInt32.ofNat record.offset.toNat,
            UInt32.ofNat (tableOf bytes record).length⟩ : DirectoryRecord) = record := by
        rw [tableLength, UInt32.ofNat_toNat, UInt32.ofNat_toNat, ← kindCode, ← reserved]
      rw [List.map_cons, directoryFrom, storedTableOf]
      dsimp only
      rw [sameRecord, tableLength, inductionHypothesis restTiles restPlain]

@[simp] theorem length_directoryOf (bytes : List UInt8) :
    (directoryOf bytes).length = (headerOf bytes).tableCount.toNat := by
  rw [directoryOf, List.length_map, List.length_range]

/-- An archive whose tables fill it behind the directory is assembled from these tables. -/
theorem assemble_of_tiles
    (header :
      headerOf bytes =
        ⟨magic, version, (headerOf bytes).tableCount, UInt32.ofNat bytes.length⟩)
    (tiles :
      Tiles (12 + 12 * (headerOf bytes).tableCount.toNat) bytes.length
        ((directoryOf bytes).map DirectoryRecord.range))
    (plain :
      ∀ record ∈ directoryOf bytes,
        record.kindCode = record.kind.code ∧ record.reserved = 0)
    (short : bytes.length < UInt32.size) :
    assemble ((directoryOf bytes).map (storedTableOf bytes)) = .ok bytes := by
  have forward := le_of_tiles tiles
  rw [Nat.mul_comm] at tiles
  have directory := directoryFrom_of_tiles (Nat.le_refl _) tiles plain
  have tables :
      ((directoryOf bytes).map (storedTableOf bytes)).flatMap StoredTable.bytes =
        bytes.drop (12 + (headerOf bytes).tableCount.toNat * 12) := by
    have whole := flatMap_byteRange_of_tiles bytes tiles
    rw [byteRange_to_end, List.flatMap_map] at whole
    rw [List.flatMap_map]
    exact whole
  have count :
      tablesOffset ((directoryOf bytes).map (storedTableOf bytes)).length =
        12 + (headerOf bytes).tableCount.toNat * 12 := by
    rw [List.length_map, length_directoryOf]
    rfl
  have length :
      assembledLength ((directoryOf bytes).map (storedTableOf bytes)) = bytes.length := by
    rw [assembledLength, count, ← length_flatMap_bytes, tables, List.length_drop]
    omega
  have wholeHeader : 12 ≤ bytes.length := by omega
  have wholeDirectory : 12 + (headerOf bytes).tableCount.toNat * 12 ≤ bytes.length := by omega
  have headerRead := read_header wholeHeader
  have directoryRead := readMany_directory wholeDirectory
  have whole :
      Layout.write (headerOf bytes) ++
          (Layout.writeMany (directoryOf bytes) ++
            bytes.drop (12 + (headerOf bytes).tableCount.toNat * 12)) =
        bytes := by
    rw [← (Layout.eq_append_of_readMany directoryRead).2,
      ← LawfulLayout.eq_append_of_read headerRead]
  have fits :
      assembledLength ((directoryOf bytes).map (storedTableOf bytes)) < UInt32.size := by
    rwa [length]
  calc
    assemble ((directoryOf bytes).map (storedTableOf bytes))
        = .ok (Layout.write (⟨magic, version,
              UInt16.ofNat ((directoryOf bytes).map (storedTableOf bytes)).length,
              UInt32.ofNat (assembledLength ((directoryOf bytes).map (storedTableOf bytes)))⟩ :
                Header) ++
            Layout.writeMany (directoryFrom
              (tablesOffset ((directoryOf bytes).map (storedTableOf bytes)).length)
              ((directoryOf bytes).map (storedTableOf bytes))) ++
            ((directoryOf bytes).map (storedTableOf bytes)).flatMap StoredTable.bytes) :=
      if_pos fits
    _ = .ok bytes := by
      rw [length, count, directory, tables, List.length_map, length_directoryOf,
        UInt16.ofNat_toNat, ← header, List.append_assoc, whole]

/-- The stored forms of a kind whose table is laid out are the payloads of that table. -/
theorem LaidOutTable.storedForms_eq (laidOut : LaidOutTable database bytes kind record) :
    storedForms database kind =
      (payloadsOf bytes record).map fun payload => (payload.1, .ok payload.2) := by
  rw [← laidOut.contents, payloadsOf, List.map_map]
  rfl

/-- A table that is laid out for a kind is the one that is stored for it. -/
theorem LaidOutTable.storeKind_eq
    (laidOut : LaidOutTable database bytes kind record)
    (held : holds database kind = true)
    (inside : record.Inside bytes.length) :
    storeKind database kind = .ok (some (storedTableOf bytes record)) := by
  have forms := laidOut.storedForms_eq
  have tableBytes_eq := tableBytes_payloadsOf inside laidOut.entries
  have few : (payloadsOf bytes record).length < UInt16.size := by
    rw [length_payloadsOf]
    exact record.entryCount.toNat_lt
  have short : (tableBytes (payloadsOf bytes record)).length < UInt32.size := by
    rw [tableBytes_eq, length_tableOf inside]
    exact record.length.toNat_lt
  have someForms : ¬ (storedForms database kind).isEmpty = true := by
    rw [List.isEmpty_iff]
    exact holds_iff.mp held
  rw [storeKind_eq_storeForms, if_neg someForms, forms, storeForms_of_payloads few short,
    tableBytes_eq, length_payloadsOf, UInt16.ofNat_toNat, storedTableOf,
    kind_of_kindCode laidOut.kindCode]
  rfl

/-- Tables that are laid out for kinds are laid out for the kinds of their records. -/
theorem laidOutTable_of_forall₂
    {kinds : List ResourceKind}
    {records : List DirectoryRecord}
    (laidOut : List.Forall₂ (LaidOutTable database bytes) kinds records) :
    kinds = records.map DirectoryRecord.kind ∧
      ∀ record ∈ records, LaidOutTable database bytes record.kind record := by
  induction laidOut with
  | nil => exact ⟨rfl, List.forall_mem_nil _⟩
  | cons tableLaidOut _ inductionHypothesis =>
      obtain ⟨rfl, restLaidOut⟩ := inductionHypothesis
      have sameKind := kind_of_kindCode tableLaidOut.kindCode
      refine ⟨by rw [List.map_cons, sameKind], List.forall_mem_cons.mpr ⟨?_, restLaidOut⟩⟩
      rwa [sameKind]

/-- An archive that is laid out for a database is the one that the database is saved as. -/
theorem save_of_laidOut (laidOut : LaidOut database bytes) : save database = .ok bytes := by
  obtain ⟨kinds, eachLaidOut⟩ := laidOutTable_of_forall₂ laidOut.directory
  have eachInside := List.forall_mem_map.mp (inside_of_tiles laidOut.tables)
  have kept :
      List.Forall₂ (fun kind table => storeKind database kind = .ok (some table))
        (ResourceKind.all.filter (holds database))
        ((directoryOf bytes).map (storedTableOf bytes)) := by
    rw [kinds, List.forall₂_map_left_iff, List.forall₂_map_right_iff, List.forall₂_same]
    intro record member
    have held : record.kind ∈ ResourceKind.all.filter (holds database) :=
      kinds ▸ List.mem_map_of_mem member
    exact (eachLaidOut record member).storeKind_eq (List.mem_filter.mp held).2
      (eachInside record member)
  have dropped :
      ∀ kind ∈ ResourceKind.all, holds database kind = false →
        storeKind database kind = .ok none := by
    intro kind _ notHeld
    have noForms : storedForms database kind = [] := by
      by_contra someForms
      rw [holds_iff.mpr someForms] at notHeld
      contradiction
    rw [storeKind_eq_storeForms, noForms]
    rfl
  obtain ⟨tables?, stored, tables⟩ := Except.exists_filterMap_of_forall₂ kept dropped
  have header :
      headerOf bytes =
        ⟨magic, version, (headerOf bytes).tableCount, UInt32.ofNat bytes.length⟩ := by
    have sameMagic : (headerOf bytes).magic = magic :=
      Vector.toList_inj.mp laidOut.magic
    rw [← laidOut.length, UInt32.ofNat_toNat, ← sameMagic, version, ← laidOut.version]
  have plain :
      ∀ record ∈ directoryOf bytes,
        record.kindCode = record.kind.code ∧ record.reserved = 0 := fun record member =>
    ⟨(eachLaidOut record member).kindCode, (eachLaidOut record member).reserved⟩
  have short : bytes.length < UInt32.size := by
    rw [← laidOut.length]
    exact (headerOf bytes).length.toNat_lt
  rw [save, storeTables_eq, stored]
  change assemble (tables?.filterMap id) = _
  rw [tables]
  exact assemble_of_tiles header laidOut.tables plain short

end

end AdventureArchive.Archive
