import AdventureArchive.Proofs.Archive.Canonical
import AdventureArchive.Proofs.Archive.Faults

namespace AdventureArchive.Archive

/-!
# What a load is determined by

Each table of a loaded database comes from the bytes of one table of the archive
and from the decoder of its kind (`table_eq_of_loads`), the text comes from the
bytes of the text table (`text?_eq_of_loads`), and the report says nothing that
the database does not (`filter_failures_eq_of_loads`, `eq_of_loads`).  So two
loads are compared table by table.  Whether there is a load at all is a matter of
the frame (`exists_load_iff`).
-/

variable
  {registry otherRegistry : OpcodeRegistry}
  {bytes other : List UInt8}
  {loaded otherLoaded : LoadedArchive}
  {record : DirectoryRecord}
  {kind : TableKind}

/-! ## Tables -/

/-- A loaded table holds the results for the record that names it. -/
theorem table_of_load
    (accepted : load registry bytes = .ok loaded)
    (member : record ∈ directoryOf bytes)
    (isTable : record.kind = .table kind) :
    loaded.database.table kind =
      (ResourceTable.empty : ResourceTable kind.Resource).enter ResourceError.message
        (resultsOf registry bytes record kind) := by
  obtain ⟨contents, rfl, readFrom⟩ := exists_readFrom_of_load accepted
  exact table_of_readFrom readFrom member isTable

/-- A table that no record names is not touched. -/
theorem table_of_load_of_absent
    (accepted : load registry bytes = .ok loaded)
    (absent : ∀ record ∈ directoryOf bytes, record.kind ≠ .table kind) :
    loaded.database.table kind = .empty := by
  obtain ⟨contents, rfl, readFrom⟩ := exists_readFrom_of_load accepted
  rw [table_ofContents, flatMap_resultsFor_eq_nil (kind_ne_of_readFrom readFrom absent)]
  rfl

/-- A loaded table accounts for the entries of its index. -/
theorem accountsFor_of_load
    (accepted : load registry bytes = .ok loaded)
    (member : record ∈ directoryOf bytes)
    (isTable : record.kind = .table kind) :
    AccountsFor registry bytes record (loaded.database.table kind) := by
  obtain ⟨contents, rfl, readFrom⟩ := exists_readFrom_of_load accepted
  obtain ⟨inside, nodup, -⟩ := readFrom.accounted record member
  rw [table_of_readFrom readFrom member isTable]
  exact accountsFor_resultsOf inside nodup

/-- Either a record names the table of a kind or none does. -/
theorem named_or_absent (bytes : List UInt8) (kind : ResourceKind) :
    (∃ record ∈ directoryOf bytes, record.kind = kind) ∨
      ∀ record ∈ directoryOf bytes, record.kind ≠ kind := by
  by_cases named : ∃ record ∈ directoryOf bytes, record.kind = kind
  · exact Or.inl named
  · exact Or.inr fun record member sameKind => named ⟨record, member, sameKind⟩

/-- No text is loaded if no record names a text table. -/
theorem text?_of_load_of_absent
    (accepted : load registry bytes = .ok loaded)
    (absent : ∀ record ∈ directoryOf bytes, record.kind ≠ .text) :
    loaded.database.text? = none :=
  Option.isNone_iff_eq_none.mp
    (Option.isSome_eq_false_iff.mp (holds_eq_false_of_load accepted absent))

/-! ## Archives with the same tables -/

/-- Archives whose directories name the same tables, in whatever order, with the same bytes. -/
structure SameTables (bytes other : List UInt8) : Prop where
  records : ∀ record, record ∈ directoryOf other ↔ record ∈ directoryOf bytes
  tables : ∀ record ∈ directoryOf bytes, tableOf other record = tableOf bytes record

/-- What no record of one names is not named by the other. -/
theorem SameTables.absent
    (same : SameTables bytes other)
    {kind : ResourceKind}
    (absent : ∀ record ∈ directoryOf bytes, record.kind ≠ kind) :
    ∀ record ∈ directoryOf other, record.kind ≠ kind :=
  fun record member => absent record ((same.records record).mp member)

/-- Every archive has its own tables. -/
theorem SameTables.refl (bytes : List UInt8) : SameTables bytes bytes where
  records _ := Iff.rfl
  tables _ _ := rfl

/-- An index is part of its table. -/
theorem indexOf_eq_of_tableOf (sameTable : tableOf other record = tableOf bytes record) :
    indexOf other record = indexOf bytes record := by
  rw [indexOf, indexOf, sameTable]

/-- What the entries of a table come to depends on its bytes and the decoder of its kind. -/
theorem resultsOf_eq_of_tableOf
    (sameTable : tableOf other record = tableOf bytes record)
    (sameDecoder : kind.decode otherRegistry = kind.decode registry) :
    resultsOf otherRegistry other record kind = resultsOf registry bytes record kind := by
  simp only [resultsOf, indexOf_eq_of_tableOf sameTable, sameTable, readEntry, sameDecoder]

/-- Loads that decode a kind alike have loaded the same table of it. -/
theorem table_eq_of_loads
    (accepted : load registry bytes = .ok loaded)
    (otherAccepted : load otherRegistry other = .ok otherLoaded)
    (same : SameTables bytes other)
    (sameDecoder : kind.decode otherRegistry = kind.decode registry) :
    otherLoaded.database.table kind = loaded.database.table kind := by
  rcases named_or_absent bytes (.table kind) with ⟨record, member, isTable⟩ | absent
  · have otherMember := (same.records record).mpr member
    rw [table_of_load accepted member isTable,
      table_of_load otherAccepted otherMember isTable,
      resultsOf_eq_of_tableOf (same.tables record member) sameDecoder]
  · rw [table_of_load_of_absent accepted absent,
      table_of_load_of_absent otherAccepted (same.absent absent)]

/-- All loads have loaded the same text. -/
theorem text?_eq_of_loads
    (accepted : load registry bytes = .ok loaded)
    (otherAccepted : load otherRegistry other = .ok otherLoaded)
    (same : SameTables bytes other) :
    otherLoaded.database.text? = loaded.database.text? := by
  rcases named_or_absent bytes .text with ⟨record, member, isText⟩ | absent
  · have sameTable := same.tables record member
    have otherMember := (same.records record).mpr member
    obtain ⟨entry, blob, found, onlyEntry, encoded⟩ := text_of_load accepted member isText
    obtain ⟨otherEntry, otherBlob, otherFound, otherOnlyEntry, otherEncoded⟩ :=
      text_of_load otherAccepted otherMember isText
    rw [indexOf_eq_of_tableOf sameTable, onlyEntry] at otherOnlyEntry
    obtain rfl : entry = otherEntry := List.singleton_inj.mp otherOnlyEntry
    rw [sameTable] at otherEncoded
    have decoded := TextBlob.decode_of_encode encoded
    rw [TextBlob.decode_of_encode otherEncoded] at decoded
    rw [found, otherFound, Except.ok.inj decoded]
  · rw [text?_of_load_of_absent accepted absent,
      text?_of_load_of_absent otherAccepted (same.absent absent)]

/-! ## Reports -/

/-- Two failures do not come before each other. -/
theorem not_before_of_before
    {first second : ResourceFailure}
    (before : first.Before second) :
    ¬ second.Before first := by
  rcases before with kindBefore | ⟨sameKind, idBefore⟩
  · rintro (kindAfter | ⟨sameKind, -⟩)
    · exact UInt8.lt_asymm kindBefore kindAfter
    · exact UInt8.lt_irrefl _ (sameKind ▸ kindBefore)
  · rintro (kindAfter | ⟨-, idAfter⟩)
    · exact UInt8.lt_irrefl _ (sameKind ▸ kindAfter)
    · exact UInt16.lt_asymm idBefore idAfter

/-- Lists of failures in order are the same if they have the same failures. -/
theorem eq_of_pairwise_before
    {failures others : List ResourceFailure}
    (ordered : failures.Pairwise ResourceFailure.Before)
    (othersOrdered : others.Pairwise ResourceFailure.Before)
    (sameFailures : ∀ failure, failure ∈ failures ↔ failure ∈ others) :
    failures = others := by
  have asymmetric : Std.Asymm ResourceFailure.Before := ⟨fun _ _ => not_before_of_before⟩
  exact ordered.eq_of_mem_iff othersOrdered sameFailures

/-- The failures of a load are in order. -/
theorem pairwise_failures_of_load (accepted : load registry bytes = .ok loaded) :
    loaded.report.failures.Pairwise ResourceFailure.Before := by
  obtain ⟨contents, rfl, readFrom⟩ := exists_readFrom_of_load accepted
  exact pairwise_failures_ofContents readFrom.nodup readFrom.distinct

/-- The failures of a load are the failed ids of its tables. -/
theorem mem_failures_of_load
    (accepted : load registry bytes = .ok loaded)
    {failure : ResourceFailure} :
    failure ∈ loaded.report.failures ↔
      ∃ kind, failure.kind = .table kind ∧
        (failure.id, failure.message) ∈ (loaded.database.table kind).failures := by
  obtain ⟨contents, rfl, readFrom⟩ := exists_readFrom_of_load accepted
  exact mem_failures_ofContents readFrom.nodup readFrom.distinct failure

/-- What a report says about some kinds follows from the tables of these kinds. -/
theorem filter_failures_eq_of_loads
    (accepted : load registry bytes = .ok loaded)
    (otherAccepted : load otherRegistry other = .ok otherLoaded)
    (keep : ResourceKind → Bool)
    (sameTables :
      ∀ kind, keep (.table kind) = true →
        otherLoaded.database.table kind = loaded.database.table kind) :
    (otherLoaded.report.failures.filter fun failure => keep failure.kind) =
      loaded.report.failures.filter fun failure => keep failure.kind := by
  apply eq_of_pairwise_before
  · exact (pairwise_failures_of_load otherAccepted).filter _
  · exact (pairwise_failures_of_load accepted).filter _
  · intro failure
    rw [List.mem_filter, List.mem_filter, and_congr_left_iff]
    intro kept
    rw [mem_failures_of_load accepted, mem_failures_of_load otherAccepted]
    refine exists_congr fun kind => and_congr_right fun isTable => ?_
    rw [sameTables kind (isTable ▸ kept)]

/-- Loads of the same text and the same tables are the same, reports included. -/
theorem eq_of_loads
    (accepted : load registry bytes = .ok loaded)
    (otherAccepted : load otherRegistry other = .ok otherLoaded)
    (sameText : otherLoaded.database.text? = loaded.database.text?)
    (sameTables :
      ∀ kind, otherLoaded.database.table kind = loaded.database.table kind) :
    otherLoaded = loaded := by
  have failures :=
    filter_failures_eq_of_loads accepted otherAccepted (fun _ => true)
      fun kind _ => sameTables kind
  rw [List.filter_true, List.filter_true] at failures
  have warnings : otherLoaded.report.warnings = loaded.report.warnings := by
    rw [warnings_of_load accepted, warnings_of_load otherAccepted, sameText]
  have database := Database.ext_table sameText sameTables
  rcases loaded with ⟨_, _, _⟩
  rcases otherLoaded with ⟨_, _, _⟩
  obtain rfl := database
  obtain rfl := failures
  obtain rfl := warnings
  rfl

/-! ## Success -/

/-- There is a load exactly if there is nothing wrong with the frame. -/
theorem exists_load_iff
    (registry : OpcodeRegistry)
    (bytes : List UInt8) :
    (∃ loaded, load registry bytes = .ok loaded) ↔ (frameOf bytes).faults = [] :=
  (reportsFirst_load registry bytes).exists_ok_iff

end AdventureArchive.Archive
