import AdventureArchive.Archive.Codec
import AdventureArchive.Proofs.Archive.Frame
import AdventureArchive.Proofs.Archive.Loaded

namespace AdventureArchive

/-!
# What becomes of the entries

A load loses no entry, takes none twice and files none in a wrong place: each
table it comes to accounts for every entry of its index (`AccountsFor`), and the
report lists what has failed in all tables, in order and once
(`ArchiveCodec.accounts_of_load`).
-/

/-- The order of failures: by kind, and by id within a kind. -/
def ResourceFailure.Before (first second : ResourceFailure) : Prop :=
  first.kind.code < second.kind.code ∨ first.kind = second.kind ∧ first.id < second.id

namespace Archive

/-! ## The failures of contents -/

namespace TableContent

/-- A content that has a result for an id only once. -/
def DistinctIds (content : TableContent) : Prop :=
  ∀ kind, ((content.resultsFor kind).map Prod.fst).Nodup

/-- A failure is a fault among the results for its kind. -/
theorem mem_failures_iff
    {content : TableContent}
    {failure : ResourceFailure} :
    failure ∈ content.failures ↔
      ∃ kind, failure.kind = .table kind ∧
        ∃ cause, (failure.id, .error cause) ∈ content.resultsFor kind ∧
          cause.message = failure.message := by
  cases content with
  | text blob => simp [failures, resultsFor]
  | resources kind results =>
      constructor
      · intro member
        obtain ⟨⟨id, result⟩, inResults, shape⟩ := List.mem_filterMap.mp member
        cases result with
        | ok resource => contradiction
        | error cause =>
            obtain rfl := Option.some.inj shape
            refine ⟨kind, rfl, cause, ?_, rfl⟩
            rwa [resultsFor_resources]
      · rintro ⟨other, sameKind, cause, inResults, sameMessage⟩
        by_cases same : kind = other
        · subst same
          rw [resultsFor_resources] at inResults
          refine List.mem_filterMap.mpr ⟨_, inResults, ?_⟩
          rcases failure with ⟨_, id, message⟩
          obtain rfl : _ = ResourceKind.table kind := sameKind
          obtain rfl : cause.message = message := sameMessage
          rfl
        · rw [resultsFor_resources_of_ne same] at inResults
          exact absurd inResults List.not_mem_nil

/-- The failures of a content are of its kind. -/
theorem kind_of_mem_failures
    {content : TableContent}
    {failure : ResourceFailure}
    (member : failure ∈ content.failures) :
    failure.kind = content.kind := by
  obtain ⟨kind, sameKind, cause, inResults, -⟩ := mem_failures_iff.mp member
  rw [sameKind]
  by_contra different
  rw [resultsFor_eq_nil (Ne.symm different)] at inResults
  exact absurd inResults List.not_mem_nil

/-- A content with different ids has no two failures for one id. -/
theorem pairwise_failures
    {content : TableContent}
    (distinct : content.DistinctIds) :
    content.failures.Pairwise fun first second => first.id ≠ second.id := by
  cases content with
  | text blob => exact List.Pairwise.nil
  | resources kind results =>
      have nodup := distinct kind
      rw [resultsFor_resources] at nodup
      refine List.Pairwise.filterMap _ ?_ (List.pairwise_map.mp nodup)
      rintro ⟨_, result⟩ ⟨_, other⟩ different first firstShape second secondShape
      cases result with
      | ok _ => contradiction
      | error _ =>
          cases other with
          | ok _ => contradiction
          | error _ =>
              obtain rfl := Option.some.inj firstShape
              obtain rfl := Option.some.inj secondShape
              exact different

end TableContent

variable {contents : List TableContent}

/-- Contents of different kinds have a result for an id of a kind only once. -/
theorem nodup_ids_results
    (nodup : (contents.map TableContent.kind).Nodup)
    (distinct : ∀ content ∈ contents, content.DistinctIds)
    (kind : TableKind) :
    ((contents.flatMap (TableContent.resultsFor kind)).map Prod.fst).Nodup := by
  by_cases present : ∃ content ∈ contents, content.kind = .table kind
  · obtain ⟨content, member, sameKind⟩ := present
    rw [flatMap_resultsFor nodup member sameKind]
    exact distinct content member kind
  · rw [flatMap_resultsFor_eq_nil fun content member sameKind =>
      present ⟨content, member, sameKind⟩]
    exact List.nodup_nil

/-- A report lists exactly the failed ids of the tables. -/
theorem mem_failures_ofContents
    (nodup : (contents.map TableContent.kind).Nodup)
    (distinct : ∀ content ∈ contents, content.DistinctIds)
    (failure : ResourceFailure) :
    failure ∈ (ofContents contents).report.failures ↔
      ∃ kind, failure.kind = .table kind ∧
        (failure.id, failure.message) ∈
          ((ofContents contents).database.table kind).failures := by
  calc
    failure ∈ (ofContents contents).report.failures
        ↔ ∃ content ∈ contents, failure ∈ content.failures := by
      rw [ofContents, List.mem_mergeSort, List.mem_flatMap]
    _ ↔ ∃ kind, failure.kind = .table kind ∧
          ∃ cause,
            (failure.id, .error cause) ∈ contents.flatMap (TableContent.resultsFor kind) ∧
              cause.message = failure.message := by
      simp only [TableContent.mem_failures_iff, List.mem_flatMap]
      constructor
      · rintro ⟨content, member, kind, sameKind, cause, inResults, sameMessage⟩
        exact ⟨kind, sameKind, cause, ⟨content, member, inResults⟩, sameMessage⟩
      · rintro ⟨kind, sameKind, cause, ⟨content, member, inResults⟩, sameMessage⟩
        exact ⟨content, member, kind, sameKind, cause, inResults, sameMessage⟩
    _ ↔ ∃ kind, failure.kind = .table kind ∧
          (failure.id, failure.message) ∈
            ((ofContents contents).database.table kind).failures := by
      simp only [table_ofContents,
        ResourceTable.mem_failures_enter_iff (nodup_ids_results nodup distinct _)]

/-- Failures are compared by the number of their kind, then by id. -/
theorem failureLe_iff
    {first second : ResourceFailure} :
    failureLe first second = true ↔
      first.kind.code.toNat < second.kind.code.toNat ∨
        first.kind.code.toNat = second.kind.code.toNat ∧
          first.id.toNat ≤ second.id.toNat := by
  rw [failureLe, Bool.or_eq_true, Bool.and_eq_true, decide_eq_true_eq, decide_eq_true_eq,
    beq_iff_eq, UInt8.lt_iff_toNat_lt, ← UInt8.toNat_inj, UInt16.le_iff_toNat_le]

/-- Of two failures that are not about the same entry one comes before the other. -/
theorem before_of_failureLe
    {first second : ResourceFailure}
    (ordered : failureLe first second = true)
    (different : first.kind = second.kind → first.id ≠ second.id) :
    first.Before second := by
  rcases failureLe_iff.mp ordered with kindBefore | ⟨sameCode, idBefore⟩
  · exact Or.inl kindBefore
  · have sameKind : first.kind = second.kind := by
      have found := ofCode?_code first.kind
      rw [UInt8.toNat_inj.mp sameCode, ofCode?_code] at found
      exact (Option.some.inj found).symm
    exact Or.inr ⟨sameKind, UInt16.lt_of_le_of_ne idBefore (different sameKind)⟩

theorem failureLe_trans
    (first second third : ResourceFailure)
    (firstOrdered : failureLe first second = true)
    (secondOrdered : failureLe second third = true) :
    failureLe first third = true := by
  rw [failureLe_iff] at *
  omega

theorem failureLe_total (first second : ResourceFailure) :
    (failureLe first second || failureLe second first) = true := by
  rw [Bool.or_eq_true, failureLe_iff, failureLe_iff]
  omega

/-- Sorting puts failures in order. -/
theorem pairwise_mergeSort_failureLe (failures : List ResourceFailure) :
    (failures.mergeSort failureLe).Pairwise fun first second =>
      failureLe first second = true :=
  List.pairwise_mergeSort failureLe_trans failureLe_total failures

/-- A report lists failures in order and none of them twice. -/
theorem pairwise_failures_ofContents
    (nodup : (contents.map TableContent.kind).Nodup)
    (distinct : ∀ content ∈ contents, content.DistinctIds) :
    (ofContents contents).report.failures.Pairwise ResourceFailure.Before := by
  have different :
      (contents.flatMap TableContent.failures).Pairwise fun first second =>
        first.kind = second.kind → first.id ≠ second.id := by
    refine List.pairwise_flatMap.mpr ⟨?_, ?_⟩
    · intro content member
      apply (TableContent.pairwise_failures (distinct content member)).imp
      intro first second differentIds _
      exact differentIds
    · apply (List.pairwise_map.mp nodup).imp
      intro content other differentKinds first inContent second inOther sameKind
      rw [TableContent.kind_of_mem_failures inContent,
        TableContent.kind_of_mem_failures inOther] at sameKind
      exact absurd sameKind differentKinds
  have stillDifferent := (List.mergeSort_perm _ failureLe).symm.pairwise different
    fun differs sameKind => (differs sameKind.symm).symm
  exact (pairwise_mergeSort_failureLe _).imp₂ (fun _ _ => before_of_failureLe) stillDifferent

/-! ## The entries of a table -/

/-- Whether the range of an entry lies inside a table of the given length. -/
def IndexEntry.Inside (entry : IndexEntry) (tableLength : Nat) : Prop :=
  entry.offset.toNat + entry.length.toNat ≤ tableLength

/-- The bytes of an entry; its range counts from the start of the table. -/
def entryOf
    (bytes : List UInt8)
    (record : DirectoryRecord)
    (entry : IndexEntry) :
    List UInt8 :=
  byteRange bytes (record.offset.toNat + entry.offset.toNat) entry.length.toNat

/--
A table that accounts for the entries of an index.  Every id is loaded or has
failed, and not both.  It is loaded with the resource that its own bytes hold;
if they lie outside the table or hold none, it has failed for that reason.
-/
structure AccountsFor
    (registry : OpcodeRegistry)
    (bytes : List UInt8)
    (record : DirectoryRecord)
    {kind : TableKind}
    (table : ResourceTable kind.Resource) :
    Prop where
  ids :
    ∀ id, id ∈ (indexOf bytes record).map IndexEntry.id ↔
      id ∈ table.loaded.map Prod.fst ∨ id ∈ table.failures.map Prod.fst
  disjoint : ∀ id ∈ table.loaded.map Prod.fst, id ∉ table.failures.map Prod.fst
  loaded :
    ∀ id resource, (id, resource) ∈ table.loaded ↔
      ∃ entry ∈ indexOf bytes record,
        entry.id = id ∧
          entry.Inside record.length.toNat ∧
          kind.decode registry (entryOf bytes record entry) = .ok resource
  failed :
    ∀ id message, (id, message) ∈ table.failures ↔
      ∃ entry ∈ indexOf bytes record,
        entry.id = id ∧
          ∃ cause : ResourceError,
            cause.message = message ∧
              (¬ entry.Inside record.length.toNat ∧
                  cause = .entryOutOfBounds entry.offset entry.length record.length.toNat ∨
                entry.Inside record.length.toNat ∧
                  kind.decode registry (entryOf bytes record entry) = .error cause)

variable
  {registry : OpcodeRegistry}
  {bytes : List UInt8}
  {record : DirectoryRecord}
  {kind : TableKind}

/-- An entry is cut out of its table and then decoded. -/
theorem readEntry_eq
    (inside : record.Inside bytes.length)
    (entry : IndexEntry) :
    readEntry registry kind (tableOf bytes record).toArray entry =
      if record.length.toNat < entry.offset.toNat + entry.length.toNat then
        .error (.entryOutOfBounds entry.offset entry.length record.length.toNat)
      else
        kind.decode registry (entryOf bytes record entry) := by
  rw [readEntry, entryBytes, List.size_toArray, length_tableOf inside, slice_toArray]
  by_cases outside : record.length.toNat < entry.offset.toNat + entry.length.toNat
  · rw [if_pos outside, if_pos outside]
    rfl
  · rw [if_neg outside, if_neg outside, tableOf,
      byteRange_byteRange bytes (Nat.le_of_not_lt outside)]
    rfl

theorem readEntry_eq_ok_iff
    (inside : record.Inside bytes.length)
    {entry : IndexEntry}
    {resource : kind.Resource} :
    readEntry registry kind (tableOf bytes record).toArray entry = .ok resource ↔
      entry.Inside record.length.toNat ∧
        kind.decode registry (entryOf bytes record entry) = .ok resource := by
  rw [readEntry_eq inside, IndexEntry.Inside]
  split
  next outside => simp [Nat.not_le_of_lt outside]
  next entryInside => simp [Nat.le_of_not_lt entryInside]

theorem readEntry_eq_error_iff
    (inside : record.Inside bytes.length)
    {entry : IndexEntry}
    {cause : ResourceError} :
    readEntry registry kind (tableOf bytes record).toArray entry = .error cause ↔
      ¬ entry.Inside record.length.toNat ∧
          cause = .entryOutOfBounds entry.offset entry.length record.length.toNat ∨
        entry.Inside record.length.toNat ∧
          kind.decode registry (entryOf bytes record entry) = .error cause := by
  rw [readEntry_eq inside, IndexEntry.Inside]
  split
  next outside => simp [Nat.not_le_of_lt outside, eq_comm]
  next entryInside => simp [Nat.le_of_not_lt entryInside]

/-- The results of reading the entries of an index. -/
def resultsOf
    (registry : OpcodeRegistry)
    (bytes : List UInt8)
    (record : DirectoryRecord)
    (kind : TableKind) :
    List (UInt16 × Except ResourceError kind.Resource) :=
  (indexOf bytes record).map fun entry =>
    (entry.id, readEntry registry kind (tableOf bytes record).toArray entry)

@[simp] theorem ids_resultsOf
    (registry : OpcodeRegistry)
    (bytes : List UInt8)
    (record : DirectoryRecord)
    (kind : TableKind) :
    (resultsOf registry bytes record kind).map Prod.fst =
      (indexOf bytes record).map IndexEntry.id := by
  rw [resultsOf, List.map_map]
  rfl

theorem mem_resultsOf_iff
    {id : UInt16}
    {result : Except ResourceError kind.Resource} :
    (id, result) ∈ resultsOf registry bytes record kind ↔
      ∃ entry ∈ indexOf bytes record, entry.id = id ∧
        readEntry registry kind (tableOf bytes record).toArray entry = result := by
  simp only [resultsOf, List.mem_map, Prod.mk.injEq]

/-- A table that is filled with the results for different ids accounts for all of them. -/
theorem accountsFor_resultsOf
    (inside : record.Inside bytes.length)
    (nodup : ((indexOf bytes record).map IndexEntry.id).Nodup) :
    AccountsFor registry bytes record
      ((ResourceTable.empty : ResourceTable kind.Resource).enter ResourceError.message
        (resultsOf registry bytes record kind)) := by
  rw [← ids_resultsOf registry bytes record kind] at nodup
  constructor
  case ids =>
    intro id
    rw [← ids_resultsOf registry bytes record kind,
      ResourceTable.mem_ids_enter_iff nodup]
  case disjoint =>
    intro id isLoaded
    exact ResourceTable.not_mem_failures_of_mem_loaded isLoaded
  case loaded =>
    intro id resource
    simp only [ResourceTable.mem_loaded_enter_iff nodup, mem_resultsOf_iff,
      readEntry_eq_ok_iff inside]
  case failed =>
    intro id message
    simp only [ResourceTable.mem_failures_enter_iff nodup, mem_resultsOf_iff,
      readEntry_eq_error_iff inside]
    constructor
    · rintro ⟨cause, ⟨entry, member, sameId, reason⟩, sameMessage⟩
      exact ⟨entry, member, sameId, cause, sameMessage, reason⟩
    · rintro ⟨entry, member, sameId, cause, sameMessage, reason⟩
      exact ⟨cause, ⟨entry, member, sameId, reason⟩, sameMessage⟩

/-! ## The tables of a load -/

/-- What a table whose reading succeeds has for each kind. -/
theorem results_of_readTable
    (inside : record.Inside bytes.length)
    {content : TableContent}
    (accepted : readTable registry bytes.toArray record.span = .ok content) :
    content.kind = record.kind ∧
      ((indexOf bytes record).map IndexEntry.id).Nodup ∧
      ∀ kind, content.kind = .table kind →
        content.resultsFor kind = resultsOf registry bytes record kind := by
  rw [readTable_eq] at accepted
  obtain ⟨index, indexRead, accepted⟩ := Except.bind_eq_ok_iff.mp accepted
  obtain ⟨rfl, nodup⟩ := eq_of_readIndex inside indexRead
  split at accepted
  next isText =>
    obtain ⟨blob, -, rfl⟩ := Except.map_eq_ok_iff.mp accepted
    exact ⟨isText.symm, nodup, fun _ isTable => absurd isTable (by simp [TableContent.kind])⟩
  next kind isTable =>
    obtain rfl := Except.ok.inj accepted
    refine ⟨isTable.symm, nodup, ?_⟩
    intro other sameKind
    obtain rfl := ResourceKind.table.inj sameKind
    exact TableContent.resultsFor_resources _ _

/-- The contents that a load is put together from, next to the records of their tables. -/
structure ReadFrom
    (registry : OpcodeRegistry)
    (bytes : List UInt8)
    (contents : List TableContent) :
    Prop where
  kinds : contents.map TableContent.kind = (directoryOf bytes).map DirectoryRecord.kind
  nodup : (contents.map TableContent.kind).Nodup
  distinct : ∀ content ∈ contents, content.DistinctIds
  accounted :
    ∀ record ∈ directoryOf bytes,
      record.Inside bytes.length ∧
        ((indexOf bytes record).map IndexEntry.id).Nodup ∧
        ∃ content ∈ contents, content.kind = record.kind ∧
          ∀ kind, content.kind = .table kind →
            content.resultsFor kind = resultsOf registry bytes record kind

/-- A load is put together from the contents of the tables in its directory. -/
theorem exists_readFrom_of_load
    {loaded : LoadedArchive}
    (accepted : load registry bytes = .ok loaded) :
    ∃ contents, loaded = ofContents contents ∧ ReadFrom registry bytes contents := by
  rw [load_eq_mapM] at accepted
  obtain ⟨spans, directoryRead, accepted⟩ := Except.bind_eq_ok_iff.mp accepted
  obtain ⟨contents, tablesRead, rfl⟩ := Except.map_eq_ok_iff.mp accepted
  have kindsNodup := nodup_kinds_of_readDirectory directoryRead
  obtain ⟨rfl, passes⟩ := eq_of_readDirectory directoryRead
  have sameKinds := Except.map_eq_map_of_mapM tablesRead fun tableRead =>
    (readBy_of_readTable tableRead).1.symm
  have eachRead := Except.mapM_eq_ok_iff.mp tablesRead
  refine ⟨contents, rfl, ?_, ?_, ?_, ?_⟩
  · rw [← sameKinds, List.map_map]
    rfl
  · rwa [← sameKinds]
  · intro content member
    have inTables : (.ok content : Except ArchiveError TableContent) ∈ contents.map .ok :=
      List.mem_map_of_mem member
    rw [← eachRead, List.map_map] at inTables
    obtain ⟨record, inDirectory, tableRead⟩ := List.mem_map.mp inTables
    obtain ⟨sameKind, nodup, results⟩ :=
      results_of_readTable (passes record inDirectory).2 tableRead
    intro kind
    by_cases isTable : content.kind = .table kind
    · rwa [results kind isTable, ids_resultsOf]
    · rw [TableContent.resultsFor_eq_nil isTable]
      exact List.nodup_nil
  · intro record member
    have inContents :
        readTable registry bytes.toArray record.span ∈ contents.map Except.ok := by
      rw [← eachRead]
      exact List.mem_map_of_mem (List.mem_map_of_mem member)
    obtain ⟨content, contentMember, tableRead⟩ := List.mem_map.mp inContents
    obtain ⟨sameKind, nodup, results⟩ :=
      results_of_readTable (passes record member).2 tableRead.symm
    exact ⟨(passes record member).2, nodup, content, contentMember, sameKind, results⟩

/--
A load that accounts for all entries: each table in the directory does, all
others are as in an empty database, and the report lists the failed ids of all
tables in order.
-/
structure Accounts
    (registry : OpcodeRegistry)
    (bytes : List UInt8)
    (loaded : LoadedArchive) :
    Prop where
  tables :
    ∀ record ∈ directoryOf bytes, ∀ kind, record.kind = .table kind →
      AccountsFor registry bytes record (loaded.database.table kind)
  counts :
    ∀ record ∈ directoryOf bytes, ∀ kind, record.kind = .table kind →
      (loaded.database.summaryOf (.table kind)).loaded +
          (loaded.database.summaryOf (.table kind)).failed =
        record.entryCount.toNat
  untouched :
    ∀ kind, (∀ record ∈ directoryOf bytes, record.kind ≠ .table kind) →
      loaded.database.table kind = .empty
  textless :
    (∀ record ∈ directoryOf bytes, record.kind ≠ .text) → loaded.database.text? = none
  ordered : loaded.report.failures.Pairwise ResourceFailure.Before
  reported :
    ∀ failure, failure ∈ loaded.report.failures ↔
      ∃ kind, failure.kind = .table kind ∧
        (failure.id, failure.message) ∈ (loaded.database.table kind).failures

/-- No content is of a kind that the directory does not name. -/
theorem kind_ne_of_readFrom
    {contents : List TableContent}
    (readFrom : ReadFrom registry bytes contents)
    {kind : ResourceKind}
    (absent : ∀ record ∈ directoryOf bytes, record.kind ≠ kind) :
    ∀ content ∈ contents, content.kind ≠ kind := by
  intro content member sameKind
  have inKinds : content.kind ∈ contents.map TableContent.kind := List.mem_map_of_mem member
  rw [readFrom.kinds] at inKinds
  obtain ⟨record, inDirectory, recordKind⟩ := List.mem_map.mp inKinds
  exact absent record inDirectory (recordKind.trans sameKind)

/-- A table of a load is filled with the results for its record. -/
theorem table_of_readFrom
    {contents : List TableContent}
    (readFrom : ReadFrom registry bytes contents)
    (member : record ∈ directoryOf bytes)
    (isTable : record.kind = .table kind) :
    (ofContents contents).database.table kind =
      (ResourceTable.empty : ResourceTable kind.Resource).enter ResourceError.message
        (resultsOf registry bytes record kind) := by
  obtain ⟨-, -, content, contentMember, sameKind, results⟩ := readFrom.accounted record member
  rw [isTable] at sameKind
  rw [table_ofContents, flatMap_resultsFor readFrom.nodup contentMember sameKind,
    results kind sameKind]

end Archive

namespace ArchiveCodec

open Archive

/-- A load accounts for all entries. -/
theorem accounts_of_load
    {codec : ArchiveCodec}
    {bytes : List UInt8}
    {loaded : LoadedArchive}
    (accepted : codec.load bytes = .ok loaded) :
    Accounts codec.registry bytes loaded := by
  obtain ⟨contents, rfl, readFrom⟩ := exists_readFrom_of_load accepted
  constructor
  case tables =>
    intro record member kind isTable
    obtain ⟨inside, nodup, -⟩ := readFrom.accounted record member
    rw [table_of_readFrom readFrom member isTable]
    exact accountsFor_resultsOf inside nodup
  case counts =>
    intro record member kind isTable
    obtain ⟨-, nodup, -⟩ := readFrom.accounted record member
    rw [← ids_resultsOf codec.registry bytes record kind] at nodup
    change ((ofContents contents).database.table kind).loadedCount +
      ((ofContents contents).database.table kind).failedCount = _
    rw [ResourceTable.loadedCount_add_failedCount, table_of_readFrom readFrom member isTable,
      ResourceTable.size_entries_enter nodup, resultsOf, List.length_map, length_indexOf]
  case untouched =>
    intro kind absent
    rw [table_ofContents, flatMap_resultsFor_eq_nil (kind_ne_of_readFrom readFrom absent)]
    rfl
  case textless =>
    intro absent
    have noText : contents.filterMap TableContent.text? = [] := by
      rw [List.filterMap_eq_nil_iff]
      intro content member
      cases content with
      | text blob => exact absurd rfl (kind_ne_of_readFrom readFrom absent _ member)
      | resources kind results => rfl
    rw [← text?_ofContents readFrom.nodup] at noText
    exact Option.toList_eq_nil_iff.mp noText
  case ordered => exact pairwise_failures_ofContents readFrom.nodup readFrom.distinct
  case reported => exact mem_failures_ofContents readFrom.nodup readFrom.distinct

/-- Palettes of which one is cut short and one lies outside, and half a backdrop size. -/
def damagedArchive : List UInt8 := [
  0x52, 0x44, 0x41, 0x54, 1, 0, 2, 0, 83, 0, 0, 0,
  6, 0, 3, 0, 36, 0, 0, 0, 35, 0, 0, 0,
  1, 0, 1, 0, 71, 0, 0, 0, 12, 0, 0, 0,
  9, 0, 30, 0, 0, 0, 3, 0, 0, 0,
  5, 0, 30, 0, 0, 0, 200, 0, 0, 0,
  2, 0, 33, 0, 0, 0, 2, 0, 0, 0,
  1, 2, 3,
  4, 5,
  7, 0, 10, 0, 0, 0, 2, 0, 0, 0,
  64, 1]

/-- Each damaged entry fails alone. -/
theorem accounts_damagedArchive :
    ∃ loaded, standard.load damagedArchive = .ok loaded ∧
      Accounts OpcodeRegistry.standard damagedArchive loaded ∧
      loaded.database.palettes.ids = [9] ∧
      loaded.database.palettes.failures.map Prod.fst = [2, 5] ∧
      loaded.database.backdropSizes.failures.map Prod.fst = [7] := by
  obtain ⟨loaded, accepted⟩ :=
    Except.exists_of_isOk (show (standard.load damagedArchive).isOk = true by decide +kernel)
  have found :
      (standard.load damagedArchive).toOption.map (fun loaded =>
        (loaded.database.palettes.ids,
          loaded.database.palettes.failures.map Prod.fst,
          loaded.database.backdropSizes.failures.map Prod.fst)) =
        some ([9], [2, 5], [7]) := by
    decide +kernel
  rw [accepted] at found
  obtain ⟨palettes, remaining⟩ := Prod.mk.inj (Option.some.inj found)
  obtain ⟨failedPalettes, failedSizes⟩ := Prod.mk.inj remaining
  exact ⟨loaded, accepted, accounts_of_load accepted, palettes, failedPalettes, failedSizes⟩

end ArchiveCodec

end AdventureArchive
