import Mathlib.Tactic.MkIffOfInductiveProp
import AdventureArchive.Proofs.Archive.Accounting
import AdventureArchive.Proofs.Archive.Restored
import AdventureArchive.Proofs.Program.Canonical

namespace AdventureArchive

/-!
# Canonical archives

An archive that is loaded without failures is saved as the same bytes if nothing
in it could be arranged in another way (`ArchiveCodec.save_of_canonical`): kinds
and ids ascend, tables and entries follow one another, and nothing stands
between them.  What an entry holds is of no concern, because each decoder keeps
all of it (`TableKind.encode_of_canonical`); only the strings of a program have
an order of their own.
-/

/-- Whether nothing in a stored resource could stand in another order. -/
def TableKind.CanonicalEntry : TableKind → List UInt8 → Prop
  | .program => fun bytes =>
      (Program.stringRecords bytes).Pairwise fun first second => first.id < second.id
  | _ => fun _ => True

instance : (kind : TableKind) → DecidablePred kind.CanonicalEntry
  | .program => fun _ => inferInstanceAs (Decidable (List.Pairwise _ _))
  | .backdropSize => fun _ => inferInstanceAs (Decidable True)
  | .image _ => fun _ => inferInstanceAs (Decidable True)
  | .palette => fun _ => inferInstanceAs (Decidable True)
  | .roomInfo => fun _ => inferInstanceAs (Decidable True)
  | .sequence => fun _ => inferInstanceAs (Decidable True)
  | .sound => fun _ => inferInstanceAs (Decidable True)

/-- A resource is written as the bytes it has been read from. -/
theorem TableKind.encode_of_canonical
    {kind : TableKind}
    {registry : OpcodeRegistry}
    {bytes : List UInt8}
    {resource : kind.Resource}
    (accepted : kind.decode registry bytes = .ok resource)
    (canonical : kind.CanonicalEntry bytes) :
    kind.encode resource = .ok bytes := by
  cases kind with
  | backdropSize => exact congrArg Except.ok (write_of_decodeRecord accepted)
  | program =>
      have programRead := Except.mapError_eq_ok_iff.mp accepted
      exact Except.mapError_eq_ok_iff.mpr (Program.encode_of_ascending programRead canonical)
  | image kind =>
      have imageRead := Except.mapError_eq_ok_iff.mp accepted
      exact Except.mapError_eq_ok_iff.mpr (Image.encode_of_decode imageRead).1
  | palette => exact Palette.encode_of_decode accepted
  | roomInfo => exact congrArg Except.ok (write_of_decodeRecord accepted)
  | sequence => exact Sequence.encode_of_decode accepted
  | sound => exact (Sound.encode_of_decode accepted).2

namespace Archive

/-- Whether nothing in the entries of a table could stand in another order. -/
def CanonicalEntries
    (bytes : List UInt8)
    (record : DirectoryRecord) : ResourceKind → Prop
  | .text => ∀ entry ∈ indexOf bytes record, entry.id = 0
  | .table kind => ∀ entry ∈ indexOf bytes record, kind.CanonicalEntry (entryOf bytes record entry)

/--
Tables that could not be arranged in another way: there is an entry, the ids
ascend and the entries fill the table behind the index.
-/
@[mk_iff] structure CanonicalTable (bytes : List UInt8) (record : DirectoryRecord) : Prop where
  reserved : record.reserved = 0
  entryCount : 1 ≤ record.entryCount.toNat
  ascending : (indexOf bytes record).Pairwise fun first second => first.id < second.id
  ranges :
    Tiles (10 * record.entryCount.toNat) record.length.toNat
      ((indexOf bytes record).map IndexEntry.range)
  entries : CanonicalEntries bytes record record.kind

/--
Archives that could not be arranged in another way: the kinds in the directory
ascend and their tables fill the archive behind it.
-/
structure Canonical (bytes : List UInt8) : Prop where
  ascending :
    (directoryOf bytes).Pairwise fun first second => first.kindCode < second.kindCode
  ranges :
    Tiles (12 + 12 * (headerOf bytes).tableCount.toNat) bytes.length
      ((directoryOf bytes).map DirectoryRecord.range)
  tables : ∀ record ∈ directoryOf bytes, CanonicalTable bytes record

instance (start stop : Nat) : (ranges : List (Nat × Nat)) → Decidable (Tiles start stop ranges)
  | [] => inferInstanceAs (Decidable (start = stop))
  | (_, length) :: rest =>
      have := instDecidableTiles (start + length) stop rest
      inferInstanceAs (Decidable (_ ∧ _))

instance (bytes : List UInt8) (record : DirectoryRecord) :
    (kind : ResourceKind) → Decidable (CanonicalEntries bytes record kind)
  | .text => inferInstanceAs (Decidable (∀ entry ∈ indexOf bytes record, _))
  | .table _ => inferInstanceAs (Decidable (∀ entry ∈ indexOf bytes record, _))

instance (bytes : List UInt8) : DecidablePred (CanonicalTable bytes) := fun _ =>
  decidable_of_iff' _ (canonicalTable_iff _ _)

variable
  {registry : OpcodeRegistry}
  {bytes : List UInt8}
  {record : DirectoryRecord}
  {contents : List TableContent}

/-! ## Texts -/

/-- A text that has been read is written as the bytes of the only entry of its table. -/
theorem encode_of_readText
    {table : List UInt8}
    {index : List IndexEntry}
    {blob : TextBlob}
    (accepted : readText table.toArray index = .ok blob) :
    ∃ entry, index = [entry] ∧
      blob.encode = .ok (byteRange table entry.offset.toNat entry.length.toNat) := by
  unfold readText at accepted
  split at accepted
  next entry =>
    obtain ⟨payload, cutOut, decoded⟩ :=
      Except.bind_eq_ok_iff.mp (Except.mapError_eq_ok_iff.mp accepted)
    unfold entryBytes at cutOut
    split at cutOut
    next => contradiction
    next =>
      rw [slice_toArray] at cutOut
      obtain rfl := Except.ok.inj cutOut
      exact ⟨entry, rfl, TextBlob.encode_of_decode decoded⟩
  next => contradiction

/-- A text table whose reading succeeds has the text as its only entry. -/
theorem text_of_readTable
    (inside : record.Inside bytes.length)
    (isText : record.kind = .text)
    {content : TableContent}
    (accepted : readTable registry bytes.toArray record.span = .ok content) :
    ∃ entry blob, content = .text blob ∧ indexOf bytes record = [entry] ∧
      blob.encode =
        .ok (byteRange (tableOf bytes record) entry.offset.toNat entry.length.toNat) := by
  rw [readTable_eq] at accepted
  obtain ⟨index, indexRead, accepted⟩ := Except.bind_eq_ok_iff.mp accepted
  obtain ⟨rfl, -⟩ := eq_of_readIndex inside indexRead
  rw [isText] at accepted
  obtain ⟨blob, textRead, rfl⟩ := Except.map_eq_ok_iff.mp accepted
  obtain ⟨entry, onlyEntry, encoded⟩ :=
    encode_of_readText (Except.mapError_eq_ok_iff.mp textRead)
  exact ⟨entry, blob, rfl, onlyEntry, encoded⟩

/-- The text of a load is the only entry of its text table. -/
theorem text_of_load
    {loaded : LoadedArchive}
    (accepted : load registry bytes = .ok loaded)
    (member : record ∈ directoryOf bytes)
    (isText : record.kind = .text) :
    ∃ entry blob, loaded.database.text? = some blob ∧ indexOf bytes record = [entry] ∧
      blob.encode =
        .ok (byteRange (tableOf bytes record) entry.offset.toNat entry.length.toNat) := by
  rw [load_eq_mapM] at accepted
  obtain ⟨spans, directoryRead, accepted⟩ := Except.bind_eq_ok_iff.mp accepted
  obtain ⟨contents, tablesRead, rfl⟩ := Except.map_eq_ok_iff.mp accepted
  have kindsNodup := nodup_kinds_of_readDirectory directoryRead
  obtain ⟨rfl, passes⟩ := eq_of_readDirectory directoryRead
  have sameKinds := Except.map_eq_map_of_mapM tablesRead fun tableRead =>
    (readBy_of_readTable tableRead).1.symm
  rw [sameKinds] at kindsNodup
  have inContents :
      readTable registry bytes.toArray record.span ∈ contents.map Except.ok := by
    rw [← Except.mapM_eq_ok_iff.mp tablesRead]
    exact List.mem_map_of_mem (List.mem_map_of_mem member)
  obtain ⟨content, contentMember, tableRead⟩ := List.mem_map.mp inContents
  obtain ⟨entry, blob, rfl, onlyEntry, encoded⟩ :=
    text_of_readTable (passes record member).2 isText tableRead.symm
  have isOnlyText : blob ∈ contents.filterMap TableContent.text? :=
    List.mem_filterMap.mpr ⟨_, contentMember, rfl⟩
  rw [← text?_ofContents kindsNodup] at isOnlyText
  exact ⟨entry, blob, Option.mem_toList.mp isOnlyText, onlyEntry, encoded⟩

/-! ## Tables -/

/-- Entries that are all read and that are canonical are stored as they are. -/
theorem storedForms_resultsOf
    {kind : TableKind}
    (inside : record.Inside bytes.length)
    (ascending : (indexOf bytes record).Pairwise fun first second => first.id < second.id)
    (readable :
      ∀ entry ∈ indexOf bytes record, ∃ resource : kind.Resource,
        readEntry registry kind (tableOf bytes record).toArray entry = .ok resource)
    (canonical :
      ∀ entry ∈ indexOf bytes record, kind.CanonicalEntry (entryOf bytes record entry)) :
    (((ResourceTable.empty : ResourceTable kind.Resource).enter ResourceError.message
        (resultsOf registry bytes record kind)).loaded.map fun entry =>
          (entry.1, kind.encode entry.2)) =
      (payloadsOf bytes record).map fun payload => (payload.1, .ok payload.2) := by
  have ascendingResults :
      (resultsOf registry bytes record kind).Pairwise fun first second =>
        rank first.1 < rank second.1 :=
    List.pairwise_map.mpr (ascending.imp UInt16.lt_iff_toNat_lt.mp)
  rw [ResourceTable.loaded_enter_of_ascending ascendingResults, List.map_filterMap, resultsOf,
    List.filterMap_map, payloadsOf, List.map_map, ← List.filterMap_eq_map]
  apply List.filterMap_congr
  intro entry member
  obtain ⟨resource, entryRead⟩ := readable entry member
  obtain ⟨entryInside, decoded⟩ := (readEntry_eq_ok_iff inside).mp entryRead
  have payload :
      byteRange (tableOf bytes record) entry.offset.toNat entry.length.toNat =
        entryOf bytes record entry :=
    byteRange_byteRange bytes entryInside
  have encoded := TableKind.encode_of_canonical decoded (canonical entry member)
  simp only [Function.comp_apply, entryRead, payload, ← encoded]
  rfl

/-- If nothing has failed, every entry of a table has been read. -/
theorem exists_readEntry_of_failures
    (readFrom : ReadFrom registry bytes contents)
    (noFailures : (ofContents contents).report.failures = [])
    (member : record ∈ directoryOf bytes)
    {kind : TableKind}
    (isTable : record.kind = .table kind)
    {entry : IndexEntry}
    (inIndex : entry ∈ indexOf bytes record) :
    ∃ resource : kind.Resource,
      readEntry registry kind (tableOf bytes record).toArray entry = .ok resource := by
  match result : readEntry registry kind (tableOf bytes record).toArray entry with
  | .ok resource => exact ⟨resource, rfl⟩
  | .error cause =>
      obtain ⟨-, nodup, -⟩ := readFrom.accounted record member
      rw [← ids_resultsOf registry bytes record kind] at nodup
      have inFailures :
          (entry.id, cause.message) ∈
            ((ofContents contents).database.table kind).failures := by
        rw [table_of_readFrom readFrom member isTable,
          ResourceTable.mem_failures_enter_iff nodup]
        exact ⟨cause, mem_resultsOf_iff.mpr ⟨entry, inIndex, rfl, result⟩, rfl⟩
      have reported :
          (⟨.table kind, entry.id, cause.message⟩ : ResourceFailure) ∈
            (ofContents contents).report.failures :=
        (mem_failures_ofContents readFrom.nodup readFrom.distinct _).mpr
          ⟨kind, rfl, inFailures⟩
      rw [noFailures] at reported
      exact absurd reported List.not_mem_nil

/-- A canonical table of a load without failures is laid out for the loaded database. -/
theorem laidOutTable_of_canonical
    {loaded : LoadedArchive}
    (accepted : load registry bytes = .ok loaded)
    (noFailures : loaded.report.failures = [])
    (member : record ∈ directoryOf bytes)
    (known : ¬ 9 < record.kindCode)
    (canonical : CanonicalTable bytes record) :
    LaidOutTable loaded.database bytes record.kind record := by
  have forms :
      storedForms loaded.database record.kind =
        (payloadsOf bytes record).map fun payload => (payload.1, .ok payload.2) := by
    have entries := canonical.entries
    match sameKind : record.kind with
    | .text =>
        obtain ⟨entry, blob, found, onlyEntry, encoded⟩ :=
          text_of_load accepted member sameKind
        rw [sameKind, CanonicalEntries, onlyEntry, List.forall_mem_singleton] at entries
        rw [storedForms, found, payloadsOf, onlyEntry, Option.map_some, Option.toList_some,
          encoded, List.map_singleton, List.map_singleton, entries]
    | .table kind =>
        obtain ⟨contents, rfl, readFrom⟩ := exists_readFrom_of_load accepted
        obtain ⟨inside, -⟩ := readFrom.accounted record member
        rw [sameKind] at entries
        rw [storedForms, table_of_readFrom readFrom member sameKind]
        exact storedForms_resultsOf inside canonical.ascending
          (fun _ => exists_readEntry_of_failures readFrom noFailures member sameKind) entries
  constructor
  case kindCode => exact (code_kind known).symm
  case reserved => exact canonical.reserved
  case entryCount => rw [forms, List.length_map, length_payloadsOf]
  case ascending => exact canonical.ascending
  case contents =>
    rw [forms, payloadsOf, List.map_map]
    rfl
  case entries => exact canonical.ranges

/-- Nothing is loaded for a kind that the directory does not name. -/
theorem holds_eq_false_of_load
    {loaded : LoadedArchive}
    (accepted : load registry bytes = .ok loaded)
    {kind : ResourceKind}
    (absent : ∀ record ∈ directoryOf bytes, record.kind ≠ kind) :
    holds loaded.database kind = false := by
  obtain ⟨contents, rfl, readFrom⟩ := exists_readFrom_of_load accepted
  have noContent := kind_ne_of_readFrom readFrom absent
  cases kind with
  | text =>
      have noText : contents.filterMap TableContent.text? = [] := by
        rw [List.filterMap_eq_nil_iff]
        intro content member
        cases content with
        | text blob => exact absurd rfl (noContent _ member)
        | resources kind results => rfl
      rw [← text?_ofContents readFrom.nodup, Option.toList_eq_nil_iff] at noText
      rw [holds, noText, Option.isSome_none]
  | table kind =>
      rw [holds, table_ofContents, flatMap_resultsFor_eq_nil noContent]
      rfl

/-! ## Archives -/

/-- Ascending kinds are found among all kinds in their order. -/
theorem eq_filter_of_ascending
    {kinds : List ResourceKind}
    (ascending : kinds.Pairwise fun first second => first.code < second.code)
    {keep : ResourceKind → Bool}
    (kept : ∀ kind, kind ∈ kinds ↔ keep kind = true) :
    kinds = ResourceKind.all.filter keep := by
  have asymmetric : Std.Asymm fun first second : ResourceKind => first.code < second.code :=
    ⟨fun _ _ => UInt8.lt_asymm⟩
  apply ascending.eq_of_mem_iff (ascending_kindCodes.filter keep)
  intro kind
  rw [List.mem_filter, kept, and_iff_right kind.mem_all]

/-- A canonical archive that is loaded without failures is laid out for the loaded database. -/
theorem laidOut_of_canonical
    {loaded : LoadedArchive}
    (accepted : load registry bytes = .ok loaded)
    (noFailures : loaded.report.failures = [])
    (canonical : Canonical bytes) :
    LaidOut loaded.database bytes := by
  obtain ⟨spans, directoryRead, -⟩ := Except.bind_eq_ok_iff.mp accepted
  obtain ⟨-, passes⟩ := eq_of_readDirectory directoryRead
  obtain ⟨behind, headerRead, -⟩ := Except.bind_eq_ok_iff.mp directoryRead
  rw [readHeader_eq] at headerRead
  split_ifs at headerRead with _ badMagic otherVersion otherLength
  have eachLaidOut :
      ∀ record ∈ directoryOf bytes,
        LaidOutTable loaded.database bytes record.kind record := fun record member =>
    laidOutTable_of_canonical accepted noFailures member (passes record member).1
      (canonical.tables record member)
  have ascendingKinds :
      ((directoryOf bytes).map DirectoryRecord.kind).Pairwise fun first second =>
        first.code < second.code := by
    rw [List.pairwise_map]
    refine canonical.ascending.imp_of_mem ?_
    intro first second inFirst inSecond before
    rwa [code_kind (passes first inFirst).1, code_kind (passes second inSecond).1]
  have kinds :
      (directoryOf bytes).map DirectoryRecord.kind =
        ResourceKind.all.filter (holds loaded.database) := by
    refine eq_filter_of_ascending ascendingKinds fun kind => ?_
    rw [List.mem_map]
    constructor
    · rintro ⟨record, member, rfl⟩
      have someEntry := (canonical.tables record member).entryCount
      rw [(eachLaidOut record member).entryCount] at someEntry
      exact holds_iff.mpr (List.ne_nil_of_length_pos someEntry)
    · intro held
      by_contra absent
      rw [holds_eq_false_of_load accepted fun record member sameKind =>
        absent ⟨record, member, sameKind⟩] at held
      contradiction
  constructor
  case magic =>
    rw [not_not.mp badMagic]
    rfl
  case version => exact not_not.mp otherVersion
  case tableCount => rw [← kinds, List.length_map, length_directoryOf]
  case length => exact not_not.mp otherLength
  case ascending => exact canonical.ascending
  case directory =>
    rw [← kinds, List.forall₂_map_left_iff, List.forall₂_same]
    exact eachLaidOut
  case tables => exact canonical.ranges

end Archive

namespace ArchiveCodec

open Archive

/-- A canonical archive that is loaded without failures is saved as the same bytes. -/
theorem save_of_canonical
    {codec : ArchiveCodec}
    {bytes : List UInt8}
    {loaded : LoadedArchive}
    (accepted : codec.load bytes = .ok loaded)
    (noFailures : loaded.report.failures = [])
    (canonical : Canonical bytes) :
    codec.save loaded.database = .ok bytes :=
  save_of_laidOut (laidOut_of_canonical accepted noFailures canonical)

/--
A text that is shorter than it declares, a program with the strings 3 and 7, and
a sound with half a sample too many.
-/
def orderedArchive : List UInt8 :=
  [0x52, 0x44, 0x41, 0x54, 1, 0, 3, 0, 133, 0, 0, 0] ++
    [0, 0, 1, 0, 48, 0, 0, 0, 16, 0, 0, 0] ++
    [2, 0, 1, 0, 64, 0, 0, 0, 46, 0, 0, 0] ++
    [9, 0, 1, 0, 110, 0, 0, 0, 23, 0, 0, 0] ++
    [0, 0, 10, 0, 0, 0, 6, 0, 0, 0] ++ [5, 0, 0, 0, 0x6f, 0x6b] ++
    [4, 0, 10, 0, 0, 0, 36, 0, 0, 0] ++ [1, 0, 0, 0, 0x01] ++ List.replicate 18 0 ++
    [2, 0] ++ [3, 0, 1, 0, 0xE9] ++ [7, 0, 2, 0, 0x48, 0x69] ++
    [1, 0, 10, 0, 0, 0, 13, 0, 0, 0] ++ [0x11, 0x2B, 0, 0, 16, 1, 3, 0, 0, 0] ++ [1, 2, 3]

/-- The ordered archive is loaded without failures and saved as it is. -/
theorem save_orderedArchive :
    ∃ loaded, standard.load orderedArchive = .ok loaded ∧
      loaded.report.failures = [] ∧
      loaded.report.warnings = [⟨5, 2⟩] ∧
      standard.save loaded.database = .ok orderedArchive := by
  have canonical : Canonical orderedArchive := {
    ascending := by decide +kernel
    ranges := by decide +kernel
    tables := by decide +kernel
  }
  have report :
      (standard.load orderedArchive).toOption.map LoadedArchive.report =
        some ⟨[], [⟨5, 2⟩]⟩ := by
    decide +kernel
  obtain ⟨loaded, accepted⟩ :=
    Except.exists_of_isOk (show (standard.load orderedArchive).isOk = true by decide +kernel)
  rw [accepted] at report
  obtain ⟨noFailures, warnings⟩ := LoadReport.mk.inj (Option.some.inj report)
  exact ⟨loaded, accepted, noFailures, warnings,
    save_of_canonical accepted noFailures canonical⟩

end ArchiveCodec

end AdventureArchive
