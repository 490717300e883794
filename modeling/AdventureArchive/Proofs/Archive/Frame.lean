import Mathlib.Tactic.SplitIfs
import AdventureArchive.Archive.Load
import AdventureArchive.Proofs.Bytes.Position
import AdventureArchive.Proofs.Fallible
import AdventureArchive.Proofs.SortedMap

namespace AdventureArchive.Archive

/-!
# What stands where in an archive

The header of an archive, the records of its directory and the index of each
table are found at fixed positions.  As long as the archive does not end before
them, this is where a load takes them from, and what it checks is said about
these values (`readHeader_eq`, `readDirectory_eq`, `readIndex_eq`).  A directory
and an index that pass are the ones found there (`eq_of_readDirectory`,
`eq_of_readIndex`).  Behind the directory all tables are read (`load_eq_mapM`).
-/

instance : Inhabited Header := ⟨⟨magic, version, 0, 0⟩⟩

instance : Inhabited DirectoryRecord := ⟨⟨0, 0, 0, 0, 0⟩⟩

instance : Inhabited IndexEntry := ⟨⟨0, 0, 0⟩⟩

/-- The kind a record is about, if its number is the number of a kind. -/
def DirectoryRecord.kind (record : DirectoryRecord) : ResourceKind :=
  ResourceKind.all.getD record.kindCode.toNat .text

/-- The header at the start of an archive. -/
def headerOf (bytes : List UInt8) : Header :=
  Layout.valueAt Header bytes 0

/-- The records of the directory, one after the other behind the header. -/
def directoryOf (bytes : List UInt8) : List DirectoryRecord :=
  (List.range (headerOf bytes).tableCount.toNat).map fun index =>
    Layout.valueAt DirectoryRecord bytes (12 + index * 12)

/-- The bytes of the table that a record is about. -/
def tableOf (bytes : List UInt8) (record : DirectoryRecord) : List UInt8 :=
  byteRange bytes record.offset.toNat record.length.toNat

/-- The entries of an index, one after the other at the start of a table. -/
def indexOf (bytes : List UInt8) (record : DirectoryRecord) : List IndexEntry :=
  (List.range record.entryCount.toNat).map fun slot =>
    Layout.valueAt IndexEntry (tableOf bytes record) (slot * 10)

/-- The span of a table as its record gives it. -/
def DirectoryRecord.span (record : DirectoryRecord) : TableSpan :=
  ⟨record.kind, record.entryCount, record.offset, record.length⟩

/-- Whether the table of a record lies inside an archive of the given length. -/
def DirectoryRecord.Inside (record : DirectoryRecord) (archiveLength : Nat) : Prop :=
  record.offset.toNat + record.length.toNat ≤ archiveLength

/-- The kinds of an archive are numbered from zero to nine. -/
theorem ofCode?_eq (record : DirectoryRecord) :
    ResourceKind.ofCode? record.kindCode =
      if 9 < record.kindCode then none else some record.kind := by
  have allCodes :
      ∀ code < 256,
        ResourceKind.ofCode? (UInt8.ofNat code) =
          if 9 < UInt8.ofNat code then
            none
          else
            some (ResourceKind.all.getD (UInt8.ofNat code).toNat .text) := by
    decide +kernel
  have thisCode := allCodes record.kindCode.toNat record.kindCode.toNat_lt
  rwa [UInt8.ofNat_toNat] at thisCode

/-- A kind has the number by which a record names it. -/
theorem code_kind
    {record : DirectoryRecord}
    (known : ¬ 9 < record.kindCode) :
    record.kind.code = record.kindCode := by
  have found := ofCode?_eq record
  rw [if_neg known, ResourceKind.ofCode?] at found
  have sameCode := List.find?_some found
  exact eq_of_beq sameCode

/-- Cutting out bytes is taking a range of them. -/
theorem slice_toArray
    (bytes : List UInt8)
    (start length : Nat) :
    slice bytes.toArray start length = (byteRange bytes start length).toArray := by
  rw [slice, List.extract_toArray, List.extract_eq_take_drop, Nat.add_sub_cancel_left, byteRange]

theorem length_tableOf
    {bytes : List UInt8}
    {record : DirectoryRecord}
    (inside : record.Inside bytes.length) :
    (tableOf bytes record).length = record.length.toNat :=
  length_byteRange inside

@[simp] theorem length_indexOf
    (bytes : List UInt8)
    (record : DirectoryRecord) :
    (indexOf bytes record).length = record.entryCount.toNat := by
  rw [indexOf, List.length_map, List.length_range]

/-- Reading an archive starts with the header. -/
theorem read_header
    {bytes : List UInt8}
    (enough : 12 ≤ bytes.length) :
    Layout.read bytes = some (headerOf bytes, bytes.drop 12) := by
  have inside : 0 + Layout.width Header ≤ bytes.length := enough
  exact Layout.read_drop inside

/-- Behind the header the directory is read. -/
theorem readMany_directory
    {bytes : List UInt8}
    (enough : 12 + (headerOf bytes).tableCount.toNat * 12 ≤ bytes.length) :
    Layout.readMany (headerOf bytes).tableCount.toNat (bytes.drop 12) =
      some (directoryOf bytes, bytes.drop (12 + (headerOf bytes).tableCount.toNat * 12)) :=
  Layout.readMany_drop (α := DirectoryRecord) enough

/-- At the start of a table its index is read. -/
theorem readMany_index
    {bytes : List UInt8}
    {record : DirectoryRecord}
    (enough : record.entryCount.toNat * 10 ≤ (tableOf bytes record).length) :
    Layout.readMany record.entryCount.toNat (tableOf bytes record) =
      some (indexOf bytes record, (tableOf bytes record).drop (record.entryCount.toNat * 10)) :=
  Layout.readMany_start (α := IndexEntry) enough

/-! ## The header -/

/-- The checks of the header one after the other. -/
theorem readHeader_eq (bytes : List UInt8) :
    readHeader bytes =
      if bytes.length < 12 then
        .error (.truncatedHeader bytes.length)
      else if (headerOf bytes).magic ≠ magic then
        .error .badMagic
      else if (headerOf bytes).version ≠ version then
        .error (.unsupportedVersion (headerOf bytes).version)
      else if (headerOf bytes).length.toNat ≠ bytes.length then
        .error (.lengthMismatch (headerOf bytes).length bytes.length)
      else
        .ok ((headerOf bytes).tableCount, bytes.drop 12) := by
  unfold readHeader
  by_cases short : bytes.length < 12
  · rw [if_pos short, LawfulLayout.read_eq_none_iff.mpr short]
  · rw [if_neg short, read_header (Nat.le_of_not_lt short)]

/-- A header that passes leads on to the directory. -/
theorem eq_of_readHeader
    {bytes : List UInt8}
    {behind : UInt16 × List UInt8}
    (accepted : readHeader bytes = .ok behind) :
    12 ≤ bytes.length ∧ behind = ((headerOf bytes).tableCount, bytes.drop 12) := by
  rw [readHeader_eq] at accepted
  split_ifs at accepted with short
  exact ⟨Nat.le_of_not_lt short, (Except.ok.inj accepted).symm⟩

/-! ## The directory -/

/-- The checks of the next record, given the records before it. -/
theorem checkRecords_cons
    {archiveLength : Nat}
    {earlier : List DirectoryRecord}
    (known : ∀ record ∈ earlier, ¬ 9 < record.kindCode)
    (record : DirectoryRecord)
    (rest : List DirectoryRecord) :
    checkRecords archiveLength earlier.length (earlier.map DirectoryRecord.span).reverse
        (record :: rest) =
      if 9 < record.kindCode then
        .error (.unknownTableKind earlier.length record.kindCode)
      else if record.kindCode ∈ earlier.map DirectoryRecord.kindCode then
        .error (.duplicateTable record.kind)
      else if archiveLength < record.offset.toNat + record.length.toNat then
        .error (.tableOutOfBounds record.kind record.offset record.length)
      else
        checkRecords archiveLength (earlier ++ [record]).length
          ((earlier ++ [record]).map DirectoryRecord.span).reverse rest := by
  rw [checkRecords, ofCode?_eq]
  by_cases unknown : 9 < record.kindCode
  · rw [if_pos unknown, if_pos unknown]
  · rw [if_neg unknown, if_neg unknown]
    -- Known kinds are the same exactly if their numbers are.
    have sameKind :
        ((earlier.map DirectoryRecord.span).reverse.any fun span =>
            span.kind == record.kind) = true ↔
          record.kindCode ∈ earlier.map DirectoryRecord.kindCode := by
      rw [List.any_reverse, List.any_map, List.any_eq_true, List.mem_map]
      refine exists_congr fun other => and_congr_right fun member => ?_
      constructor
      · intro same
        rw [← code_kind (known other member), ← code_kind unknown]
        exact congrArg ResourceKind.code (eq_of_beq same)
      · intro same
        exact beq_iff_eq.mpr
          (congrArg (fun code => ResourceKind.all.getD (UInt8.toNat code) .text) same)
    simp only [sameKind, List.map_append, List.map_cons, List.map_nil, List.reverse_append,
      List.reverse_cons, List.reverse_nil, List.nil_append, List.singleton_append,
      List.length_append, List.length_cons, List.length_nil]
    rfl

/-- Records that pass are of known kinds, and their tables lie inside the archive. -/
theorem eq_of_checkRecords
    {archiveLength : Nat}
    {earlier records : List DirectoryRecord}
    {spans : List TableSpan}
    (known : ∀ record ∈ earlier, ¬ 9 < record.kindCode)
    (accepted :
      checkRecords archiveLength earlier.length
        (earlier.map DirectoryRecord.span).reverse records = .ok spans) :
    spans = (earlier ++ records).map DirectoryRecord.span ∧
      ∀ record ∈ records, ¬ 9 < record.kindCode ∧ record.Inside archiveLength := by
  induction records generalizing earlier with
  | nil =>
      rw [checkRecords, List.reverse_reverse] at accepted
      rw [List.append_nil]
      exact ⟨(Except.ok.inj accepted).symm, fun _ member => absurd member List.not_mem_nil⟩
  | cons record rest inductionHypothesis =>
      rw [checkRecords_cons known] at accepted
      split_ifs at accepted with isKnown _ outside
      obtain ⟨rfl, restPasses⟩ := inductionHypothesis
        (List.forall_mem_append.mpr ⟨known, List.forall_mem_singleton.mpr isKnown⟩) accepted
      rw [List.append_assoc, List.singleton_append]
      exact ⟨rfl, List.forall_mem_cons.mpr
        ⟨⟨isKnown, Nat.le_of_not_lt outside⟩, restPasses⟩⟩

/-- Behind the header the length of the directory is checked, then its records. -/
theorem readDirectory_eq (bytes : List UInt8) :
    readDirectory bytes =
      readHeader bytes >>= fun _ =>
        if bytes.length < 12 + 12 * (headerOf bytes).tableCount.toNat then
          .error (.truncatedDirectory (headerOf bytes).tableCount)
        else
          checkRecords bytes.length 0 [] (directoryOf bytes) := by
  unfold readDirectory
  match headerRead : readHeader bytes with
  | .error fault => rfl
  | .ok behind =>
      obtain ⟨enough, rfl⟩ := eq_of_readHeader headerRead
      rw [Except.ok_bind, Except.ok_bind]
      dsimp only
      by_cases short : bytes.length < 12 + 12 * (headerOf bytes).tableCount.toNat
      · have cut : (bytes.drop 12).length < (headerOf bytes).tableCount.toNat * 12 := by
          rw [List.length_drop]
          omega
        rw [if_pos short, Layout.readMany_eq_none_iff.mpr cut]
        rfl
      · rw [if_neg short, readMany_directory (by omega)]

/-- A directory that passes names tables of known kinds inside the archive. -/
theorem eq_of_readDirectory
    {bytes : List UInt8}
    {spans : List TableSpan}
    (accepted : readDirectory bytes = .ok spans) :
    spans = (directoryOf bytes).map DirectoryRecord.span ∧
      ∀ record ∈ directoryOf bytes, ¬ 9 < record.kindCode ∧ record.Inside bytes.length := by
  rw [readDirectory_eq] at accepted
  obtain ⟨-, -, accepted⟩ := Except.bind_eq_ok_iff.mp accepted
  split_ifs at accepted
  exact eq_of_checkRecords (List.forall_mem_nil _) accepted

/-! ## The tables -/

/-- A table whose record has passed is cut out whole, and its index is checked first. -/
theorem readIndex_eq
    {bytes : List UInt8}
    {record : DirectoryRecord}
    (inside : record.Inside bytes.length) :
    readIndex record.span (tableOf bytes record) =
      if record.length.toNat < 10 * record.entryCount.toNat then
        .error (.truncatedIndex record.kind record.entryCount)
      else
        match firstRepeated? .empty ((indexOf bytes record).map IndexEntry.id) with
        | some id => .error (.duplicateEntry record.kind id)
        | none => .ok (indexOf bytes record) := by
  have tableLength := length_tableOf inside
  unfold readIndex
  by_cases short : record.length.toNat < 10 * record.entryCount.toNat
  · have cut : (tableOf bytes record).length < record.entryCount.toNat * 10 := by omega
    have unread :
        Layout.readMany (α := IndexEntry) record.span.entryCount.toNat
          (tableOf bytes record) = none :=
      Layout.readMany_eq_none_iff.mpr cut
    rw [if_pos short, unread]
    rfl
  · have wholeIndex :
        Layout.readMany record.span.entryCount.toNat (tableOf bytes record) =
          some (indexOf bytes record, _) :=
      readMany_index (by omega)
    rw [if_neg short, wholeIndex]
    rfl

/-- Ids among which none is found to be repeated are different. -/
theorem nodup_of_firstRepeated?
    {seen : SortedMap UInt16 Unit}
    {ids : List UInt16}
    (noneRepeated : firstRepeated? seen ids = none) :
    ids.Nodup ∧ ∀ id ∈ ids, id ∉ seen.keys := by
  induction ids generalizing seen with
  | nil => exact ⟨List.nodup_nil, fun _ member => absurd member List.not_mem_nil⟩
  | cons id rest inductionHypothesis =>
      rw [firstRepeated?] at noneRepeated
      split at noneRepeated
      next => contradiction
      next isNew =>
        obtain ⟨restNodup, restNew⟩ := inductionHypothesis noneRepeated
        refine ⟨List.nodup_cons.mpr ⟨?_, restNodup⟩, List.forall_mem_cons.mpr ⟨?_, ?_⟩⟩
        · intro inRest
          exact restNew id inRest (SortedMap.mem_keys_insert_iff.mpr (Or.inl rfl))
        · exact fun held => isNew (SortedMap.contains_iff.mpr held)
        · intro other inRest held
          exact restNew other inRest (SortedMap.mem_keys_insert_iff.mpr (Or.inr held))

/-- An index that passes is the one in the table, and it has no id twice. -/
theorem eq_of_readIndex
    {bytes : List UInt8}
    {record : DirectoryRecord}
    (inside : record.Inside bytes.length)
    {index : List IndexEntry}
    (accepted : readIndex record.span (tableOf bytes record) = .ok index) :
    index = indexOf bytes record ∧ (index.map IndexEntry.id).Nodup := by
  rw [readIndex_eq inside] at accepted
  split_ifs at accepted
  split at accepted
  next => contradiction
  next noneRepeated =>
    obtain rfl := Except.ok.inj accepted
    exact ⟨rfl, (nodup_of_firstRepeated? noneRepeated).1⟩

/-- Reading a table is reading its index and then what its kind asks for. -/
theorem readTable_eq
    (registry : OpcodeRegistry)
    (bytes : List UInt8)
    (record : DirectoryRecord) :
    readTable registry bytes.toArray record.span =
      readIndex record.span (tableOf bytes record) >>= fun index =>
        match record.kind with
        | .text =>
            ((readText (tableOf bytes record).toArray index).mapError .malformedText).map
              TableContent.text
        | .table kind =>
            .ok (.resources kind (index.map fun entry =>
              (entry.id, readEntry registry kind (tableOf bytes record).toArray entry))) := by
  have table :
      slice bytes.toArray record.span.offset.toNat record.span.length.toNat =
        (tableOf bytes record).toArray :=
    slice_toArray bytes _ _
  simp only [readTable, table]
  rfl

/-- A table is about the text exactly if its number is zero. -/
theorem kind_eq_text_iff
    {record : DirectoryRecord}
    (known : ¬ 9 < record.kindCode) :
    record.kind = .text ↔ record.kindCode = 0 := by
  constructor
  · intro isText
    rw [← code_kind known, isText]
    rfl
  · intro isZero
    rw [DirectoryRecord.kind, isZero]
    rfl

/-! ## The load -/

/-- Reading all tables fails where reading them up to the first fault ends with one. -/
theorem mapM_readTable
    (registry : OpcodeRegistry)
    (archive : Array UInt8)
    (spans : List TableSpan) :
    spans.mapM (readTable registry archive) =
      match readTables registry archive spans with
      | (contents, none) => .ok contents
      | (_, some fault) => .error fault := by
  induction spans with
  | nil => rfl
  | cons span rest inductionHypothesis =>
      rw [List.mapM_cons, readTables, inductionHypothesis]
      cases readTable registry archive span with
      | error fault => rfl
      | ok content =>
          match readTables registry archive rest with
          | (_, none) => rfl
          | (_, some _) => rfl

/-- A load reads the directory and then all tables. -/
theorem load_eq_mapM
    (registry : OpcodeRegistry)
    (bytes : List UInt8) :
    load registry bytes =
      readDirectory bytes >>= fun spans =>
        (spans.mapM (readTable registry bytes.toArray)).map ofContents := by
  unfold load
  refine congrArg (readDirectory bytes >>= ·) (funext fun spans => ?_)
  rw [mapM_readTable]
  match readTables registry bytes.toArray spans with
  | (_, none) => rfl
  | (_, some _) => rfl

end AdventureArchive.Archive
