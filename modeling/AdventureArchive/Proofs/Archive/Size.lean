import AdventureArchive.Proofs.Archive.Loaded
import AdventureArchive.Proofs.Archive.Saved

namespace AdventureArchive

/-!
# The size of saved databases

`archiveLength` is the length of the archive a database is saved as
(`length_of_save`).  A database whose text and resources all have a stored form
is saved unless that length reaches the limit of the offsets (`save_cases`).
-/

/-- Databases whose text and resources have stored forms, few enough for an index each. -/
structure Database.Encodable (database : Database) : Prop where
  text : ∀ blob, database.text? = some blob → ∃ payload, blob.encode = .ok payload
  resources :
    ∀ kind, ∀ entry ∈ (database.table kind).loaded,
      ∃ payload, kind.encode entry.2 = .ok payload
  counts : ∀ kind, (database.table kind).loaded.length < UInt16.size

/-- What has been read from bytes can be written. -/
theorem Database.ReadBy.encodable
    {database : Database}
    {registry : OpcodeRegistry}
    (readBy : database.ReadBy registry) :
    database.Encodable := by
  constructor
  case text =>
    intro blob textShape
    obtain ⟨bytes, decoded⟩ := readBy.text blob textShape
    exact ⟨bytes, TextBlob.encode_of_decode decoded⟩
  case resources =>
    intro kind entry member
    obtain ⟨bytes, decoded⟩ := readBy.resources kind entry member
    exact (TableKind.encode_of_decode decoded).2.2
  case counts => exact readBy.counts

namespace Archive

/-- The space an entry takes: its place in the index and its stored form, if it has one. -/
def entryLength : Except ResourceError (List UInt8) → Nat
  | .ok payload => Layout.width IndexEntry + payload.length
  | .error _ => Layout.width IndexEntry

/-- The length of the table of a kind, if it is stored. -/
def tableLength? (database : Database) : ResourceKind → Option Nat
  | .text => database.text?.map fun blob => entryLength blob.encode
  | .table kind =>
      if (database.table kind).loaded.isEmpty then
        none
      else
        some (totalSize (fun entry => entryLength (kind.encode entry.2))
          (database.table kind).loaded)

/-- The length of the archive that holds a database. -/
def archiveLength (database : Database) : Nat :=
  let lengths := ResourceKind.all.filterMap (tableLength? database)
  tablesOffset lengths.length + totalSize id lengths

/-- The size of changed items is the size after the change. -/
theorem totalSize_map
    {α β : Type}
    (size : β → Nat)
    (change : α → β)
    (items : List α) :
    totalSize size (items.map change) = totalSize (fun item => size (change item)) items :=
  List.foldr_map

/-- The length of a table is what its entries take together. -/
theorem length_tableBytes_eq_totalSize (payloads : List (UInt16 × List UInt8)) :
    (tableBytes payloads).length =
      totalSize (fun payload => entryLength (.ok payload.2)) payloads := by
  rw [length_tableBytes]
  induction payloads with
  | nil => rfl
  | cons payload rest inductionHypothesis =>
      rw [totalSize_cons, ← inductionHypothesis, List.flatMap_cons,
        List.length_append, List.length_cons, Nat.succ_mul, entryLength]
      omega

/-- The length of a table of stored forms. -/
theorem length_tableBytes_of_storedForms
    {kind : TableKind}
    {resources : List (UInt16 × kind.Resource)}
    {payloads : List (UInt16 × List UInt8)}
    (forms : StoredForms resources payloads) :
    (tableBytes payloads).length =
      totalSize (fun entry => entryLength (kind.encode entry.2)) resources := by
  have lengths := congrArg (totalSize fun pair => entryLength pair.2) forms
  rw [totalSize_map, totalSize_map] at lengths
  rw [length_tableBytes_eq_totalSize, lengths]

/-- A stored table has the length of its kind. -/
theorem length_of_storeKind
    {database : Database}
    {kind : ResourceKind}
    {table? : Option StoredTable}
    (stored : storeKind database kind = .ok table?) :
    (table?.map fun table => table.bytes.length) = tableLength? database kind := by
  cases storedAs_of_storeKind stored with
  | noText absent =>
      rw [tableLength?, absent]
      rfl
  | text present encoded =>
      rw [tableLength?, present, Option.map_some, Option.map_some,
        length_tableBytes_eq_totalSize, encoded]
      rfl
  | noResources absent =>
      rw [tableLength?, if_pos absent]
      rfl
  | resources present forms few =>
      rw [tableLength?, if_neg present, Option.map_some,
        length_tableBytes_of_storedForms forms]

/-- An archive is as long as its tables say. -/
theorem archiveLength_of_storeTables
    {database : Database}
    {tables : List StoredTable}
    (stored : storeTables database = .ok tables) :
    assembledLength tables = archiveLength database := by
  rw [storeTables_eq] at stored
  obtain ⟨tables?, kindsStored, rfl⟩ := Except.map_eq_ok_iff.mp stored
  have sameLengths :
      ResourceKind.all.map (tableLength? database) =
        tables?.map (Option.map fun table => table.bytes.length) :=
    Except.map_eq_map_of_mapM kindsStored fun kindStored =>
      (length_of_storeKind kindStored).symm
  have lengthsShape :
      ResourceKind.all.filterMap (tableLength? database) =
        (tables?.filterMap id).map fun table => table.bytes.length := by
    have filtered := congrArg (List.filterMap id) sameLengths
    rw [List.filterMap_map, List.filterMap_map] at filtered
    rw [List.map_filterMap]
    exact filtered
  simp only [archiveLength, lengthsShape, assembledLength, List.length_map, totalSize_map]
  rfl

/-- Every text and every resource of a saved database has a stored form. -/
theorem encodable_of_save
    {database : Database}
    {bytes : List UInt8}
    (saved : save database = .ok bytes) :
    database.Encodable := by
  obtain ⟨tables, stored, -⟩ := Except.bind_eq_ok_iff.mp saved
  rw [storeTables_eq] at stored
  obtain ⟨tables?, kindsStored, -⟩ := Except.map_eq_ok_iff.mp stored
  have storedAs (kind : ResourceKind) : ∃ table?, StoredAs database kind table? := by
    obtain ⟨table?, kindStored⟩ := Except.exists_of_mapM kindsStored kind.mem_all
    exact ⟨table?, storedAs_of_storeKind kindStored⟩
  constructor
  case text =>
    intro blob textShape
    obtain ⟨table?, textStored⟩ := storedAs .text
    cases textStored with
    | noText absent =>
        rw [absent] at textShape
        contradiction
    | text present encoded =>
        obtain rfl := Option.some.inj (present.symm.trans textShape)
        exact ⟨_, encoded⟩
  case resources =>
    intro kind entry member
    obtain ⟨table?, tableStored⟩ := storedAs (.table kind)
    cases tableStored with
    | noResources absent =>
        rw [List.isEmpty_iff.mp absent] at member
        exact absurd member List.not_mem_nil
    | resources present forms few =>
        have inForms := forms ▸ List.mem_map_of_mem member
        obtain ⟨payload, -, same⟩ := List.mem_map.mp inForms
        exact ⟨payload.2, (Prod.mk.inj same).2.symm⟩
  case counts =>
    intro kind
    obtain ⟨table?, tableStored⟩ := storedAs (.table kind)
    cases tableStored with
    | noResources absent =>
        rw [List.isEmpty_iff.mp absent, List.length_nil]
        decide
    | resources present forms few => exact few

/-- A saved archive has the length that its database calls for. -/
theorem length_of_save
    {database : Database}
    {bytes : List UInt8}
    (saved : save database = .ok bytes) :
    bytes.length = archiveLength database := by
  obtain ⟨tables, stored, assembled⟩ := Except.bind_eq_ok_iff.mp saved
  rw [length_of_assemble assembled, archiveLength_of_storeTables stored]

/-- No table is longer than the archive it is part of. -/
theorem tableLength_le_archiveLength
    {database : Database}
    (kind : ResourceKind)
    {length : Nat}
    (lengthShape : tableLength? database kind = some length) :
    length ≤ archiveLength database := by
  have member : length ∈ ResourceKind.all.filterMap (tableLength? database) :=
    List.mem_filterMap.mpr ⟨kind, kind.mem_all, lengthShape⟩
  obtain ⟨before, behind, lengths⟩ := List.append_of_mem member
  simp only [archiveLength, lengths, totalSize_append, totalSize_cons, id]
  omega

/-- Stored forms that are few enough make a table, unless it outgrows its offsets. -/
theorem storeResources_cases
    {kind : TableKind}
    {resources : List (UInt16 × kind.Resource)}
    (few : resources.length < UInt16.size)
    (encodable : ∀ entry ∈ resources, ∃ payload, kind.encode entry.2 = .ok payload) :
    (∃ table, storeResources kind resources = .ok table) ∨
      storeResources kind resources = .error .tooLarge ∧
        UInt32.size ≤
          totalSize (fun entry => entryLength (kind.encode entry.2)) resources := by
  have encodedEach :
      ∀ entry ∈ resources, ∃ payload, encodeEntry kind entry = .ok payload := by
    intro entry member
    obtain ⟨payload, encoded⟩ := encodable entry member
    exact ⟨(entry.1, payload), by rw [encodeEntry, encoded]; rfl⟩
  obtain ⟨payloads, encoded⟩ := Except.exists_mapM_eq_ok encodedEach
  rw [storeResources_eq, if_pos few, encoded,
    ← length_tableBytes_of_storedForms (storedForms_of_mapM encoded)]
  rcases writeTable_cases payloads with written | ⟨tooLarge, length⟩
  · left
    exact ⟨_, by rw [Except.bind, written]; rfl⟩
  · right
    exact ⟨by rw [Except.bind, tooLarge]; rfl, length⟩

/-- The table of a kind is stored unless it outgrows its offsets. -/
theorem storeKind_cases
    {database : Database}
    (encodable : database.Encodable)
    (kind : ResourceKind) :
    (∃ table?, storeKind database kind = .ok table?) ∨
      storeKind database kind = .error .tooLarge ∧
        UInt32.size ≤ archiveLength database := by
  cases kind with
  | text =>
      simp only [storeKind]
      split
      next blob textShape =>
        obtain ⟨payload, encoded⟩ := encodable.text blob textShape
        rcases writeTable_cases [(0, payload)] with written | ⟨tooLarge, length⟩
        · left
          exact ⟨_, by rw [storeText, encoded, Except.mapError, Except.ok_bind, written]; rfl⟩
        · right
          rw [storeText, encoded, Except.mapError, Except.ok_bind, tooLarge]
          refine ⟨rfl, Nat.le_trans length ?_⟩
          apply tableLength_le_archiveLength .text
          rw [tableLength?, textShape, Option.map_some, encoded, length_tableBytes_eq_totalSize]
          rfl
      next => exact Or.inl ⟨none, rfl⟩
  | table kind =>
      simp only [storeKind, storeTable]
      split
      next => exact Or.inl ⟨none, rfl⟩
      next notEmpty =>
        rcases storeResources_cases (encodable.counts kind) (encodable.resources kind) with
          ⟨table, stored⟩ | ⟨tooLarge, length⟩
        · exact Or.inl ⟨some table, by rw [stored]; rfl⟩
        · right
          refine ⟨by rw [tooLarge]; rfl, Nat.le_trans length ?_⟩
          apply tableLength_le_archiveLength (.table kind)
          exact if_neg notEmpty

/-- A database of stored forms is saved unless its archive outgrows the offsets. -/
theorem save_cases
    {database : Database}
    (encodable : database.Encodable) :
    (∃ bytes, save database = .ok bytes) ∨
      save database = .error .tooLarge ∧ UInt32.size ≤ archiveLength database := by
  rcases Except.mapM_cases fun (kind : ResourceKind) (_ : kind ∈ ResourceKind.all) =>
      storeKind_cases encodable kind with ⟨tables?, kindsStored⟩ | ⟨tooLarge, length⟩
  · have stored : storeTables database = .ok (tables?.filterMap id) := by
      rw [storeTables_eq, kindsStored]
      rfl
    rw [save, stored, Except.ok_bind, ← archiveLength_of_storeTables stored]
    exact assemble_cases _
  · right
    refine ⟨?_, length⟩
    rw [save, storeTables_eq, tooLarge]
    rfl

end Archive

end AdventureArchive
