import AdventureArchive.Proofs.Archive.Contents
import AdventureArchive.Proofs.Archive.Directory

namespace AdventureArchive

/-!
# Saved databases

A saved database is always loaded again, and what the load comes to is known
kind by kind: each resource has become what its stored form is read as
(`load_of_save`).
-/

/-- What a resource becomes when it is stored and read again. -/
def TableKind.reread
    (registry : OpcodeRegistry)
    (kind : TableKind)
    (resource : kind.Resource) :
    Except ResourceError kind.Resource :=
  (kind.encode resource).bind (kind.decode registry)

namespace Archive

/-- What the table of a kind becomes; kinds without a resource are not stored. -/
def storedContent?
    (registry : OpcodeRegistry)
    (database : Database) :
    ResourceKind → Option TableContent
  | .text => database.text?.map .text
  | .table kind =>
      if (database.table kind).loaded.isEmpty then
        none
      else
        some (.resources kind ((database.table kind).loaded.map fun entry =>
          (entry.1, kind.reread registry entry.2)))

/-- What the tables of a database become when it is saved and loaded again. -/
def storedContents (registry : OpcodeRegistry) (database : Database) : List TableContent :=
  ResourceKind.all.filterMap (storedContent? registry database)

theorem kind_of_storedContent?
    {registry : OpcodeRegistry}
    {database : Database}
    {kind : ResourceKind}
    {content : TableContent}
    (stored : storedContent? registry database kind = some content) :
    content.kind = kind := by
  cases kind with
  | text =>
      obtain ⟨blob, -, rfl⟩ := Option.map_eq_some_iff.mp stored
      rfl
  | table kind =>
      simp only [storedContent?] at stored
      split at stored
      next => contradiction
      next =>
        obtain rfl := Option.some.inj stored
        rfl

/-- The kinds of the stored tables are listed in the order of the kinds. -/
theorem kinds_sublist
    (registry : OpcodeRegistry)
    (database : Database) :
    ((storedContents registry database).map TableContent.kind).Sublist ResourceKind.all := by
  rw [storedContents]
  induction ResourceKind.all with
  | nil => exact List.Sublist.refl []
  | cons kind rest inductionHypothesis =>
      cases stored : storedContent? registry database kind with
      | none =>
          rw [List.filterMap_cons_none stored]
          exact inductionHypothesis.cons kind
      | some content =>
          rw [List.filterMap_cons_some stored, List.map_cons, kind_of_storedContent? stored]
          exact inductionHypothesis.cons_cons kind

/-- No two stored tables are of one kind. -/
theorem nodup_storedContents
    (registry : OpcodeRegistry)
    (database : Database) :
    ((storedContents registry database).map TableContent.kind).Nodup :=
  (kinds_sublist registry database).nodup (by decide)

/-! ## Stored tables -/

/-- Tables that are read as the given content wherever they lie in an archive. -/
structure ReadAs
    (registry : OpcodeRegistry)
    (table : StoredTable)
    (content : TableContent) : Prop where
  kind : table.kind = content.kind
  read :
    table.bytes.length < UInt32.size →
      ∀ {archive span}, SpanOf archive span table →
        readTable registry archive span = .ok content

/-- Payloads that are the stored forms of resources, id by id. -/
def StoredForms
    {kind : TableKind}
    (resources : List (UInt16 × kind.Resource))
    (payloads : List (UInt16 × List UInt8)) : Prop :=
  resources.map (fun entry => (entry.1, kind.encode entry.2)) =
    payloads.map fun payload => (payload.1, .ok payload.2)

/-- A table that has been written has the bytes of its entries. -/
theorem eq_tableBytes
    {payloads : List (UInt16 × List UInt8)}
    {bytes : List UInt8}
    (written : writeTable payloads = .ok bytes) :
    bytes = tableBytes payloads := by
  rcases writeTable_cases payloads with asExpected | ⟨tooLarge, -⟩
  · exact Except.ok.inj (written.symm.trans asExpected)
  · exact absurd (written.symm.trans tooLarge) (by simp)

/-- The id and the stored form of an entry. -/
def encodeEntry
    (kind : TableKind)
    (entry : UInt16 × kind.Resource) :
    Except EncodeError (UInt16 × List UInt8) := do
  let payload ← (kind.encode entry.2).mapError (.resource (.table kind) entry.1)
  return (entry.1, payload)

/-- Tables of resources are written from their entries, unless there are too many. -/
theorem storeResources_eq
    (kind : TableKind)
    (resources : List (UInt16 × kind.Resource)) :
    storeResources kind resources =
      if resources.length < UInt16.size then
        (resources.mapM (encodeEntry kind)).bind fun payloads =>
          (writeTable payloads).map fun bytes =>
            ⟨.table kind, UInt16.ofNat resources.length, bytes⟩
      else
        .error (.tooManyEntries (.table kind) resources.length) :=
  rfl

theorem storedForms_of_mapM
    {kind : TableKind}
    {resources : List (UInt16 × kind.Resource)}
    {payloads : List (UInt16 × List UInt8)}
    (encoded : resources.mapM (encodeEntry kind) = .ok payloads) :
    StoredForms resources payloads := by
  apply Except.map_eq_map_of_mapM encoded
  intro entry payload entryEncoded
  obtain ⟨bytes, resourceEncoded, entryEncoded⟩ := Except.bind_eq_ok_iff.mp entryEncoded
  obtain rfl := Except.ok.inj entryEncoded
  rw [Except.mapError_eq_ok_iff.mp resourceEncoded]

/-- A stored table of resources has the stored form of each of them. -/
theorem eq_of_storeResources
    {kind : TableKind}
    {resources : List (UInt16 × kind.Resource)}
    {table : StoredTable}
    (stored : storeResources kind resources = .ok table) :
    ∃ payloads,
      StoredForms resources payloads ∧
        resources.length < UInt16.size ∧
        table = ⟨.table kind, UInt16.ofNat resources.length, tableBytes payloads⟩ := by
  rw [storeResources_eq] at stored
  split at stored
  next fits =>
    obtain ⟨payloads, encoded, stored⟩ := Except.bind_eq_ok_iff.mp stored
    obtain ⟨bytes, written, rfl⟩ := Except.map_eq_ok_iff.mp stored
    obtain rfl := eq_tableBytes written
    exact ⟨payloads, storedForms_of_mapM encoded, fits, rfl⟩
  next => contradiction

/-- A stored table of resources is read as what each of them becomes. -/
theorem readAs_resources
    (registry : OpcodeRegistry)
    {kind : TableKind}
    {resources : List (UInt16 × kind.Resource)}
    {payloads : List (UInt16 × List UInt8)}
    (forms : StoredForms resources payloads)
    (few : resources.length < UInt16.size)
    (nodup : (resources.map Prod.fst).Nodup) :
    ReadAs registry
      ⟨.table kind, UInt16.ofNat resources.length, tableBytes payloads⟩
      (.resources kind (resources.map fun entry =>
        (entry.1, kind.reread registry entry.2))) := by
  refine ⟨rfl, ?_⟩
  intro short archive span spanOf
  have sameIds : payloads.map Prod.fst = resources.map Prod.fst := by
    have ids := congrArg (List.map Prod.fst) forms
    rw [List.map_map, List.map_map] at ids
    exact ids.symm
  have sameCount : resources.length = payloads.length := by
    have counts := congrArg List.length forms
    rwa [List.length_map, List.length_map] at counts
  have count : span.entryCount.toNat = payloads.length := by
    rw [spanOf.entryCount, ← sameCount]
    exact UInt16.toNat_ofNat_of_lt' few
  have indexRead := readIndex_tableBytes count (sameIds.symm ▸ nodup)
  have entriesRead :
      (consecutiveIndex (payloads.length * Layout.width IndexEntry) payloads).map
          (fun entry =>
            (entry.id, readEntry registry kind (tableBytes payloads).toArray entry)) =
        resources.map fun entry => (entry.1, kind.reread registry entry.2) := by
    have decoded := congrArg
      (List.map fun pair => (pair.1, pair.2.bind (kind.decode registry)))
      ((entryBytes_tableBytes short).trans forms.symm)
    rw [List.map_map, List.map_map] at decoded
    exact decoded
  have spanKind : span.kind = .table kind := spanOf.kind
  rcases span with ⟨spanKind, entryCount, offset, length⟩
  subst spanKind
  simp only [readTable, spanOf.bytes, indexRead, Except.ok_bind, entriesRead]
  rfl

/-- The table of a text has the stored form of the text as its only entry. -/
theorem eq_of_storeText
    {blob : TextBlob}
    {table : StoredTable}
    (stored : storeText blob = .ok table) :
    ∃ payload,
      blob.encode = .ok payload ∧ table = ⟨.text, 1, tableBytes [(0, payload)]⟩ := by
  obtain ⟨payload, encoded, stored⟩ := Except.bind_eq_ok_iff.mp stored
  obtain ⟨bytes, written, stored⟩ := Except.bind_eq_ok_iff.mp stored
  obtain rfl := Except.ok.inj stored
  obtain rfl := eq_tableBytes written
  exact ⟨payload, Except.mapError_eq_ok_iff.mp encoded, rfl⟩

/-- The stored text is read as it is. -/
theorem readAs_text
    (registry : OpcodeRegistry)
    {blob : TextBlob}
    {payload : List UInt8}
    (encoded : blob.encode = .ok payload) :
    ReadAs registry ⟨.text, 1, tableBytes [(0, payload)]⟩ (.text blob) := by
  refine ⟨rfl, ?_⟩
  intro short archive span spanOf
  have textDecoded := TextBlob.decode_of_encode encoded
  have count : span.entryCount.toNat = [((0 : UInt16), payload)].length := by
    rw [spanOf.entryCount]
    rfl
  have indexRead := readIndex_tableBytes count (List.nodup_singleton _)
  have entryRead :
      entryBytes (tableBytes [(0, payload)]).toArray
          ⟨0, UInt32.ofNat (1 * Layout.width IndexEntry), UInt32.ofNat payload.length⟩ =
        .ok payload :=
    (Prod.mk.inj (List.cons.inj (entryBytes_tableBytes short)).1).2
  have textRead :
      readText (tableBytes [(0, payload)]).toArray
          (consecutiveIndex (1 * Layout.width IndexEntry) [(0, payload)]) =
        .ok blob := by
    simp only [readText, consecutiveIndex, entryRead]
    exact Except.mapError_eq_ok_iff.mpr textDecoded
  have spanKind : span.kind = .text := spanOf.kind
  rcases span with ⟨spanKind, entryCount, offset, length⟩
  subst spanKind
  simp only [List.length_singleton] at indexRead
  simp only [readTable, spanOf.bytes, indexRead, Except.ok_bind, textRead]
  rfl

/-- Tables that are cut out at their spans are read as their contents. -/
theorem readTables_of_readAs
    {registry : OpcodeRegistry}
    {archive : Array UInt8}
    {spans : List TableSpan}
    {tables : List StoredTable}
    {contents : List TableContent}
    (spansOf : List.Forall₂ (SpanOf archive) spans tables)
    (readAs : List.Forall₂ (ReadAs registry) tables contents)
    (short : ∀ table ∈ tables, table.bytes.length < UInt32.size) :
    readTables registry archive spans = (contents, none) := by
  induction spansOf generalizing contents with
  | nil =>
      cases readAs
      rfl
  | cons spanOf _ inductionHypothesis =>
      cases readAs with
      | cons tableReadAs restReadAs =>
          obtain ⟨tableShort, restShort⟩ := List.forall_mem_cons.mp short
          rw [readTables, tableReadAs.read tableShort spanOf,
            inductionHypothesis restReadAs restShort]

/-! ## Stored databases -/

/-- The table of a kind, if there is something to store; the text counts as a kind. -/
def storeKind (database : Database) : ResourceKind → Except EncodeError (Option StoredTable)
  | .text =>
      match database.text? with
      | some blob => (storeText blob).map some
      | none => .ok none
  | .table kind => storeTable database kind

/-- The tables of a database are those of all kinds in their order. -/
theorem storeTables_eq (database : Database) :
    storeTables database =
      (ResourceKind.all.mapM (storeKind database)).map (List.filterMap id) := by
  have sameTables :
      TableKind.all.mapM (storeKind database ∘ .table) =
        TableKind.all.mapM (storeTable database) :=
    rfl
  rw [ResourceKind.all, List.mapM_cons, List.mapM_map, sameTables]
  simp only [storeTables, storeKind]
  cases database.text? with
  | none => cases TableKind.all.mapM (storeTable database) <;> rfl
  | some blob =>
      dsimp only
      cases storeText blob with
      | error fault => rfl
      | ok table => cases TableKind.all.mapM (storeTable database) <;> rfl

/-- How the table of a kind is stored. -/
inductive StoredAs (database : Database) : ResourceKind → Option StoredTable → Prop where
  | noText
      (absent : database.text? = none) :
      StoredAs database .text none
  | text
      {blob : TextBlob}
      {payload : List UInt8}
      (present : database.text? = some blob)
      (encoded : blob.encode = .ok payload) :
      StoredAs database .text (some ⟨.text, 1, tableBytes [(0, payload)]⟩)
  | noResources
      {kind : TableKind}
      (absent : (database.table kind).loaded.isEmpty = true) :
      StoredAs database (.table kind) none
  | resources
      {kind : TableKind}
      {payloads : List (UInt16 × List UInt8)}
      (present : ¬ (database.table kind).loaded.isEmpty = true)
      (forms : StoredForms (database.table kind).loaded payloads)
      (few : (database.table kind).loaded.length < UInt16.size) :
      StoredAs database (.table kind)
        (some ⟨.table kind, UInt16.ofNat (database.table kind).loaded.length,
          tableBytes payloads⟩)

/-- Storing the table of a kind comes to one of these. -/
theorem storedAs_of_storeKind
    {database : Database}
    {kind : ResourceKind}
    {table? : Option StoredTable}
    (stored : storeKind database kind = .ok table?) :
    StoredAs database kind table? := by
  cases kind with
  | text =>
      simp only [storeKind] at stored
      split at stored
      next blob present =>
        obtain ⟨table, tableStored, rfl⟩ := Except.map_eq_ok_iff.mp stored
        obtain ⟨payload, encoded, rfl⟩ := eq_of_storeText tableStored
        exact StoredAs.text present encoded
      next absent =>
        obtain rfl := Except.ok.inj stored
        exact StoredAs.noText absent
  | table kind =>
      simp only [storeKind, storeTable] at stored
      split at stored
      next absent =>
        obtain rfl := Except.ok.inj stored
        exact StoredAs.noResources absent
      next present =>
        obtain ⟨table, tableStored, rfl⟩ := Except.map_eq_ok_iff.mp stored
        obtain ⟨payloads, forms, few, rfl⟩ := eq_of_storeResources tableStored
        exact StoredAs.resources present forms few

/-- The table of a kind is read as the content it stands for, if there is one. -/
theorem readAs_of_storeKind
    (registry : OpcodeRegistry)
    {database : Database}
    {kind : ResourceKind}
    {table? : Option StoredTable}
    (stored : storeKind database kind = .ok table?) :
    Option.Rel (ReadAs registry) table? (storedContent? registry database kind) := by
  cases storedAs_of_storeKind stored with
  | noText absent =>
      rw [storedContent?, absent]
      exact Option.Rel.none
  | text present encoded =>
      rw [storedContent?, present]
      exact Option.Rel.some (readAs_text registry encoded)
  | noResources absent =>
      rw [storedContent?, if_pos absent]
      exact Option.Rel.none
  | resources present forms few =>
      rw [storedContent?, if_neg present]
      exact Option.Rel.some
        (readAs_resources registry forms few (database.table _).nodup_ids)

/-- The tables of a database are read as the contents they stand for. -/
theorem readAs_of_storeTables
    (registry : OpcodeRegistry)
    {database : Database}
    {tables : List StoredTable}
    (stored : storeTables database = .ok tables) :
    List.Forall₂ (ReadAs registry) tables (storedContents registry database) := by
  rw [storeTables_eq] at stored
  obtain ⟨tables?, kindsStored, rfl⟩ := Except.map_eq_ok_iff.mp stored
  have readAs :
      List.Forall₂ (fun kind table? =>
        Option.Rel (ReadAs registry) table? (storedContent? registry database kind))
        ResourceKind.all tables? :=
    Except.forall₂_of_mapM kindsStored (readAs_of_storeKind registry)
  have contentsShape :
      storedContents registry database =
        (ResourceKind.all.map (storedContent? registry database)).filterMap id := by
    rw [List.filterMap_map]
    rfl
  rw [contentsShape]
  apply List.rel_filterMap (R := Option.Rel (ReadAs registry)) (fun _ _ related => related)
  rw [List.forall₂_map_right_iff]
  exact readAs.flip

/-- A saved database is loaded as the contents its tables stand for. -/
theorem load_of_save
    (registry : OpcodeRegistry)
    {database : Database}
    {bytes : List UInt8}
    (saved : save database = .ok bytes) :
    load registry bytes = .ok (ofContents (storedContents registry database)) := by
  obtain ⟨tables, stored, assembled⟩ := Except.bind_eq_ok_iff.mp saved
  have readAs := readAs_of_storeTables registry stored
  have sameKinds :
      tables.map StoredTable.kind =
        (storedContents registry database).map TableContent.kind := by
    rw [← List.forall₂_eq_eq_eq, List.forall₂_map_left_iff, List.forall₂_map_right_iff]
    exact readAs.imp fun _ _ related => related.kind
  have nodup : (tables.map StoredTable.kind).Nodup :=
    sameKinds ▸ nodup_storedContents registry database
  have few : tables.length < UInt16.size := by
    have atMost := (kinds_sublist registry database).length_le
    rw [← sameKinds, List.length_map] at atMost
    exact Nat.lt_of_le_of_lt atMost (by decide)
  have short : ∀ table ∈ tables, table.bytes.length < UInt32.size := by
    intro table member
    exact Nat.lt_of_le_of_lt (length_le_assembledLength member)
      (eq_append_of_assemble assembled).1
  have tablesRead :=
    readTables_of_readAs (spanOf_of_assemble assembled) readAs short
  rw [load, readDirectory_of_assemble assembled few nodup, Except.ok_bind, tablesRead]
  rfl

end Archive

end AdventureArchive
