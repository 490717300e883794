import AdventureArchive.Proofs.Archive.Contents
import AdventureArchive.Proofs.Archive.Directory

namespace AdventureArchive

/-!
# Loaded databases

Whatever the layout of an archive, what a load puts into a database has been
read from some bytes, and no table is larger than an index can be
(`readBy_of_load`).
-/

/-- Databases whose text and resources have been read from some bytes. -/
structure Database.ReadBy (database : Database) (registry : OpcodeRegistry) : Prop where
  text :
    ∀ blob, database.text? = some blob →
      ∃ bytes, TextBlob.decode bytes = .ok blob
  resources :
    ∀ kind, ∀ entry ∈ (database.table kind).loaded,
      ∃ bytes, kind.decode registry bytes = .ok entry.2
  counts : ∀ kind, (database.table kind).loaded.length < UInt16.size

namespace Archive

/-- Contents whose text or resources have been read from some bytes. -/
def TableContent.ReadBy (registry : OpcodeRegistry) : TableContent → Prop
  | .text blob => ∃ bytes, TextBlob.decode bytes = .ok blob
  | .resources kind results =>
      results.length < UInt16.size ∧
        ∀ result ∈ results, ∀ resource, result.2 = .ok resource →
          ∃ bytes, kind.decode registry bytes = .ok resource

/-- An index has the number of entries that its span announces. -/
theorem length_of_readIndex
    {span : TableSpan}
    {table : List UInt8}
    {index : List IndexEntry}
    (accepted : readIndex span table = .ok index) :
    index.length = span.entryCount.toNat := by
  unfold readIndex at accepted
  split at accepted
  next => contradiction
  next entries rest indexRead =>
    split at accepted
    next => contradiction
    next =>
      obtain rfl := Except.ok.inj accepted
      exact (Layout.eq_append_of_readMany indexRead).1

/-- A text that has been read comes from the bytes of its only entry. -/
theorem exists_decode_of_readText
    {table : Array UInt8}
    {index : List IndexEntry}
    {blob : TextBlob}
    (accepted : readText table index = .ok blob) :
    ∃ bytes, TextBlob.decode bytes = .ok blob := by
  unfold readText at accepted
  split at accepted
  next entry =>
    obtain ⟨bytes, -, decoded⟩ :=
      Except.bind_eq_ok_iff.mp (Except.mapError_eq_ok_iff.mp accepted)
    exact ⟨bytes, decoded⟩
  next => contradiction

/-- What reading a table comes to is the content of its span's kind, read from bytes. -/
theorem readBy_of_readTable
    {registry : OpcodeRegistry}
    {archive : Array UInt8}
    {span : TableSpan}
    {content : TableContent}
    (accepted : readTable registry archive span = .ok content) :
    content.kind = span.kind ∧ content.ReadBy registry := by
  obtain ⟨index, indexRead, accepted⟩ := Except.bind_eq_ok_iff.mp accepted
  rcases span with ⟨kind, entryCount, offset, length⟩
  cases kind with
  | text =>
      obtain ⟨blob, textRead, accepted⟩ := Except.bind_eq_ok_iff.mp accepted
      obtain rfl := Except.ok.inj accepted
      exact ⟨rfl, exists_decode_of_readText (Except.mapError_eq_ok_iff.mp textRead)⟩
  | table kind =>
      obtain rfl := Except.ok.inj accepted
      refine ⟨rfl, ?_, ?_⟩
      · rw [List.length_map, length_of_readIndex indexRead]
        exact entryCount.toNat_lt
      · intro result member resource resultShape
        obtain ⟨entry, -, rfl⟩ := List.mem_map.mp member
        obtain ⟨bytes, -, decoded⟩ := Except.bind_eq_ok_iff.mp resultShape
        exact ⟨bytes, decoded⟩

/-- Tables that are all read have contents of the kinds of their spans, read from bytes. -/
theorem readBy_of_readTables
    {registry : OpcodeRegistry}
    {archive : Array UInt8}
    {spans : List TableSpan}
    {contents : List TableContent}
    (accepted : readTables registry archive spans = (contents, none)) :
    contents.map TableContent.kind = spans.map TableSpan.kind ∧
      ∀ content ∈ contents, content.ReadBy registry := by
  induction spans generalizing contents with
  | nil =>
      obtain ⟨rfl, -⟩ := Prod.mk.inj accepted
      exact ⟨rfl, fun _ member => absurd member List.not_mem_nil⟩
  | cons span rest inductionHypothesis =>
      unfold readTables at accepted
      split at accepted
      next => simp at accepted
      next content tableRead =>
        obtain ⟨rfl, noFault⟩ := Prod.mk.inj accepted
        obtain ⟨sameKind, contentRead⟩ := readBy_of_readTable tableRead
        obtain ⟨sameKinds, contentsRead⟩ := inductionHypothesis (Prod.ext rfl noFault)
        exact ⟨by rw [List.map_cons, List.map_cons, sameKind, sameKinds],
          List.forall_mem_cons.mpr ⟨contentRead, contentsRead⟩⟩

/-- A load comes to contents of different kinds that have been read from bytes. -/
theorem exists_contents_of_load
    {registry : OpcodeRegistry}
    {bytes : List UInt8}
    {loaded : LoadedArchive}
    (accepted : load registry bytes = .ok loaded) :
    ∃ contents,
      loaded = ofContents contents ∧
        (contents.map TableContent.kind).Nodup ∧
        ∀ content ∈ contents, content.ReadBy registry := by
  obtain ⟨spans, directoryRead, accepted⟩ := Except.bind_eq_ok_iff.mp accepted
  split at accepted
  next contents tablesRead =>
    obtain ⟨sameKinds, contentsRead⟩ := readBy_of_readTables tablesRead
    refine ⟨contents, (Except.ok.inj accepted).symm, ?_, contentsRead⟩
    rw [sameKinds]
    exact nodup_kinds_of_readDirectory directoryRead
  next => contradiction

/-- A loaded database has been read from bytes, and its tables fit their indexes. -/
theorem readBy_of_load
    {registry : OpcodeRegistry}
    {bytes : List UInt8}
    {loaded : LoadedArchive}
    (accepted : load registry bytes = .ok loaded) :
    loaded.database.ReadBy registry := by
  obtain ⟨contents, rfl, nodup, contentsRead⟩ := exists_contents_of_load accepted
  constructor
  case text =>
    intro blob textShape
    have member : blob ∈ contents.filterMap TableContent.text? := by
      rw [← text?_ofContents nodup, textShape]
      exact List.mem_singleton.mpr rfl
    obtain ⟨content, inContents, contentText⟩ := List.mem_filterMap.mp member
    cases content with
    | text _ =>
        obtain rfl := Option.some.inj contentText
        exact contentsRead _ inContents
    | resources _ _ => contradiction
  case resources =>
    intro kind entry member
    rw [table_ofContents] at member
    have inResults := ResourceTable.mem_of_mem_loaded_enter member
    obtain ⟨content, inContents, inContent⟩ := List.mem_flatMap.mp inResults
    by_cases sameKind : content.kind = .table kind
    · obtain ⟨results, rfl⟩ := TableContent.eq_resources sameKind
      rw [TableContent.resultsFor_resources] at inContent
      exact (contentsRead _ inContents).2 _ inContent _ rfl
    · rw [TableContent.resultsFor_eq_nil sameKind] at inContent
      exact absurd inContent List.not_mem_nil
  case counts =>
    intro kind
    rw [table_ofContents]
    apply Nat.lt_of_le_of_lt (ResourceTable.length_loaded_enter_le _)
    by_cases present : ∃ content ∈ contents, content.kind = .table kind
    · obtain ⟨content, inContents, sameKind⟩ := present
      obtain ⟨results, rfl⟩ := TableContent.eq_resources sameKind
      rw [flatMap_resultsFor nodup inContents sameKind, TableContent.resultsFor_resources]
      exact (contentsRead _ inContents).1
    · rw [flatMap_resultsFor_eq_nil fun content inContents sameKind =>
        present ⟨content, inContents, sameKind⟩, List.length_nil]
      decide

/-- The warnings of a load are about the text it has loaded. -/
theorem warnings_of_load
    {registry : OpcodeRegistry}
    {bytes : List UInt8}
    {loaded : LoadedArchive}
    (accepted : load registry bytes = .ok loaded) :
    loaded.report.warnings = textWarnings loaded.database.text? := by
  obtain ⟨contents, rfl, nodup, -⟩ := exists_contents_of_load accepted
  exact warnings_ofContents nodup

end Archive

end AdventureArchive
