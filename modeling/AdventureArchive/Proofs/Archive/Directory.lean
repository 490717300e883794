import Mathlib.Data.List.Nodup
import AdventureArchive.Proofs.Archive.Table
import AdventureArchive.Proofs.Fallible

namespace AdventureArchive.Archive

/-!
# Stored frames

The directory of an assembled archive is read back as the spans of its tables,
and each table is cut out at its span (`readDirectory_of_assemble`,
`spanOf_of_assemble`).  Whatever archive is read, no kind has two spans
(`nodup_kinds_of_readDirectory`).
-/

/-- A kind is found by its number. -/
@[simp] theorem ofCode?_code (kind : ResourceKind) :
    ResourceKind.ofCode? kind.code = some kind := by
  cases kind with
  | text => rfl
  | table kind =>
      cases kind with
      | image kind => cases kind <;> rfl
      | _ => rfl

/-- A span that a directory names: the kind, the number of entries and the bytes agree. -/
structure SpanOf (archive : Array UInt8) (span : TableSpan) (table : StoredTable) : Prop where
  kind : span.kind = table.kind
  entryCount : span.entryCount = table.entryCount
  bytes : slice archive span.offset.toNat span.length.toNat = table.bytes.toArray

/-- The spans of consecutive tables, the first of which starts at the given offset. -/
def consecutiveSpans (offset : Nat) : List StoredTable → List TableSpan
  | [] => []
  | table :: rest =>
      ⟨table.kind, table.entryCount, UInt32.ofNat offset,
        UInt32.ofNat table.bytes.length⟩ ::
        consecutiveSpans (offset + table.bytes.length) rest

@[simp] theorem length_directoryFrom
    (offset : Nat)
    (tables : List StoredTable) :
    (directoryFrom offset tables).length = tables.length := by
  induction tables generalizing offset with
  | nil => rfl
  | cons table rest inductionHypothesis =>
      rw [directoryFrom, List.length_cons, List.length_cons, inductionHypothesis]

theorem length_flatMap_bytes (tables : List StoredTable) :
    (tables.flatMap StoredTable.bytes).length =
      totalSize (fun table => table.bytes.length) tables := by
  induction tables with
  | nil => rfl
  | cons table rest inductionHypothesis =>
      rw [List.flatMap_cons, List.length_append, inductionHypothesis, totalSize_cons]

/-- The records of consecutive tables of different kinds pass the checks. -/
theorem checkRecords_directoryFrom
    {archiveLength offset : Nat}
    {tables : List StoredTable}
    (inside : offset + totalSize (fun table => table.bytes.length) tables ≤ archiveLength)
    (fits : archiveLength < UInt32.size)
    (index : Nat)
    {checked : List TableSpan}
    (nodup : (tables.map StoredTable.kind).Nodup)
    (fresh : ∀ earlier ∈ checked, earlier.kind ∉ tables.map StoredTable.kind) :
    checkRecords archiveLength index checked (directoryFrom offset tables) =
      .ok (checked.reverse ++ consecutiveSpans offset tables) := by
  induction tables generalizing offset index checked with
  | nil => rw [directoryFrom, checkRecords, consecutiveSpans, List.append_nil]
  | cons table rest inductionHypothesis =>
      obtain ⟨notInRest, restNodup⟩ := List.nodup_cons.mp nodup
      rw [totalSize_cons] at inside
      have isNew : (checked.any fun earlier => earlier.kind == table.kind) = false := by
        rw [List.any_eq_false]
        intro earlier member sameKind
        exact fresh earlier member (eq_of_beq sameKind ▸ List.mem_cons_self)
      have offsetShape : (UInt32.ofNat offset).toNat = offset := by
        apply UInt32.toNat_ofNat_of_lt'
        omega
      have lengthShape : (UInt32.ofNat table.bytes.length).toNat = table.bytes.length := by
        apply UInt32.toNat_ofNat_of_lt'
        omega
      have tableInside : ¬ archiveLength < offset + table.bytes.length := by omega
      rw [directoryFrom, checkRecords, ofCode?_code]
      simp only [isNew, offsetShape, lengthShape, tableInside, Bool.false_eq_true, if_false]
      rw [inductionHypothesis (by omega) _ restNodup, List.reverse_cons, List.append_assoc]
      · rfl
      · intro earlier member
        rcases List.mem_cons.mp member with rfl | wasThere
        · exact notInRest
        · exact fun inRest =>
            fresh earlier wasThere (List.mem_cons_of_mem table.kind inRest)

/-- Consecutive tables behind some bytes are cut out at their spans. -/
theorem spanOf_consecutiveSpans
    (front : List UInt8)
    {tables : List StoredTable}
    (fits : front.length + (tables.flatMap StoredTable.bytes).length < UInt32.size) :
    List.Forall₂ (SpanOf (front ++ tables.flatMap StoredTable.bytes).toArray)
      (consecutiveSpans front.length tables) tables := by
  induction tables generalizing front with
  | nil => exact List.Forall₂.nil
  | cons table rest inductionHypothesis =>
      have whole :
          front ++ (table :: rest).flatMap StoredTable.bytes =
            front ++ table.bytes ++ rest.flatMap StoredTable.bytes := by
        rw [List.flatMap_cons, List.append_assoc]
      rw [← List.length_append, whole] at fits
      -- The table joins the front, as a payload does in `entryBytes_consecutiveIndex`.
      have remaining := inductionHypothesis (front ++ table.bytes) (by
        rwa [← List.length_append])
      simp only [List.length_append] at fits
      have offsetShape : (UInt32.ofNat front.length).toNat = front.length := by
        apply UInt32.toNat_ofNat_of_lt'
        omega
      have lengthShape : (UInt32.ofNat table.bytes.length).toNat = table.bytes.length := by
        apply UInt32.toNat_ofNat_of_lt'
        omega
      rw [List.length_append] at remaining
      rw [whole, consecutiveSpans]
      refine List.Forall₂.cons ⟨rfl, rfl, ?_⟩ remaining
      simp only [offsetShape, lengthShape]
      exact slice_middle front table.bytes _

/-! ## Assembled archives -/

/-- The length an archive of the given tables would have. -/
def assembledLength (tables : List StoredTable) : Nat :=
  tablesOffset tables.length + totalSize (fun table => table.bytes.length) tables

/-- Assembling fails exactly when the archive would be too large for its offsets. -/
theorem assemble_cases (tables : List StoredTable) :
    (∃ bytes, assemble tables = .ok bytes) ∨
      assemble tables = .error .tooLarge ∧ UInt32.size ≤ assembledLength tables := by
  by_cases fits : assembledLength tables < UInt32.size
  · exact Or.inl ⟨_, if_pos fits⟩
  · exact Or.inr ⟨if_neg fits, Nat.le_of_not_lt fits⟩

/-- The front of an assembled archive, and the limit it respects. -/
theorem eq_append_of_assemble
    {tables : List StoredTable}
    {bytes : List UInt8}
    (assembled : assemble tables = .ok bytes) :
    assembledLength tables < UInt32.size ∧
      bytes =
        Layout.write (⟨magic, version, UInt16.ofNat tables.length,
            UInt32.ofNat (assembledLength tables)⟩ : Header) ++
          (Layout.writeMany (directoryFrom (tablesOffset tables.length) tables) ++
            tables.flatMap StoredTable.bytes) := by
  by_cases fits : assembledLength tables < UInt32.size
  · have written := (if_pos fits).symm.trans assembled
    refine ⟨fits, ?_⟩
    rw [← List.append_assoc]
    exact (Except.ok.inj written).symm
  · exact absurd ((if_neg fits).symm.trans assembled) (by simp)

theorem length_of_assemble
    {tables : List StoredTable}
    {bytes : List UInt8}
    (assembled : assemble tables = .ok bytes) :
    bytes.length = assembledLength tables := by
  obtain ⟨-, rfl⟩ := eq_append_of_assemble assembled
  rw [List.length_append, List.length_append, LawfulLayout.length_write,
    Layout.length_writeMany, length_directoryFrom, length_flatMap_bytes, ← Nat.add_assoc]
  rfl

/-- No table is longer than the archive it is part of. -/
theorem length_le_assembledLength
    {tables : List StoredTable}
    {table : StoredTable}
    (member : table ∈ tables) :
    table.bytes.length ≤ assembledLength tables := by
  apply Nat.le_trans _ (Nat.le_add_left _ _)
  rw [← length_flatMap_bytes]
  have inBytes : table.bytes ∈ tables.map StoredTable.bytes :=
    List.mem_map.mpr ⟨table, member, rfl⟩
  exact (List.sublist_flatten_of_mem inBytes).length_le

/-- The directory of an assembled archive names the spans of its tables. -/
theorem readDirectory_of_assemble
    {tables : List StoredTable}
    {bytes : List UInt8}
    (assembled : assemble tables = .ok bytes)
    (few : tables.length < UInt16.size)
    (nodup : (tables.map StoredTable.kind).Nodup) :
    readDirectory bytes = .ok (consecutiveSpans (tablesOffset tables.length) tables) := by
  have length := length_of_assemble assembled
  obtain ⟨fits, shape⟩ := eq_append_of_assemble assembled
  have lengthShape :
      (UInt32.ofNat (assembledLength tables)).toNat = bytes.length := by
    rw [length]
    exact UInt32.toNat_ofNat_of_lt' fits
  have headerRead :
      readHeader bytes =
        .ok (UInt16.ofNat tables.length,
          Layout.writeMany (directoryFrom (tablesOffset tables.length) tables) ++
            tables.flatMap StoredTable.bytes) := by
    rw [readHeader]
    conv in Layout.read bytes => rw [shape]
    simp only [LawfulLayout.read_append, lengthShape, ne_eq, not_true_eq_false, if_false]
  have directoryRead := Layout.readMany_append
    (directoryFrom (tablesOffset tables.length) tables)
    (tables.flatMap StoredTable.bytes)
  rw [length_directoryFrom] at directoryRead
  have countShape : (UInt16.ofNat tables.length).toNat = tables.length :=
    UInt16.toNat_ofNat_of_lt' few
  simp only [readDirectory, headerRead, Except.ok_bind, countShape, directoryRead]
  rw [checkRecords_directoryFrom (Nat.le_of_eq length.symm) (length ▸ fits) 0 nodup]
  · rfl
  · exact fun _ member => absurd member List.not_mem_nil

/-- The tables of an assembled archive are cut out at their spans. -/
theorem spanOf_of_assemble
    {tables : List StoredTable}
    {bytes : List UInt8}
    (assembled : assemble tables = .ok bytes) :
    List.Forall₂ (SpanOf bytes.toArray)
      (consecutiveSpans (tablesOffset tables.length) tables) tables := by
  have length := length_of_assemble assembled
  obtain ⟨fits, shape⟩ := eq_append_of_assemble assembled
  rw [← List.append_assoc] at shape
  have frontLength :
      (Layout.write (⟨magic, version, UInt16.ofNat tables.length,
          UInt32.ofNat (assembledLength tables)⟩ : Header) ++
        Layout.writeMany (directoryFrom (tablesOffset tables.length) tables)).length =
          tablesOffset tables.length := by
    rw [List.length_append, LawfulLayout.length_write, Layout.length_writeMany,
      length_directoryFrom]
    rfl
  rw [← length, shape, List.length_append] at fits
  have cutOut := spanOf_consecutiveSpans _ fits
  rwa [frontLength, ← shape] at cutOut

/-! ## Directories of any archive -/

/-- Records that pass the checks name every kind at most once. -/
theorem nodup_kinds_of_checkRecords
    {archiveLength index : Nat}
    {checked spans : List TableSpan}
    {records : List DirectoryRecord}
    (accepted : checkRecords archiveLength index checked records = .ok spans)
    (nodup : (checked.map TableSpan.kind).Nodup) :
    (spans.map TableSpan.kind).Nodup := by
  induction records generalizing index checked with
  | nil =>
      obtain rfl := Except.ok.inj accepted
      rw [List.map_reverse]
      exact List.nodup_reverse.mpr nodup
  | cons record rest inductionHypothesis =>
      unfold checkRecords at accepted
      split at accepted
      next => contradiction
      next kind known =>
        split at accepted
        next => contradiction
        next isNew =>
          split at accepted
          next => contradiction
          next =>
            apply inductionHypothesis accepted
            rw [List.map_cons, List.nodup_cons]
            refine ⟨?_, nodup⟩
            intro repeated
            obtain ⟨earlier, member, sameKind⟩ := List.mem_map.mp repeated
            exact isNew (List.any_eq_true.mpr ⟨earlier, member, beq_iff_eq.mpr sameKind⟩)

/-- A directory that is accepted names every kind at most once. -/
theorem nodup_kinds_of_readDirectory
    {bytes : List UInt8}
    {spans : List TableSpan}
    (accepted : readDirectory bytes = .ok spans) :
    (spans.map TableSpan.kind).Nodup := by
  obtain ⟨⟨tableCount, behindHeader⟩, -, accepted⟩ := Except.bind_eq_ok_iff.mp accepted
  dsimp only at accepted
  split at accepted
  next => contradiction
  next => exact nodup_kinds_of_checkRecords accepted List.nodup_nil

end AdventureArchive.Archive
