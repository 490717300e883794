import Mathlib.Data.List.Perm.Basic
import AdventureArchive.Proofs.Archive.Determined
import AdventureArchive.Proofs.Archive.Restored

namespace AdventureArchive

/-!
# The order of the directory

Records of a directory may stand in any order: an archive whose records are put
in another order is loaded exactly if the archive is, and to the same database
and the same report (`ArchiveCodec.load_eq_ok_iff_of_permuted`).  Only the fault
of an archive that is not loaded may be another one, since the first fault is
reported.

The tables must not reach into the directory, where the bytes are moved.
-/

namespace Archive

/-- Where the directory of an archive ends. -/
def directoryEnd (bytes : List UInt8) : Nat :=
  12 + 12 * (headerOf bytes).tableCount.toNat

/-- The ranges of the records of a directory. -/
def recordRanges (bytes : List UInt8) : List (Nat × Nat) :=
  (List.range (headerOf bytes).tableCount.toNat).map fun index => (12 + index * 12, 12)

/-- The bytes of the records of a directory. -/
def recordBytes (bytes : List UInt8) : List (List UInt8) :=
  (recordRanges bytes).map fun range => byteRange bytes range.1 range.2

/-- Whether an archive is another one with the records of its directory in another order. -/
def PermutesDirectory (bytes other : List UInt8) : Prop :=
  ∃ records : List (List UInt8),
    records.Perm (recordBytes bytes) ∧
      other = bytes.take 12 ++ (records.flatten ++ bytes.drop (directoryEnd bytes))

/-- Whether no table that holds anything begins before the end of the directory. -/
def TablesBehindDirectory (bytes : List UInt8) : Prop :=
  ∀ record ∈ directoryOf bytes,
    record.length ≠ 0 → directoryEnd bytes ≤ record.offset.toNat

/-! ## Frames without faults -/

/-- A record has no fault if its kind is known and new and its table inside the archive. -/
theorem recordFaults_eq_nil_iff
    {archiveLength : Nat}
    {earlier : List DirectoryRecord}
    {record : DirectoryRecord} :
    recordFaults archiveLength earlier record = [] ↔
      (¬ 9 < record.kindCode ∧ record.Inside archiveLength) ∧
        record.kindCode ∉ earlier.map DirectoryRecord.kindCode := by
  rw [recordFaults, List.append_eq_nil_iff, List.append_eq_nil_iff, faultIf_eq_nil_iff,
    faultIf_eq_nil_iff, faultIf_eq_nil_iff, and_right_comm, Nat.not_lt]
  rfl

/-- Records have no fault if they are of different known kinds and lie inside the archive. -/
theorem flatMap_recordFaults_eq_nil_iff
    {archiveLength : Nat}
    {earlier records : List DirectoryRecord} :
    ((withEarlier earlier records).flatMap fun (earlier, record) =>
        recordFaults archiveLength earlier record) = [] ↔
      (∀ record ∈ records, ¬ 9 < record.kindCode ∧ record.Inside archiveLength) ∧
        (records.map DirectoryRecord.kindCode).Nodup ∧
        ∀ record ∈ records, record.kindCode ∉ earlier.map DirectoryRecord.kindCode := by
  induction records generalizing earlier with
  | nil => simp [withEarlier]
  | cons record rest inductionHypothesis =>
      have restNew :
          (∀ other ∈ rest,
              other.kindCode ∉ (earlier ++ [record]).map DirectoryRecord.kindCode) ↔
            record.kindCode ∉ rest.map DirectoryRecord.kindCode ∧
              ∀ other ∈ rest, other.kindCode ∉ earlier.map DirectoryRecord.kindCode := by
        simp only [List.map_append, List.map_cons, List.map_nil, List.mem_append,
          List.mem_singleton, not_or, List.mem_map, not_exists, not_and]
        grind
      rw [withEarlier, List.flatMap_cons, List.append_eq_nil_iff, inductionHypothesis,
        recordFaults_eq_nil_iff, restNew, List.forall_mem_cons, List.forall_mem_cons,
        List.map_cons, List.nodup_cons]
      tauto

/-- When there is nothing wrong with a frame, said without an order of the records. -/
theorem faults_frameOf_eq_nil_iff (bytes : List UInt8) :
    (frameOf bytes).faults = [] ↔
      (frameOf bytes).headerFaults = [] ∧
        directoryEnd bytes ≤ bytes.length ∧
        ((directoryOf bytes).map DirectoryRecord.kindCode).Nodup ∧
        ∀ record ∈ directoryOf bytes,
          (¬ 9 < record.kindCode ∧ record.Inside bytes.length) ∧
            (tableFrameOf bytes record).faults = [] := by
  have tableFaults :
      (frameOf bytes).tables.flatMap TableFrame.faults = [] ↔
        ∀ record ∈ directoryOf bytes, (tableFrameOf bytes record).faults = [] := by
    rw [frameOf, List.flatMap_map, List.flatMap_eq_nil_iff]
  rw [Frame.faults, List.append_eq_nil_iff, List.append_eq_nil_iff, tableFaults,
    Frame.directoryFaults, List.append_eq_nil_iff, faultIf_eq_nil_iff, map_record_frameOf,
    flatMap_recordFaults_eq_nil_iff, Nat.not_lt]
  simp only [List.map_nil, List.not_mem_nil, not_false_iff, implies_true, and_true,
    forall₂_and]
  change (_ ∧ directoryEnd bytes ≤ bytes.length ∧ _) ∧ _ ↔ _
  tauto

/-! ## Archives that differ in the order of their records -/

/-- Archives with the same records, in whatever order, of the same tables. -/
structure SameButOrder (bytes other : List UInt8) : Prop where
  length : other.length = bytes.length
  header : headerOf other = headerOf bytes
  directory : (directoryOf other).Perm (directoryOf bytes)
  tables : ∀ record ∈ directoryOf bytes, tableOf other record = tableOf bytes record

variable
  {registry : OpcodeRegistry}
  {bytes other : List UInt8}

/-- They name the same tables. -/
theorem SameButOrder.sameTables (same : SameButOrder bytes other) : SameTables bytes other where
  records _ := same.directory.mem_iff
  tables := same.tables

/-- The frames of both are free of faults or neither is. -/
theorem SameButOrder.faults_eq_nil_iff (same : SameButOrder bytes other) :
    (frameOf other).faults = [] ↔ (frameOf bytes).faults = [] := by
  have headerFaults : (frameOf other).headerFaults = (frameOf bytes).headerFaults := by
    change Frame.headerFaults ⟨other.length, headerOf other, []⟩ =
      Frame.headerFaults ⟨bytes.length, headerOf bytes, []⟩
    rw [same.length, same.header]
  have tableFrames :
      ∀ record ∈ directoryOf bytes, tableFrameOf other record = tableFrameOf bytes record := by
    intro record member
    rw [tableFrameOf, indexOf_eq_of_tableOf (same.tables record member)]
    rfl
  rw [faults_frameOf_eq_nil_iff, faults_frameOf_eq_nil_iff, headerFaults, directoryEnd,
    same.header, same.length, (same.directory.map _).nodup_iff]
  refine and_congr_right fun _ => and_congr_right fun _ => and_congr_right fun _ => ?_
  refine forall_congr' fun record => ?_
  rw [same.directory.mem_iff]
  refine imp_congr_right fun member => ?_
  rw [tableFrames record member]

/-- They are loaded to the same database and the same report. -/
theorem SameButOrder.load_eq_ok_iff
    (same : SameButOrder bytes other)
    (loaded : LoadedArchive) :
    load registry other = .ok loaded ↔ load registry bytes = .ok loaded := by
  have alike :
      ∀ {loaded otherLoaded}, load registry bytes = .ok loaded →
        load registry other = .ok otherLoaded → otherLoaded = loaded :=
    fun accepted otherAccepted =>
      eq_of_loads accepted otherAccepted
        (text?_eq_of_loads accepted otherAccepted same.sameTables)
        fun _ => table_eq_of_loads accepted otherAccepted same.sameTables rfl
  have bothLoad :
      (∃ loaded, load registry other = .ok loaded) ↔
        ∃ loaded, load registry bytes = .ok loaded := by
    rw [exists_load_iff, exists_load_iff, same.faults_eq_nil_iff]
  constructor
  · intro otherAccepted
    obtain ⟨found, accepted⟩ := bothLoad.mp ⟨loaded, otherAccepted⟩
    rwa [alike accepted otherAccepted]
  · intro accepted
    obtain ⟨found, otherAccepted⟩ := bothLoad.mpr ⟨loaded, accepted⟩
    rwa [← alike accepted otherAccepted]

/-! ## Moving the records -/

/-- The records fill the directory. -/
theorem tiles_recordRanges (bytes : List UInt8) :
    Tiles 12 (directoryEnd bytes) (recordRanges bytes) := by
  suffices fromHere :
      ∀ count start,
        Tiles start (start + 12 * count)
          ((List.range count).map fun index => (start + index * 12, 12)) from
    fromHere _ 12
  intro count
  induction count with
  | zero => exact fun start => rfl
  | succ count inductionHypothesis =>
      intro start
      -- Behind the first record the others are counted anew.
      have behindFirst := inductionHypothesis (start + 12)
      have shift (index : Nat) : start + 12 + index * 12 = start + (index + 1) * 12 := by omega
      have sameEnd : start + 12 + 12 * count = start + 12 * (count + 1) := by omega
      simp only [shift, sameEnd] at behindFirst
      rw [List.range_succ_eq_map, List.map_cons, List.map_map]
      exact ⟨by omega, behindFirst⟩

/-- An archive is its header, its directory and the rest. -/
theorem eq_append_recordBytes (bytes : List UInt8) :
    bytes =
      bytes.take 12 ++ ((recordBytes bytes).flatten ++ bytes.drop (directoryEnd bytes)) := by
  have records :
      (recordBytes bytes).flatten = byteRange bytes 12 (directoryEnd bytes - 12) := by
    rw [recordBytes, ← List.flatMap_def]
    exact flatMap_byteRange_of_tiles bytes (tiles_recordRanges bytes)
  have ends : directoryEnd bytes = 12 + (directoryEnd bytes - 12) := by
    rw [directoryEnd, Nat.add_sub_cancel_left]
  rw [records, byteRange, ends, ← List.drop_drop, Nat.add_sub_cancel_left,
    List.take_append_drop, List.take_append_drop]

/-- Moving records leaves the length of an archive alone. -/
theorem length_of_permuted (permuted : PermutesDirectory bytes other) :
    other.length = bytes.length := by
  obtain ⟨records, perm, rfl⟩ := permuted
  have whole := congrArg List.length (eq_append_recordBytes bytes)
  rw [List.length_append, List.length_append] at whole ⊢
  rw [perm.flatten.length_eq, ← whole]

/-- Moving records leaves the header of an archive alone. -/
theorem headerOf_of_permuted
    (enough : 12 ≤ bytes.length)
    (permuted : PermutesDirectory bytes other) :
    headerOf other = headerOf bytes := by
  obtain ⟨records, -, rfl⟩ := permuted
  have inside : 0 + Layout.width Header ≤ bytes.length := enough
  have header : Layout.write (headerOf bytes) = bytes.take 12 :=
    Layout.write_valueAt inside
  rw [← header]
  exact Layout.valueAt_append [] (headerOf bytes) _

/-- The records of a whole directory are the stored forms of what they say. -/
theorem recordBytes_eq (complete : directoryEnd bytes ≤ bytes.length) :
    recordBytes bytes = (directoryOf bytes).map Layout.write := by
  rw [recordBytes, recordRanges, directoryOf, List.map_map, List.map_map]
  apply List.map_congr_left
  intro index member
  have isRecord : index < (headerOf bytes).tableCount.toNat := List.mem_range.mp member
  have inside : 12 + index * 12 + Layout.width DirectoryRecord ≤ bytes.length := by
    change 12 + index * 12 + 12 ≤ bytes.length
    rw [directoryEnd] at complete
    omega
  exact (Layout.write_valueAt inside).symm

/-- Values can be moved as their images are. -/
theorem exists_perm_of_map
    {α β : Type}
    {image : α → β}
    {values : List α}
    {images : List β}
    (perm : images.Perm (values.map image)) :
    ∃ moved : List α, moved.Perm values ∧ images = moved.map image := by
  have related : List.Forall₂ (fun value item => value = image item) (values.map image) values :=
    List.forall₂_map_left_iff.mpr (List.forall₂_same.mpr fun _ _ => rfl)
  obtain ⟨moved, sameImages, movedPerm⟩ := List.perm_comp_forall₂ perm related
  exact ⟨moved, movedPerm,
    List.forall₂_eq_eq_eq ▸ List.forall₂_map_right_iff.mpr sameImages⟩

/-- The front of an archive may be replaced by bytes of the same length. -/
theorem byteRange_of_replaced
    (bytes : List UInt8)
    {front : List UInt8}
    {start : Nat}
    (behind : front.length ≤ start)
    (length : Nat) :
    byteRange (front ++ bytes.drop front.length) start length = byteRange bytes start length := by
  obtain ⟨more, rfl⟩ := Nat.exists_eq_add_of_le behind
  rw [byteRange, byteRange, ← List.drop_drop, List.drop_left, List.drop_drop]

/-- An archive with its records moved differs in nothing but their order. -/
theorem sameButOrder_of_permuted
    (complete : directoryEnd bytes ≤ bytes.length)
    (behind : TablesBehindDirectory bytes)
    (permuted : PermutesDirectory bytes other) :
    SameButOrder bytes other := by
  have enough : 12 ≤ bytes.length := Nat.le_trans (Nat.le_add_right _ _) complete
  have header := headerOf_of_permuted enough permuted
  have length := length_of_permuted permuted
  obtain ⟨records, perm, rfl⟩ := permuted
  rw [recordBytes_eq complete] at perm
  obtain ⟨moved, movedPerm, rfl⟩ := exists_perm_of_map perm
  rw [← List.flatMap_def] at header length ⊢
  have headerLength : (bytes.take 12).length = 12 := by
    rw [List.length_take, Nat.min_eq_left enough]
  have recordCount : moved.length = (headerOf bytes).tableCount.toNat := by
    rw [movedPerm.length_eq, directoryOf, List.length_map, List.length_range]
  constructor
  case length => exact length
  case header => exact header
  case directory =>
    have found := Layout.map_valueAt_writeMany (bytes.take 12) moved
      (bytes.drop (directoryEnd bytes))
    rw [headerLength, recordCount, ← header] at found
    exact (List.Perm.of_eq found).trans movedPerm
  case tables =>
    have frontLength :
        (bytes.take 12 ++ Layout.writeMany moved).length = directoryEnd bytes := by
      rw [List.length_append, Layout.length_writeMany, headerLength, recordCount, Nat.mul_comm]
      rfl
    intro record member
    by_cases isEmpty : record.length = 0
    · rw [tableOf, tableOf, byteRange, byteRange, isEmpty]
      rfl
    · have inRest := behind record member isEmpty
      rw [← frontLength] at inRest
      have sameTable := byteRange_of_replaced bytes inRest record.length.toNat
      rw [frontLength, List.append_assoc] at sameTable
      exact sameTable

/-- An archive whose directory is cut short is not loaded. -/
theorem load_ne_ok_of_incomplete
    (incomplete : ¬ directoryEnd bytes ≤ bytes.length)
    (loaded : LoadedArchive) :
    load registry bytes ≠ .ok loaded := by
  intro accepted
  have noFaults := (exists_load_iff registry bytes).mp ⟨loaded, accepted⟩
  exact incomplete ((faults_frameOf_eq_nil_iff bytes).mp noFaults).2.1

/-- Moving records leaves a directory that is cut short cut short. -/
theorem incomplete_of_permuted
    (incomplete : ¬ directoryEnd bytes ≤ bytes.length)
    (permuted : PermutesDirectory bytes other) :
    ¬ directoryEnd other ≤ other.length := by
  rw [length_of_permuted permuted]
  by_cases enough : 12 ≤ bytes.length
  · rwa [directoryEnd, headerOf_of_permuted enough permuted]
  · intro complete
    exact enough (Nat.le_trans (Nat.le_add_right _ _) complete)

end Archive

namespace ArchiveCodec

open Archive

/--
If no table reaches into the directory, its records may stand in any order: the
archive is loaded all the same, to the same database and the same report.
-/
theorem load_eq_ok_iff_of_permuted
    {bytes other : List UInt8}
    (behind : TablesBehindDirectory bytes)
    (permuted : PermutesDirectory bytes other)
    (codec : ArchiveCodec)
    (loaded : LoadedArchive) :
    codec.load other = .ok loaded ↔ codec.load bytes = .ok loaded := by
  by_cases complete : directoryEnd bytes ≤ bytes.length
  · exact (sameButOrder_of_permuted complete behind permuted).load_eq_ok_iff loaded
  · exact iff_of_false
      (load_ne_ok_of_incomplete (incomplete_of_permuted complete permuted) loaded)
      (load_ne_ok_of_incomplete complete loaded)

/-- A record of a text, one of a palette and one of two programs. -/
def textRecord : List UInt8 := [0, 0, 1, 0, 48, 0, 0, 0, 16, 0, 0, 0]

@[inherit_doc textRecord]
def paletteRecord : List UInt8 := [6, 0, 1, 0, 64, 0, 0, 0, 12, 0, 0, 0]

@[inherit_doc textRecord]
def programsRecord : List UInt8 := [2, 0, 2, 0, 76, 0, 0, 0, 23, 0, 0, 0]

/-- A text that is shorter than it says, half a palette and two broken programs. -/
def threeTables (records : List (List UInt8)) : List UInt8 :=
  [0x52, 0x44, 0x41, 0x54, 1, 0, 3, 0, 99, 0, 0, 0] ++ records.flatten ++
    [0, 0, 10, 0, 0, 0, 6, 0, 0, 0] ++ [9, 0, 0, 0, 0x68, 0x69] ++
    [7, 0, 10, 0, 0, 0, 2, 0, 0, 0] ++ [4, 5] ++
    [9, 0, 20, 0, 0, 0, 1, 0, 0, 0] ++ [4, 0, 21, 0, 0, 0, 2, 0, 0, 0] ++ [7, 8, 9]

/-- The archive with its records in the order of the tables. -/
def textFirst : List UInt8 := threeTables [textRecord, paletteRecord, programsRecord]

/-- The same with the record of the text behind the others. -/
def textLast : List UInt8 := threeTables [paletteRecord, programsRecord, textRecord]

/-- Neither the failures nor the warning tell in which order the tables are named. -/
theorem load_textLast :
    ∃ loaded,
      standard.load textFirst = .ok loaded ∧
        standard.load textLast = .ok loaded ∧
        loaded.database.programs.failures.map Prod.fst = [4, 9] ∧
        loaded.report.warnings = [⟨9, 2⟩] := by
  obtain ⟨loaded, accepted⟩ :=
    Except.exists_of_isOk (show (standard.load textFirst).isOk = true by decide +kernel)
  have report :
      (standard.load textFirst).toOption.map
        (fun loaded =>
          (loaded.database.programs.failures.map Prod.fst, loaded.report.warnings)) =
      some ([4, 9], [⟨9, 2⟩]) := by
    decide +kernel
  rw [accepted] at report
  obtain ⟨failures, warnings⟩ := Prod.mk.inj (Option.some.inj report)
  have behind : TablesBehindDirectory textFirst := by
    unfold TablesBehindDirectory
    decide +kernel
  have permuted : PermutesDirectory textFirst textLast :=
    ⟨[paletteRecord, programsRecord, textRecord], by decide +kernel, by decide +kernel⟩
  exact ⟨loaded, accepted,
    (load_eq_ok_iff_of_permuted behind permuted standard loaded).mpr accepted,
    failures, warnings⟩

end ArchiveCodec

end AdventureArchive
