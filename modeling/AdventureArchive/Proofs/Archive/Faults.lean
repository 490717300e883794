import Mathlib.Tactic.SplitIfs
import AdventureArchive.Archive.Codec
import AdventureArchive.Proofs.Archive.Frame
import AdventureArchive.Proofs.FirstFault
import AdventureArchive.Proofs.SortedMap

namespace AdventureArchive

namespace Archive

/-!
# The faults that end a load

A load fails for faults of the frame and for nothing else.  `Frame` is what the
checks look at: the header, the directory, the ids of each index and the range
of the text.  `Frame.faults` lists what is wrong with it in the order of the
checks; the load reports the first (`ArchiveCodec.load_eq_error_iff`).
-/

/-- The items of a list, each behind the items before it. -/
def withEarlier {α : Type} (earlier : List α) : List α → List (List α × α)
  | [] => []
  | item :: rest => (earlier, item) :: withEarlier (earlier ++ [item]) rest

/-- What the checks look at in a table; of the entries only a text has a range here. -/
structure TableFrame where
  record : DirectoryRecord
  ids : List UInt16
  text? : Option (UInt32 × UInt32)
  deriving Repr, DecidableEq

/-- What the checks look at in an archive. -/
structure Frame where
  length : Nat
  header : Header
  tables : List TableFrame
  deriving Repr, DecidableEq

/-- The frame of a table. -/
def tableFrameOf (bytes : List UInt8) (record : DirectoryRecord) : TableFrame where
  record := record
  ids := (indexOf bytes record).map IndexEntry.id
  text? :=
    if record.kindCode = 0 then
      (indexOf bytes record).head?.map fun entry => (entry.offset, entry.length)
    else
      none

/-- The frame of an archive. -/
def frameOf (bytes : List UInt8) : Frame where
  length := bytes.length
  header := headerOf bytes
  tables := (directoryOf bytes).map (tableFrameOf bytes)

/-- What is wrong with a text in a table of the given length. -/
def rangeFaults (tableLength : Nat) (range : UInt32 × UInt32) : List ResourceError :=
  faultIf (tableLength < range.1.toNat + range.2.toNat)
    (.entryOutOfBounds range.1 range.2 tableLength) ++
  faultIf (range.2.toNat < 4) (.truncated .textLengthPrefix)

namespace TableFrame

variable (table : TableFrame)

/-- What is wrong with the index of a table. -/
def indexFaults : List ArchiveError :=
  faultIf (table.record.length.toNat < 10 * table.record.entryCount.toNat)
    (.truncatedIndex table.record.kind table.record.entryCount) ++
  (withEarlier [] table.ids).flatMap fun (earlier, id) =>
    faultIf (id ∈ earlier) (.duplicateEntry table.record.kind id)

/-- What is wrong with a text table beyond its index. -/
def textFaults : List ArchiveError :=
  faultIf (table.record.entryCount ≠ 1)
    (.malformedText (.entryCount table.record.entryCount.toNat)) ++
  table.text?.toList.flatMap fun range =>
    (rangeFaults table.record.length.toNat range).map fun cause =>
      .malformedText (.entry cause)

/-- What is wrong with a table. -/
def faults : List ArchiveError :=
  table.indexFaults ++ if table.record.kindCode = 0 then table.textFaults else []

end TableFrame

/-- What is wrong with a directory record behind the given ones. -/
def recordFaults
    (archiveLength : Nat)
    (earlier : List DirectoryRecord)
    (record : DirectoryRecord) :
    List ArchiveError :=
  faultIf (9 < record.kindCode) (.unknownTableKind earlier.length record.kindCode) ++
  faultIf (record.kindCode ∈ earlier.map DirectoryRecord.kindCode)
    (.duplicateTable record.kind) ++
  faultIf (archiveLength < record.offset.toNat + record.length.toNat)
    (.tableOutOfBounds record.kind record.offset record.length)

namespace Frame

variable (frame : Frame)

/-- What is wrong with the header. -/
def headerFaults : List ArchiveError :=
  faultIf (frame.length < 12) (.truncatedHeader frame.length) ++
  faultIf (frame.header.magic ≠ magic) .badMagic ++
  faultIf (frame.header.version ≠ version) (.unsupportedVersion frame.header.version) ++
  faultIf (frame.header.length.toNat ≠ frame.length)
    (.lengthMismatch frame.header.length frame.length)

/-- What is wrong with the directory. -/
def directoryFaults : List ArchiveError :=
  faultIf (frame.length < 12 + 12 * frame.header.tableCount.toNat)
    (.truncatedDirectory frame.header.tableCount) ++
  (withEarlier [] (frame.tables.map TableFrame.record)).flatMap fun (earlier, record) =>
    recordFaults frame.length earlier record

/-- What is wrong with an archive, in the order in which it is checked. -/
def faults : List ArchiveError :=
  frame.headerFaults ++ frame.directoryFaults ++ frame.tables.flatMap TableFrame.faults

end Frame

/-! ## The header -/

theorem reportsFirst_readHeader (bytes : List UInt8) :
    ReportsFirst (readHeader bytes) (frameOf bytes).headerFaults := by
  rw [readHeader_eq, Frame.headerFaults]
  simp only [List.append_assoc]
  exact .check fun _ => .check fun _ => .check fun _ => .check_ok

/-! ## The directory -/

/-- The faults of a record come before those of the records behind it. -/
theorem reportsFirst_record
    {archiveLength : Nat}
    {earlier : List DirectoryRecord}
    {record : DirectoryRecord}
    {α : Type}
    {step : Except ArchiveError α}
    {faults : List ArchiveError}
    (remaining : ¬ 9 < record.kindCode → ReportsFirst step faults) :
    ReportsFirst
      (if 9 < record.kindCode then
        .error (.unknownTableKind earlier.length record.kindCode)
      else if record.kindCode ∈ earlier.map DirectoryRecord.kindCode then
        .error (.duplicateTable record.kind)
      else if archiveLength < record.offset.toNat + record.length.toNat then
        .error (.tableOutOfBounds record.kind record.offset record.length)
      else
        step)
      (recordFaults archiveLength earlier record ++ faults) := by
  rw [recordFaults]
  simp only [List.append_assoc]
  exact .check fun isKnown => .check fun _ => .check fun _ => remaining isKnown

theorem reportsFirst_checkRecords
    {archiveLength : Nat}
    {earlier : List DirectoryRecord}
    (known : ∀ record ∈ earlier, ¬ 9 < record.kindCode)
    (records : List DirectoryRecord) :
    ReportsFirst
      (checkRecords archiveLength earlier.length
        (earlier.map DirectoryRecord.span).reverse records)
      ((withEarlier earlier records).flatMap fun (earlier, record) =>
        recordFaults archiveLength earlier record) := by
  induction records generalizing earlier with
  | nil => exact .ok _
  | cons record rest inductionHypothesis =>
      rw [checkRecords_cons known, withEarlier, List.flatMap_cons]
      exact reportsFirst_record fun isKnown => inductionHypothesis
        (List.forall_mem_append.mpr ⟨known, List.forall_mem_singleton.mpr isKnown⟩)

/-- The frame of an archive has a table for each record of its directory. -/
theorem map_record_frameOf (bytes : List UInt8) :
    (frameOf bytes).tables.map TableFrame.record = directoryOf bytes := by
  rw [frameOf, List.map_map]
  exact List.map_id _

theorem reportsFirst_readDirectory (bytes : List UInt8) :
    ReportsFirst (readDirectory bytes)
      ((frameOf bytes).headerFaults ++ (frameOf bytes).directoryFaults) := by
  rw [readDirectory_eq, Frame.directoryFaults, map_record_frameOf]
  exact (reportsFirst_readHeader bytes).bind fun _ _ =>
    .check fun _ => reportsFirst_checkRecords (List.forall_mem_nil _) _

/-! ## The tables -/

/-- The first id that occurred before is found, with the ids seen so far. -/
theorem firstRepeated?_eq
    {seen : SortedMap UInt16 Unit}
    {earlier : List UInt16}
    (sameIds : ∀ id, id ∈ seen.keys ↔ id ∈ earlier)
    (ids : List UInt16)
    (fault : UInt16 → ArchiveError) :
    ((withEarlier earlier ids).flatMap fun (earlier, id) =>
        faultIf (id ∈ earlier) (fault id)).head? =
      (firstRepeated? seen ids).map fault := by
  induction ids generalizing seen earlier with
  | nil => rfl
  | cons id rest inductionHypothesis =>
      simp only [withEarlier, List.flatMap_cons, firstRepeated?]
      by_cases repeated : id ∈ earlier
      · rw [if_pos (SortedMap.contains_iff.mpr ((sameIds id).mpr repeated)),
          faultIf_of repeated]
        rfl
      · have isNew : ¬ seen.contains id = true := fun held =>
          repeated ((sameIds id).mp (SortedMap.contains_iff.mp held))
        rw [if_neg isNew, faultIf_of_not repeated, List.nil_append]
        apply inductionHypothesis
        intro other
        rw [SortedMap.mem_keys_insert_iff, sameIds, List.mem_append, List.mem_singleton, or_comm]

theorem reportsFirst_readIndex
    {bytes : List UInt8}
    {record : DirectoryRecord}
    (inside : record.Inside bytes.length) :
    ReportsFirst (readIndex record.span (tableOf bytes record))
      (tableFrameOf bytes record).indexFaults := by
  rw [readIndex_eq inside]
  refine .check fun _ => ?_
  intro fault
  have noneSeen : ∀ id, id ∈ (SortedMap.empty : SortedMap UInt16 Unit).keys ↔ id ∈ [] := by
    simp [SortedMap.keys, SortedMap.toList, SortedMap.empty]
  rw [firstRepeated?_eq noneSeen]
  change _ ↔ (firstRepeated? .empty ((indexOf bytes record).map IndexEntry.id)).map
    (ArchiveError.duplicateEntry record.kind) = some fault
  split
  next id repeated =>
    rw [repeated]
    simp
  next noneRepeated =>
    rw [noneRepeated]
    simp

/-- A text can be read as soon as there are the four bytes of its length. -/
theorem reportsFirst_decodeText (bytes : List UInt8) :
    ReportsFirst (TextBlob.decode bytes)
      (faultIf (bytes.length < 4) (.truncated .textLengthPrefix)) := by
  unfold TextBlob.decode
  split
  next unread =>
    have short : bytes.length < 4 := LawfulLayout.length_lt_of_read_eq_none unread
    rw [faultIf_of short]
    intro fault
    simp
  next textRead =>
    have enough : ¬ bytes.length < 4 := fun short => by
      rw [LawfulLayout.read_eq_none_iff.mpr short] at textRead
      contradiction
    rw [faultIf_of_not enough]
    exact .ok _

/-- The only entry of a text table has to lie inside the table and to hold a length. -/
theorem reportsFirst_readText
    (table : List UInt8)
    (entry : IndexEntry) :
    ReportsFirst (readText table.toArray [entry])
      ((rangeFaults table.length (entry.offset, entry.length)).map .entry) := by
  refine ReportsFirst.mapError (.bind .check_ok ?_) _
  intro payload cutOut
  split_ifs at cutOut with outside
  have payloadLength : payload.length = entry.length.toNat := by
    rw [← Except.ok.inj cutOut, slice_toArray]
    exact length_byteRange (Nat.le_of_not_lt outside)
  rw [← payloadLength]
  exact reportsFirst_decodeText payload

/-- A text table has to have one entry, which has to be readable. -/
theorem reportsFirst_textTable
    {bytes : List UInt8}
    {record : DirectoryRecord}
    (isText : record.kindCode = 0)
    (inside : record.Inside bytes.length) :
    ReportsFirst
      ((readText (tableOf bytes record).toArray (indexOf bytes record)).mapError
        .malformedText)
      (tableFrameOf bytes record).textFaults := by
  have indexLength := length_indexOf bytes record
  rw [TableFrame.textFaults, tableFrameOf]
  simp only [isText, if_true]
  by_cases single : record.entryCount = 1
  · rw [single] at indexLength
    obtain ⟨entry, onlyEntry⟩ := List.length_eq_one_iff.mp indexLength
    have reports :=
      (reportsFirst_readText (tableOf bytes record) entry).mapError ArchiveError.malformedText
    rw [length_tableOf inside, List.map_map] at reports
    rw [onlyEntry, faultIf_of_not (not_not_intro single), List.nil_append]
    simp only [List.head?_cons, Option.map_some, Option.toList_some, List.flatMap_singleton]
    exact reports
  · have several : ∀ entry, indexOf bytes record ≠ [entry] := by
      intro entry onlyEntry
      rw [onlyEntry, List.length_singleton] at indexLength
      exact single (UInt16.toNat_inj.mp indexLength.symm)
    rw [readText, faultIf_of single, indexLength]
    · intro fault
      simp [Except.mapError]
    · exact several

theorem reportsFirst_readTable
    (registry : OpcodeRegistry)
    {bytes : List UInt8}
    {record : DirectoryRecord}
    (known : ¬ 9 < record.kindCode)
    (inside : record.Inside bytes.length) :
    ReportsFirst (readTable registry bytes.toArray record.span)
      (tableFrameOf bytes record).faults := by
  rw [readTable_eq]
  refine (reportsFirst_readIndex inside).bind ?_
  intro index indexRead
  obtain ⟨rfl, -⟩ := eq_of_readIndex inside indexRead
  change ReportsFirst _ (if record.kindCode = 0 then _ else _)
  split
  next isText =>
    rw [if_pos ((kind_eq_text_iff known).mp isText)]
    exact (reportsFirst_textTable ((kind_eq_text_iff known).mp isText) inside).map _
  next kind isTable =>
    have notZero : ¬ record.kindCode = 0 := fun isZero => by
      rw [(kind_eq_text_iff known).mpr isZero] at isTable
      contradiction
    rw [if_neg notZero]
    exact .ok _

/-! ## The load -/

theorem reportsFirst_load
    (registry : OpcodeRegistry)
    (bytes : List UInt8) :
    ReportsFirst (load registry bytes) (frameOf bytes).faults := by
  rw [load_eq_mapM]
  refine (reportsFirst_readDirectory bytes).bind ?_
  intro spans directoryRead
  obtain ⟨rfl, passes⟩ := eq_of_readDirectory directoryRead
  rw [frameOf, List.flatMap_map, List.mapM_map]
  exact (ReportsFirst.mapM fun record member =>
    reportsFirst_readTable registry (passes record member).1 (passes record member).2).map _

end Archive

namespace ArchiveCodec

open Archive

/--
A load fails with the first fault of the frame, and only then.  Archives with
the same frame fail alike, whatever the codec: nothing else in them and nothing
about a registry makes a load fail.
-/
theorem load_eq_error_iff
    (codec : ArchiveCodec)
    (bytes : List UInt8)
    (fault : ArchiveError) :
    (codec.load bytes = .error fault ↔ (frameOf bytes).faults.head? = some fault) ∧
      ∀ other : ArchiveCodec, ∀ otherBytes, frameOf otherBytes = frameOf bytes →
        (other.load otherBytes = .error fault ↔ codec.load bytes = .error fault) := by
  refine ⟨reportsFirst_load codec.registry bytes fault, ?_⟩
  intro other otherBytes sameFrame
  have reports := reportsFirst_load codec.registry bytes fault
  rw [← sameFrame] at reports
  exact (reportsFirst_load other.registry otherBytes fault).trans reports.symm

/-- A table of programs that lists one id twice, the second time with the given range. -/
def repeatedProgram (offset payload : UInt8) : List UInt8 := [
  0x52, 0x44, 0x41, 0x54, 1, 0, 1, 0, 45, 0, 0, 0,
  2, 0, 2, 0, 24, 0, 0, 0, 21, 0, 0, 0,
  4, 0, 20, 0, 0, 0, 1, 0, 0, 0,
  4, 0, offset, 0, 0, 0, 1, 0, 0, 0,
  payload]

/-- The repetition is the fault, wherever the entries lie and whatever they hold. -/
theorem load_repeatedProgram :
    frameOf (repeatedProgram 255 7) = frameOf (repeatedProgram 20 0) ∧
      standard.load (repeatedProgram 20 0) =
        .error (.duplicateEntry (.table .program) 4) ∧
      (⟨.empty, false⟩ : ArchiveCodec).load (repeatedProgram 255 7) =
        .error (.duplicateEntry (.table .program) 4) := by
  have sameFrame : frameOf (repeatedProgram 255 7) = frameOf (repeatedProgram 20 0) := by
    decide +kernel
  obtain ⟨fails, alike⟩ :=
    load_eq_error_iff standard (repeatedProgram 20 0) (.duplicateEntry (.table .program) 4)
  have failed := fails.mpr (by decide +kernel)
  exact ⟨sameFrame, failed, (alike ⟨.empty, false⟩ _ sameFrame).mpr failed⟩

end ArchiveCodec

end AdventureArchive
