import AdventureArchive.Proofs.Archive.Frame
import AdventureArchive.Proofs.InPlace.Access

namespace AdventureArchive.InPlace

/-!
# The frame in place

Header, directory and index are read in place by the positions of their fields.
Each check is made before the accesses that rely on it, so none of them goes
astray and the outcome is that of reading in order (`readDirectory_eq`,
`readIndex_eq`).  The entries of a table are cut out of it by their ranges
(`entryBytes_eq`).
-/

open Archive

/-- Reads the header: the number of tables. -/
def readHeader (bytes : List UInt8) : Except (Stop ArchiveError) UInt16 :=
  if bytes.length < 12 then
    .error (.fault (.truncatedHeader bytes.length))
  else do
    let front ← cut bytes 0 4
    if front ≠ magic.toList then
      .error (.fault .badMagic)
    else do
      let found ← wordAt bytes 4
      if found ≠ version then
        .error (.fault (.unsupportedVersion found))
      else do
        let tableCount ← wordAt bytes 6
        let declared ← longAt bytes 8
        if declared.toNat ≠ bytes.length then
          .error (.fault (.lengthMismatch declared bytes.length))
        else
          .ok tableCount

/--
Reads directory records from an index on.  `seen` has a flag for each kind, set
if it has occurred; `spans` are the tables so far, the last one first.
-/
def readRecords
    (bytes : List UInt8)
    (seen : List Bool)
    (spans : List TableSpan) :
    Nat → Nat → Except (Stop ArchiveError) (List TableSpan)
  | 0, _ => .ok spans.reverse
  | count + 1, index => do
      let base := 12 + index * 12
      let kindCode ← byteAt bytes base
      match ResourceKind.ofCode? kindCode with
      | none => .error (.fault (.unknownTableKind index kindCode))
      | some kind => do
          let wasSeen ← flagAt seen kindCode.toNat
          if wasSeen then
            .error (.fault (.duplicateTable kind))
          else do
            let entryCount ← wordAt bytes (base + 2)
            let offset ← longAt bytes (base + 4)
            let length ← longAt bytes (base + 8)
            let stop ← within64 (offset.toNat + length.toNat)
            if bytes.length < stop then
              .error (.fault (.tableOutOfBounds kind offset length))
            else
              readRecords bytes (seen.set kindCode.toNat true)
                (⟨kind, entryCount, offset, length⟩ :: spans) count (index + 1)

/-- Reads the directory behind the header. -/
def readDirectory (bytes : List UInt8) : Except (Stop ArchiveError) (List TableSpan) := do
  let tableCount ← readHeader bytes
  let stop ← within64 (12 + tableCount.toNat * 12)
  if bytes.length < stop then
    .error (.fault (.truncatedDirectory tableCount))
  else
    readRecords bytes (List.replicate ResourceKind.all.length false) [] tableCount.toNat 0

/--
Reads index entries from a slot on, with the ids so far and the entries so far,
the last one first.
-/
def readEntries
    (kind : ResourceKind)
    (table : List UInt8)
    (seen : SortedMap UInt16 Unit)
    (entries : List IndexEntry) :
    Nat → Nat → Except (Stop ArchiveError) (List IndexEntry)
  | 0, _ => .ok entries.reverse
  | count + 1, slot => do
      let base := slot * 10
      let id ← wordAt table base
      let offset ← longAt table (base + 2)
      let length ← longAt table (base + 6)
      if seen.contains id then
        .error (.fault (.duplicateEntry kind id))
      else
        readEntries kind table (seen.insert id ()) (⟨id, offset, length⟩ :: entries)
          count (slot + 1)

/-- Reads the index at the start of a table. -/
def readIndex
    (span : TableSpan)
    (table : List UInt8) :
    Except (Stop ArchiveError) (List IndexEntry) := do
  let stop ← within64 (span.entryCount.toNat * 10)
  if table.length < stop then
    .error (.fault (.truncatedIndex span.kind span.entryCount))
  else
    readEntries span.kind table .empty [] span.entryCount.toNat 0

/-- The bytes from the start of a range on, as many as its length says. -/
def cutRange
    {ε : Type}
    (bytes : List UInt8)
    (offset length : UInt32) :
    Except (Stop ε) (List UInt8) := do
  let stop ← within64 (offset.toNat + length.toNat)
  cut bytes offset.toNat stop

/-- The bytes of an entry. -/
def entryBytes
    (table : List UInt8)
    (entry : IndexEntry) :
    Except (Stop ResourceError) (List UInt8) := do
  let stop ← within64 (entry.offset.toNat + entry.length.toNat)
  if table.length < stop then
    .error (.fault (.entryOutOfBounds entry.offset entry.length table.length))
  else
    cutRange table entry.offset entry.length

/-- The end of a range always fits 64 bits. -/
theorem within64_range
    {ε : Type}
    (offset length : UInt32) :
    within64 (ε := ε) (offset.toNat + length.toNat) = .ok (offset.toNat + length.toNat) := by
  have smallOffset := offset.toNat_lt
  have smallLength := length.toNat_lt
  have enough : 2 ^ 32 + 2 ^ 32 < UInt64.size := by decide
  exact within64_eq (by omega)

/-! ## Fields by position -/

section Fields

variable {bytes : List UInt8} {position : Nat}

/-- The fields of a header lie one behind the other. -/
theorem valueAt_header
    (inside : position + 12 ≤ bytes.length) :
    Layout.valueAt Header bytes position =
      ⟨Layout.valueAt (Vector UInt8 4) bytes position,
        Layout.valueAt UInt16 bytes (position + 4),
        Layout.valueAt UInt16 bytes (position + 6),
        Layout.valueAt UInt32 bytes (position + 8)⟩ := by
  rw [Layout.valueAt_via inside, Layout.valueAt_pair, Layout.valueAt_pair, Layout.valueAt_pair]
  · rfl
  all_goals exact inside

/-- So do those of a directory record. -/
theorem valueAt_record
    (inside : position + 12 ≤ bytes.length) :
    Layout.valueAt DirectoryRecord bytes position =
      ⟨Layout.valueAt UInt8 bytes position,
        Layout.valueAt UInt8 bytes (position + 1),
        Layout.valueAt UInt16 bytes (position + 2),
        Layout.valueAt UInt32 bytes (position + 4),
        Layout.valueAt UInt32 bytes (position + 8)⟩ := by
  rw [Layout.valueAt_via inside, Layout.valueAt_pair, Layout.valueAt_pair, Layout.valueAt_pair,
    Layout.valueAt_pair]
  · rfl
  all_goals exact inside

/-- So do those of an index entry. -/
theorem valueAt_entry
    (inside : position + 10 ≤ bytes.length) :
    Layout.valueAt IndexEntry bytes position =
      ⟨Layout.valueAt UInt16 bytes position,
        Layout.valueAt UInt32 bytes (position + 2),
        Layout.valueAt UInt32 bytes (position + 6)⟩ := by
  rw [Layout.valueAt_via inside, Layout.valueAt_pair, Layout.valueAt_pair]
  · rfl
  all_goals exact inside

/-- The fields of a directory record are found where they lie. -/
theorem accesses_record
    (ε : Type)
    (inside : position + 12 ≤ bytes.length) :
    byteAt (ε := ε) bytes position =
        .ok (Layout.valueAt DirectoryRecord bytes position).kindCode ∧
      wordAt (ε := ε) bytes (position + 2) =
        .ok (Layout.valueAt DirectoryRecord bytes position).entryCount ∧
      longAt (ε := ε) bytes (position + 4) =
        .ok (Layout.valueAt DirectoryRecord bytes position).offset ∧
      longAt (ε := ε) bytes (position + 8) =
        .ok (Layout.valueAt DirectoryRecord bytes position).length := by
  rw [valueAt_record inside]
  exact ⟨byteAt_eq (by omega), wordAt_eq (by omega), longAt_eq (by omega), longAt_eq (by omega)⟩

/-- So are those of an index entry. -/
theorem accesses_entry
    (ε : Type)
    (inside : position + 10 ≤ bytes.length) :
    wordAt (ε := ε) bytes position =
        .ok (Layout.valueAt IndexEntry bytes position).id ∧
      longAt (ε := ε) bytes (position + 2) =
        .ok (Layout.valueAt IndexEntry bytes position).offset ∧
      longAt (ε := ε) bytes (position + 6) =
        .ok (Layout.valueAt IndexEntry bytes position).length := by
  rw [valueAt_entry inside]
  exact ⟨wordAt_eq (by omega), longAt_eq (by omega), longAt_eq (by omega)⟩

end Fields

/-! ## The header -/

/-- The first field of a header are its first four bytes. -/
theorem toList_magic_headerOf
    {bytes : List UInt8}
    (enough : 12 ≤ bytes.length) :
    (headerOf bytes).magic.toList = byteRange bytes 0 4 := by
  have inside : 0 + Layout.width (Vector UInt8 4) ≤ bytes.length :=
    Nat.le_trans (by decide) enough
  have written := Layout.write_valueAt inside
  rw [headerOf, valueAt_header enough]
  rw [← List.flatMap_singleton' (Vector.toList _)]
  exact written

theorem readHeader_eq (bytes : List UInt8) :
    readHeader bytes = safely ((Archive.readHeader bytes).map Prod.fst) := by
  rw [readHeader, Archive.readHeader_eq]
  by_cases short : bytes.length < 12
  · rw [if_pos short, if_pos short]
    rfl
  · have enough : 12 ≤ bytes.length := Nat.le_of_not_lt short
    have inside : 0 + 12 ≤ bytes.length := enough
    have fields : headerOf bytes = _ := valueAt_header inside
    have sameMagic : byteRange bytes 0 4 ≠ magic.toList ↔ (headerOf bytes).magic ≠ magic := by
      rw [← toList_magic_headerOf enough, Ne, Vector.toList_inj]
    rw [if_neg short, if_neg short, cut_eq (by omega) (by omega), wordAt_eq (by omega),
      wordAt_eq (by omega), longAt_eq (by omega)]
    simp only [Except.ok_bind, sameMagic]
    rw [fields]
    dsimp only
    split_ifs
    all_goals rfl

/-! ## The directory -/

/-- Flags that are set for the kinds of some records, and for no others. -/
def Marks (seen : List Bool) (earlier : List DirectoryRecord) : Prop :=
  ∀ code : UInt8, ¬ 9 < code →
    seen[code.toNat]? = some (decide (code ∈ earlier.map DirectoryRecord.kindCode))

/-- At first no flag is set. -/
theorem marks_nil : Marks (List.replicate ResourceKind.all.length false) [] := by
  intro code known
  rw [List.getElem?_replicate, if_pos]
  · rfl
  · exact Nat.lt_of_le_of_lt (UInt8.le_iff_toNat_le.mp (UInt8.not_lt.mp known)) (by decide)

/-- Setting the flag of a record marks it behind the others. -/
theorem marks_append
    {seen : List Bool}
    {earlier : List DirectoryRecord}
    (marks : Marks seen earlier)
    (record : DirectoryRecord) :
    Marks (seen.set record.kindCode.toNat true) (earlier ++ [record]) := by
  intro code known
  have wasThere := marks code known
  rw [List.map_append, List.map_singleton]
  by_cases same : code = record.kindCode
  · subst same
    obtain ⟨inside, -⟩ := List.getElem?_eq_some_iff.mp wasThere
    rw [List.getElem?_set_self inside]
    simp
  · have elsewhere : record.kindCode.toNat ≠ code.toNat := fun equal =>
      same (UInt8.toNat_inj.mp equal.symm)
    rw [List.getElem?_set_ne elsewhere, wasThere]
    simp [same]

/-- Records are read in place as they are checked in order. -/
theorem readRecords_eq
    {bytes : List UInt8}
    {seen : List Bool}
    {earlier : List DirectoryRecord}
    {count : Nat}
    (known : ∀ record ∈ earlier, ¬ 9 < record.kindCode)
    (marks : Marks seen earlier)
    (enough : 12 + (earlier.length + count) * 12 ≤ bytes.length) :
    readRecords bytes seen (earlier.map DirectoryRecord.span).reverse count earlier.length =
      safely
        (checkRecords bytes.length earlier.length (earlier.map DirectoryRecord.span).reverse
          ((List.range' earlier.length count).map fun index =>
            Layout.valueAt DirectoryRecord bytes (12 + index * 12))) := by
  -- What is kept is that the flags mark the records read so far.
  induction count generalizing earlier seen with
  | zero => rfl
  | succ count inductionHypothesis =>
      have inside : 12 + earlier.length * 12 + 12 ≤ bytes.length := by omega
      obtain ⟨kindRead, countRead, offsetRead, lengthRead⟩ := accesses_record ArchiveError inside
      rw [List.range'_succ, List.map_cons, checkRecords_cons known, readRecords]
      generalize Layout.valueAt DirectoryRecord bytes (12 + earlier.length * 12) = record at *
      rw [kindRead, Except.ok_bind, ofCode?_eq]
      by_cases unknown : 9 < record.kindCode
      · rw [if_pos unknown, if_pos unknown]
        rfl
      · have flagRead :
            flagAt (ε := ArchiveError) seen record.kindCode.toNat =
              .ok (decide (record.kindCode ∈ earlier.map DirectoryRecord.kindCode)) := by
          rw [flagAt, marks _ unknown]
        rw [if_neg unknown, if_neg unknown]
        dsimp only
        rw [flagRead, countRead, offsetRead, lengthRead]
        simp only [Except.ok_bind, decide_eq_true_eq, within64_range]
        split_ifs with repeated outside
        · rfl
        · rfl
        · have knownNow : ∀ other ∈ earlier ++ [record], ¬ 9 < other.kindCode :=
            List.forall_mem_append.mpr ⟨known, List.forall_mem_singleton.mpr unknown⟩
          have remaining := inductionHypothesis knownNow (marks_append marks record) (by
            rw [List.length_append, List.length_singleton]
            omega)
          rw [List.length_append, List.length_singleton] at remaining
          rw [List.length_append, List.length_singleton, ← remaining, List.map_append,
            List.reverse_append]
          rfl

/-- Reading the directory in place comes to the tables, or to the fault, of reading in order. -/
theorem readDirectory_eq (bytes : List UInt8) :
    readDirectory bytes = safely (Archive.readDirectory bytes) := by
  rw [readDirectory, readHeader_eq, Archive.readDirectory_eq]
  match headerRead : Archive.readHeader bytes with
  | .error cause => rfl
  | .ok behind =>
      obtain ⟨-, rfl⟩ := eq_of_readHeader headerRead
      have fits := runEnd_lt 12 12 (headerOf bytes).tableCount (by decide)
      change within64 (12 + (headerOf bytes).tableCount.toNat * 12) >>= _ =
        safely (if _ then _ else _)
      rw [within64_eq fits, Except.ok_bind, Nat.mul_comm]
      split_ifs with short
      · rfl
      · have records :=
          readRecords_eq (List.forall_mem_nil _) marks_nil (by
            rw [List.length_nil, Nat.zero_add, Nat.mul_comm]
            exact Nat.le_of_not_lt short)
        rw [List.length_nil, ← List.range_eq_range'] at records
        exact records

/-! ## The index -/

/-- Entries are read in place up to the first id that occurred before. -/
theorem readEntries_eq
    {kind : ResourceKind}
    {table : List UInt8}
    {seen : SortedMap UInt16 Unit}
    {entries : List IndexEntry}
    {count slot : Nat}
    (enough : (slot + count) * 10 ≤ table.length) :
    readEntries kind table seen entries count slot =
      match
        firstRepeated? seen
          (((List.range' slot count).map fun slot =>
            Layout.valueAt IndexEntry table (slot * 10)).map IndexEntry.id) with
      | some id => .error (.fault (.duplicateEntry kind id))
      | none =>
          .ok (entries.reverse ++ (List.range' slot count).map fun slot =>
            Layout.valueAt IndexEntry table (slot * 10)) := by
  induction count generalizing seen entries slot with
  | zero => simp [readEntries, firstRepeated?]
  | succ count inductionHypothesis =>
      have inside : slot * 10 + 10 ≤ table.length := by omega
      obtain ⟨idRead, offsetRead, lengthRead⟩ := accesses_entry ArchiveError inside
      rw [List.range'_succ, List.map_cons, List.map_cons, firstRepeated?, readEntries]
      -- From here on it does not matter where the entry was found.
      generalize Layout.valueAt IndexEntry table (slot * 10) = entry at *
      rw [idRead, offsetRead, lengthRead]
      simp only [Except.ok_bind]
      split_ifs with repeated
      · rfl
      · rw [inductionHypothesis (by omega), List.reverse_cons, List.append_assoc]
        rfl

/-- Reading an index in place comes to the entries, or to the fault, of reading in order. -/
theorem readIndex_eq
    (span : TableSpan)
    (table : List UInt8) :
    readIndex span table = safely (Archive.readIndex span table) := by
  have fits := runEnd_lt 0 10 span.entryCount (by decide)
  rw [Nat.zero_add] at fits
  rw [readIndex, Archive.readIndex, within64_eq fits, Except.ok_bind]
  split_ifs with short
  · have unread :
        Layout.readMany (α := IndexEntry) span.entryCount.toNat table = none :=
      Layout.readMany_eq_none_iff.mpr short
    rw [unread]
    rfl
  · have wholeIndex :=
      Layout.readMany_start (α := IndexEntry) (Nat.le_of_not_lt short)
    rw [wholeIndex, readEntries_eq (by omega), ← List.range_eq_range']
    dsimp only
    generalize (List.range span.entryCount.toNat).map _ = index
    cases firstRepeated? .empty (index.map IndexEntry.id) with
    | none => rfl
    | some id => rfl

/-! ## Entries -/

/-- A range that has been found inside is cut out. -/
theorem cutRange_eq
    (ε : Type)
    {bytes : List UInt8}
    {offset length : UInt32}
    (inside : offset.toNat + length.toNat ≤ bytes.length) :
    cutRange (ε := ε) bytes offset length = .ok (byteRange bytes offset.toNat length.toNat) := by
  rw [cutRange, within64_range, Except.ok_bind, cut_eq (Nat.le_add_right _ _) inside,
    Nat.add_sub_cancel_left]

/-- An entry is cut out in place if its range lies inside the table. -/
theorem entryBytes_eq
    (table : List UInt8)
    (entry : IndexEntry) :
    entryBytes table entry = safely (Archive.entryBytes table.toArray entry) := by
  rw [entryBytes, within64_range, Except.ok_bind, Archive.entryBytes, List.size_toArray,
    slice_toArray]
  split_ifs with outside
  · rfl
  · rw [cutRange_eq ResourceError (Nat.le_of_not_lt outside)]
    rfl

end AdventureArchive.InPlace
