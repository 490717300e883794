import AdventureArchive.Program.Format
import AdventureArchive.Proofs.Bytes.SingleByteText
import AdventureArchive.Proofs.Fallible
import AdventureArchive.Proofs.SortedMap

namespace AdventureArchive

/-!
# String records

The strings of a stored program are records: an id, a length, and the bytes of
the text.  Any records with different ids can be read, in the order in which
they stand (`Program.records_of_readStrings`); they are written in the order of
their ids (`Program.writeStrings_ofList`), and read back (`Program.readStrings_append`).
-/

/-- A string as it is stored, with no more bytes than its length field can count. -/
@[ext] structure StringRecord where
  id : UInt16
  text : List UInt8
  fits : text.length < UInt16.size
  deriving DecidableEq

namespace StringRecord

/-- The bytes of a string record. -/
def stored (record : StringRecord) : List UInt8 :=
  Layout.write record.id ++ Layout.write (UInt16.ofNat record.text.length) ++ record.text

/-- The id and the string that a record stands for. -/
def entry (record : StringRecord) : UInt16 × String :=
  (record.id, SingleByteText.decode record.text)

/-- Whether a record may stand before another one in the order of ids. -/
def idLe (first second : StringRecord) : Bool :=
  first.id ≤ second.id

/-- Records sorted by their ids. -/
def sorted (records : List StringRecord) : List StringRecord :=
  records.mergeSort idLe

theorem sorted_perm (records : List StringRecord) : (sorted records).Perm records :=
  List.mergeSort_perm records idLe

/-- Records with different ids are sorted strictly. -/
theorem ascending_sorted
    {records : List StringRecord}
    (nodup : (records.map id).Nodup) :
    (sorted records).Pairwise fun first second => first.id < second.id := by
  have ordered : (sorted records).Pairwise fun first second => idLe first second = true := by
    apply List.pairwise_mergeSort
    · intro first second third firstOrdered secondOrdered
      simp only [idLe, decide_eq_true_eq] at *
      exact UInt16.le_trans firstOrdered secondOrdered
    · intro first second
      simp only [idLe, Bool.or_eq_true, decide_eq_true_eq]
      exact UInt16.le_total first.id second.id
  have different : (sorted records).Pairwise fun first second => first.id ≠ second.id :=
    List.pairwise_map.mp (((sorted_perm records).map id).nodup_iff.mpr nodup)
  refine ordered.imp₂ ?_ different
  intro first second notAbove distinct
  exact UInt16.lt_of_le_of_ne (of_decide_eq_true notAbove) distinct

/-- Records that ascend already are left as they are. -/
theorem sorted_of_ascending
    {records : List StringRecord}
    (ascending : records.Pairwise fun first second => first.id < second.id) :
    sorted records = records :=
  List.mergeSort_of_pairwise (ascending.imp fun below => decide_eq_true (UInt16.le_of_lt below))

end StringRecord

namespace Program

open StringRecord (stored entry sorted sorted_perm ascending_sorted)

/-- As many bytes as a list has are the list. -/
theorem takeBytes?_append
    (front rest : List UInt8) :
    takeBytes? front.length (front ++ rest) = some (front, rest) := by
  simp [takeBytes?]

/-- Bytes that have been taken stood at the front, in the number asked for. -/
theorem eq_append_of_takeBytes?
    {count : Nat}
    {bytes front rest : List UInt8}
    (taken : takeBytes? count bytes = some (front, rest)) :
    front.length = count ∧ bytes = front ++ rest := by
  unfold takeBytes? at taken
  simp only at taken
  split at taken
  next enough =>
    simp only [Option.some.injEq, Prod.mk.injEq] at taken
    obtain ⟨rfl, rfl⟩ := taken
    exact ⟨enough, (List.take_append_drop count bytes).symm⟩
  next => contradiction

/-- A string record is its id, its length and its bytes. -/
theorem writeString_eq_ok_iff
    {entry : UInt16 × String}
    {record : List UInt8} :
    writeString entry = .ok record ↔
      ∃ text : List UInt8,
        SingleByteText.decode text = entry.2 ∧ text.length < UInt16.size ∧
          Layout.write entry.1 ++ Layout.write (UInt16.ofNat text.length) ++ text =
            record := by
  unfold writeString
  split
  next unencodable =>
    simp only [reduceCtorEq, false_iff]
    rintro ⟨text, spelled, -⟩
    rw [SingleByteText.encode?_eq_some_iff.mpr spelled] at unencodable
    contradiction
  next text encoded =>
    have spelled := SingleByteText.encode?_eq_some_iff.mp encoded
    constructor
    · intro written
      split at written
      next fits => exact ⟨text, spelled, fits, Except.ok.inj written⟩
      next => contradiction
    · rintro ⟨other, otherSpelled, fits, rfl⟩
      rw [← SingleByteText.encode?_eq_some_iff, encoded] at otherSpelled
      obtain rfl := Option.some.inj otherSpelled
      rw [if_pos fits]

/-- A string record at the front of some bytes is read and collected. -/
theorem readStringsOnto_append
    {entry : UInt16 × String}
    {record : List UInt8}
    (written : writeString entry = .ok record)
    {collected : SortedMap UInt16 String}
    (isNew : collected.contains entry.1 = false)
    (count : Nat)
    (rest : List UInt8) :
    readStringsOnto collected (count + 1) (record ++ rest) =
      readStringsOnto (collected.insert entry.1 entry.2) count rest := by
  obtain ⟨text, spelled, fits, rfl⟩ := writeString_eq_ok_iff.mp written
  have length : (UInt16.ofNat text.length).toNat = text.length :=
    UInt16.toNat_ofNat_of_lt' fits
  simp only [readStringsOnto, List.append_assoc, LawfulLayout.read_append, length,
    takeBytes?_append, isNew, spelled, Bool.false_eq_true, if_false]

/-- String records in ascending id order are read and appended. -/
theorem readStringsOnto_flatten
    {entries : List (UInt16 × String)}
    {records : List (List UInt8)}
    (written : entries.map writeString = records.map .ok)
    {collected : SortedMap UInt16 String}
    (ascending : (collected.toList ++ entries).Pairwise fun first second =>
      rank first.1 < rank second.1)
    (rest : List UInt8) :
    readStringsOnto collected entries.length (records.flatten ++ rest) =
      .ok (collected.insertAll entries, rest) := by
  induction entries generalizing records collected with
  | nil =>
      obtain rfl : records = [] := List.map_eq_nil_iff.mp written.symm
      rfl
  | cons entry others inductionHypothesis =>
      obtain ⟨record, others', rfl, recordWritten, othersWritten⟩ :=
        List.map_eq_cons_iff.mp written.symm
      have above : ∀ earlier ∈ collected.toList, rank earlier.1 < rank entry.1 :=
        fun earlier member =>
          (List.pairwise_append.mp ascending).2.2 earlier member entry List.mem_cons_self
      have isNew : collected.contains entry.1 = false := by
        apply SortedMap.contains_eq_false
        intro earlier member sameId
        have := above earlier member
        rw [sameId] at this
        exact Nat.lt_irrefl _ this
      have stillAscending :
          ((collected.insert entry.1 entry.2).toList ++ others).Pairwise
            fun first second => rank first.1 < rank second.1 := by
        rw [SortedMap.toList_insert_of_above above]
        simpa using ascending
      rw [List.length_cons, List.flatten_cons, List.append_assoc,
        readStringsOnto_append recordWritten.symm isNew,
        inductionHypothesis othersWritten.symm stillAscending, SortedMap.insertAll_cons]

/-- A string section is read back, and what follows it is left. -/
theorem readStrings_append
    {strings : SortedMap UInt16 String}
    {stored : List UInt8}
    (written : writeStrings strings = .ok stored)
    (rest : List UInt8) :
    readStrings (stored ++ rest) = .ok (strings, rest) := by
  unfold writeStrings at written
  split at written
  next fits =>
    obtain ⟨records, recordsWritten, stringsWritten⟩ := Except.bind_eq_ok_iff.mp written
    obtain rfl := Except.ok.inj stringsWritten
    have count : (UInt16.ofNat strings.size).toNat = strings.toList.length :=
      UInt16.toNat_ofNat_of_lt' fits
    have ascending :
        ((SortedMap.empty : SortedMap UInt16 String).toList ++ strings.toList).Pairwise
          fun first second => rank first.1 < rank second.1 :=
      strings.ascending
    have readBack :=
      readStringsOnto_flatten (Except.mapM_eq_ok_iff.mp recordsWritten) ascending rest
    simp only [readStrings, List.append_assoc, LawfulLayout.read_append, count]
    rw [readBack, SortedMap.insertAll_toList]
  next => contradiction

/-! ## Records -/

/-- The bytes of the string section that has the given records. -/
def stringSection (records : List StringRecord) : List UInt8 :=
  Layout.write (UInt16.ofNat records.length) ++ records.flatMap stored

/-- A record is what is written for its entry. -/
theorem writeString_entry (record : StringRecord) :
    writeString record.entry = .ok record.stored :=
  writeString_eq_ok_iff.mpr ⟨record.text, rfl, record.fits, rfl⟩

/-- Strings that have been read are collected from records with new and different ids. -/
theorem records_of_readStringsOnto
    {count : Nat}
    {collected strings : SortedMap UInt16 String}
    {bytes rest : List UInt8}
    (accepted : readStringsOnto collected count bytes = .ok (strings, rest)) :
    ∃ records : List StringRecord,
      records.length = count ∧
        bytes = records.flatMap stored ++ rest ∧
        strings = collected.insertAll (records.map entry) ∧
        (records.map StringRecord.id).Nodup ∧
        ∀ record ∈ records, record.id ∉ collected.keys := by
  induction count generalizing collected bytes with
  | zero =>
      simp only [readStringsOnto, Except.ok.injEq, Prod.mk.injEq] at accepted
      obtain ⟨rfl, rfl⟩ := accepted
      exact ⟨[], rfl, rfl, rfl, List.nodup_nil, by simp⟩
  | succ count inductionHypothesis =>
      simp only [readStringsOnto] at accepted
      split at accepted
      next => contradiction
      next newId behindId idShape =>
        split at accepted
        next => contradiction
        next length behindLength lengthShape =>
          split at accepted
          next => contradiction
          next text behindText textShape =>
            split at accepted
            next => contradiction
            next isNew =>
              obtain ⟨textLength, textSplit⟩ := eq_append_of_takeBytes? textShape
              obtain ⟨records, sameCount, bytesShape, rfl, nodup, fresh⟩ :=
                inductionHypothesis accepted
              have fits : text.length < UInt16.size := textLength ▸ length.toNat_lt
              simp only [SortedMap.mem_keys_insert_iff, not_or] at fresh
              refine ⟨⟨newId, text, fits⟩ :: records, ?_, ?_, rfl, ?_, ?_⟩
              · rw [List.length_cons, sameCount]
              · rw [LawfulLayout.eq_append_of_read idShape,
                  LawfulLayout.eq_append_of_read lengthShape, textSplit, bytesShape]
                simp [stored, textLength]
              · refine List.nodup_cons.mpr ⟨?_, nodup⟩
                rintro repeated
                obtain ⟨record, member, sameId⟩ := List.mem_map.mp repeated
                exact (fresh record member).1 sameId
              · refine List.forall_mem_cons.mpr ⟨?_, fun record member => (fresh record member).2⟩
                exact fun held => isNew (SortedMap.contains_iff.mpr held)

/-- A string section that has been read is made of records with different ids. -/
theorem records_of_readStrings
    {strings : SortedMap UInt16 String}
    {bytes rest : List UInt8}
    (accepted : readStrings bytes = .ok (strings, rest)) :
    ∃ records : List StringRecord,
      records.length < UInt16.size ∧
        bytes = stringSection records ++ rest ∧
        strings = SortedMap.ofList (records.map entry) ∧
        (records.map StringRecord.id).Nodup := by
  unfold readStrings at accepted
  split at accepted
  next => contradiction
  next count behindCount countShape =>
    obtain ⟨records, sameCount, bytesShape, rfl, nodup, -⟩ := records_of_readStringsOnto accepted
    refine ⟨records, sameCount ▸ count.toNat_lt, ?_, rfl, nodup⟩
    rw [LawfulLayout.eq_append_of_read countShape, bytesShape, stringSection, sameCount,
      UInt16.ofNat_toNat, List.append_assoc]

/-- The strings of records with different ids stand in the order of the sorted records. -/
theorem toList_ofList_entry
    {records : List StringRecord}
    (nodup : (records.map StringRecord.id).Nodup) :
    (SortedMap.ofList (records.map entry)).toList = (sorted records).map entry := by
  have keysNodup : ((records.map entry).map Prod.fst).Nodup := by
    rw [List.map_map]
    exact nodup
  rw [SortedMap.ofList_eq_of_perm ((sorted_perm records).map entry).symm keysNodup]
  apply SortedMap.toList_ofList_of_ascending
  exact List.pairwise_map.mpr ((ascending_sorted nodup).imp UInt16.lt_iff_toNat_lt.mp)

/-- The strings of records with different ids are written as the sorted records. -/
theorem writeStrings_ofList
    {records : List StringRecord}
    (few : records.length < UInt16.size)
    (nodup : (records.map StringRecord.id).Nodup) :
    writeStrings (SortedMap.ofList (records.map entry)) = .ok (stringSection (sorted records)) := by
  have entries := toList_ofList_entry nodup
  have size : (SortedMap.ofList (records.map entry)).size = (sorted records).length := by
    rw [← SortedMap.length_toList, entries, List.length_map]
  have written :
      (SortedMap.ofList (records.map entry)).toList.mapM writeString =
        .ok ((sorted records).map stored) := by
    rw [entries, Except.mapM_eq_ok_iff, List.map_map, List.map_map]
    exact List.map_congr_left fun record _ => writeString_entry record
  rw [← (sorted_perm records).length_eq] at few
  rw [writeStrings, size, if_pos few, written, Except.ok_bind, stringSection,
    List.flatMap_def]
  rfl

end Program

end AdventureArchive
