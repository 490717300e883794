import AdventureArchive.Bytes.LayoutLaws
import AdventureArchive.Image.Lz.Flags

namespace AdventureArchive.Lz

/-!
# Agreement of flag writers and flag readers

A stream is a run of items, each of them a flag or a byte.  What a reader still
has in front of it depends on nothing but the items to come and the number of
flags already taken from the current word.  `FlagReader.before` is that reader.

A reader takes the first item off (`flag?_before`, `byte?_before`), and a writer
leaves behind what such a reader expects (`bytes_putAll`), so a reader opened on
a written stream stands before all of its items (`ofInput?_bytes_putAll`).
-/

/-- One thing a stream holds. -/
inductive StreamItem where
  | flag (value : Bool)
  | byte (value : UInt8)
  deriving Repr, DecidableEq

namespace StreamItem

/-- Number of flags taken from the current word behind an item. -/
def advance (used : Nat) : StreamItem → Nat
  | .flag _ => if used < flagsPerWord then used + 1 else 1
  | .byte _ => used

/-- Number of flags taken from the current word behind a run of items. -/
def advanceAll (used : Nat) (items : List StreamItem) : Nat :=
  items.foldl (fun taken item => item.advance taken) used

end StreamItem

namespace FlagWriter

/-- Appends one item. -/
def put (writer : FlagWriter) : StreamItem → FlagWriter
  | .flag value => writer.flag value
  | .byte value => writer.byte value

/-- Appends items one after the other. -/
def putAll (writer : FlagWriter) (items : List StreamItem) : FlagWriter :=
  items.foldl put writer

@[simp] theorem putAll_nil (writer : FlagWriter) : writer.putAll [] = writer :=
  rfl

@[simp] theorem putAll_cons
    (writer : FlagWriter)
    (item : StreamItem)
    (rest : List StreamItem) :
    writer.putAll (item :: rest) = (writer.put item).putAll rest :=
  rfl

/-- Items may be appended in two runs. -/
theorem putAll_append
    (writer : FlagWriter)
    (items more : List StreamItem) :
    writer.putAll (items ++ more) = (writer.putAll items).putAll more :=
  List.foldl_append

end FlagWriter

/-- How many numbers so many flags can stand for. -/
def flagCapacity : Nat → Nat
  | 0 => 1
  | count + 1 => 2 * flagCapacity count

/-- The number of some flags is one of those that so many flags can stand for. -/
theorem numberOfFlags_lt (flags : List Bool) :
    numberOfFlags flags < flagCapacity flags.length := by
  induction flags with
  | nil => decide
  | cons flag rest inductionHypothesis =>
      have digit : flag.toNat ≤ 1 := flag.toNat_le
      simp only [numberOfFlags, List.length_cons, flagCapacity]
      omega

/-- The flags of a number are the ones it was made of. -/
theorem flagsOfNumber_numberOfFlags (flags : List Bool) :
    flagsOfNumber flags.length (numberOfFlags flags) = flags := by
  induction flags with
  | nil => rfl
  | cons flag rest inductionHypothesis =>
      have small : flag.toNat ≤ 1 := flag.toNat_le
      have digit : (flag.toNat + 2 * numberOfFlags rest) % 2 = flag.toNat := by omega
      have digits : (flag.toNat + 2 * numberOfFlags rest) / 2 = numberOfFlags rest := by omega
      simp only [numberOfFlags, List.length_cons, flagsOfNumber, digit, digits,
        inductionHypothesis, List.cons.injEq, and_true]
      cases flag <;> rfl

/-- Unset flags at the end do not change the number. -/
theorem numberOfFlags_append_replicate
    (flags : List Bool)
    (count : Nat) :
    numberOfFlags (flags ++ List.replicate count false) = numberOfFlags flags := by
  induction flags with
  | nil =>
      induction count with
      | zero => rfl
      | succ count inductionHypothesis =>
          simp only [List.nil_append] at inductionHypothesis
          simp [List.replicate_succ, numberOfFlags, inductionHypothesis]
  | cons flag rest inductionHypothesis =>
      simp [numberOfFlags, inductionHypothesis]

namespace FlagReader

/--
The reader that has the given items in front of it when `used` flags of the
current word have been taken.  Flags of the last word that no item sets are
unset.
-/
def before (used : Nat) : List StreamItem → FlagReader
  | [] => ⟨List.replicate (flagsPerWord - used) false, []⟩
  | .byte value :: rest =>
      let left := before used rest
      { left with input := value :: left.input }
  | .flag value :: rest =>
      if used < flagsPerWord then
        let left := before (used + 1) rest
        { left with flags := value :: left.flags }
      else
        let left := before 1 rest
        ⟨[], LittleEndian.encode 2 (numberOfFlags (value :: left.flags)) ++ left.input⟩

/-- A reader holds the flags of its word that have not been taken. -/
theorem length_flags_before
    {used : Nat}
    (inWord : used ≤ flagsPerWord)
    (items : List StreamItem) :
    (before used items).flags.length = flagsPerWord - used := by
  induction items generalizing used with
  | nil => simp [before]
  | cons item rest inductionHypothesis =>
      cases item with
      | byte value => simpa only [before] using inductionHypothesis inWord
      | flag value =>
          simp only [before]
          split
          next room =>
            have restLength :
                (before (used + 1) rest).flags.length = flagsPerWord - (used + 1) :=
              inductionHypothesis room
            simp only [List.length_cons, restLength]
            omega
          next full =>
            simp only [List.length_nil]
            omega

/-- A word of flags at the front of an input is taken apart again. -/
theorem ofInput?_word
    {flags : List Bool}
    (wholeWord : flags.length = flagsPerWord)
    (input : List UInt8) :
    ofInput? (LittleEndian.encode 2 (numberOfFlags flags) ++ input) =
      some ⟨flags, input⟩ := by
  have fits : numberOfFlags flags < UInt16.size := by
    have := numberOfFlags_lt flags
    rwa [wholeWord] at this
  have number : (UInt16.ofNat (numberOfFlags flags)).toNat = numberOfFlags flags :=
    UInt16.toNat_ofNat_of_lt' fits
  have taken :=
    LawfulLayout.read_append (UInt16.ofNat (numberOfFlags flags)) input
  have sameFlags := flagsOfNumber_numberOfFlags flags
  simp only [Layout.write, number] at taken
  rw [wholeWord] at sameFlags
  simp only [ofInput?, taken, number, sameFlags]

/-- A reader before a flag gives that flag and stands behind it. -/
theorem flag?_before
    (used : Nat)
    (value : Bool)
    (rest : List StreamItem) :
    (before used (.flag value :: rest)).flag? =
      some (value, before ((StreamItem.flag value).advance used) rest) := by
  simp only [before, StreamItem.advance]
  split
  next room => rfl
  next full =>
    have wholeWord :
        (value :: (before 1 rest).flags).length = flagsPerWord := by
      rw [List.length_cons, length_flags_before (by decide) rest]
      decide
    simp only [flag?, ofInput?_word wholeWord]

/-- A reader before a byte gives that byte and stands behind it. -/
theorem byte?_before
    (used : Nat)
    (value : UInt8)
    (rest : List StreamItem) :
    (before used (.byte value :: rest)).byte? =
      some (value, before ((StreamItem.byte value).advance used) rest) :=
  rfl

end FlagReader

namespace FlagWriter

/-- A flag joins the word being collected as long as that has room. -/
theorem flag_of_room
    {writer : FlagWriter}
    (room : writer.flags.size < flagsPerWord)
    (value : Bool) :
    writer.flag value = { writer with flags := writer.flags.push value } :=
  if_pos room

/-- A flag behind a full word finishes it and opens the next one. -/
theorem flag_of_full
    {writer : FlagWriter}
    (full : ¬ writer.flags.size < flagsPerWord)
    (value : Bool) :
    writer.flag value = ⟨writer.written, #[value], #[]⟩ :=
  if_neg full

/--
Items are appended where a reader looks for them: set flags complete the word
being collected, everything else follows its bytes.
-/
theorem bytes_putAll
    {writer : FlagWriter}
    (inWord : writer.flags.size ≤ flagsPerWord)
    (items : List StreamItem) :
    (writer.putAll items).bytes =
      writer.finished.toList ++
        LittleEndian.encode 2 (numberOfFlags
          (writer.flags.toList ++ (FlagReader.before writer.flags.size items).flags)) ++
        writer.payload.toList ++
        (FlagReader.before writer.flags.size items).input := by
  induction items generalizing writer with
  | nil =>
      simp [FlagReader.before, bytes, written, numberOfFlags_append_replicate]
  | cons item rest inductionHypothesis =>
      cases item with
      | byte value =>
          have sameWord : (writer.put (.byte value)).flags.size ≤ flagsPerWord := inWord
          rw [putAll_cons, inductionHypothesis sameWord]
          simp [put, byte, FlagReader.before]
      | flag value =>
          rw [putAll_cons, put]
          by_cases room : writer.flags.size < flagsPerWord
          · have stillInWord : (writer.flag value).flags.size ≤ flagsPerWord := by
              rw [flag_of_room room, Array.size_push]
              exact room
            rw [inductionHypothesis stillInWord, flag_of_room room]
            simp [room, FlagReader.before]
          · have opensWord : (writer.flag value).flags.size ≤ flagsPerWord := by
              rw [flag_of_full room]
              show 1 ≤ flagsPerWord
              decide
            -- The full word has no flag left, so the input starts with the next word.
            rw [inductionHypothesis opensWord, flag_of_full room]
            simp [room, FlagReader.before, written]

end FlagWriter

/-- A reader opened on a written stream stands before all of its items. -/
theorem FlagReader.ofInput?_bytes_putAll (items : List StreamItem) :
    FlagReader.ofInput? (FlagWriter.empty.putAll items).bytes =
      some (FlagReader.before 0 items) := by
  have wholeWord : (FlagReader.before 0 items).flags.length = flagsPerWord :=
    FlagReader.length_flags_before (Nat.zero_le _) items
  rw [FlagWriter.bytes_putAll (by decide)]
  simpa [FlagWriter.empty] using
    FlagReader.ofInput?_word wholeWord (FlagReader.before 0 items).input

end AdventureArchive.Lz
