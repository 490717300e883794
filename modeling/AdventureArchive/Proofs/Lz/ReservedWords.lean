import Mathlib.Algebra.Group.Nat.Defs
import AdventureArchive.Proofs.Lz.FlagStream
import AdventureArchive.Proofs.Lz.Window

namespace AdventureArchive.Lz

/-!
# Flags in reserved words

A writer can keep its stream in one buffer: it reserves a word where a flag finds
no room, goes back to that word for each flag that is set, and appends bytes
behind it.  Such a buffer always shows the stream that a plain writer has written
(`PatchingWriter.Shows`); the word is where the writer goes back to, so that no
access goes astray.

Whatever run of flags and bytes has been written, a reader that is asked for as
many of each in the same order gets what has been written, and then the input is
used up and only unset flags are left (`reads_written_items`).
-/

/-- What a reader can be asked for. -/
inductive ItemKind where
  | flag
  | byte
  deriving Repr, DecidableEq

/-- What a reader has to be asked for to get an item. -/
def StreamItem.kind : StreamItem → ItemKind
  | .flag _ => .flag
  | .byte _ => .byte

/-! ## Writing -/

/-- A stream in one buffer, with the place of the last word and the number of its flags. -/
structure PatchingWriter where
  output : List UInt8
  slot : Nat
  used : Nat

namespace PatchingWriter

open Window (Stop readAt writeAt)

/-- A stream whose first word has been reserved. -/
def start : PatchingWriter := ⟨[0, 0], 0, 0⟩

/-- Reserves a word at the end. -/
def reserve (writer : PatchingWriter) : PatchingWriter :=
  ⟨writer.output ++ [0, 0], writer.output.length, 0⟩

/-- Sets a flag of the word at a place. -/
def setFlag (output : List UInt8) (slot index : Nat) : Except Stop (List UInt8) := do
  let low ← readAt output slot
  let high ← readAt output (slot + 1)
  let word := UInt16.ofNat (LittleEndian.decode [low, high]) ||| 1 <<< UInt16.ofNat index
  let output ← writeAt output slot (UInt8.ofNat word.toNat)
  writeAt output (slot + 1) (UInt8.ofNat (word.toNat / 256))

/-- Gives a flag of the word at a place its value; it has been unset so far. -/
def writeFlag
    (output : List UInt8)
    (slot index : Nat)
    (value : Bool) :
    Except Stop (List UInt8) :=
  if value then setFlag output slot index else return output

/-- Appends a flag to the word that has been reserved last. -/
def append (writer : PatchingWriter) (value : Bool) : Except Stop PatchingWriter := do
  let output ← writeFlag writer.output writer.slot writer.used value
  return ⟨output, writer.slot, writer.used + 1⟩

/-- Appends a flag; where the word is full another one is reserved first. -/
def flag (writer : PatchingWriter) (value : Bool) : Except Stop PatchingWriter :=
  if writer.used = flagsPerWord then writer.reserve.append value else writer.append value

/-- Appends a byte. -/
def byte (writer : PatchingWriter) (value : UInt8) : PatchingWriter :=
  { writer with output := writer.output ++ [value] }

/-- Appends an item. -/
def put (writer : PatchingWriter) : StreamItem → Except Stop PatchingWriter
  | .flag value => writer.flag value
  | .byte value => return writer.byte value

/-- Appends items one after the other. -/
def putAll (writer : PatchingWriter) (items : List StreamItem) : Except Stop PatchingWriter :=
  items.foldlM put writer

end PatchingWriter

theorem flagCapacity_eq_two_pow (count : Nat) : flagCapacity count = 2 ^ count := by
  induction count with
  | zero => rfl
  | succ count inductionHypothesis => rw [flagCapacity, inductionHypothesis, Nat.pow_succ']

/-- A set flag behind others adds the power of two of its place. -/
theorem numberOfFlags_append_true (flags : List Bool) :
    numberOfFlags (flags ++ [true]) = numberOfFlags flags + 2 ^ flags.length := by
  induction flags with
  | nil => rfl
  | cons flag rest inductionHypothesis =>
      simp only [List.cons_append, numberOfFlags, inductionHypothesis, List.length_cons,
        Nat.pow_succ']
      omega

/-- An unset flag behind others changes nothing. -/
theorem numberOfFlags_append_false (flags : List Bool) :
    numberOfFlags (flags ++ [false]) = numberOfFlags flags :=
  numberOfFlags_append_replicate flags 1

/-- The word of some flags with another one set behind them. -/
theorem toNat_setFlag
    {flags : List Bool}
    (room : flags.length < flagsPerWord) :
    (UInt16.ofNat (numberOfFlags flags) ||| 1 <<< UInt16.ofNat flags.length).toNat =
      numberOfFlags (flags ++ [true]) := by
  have small : numberOfFlags flags < 2 ^ flags.length := by
    rw [← flagCapacity_eq_two_pow]
    exact numberOfFlags_lt flags
  have place : 2 ^ flags.length < 2 ^ 16 := Nat.pow_lt_pow_right Nat.one_lt_two room
  have number : (UInt16.ofNat (numberOfFlags flags)).toNat = numberOfFlags flags :=
    UInt16.toNat_ofNat_of_lt' (Nat.lt_trans small place)
  have shift : (UInt16.ofNat flags.length).toNat % 16 = flags.length := by
    rw [UInt16.toNat_ofNat', Nat.mod_eq_of_lt (Nat.lt_trans room (by decide))]
    exact Nat.mod_eq_of_lt room
  have set : ((1 : UInt16) <<< UInt16.ofNat flags.length).toNat = 1 <<< flags.length := by
    rw [UInt16.toNat_shiftLeft, shift, UInt16.toNat_one, Nat.one_shiftLeft, Nat.mod_eq_of_lt place]
  rw [UInt16.toNat_or, number, set, Nat.or_comm, ← Nat.shiftLeft_add_eq_or_of_lt small,
    numberOfFlags_append_true, Nat.one_shiftLeft, Nat.add_comm]

namespace PatchingWriter

/-- Setting a flag changes the word at the place and leaves the bytes around it alone. -/
theorem setFlag_eq
    {flags : List Bool}
    (room : flags.length < flagsPerWord)
    (before behind : List UInt8) :
    setFlag (before ++ LittleEndian.encode 2 (numberOfFlags flags) ++ behind)
        before.length flags.length =
      .ok (before ++ LittleEndian.encode 2 (numberOfFlags (flags ++ [true])) ++ behind) := by
  have fits : numberOfFlags flags < LittleEndian.capacity 2 := by
    refine Nat.lt_of_lt_of_le (numberOfFlags_lt flags) ?_
    rw [flagCapacity_eq_two_pow]
    exact Nat.pow_le_pow_right Nat.two_pos (Nat.le_of_lt room)
  have number := LittleEndian.decode_encode fits
  simp only [LittleEndian.encode] at number
  have readLow (low high : UInt8) :
      Window.readAt (before ++ [low, high] ++ behind) before.length = .ok low := by
    simp [Window.readAt]
  have readHigh (low high : UInt8) :
      Window.readAt (before ++ [low, high] ++ behind) (before.length + 1) = .ok high := by
    simp [Window.readAt]
  have writeLow (low high value : UInt8) :
      Window.writeAt (before ++ [low, high] ++ behind) before.length value =
        .ok (before ++ [value, high] ++ behind) := by
    simp [Window.writeAt]
  have writeHigh (low high value : UInt8) :
      Window.writeAt (before ++ [low, high] ++ behind) (before.length + 1) value =
        .ok (before ++ [low, value] ++ behind) := by
    simp [Window.writeAt]
  simp only [setFlag, LittleEndian.encode, readLow, readHigh, Except.ok_bind, number,
    toNat_setFlag room, writeLow, writeHigh]

/--
Whether a buffer shows what a plain writer has written, with the place of its last
word and the number of the flags in it.
-/
structure Shows (writer : PatchingWriter) (plain : FlagWriter) : Prop where
  output_eq : writer.output = plain.bytes
  slot_eq : writer.slot = plain.finished.size
  used_eq : writer.used = plain.flags.size
  inWord : plain.flags.size ≤ flagsPerWord

namespace Shows

variable {writer : PatchingWriter} {plain : FlagWriter}

theorem start : PatchingWriter.start.Shows .empty where
  output_eq := rfl
  slot_eq := rfl
  used_eq := rfl
  inWord := Nat.zero_le _

/-- What has been written is the finished part, the word of flags and the bytes behind it. -/
theorem output_split (shows : writer.Shows plain) :
    writer.output =
      plain.finished.toList ++ LittleEndian.encode 2 (numberOfFlags plain.flags.toList) ++
        plain.payload.toList := by
  rw [shows.output_eq]
  simp [FlagWriter.bytes, FlagWriter.written]

/-- A byte stands behind everything else. -/
theorem byte
    (shows : writer.Shows plain)
    (value : UInt8) :
    (writer.byte value).Shows (plain.byte value) where
  output_eq := by
    simp [PatchingWriter.byte, FlagWriter.byte, FlagWriter.bytes, FlagWriter.written,
      shows.output_split]
  slot_eq := shows.slot_eq
  used_eq := shows.used_eq
  inWord := shows.inWord

/-- A word that has been reserved is one without flags. -/
theorem reserve (shows : writer.Shows plain) :
    writer.reserve.Shows ⟨plain.written, #[], #[]⟩ where
  output_eq := by
    rw [PatchingWriter.reserve, shows.output_eq]
    simp [FlagWriter.bytes, FlagWriter.written, numberOfFlags, LittleEndian.encode]
  slot_eq := by
    rw [PatchingWriter.reserve, shows.output_eq]
    exact plain.written.length_toList
  used_eq := rfl
  inWord := Nat.zero_le _

/-- A flag that has room in the word is set there or left unset. -/
theorem append
    (shows : writer.Shows plain)
    (room : plain.flags.size < flagsPerWord)
    (value : Bool) :
    ∃ next, writer.append value = .ok next ∧
      next.Shows { plain with flags := plain.flags.push value } := by
  have inWord : (plain.flags.push value).size ≤ flagsPerWord := by
    rw [Array.size_push]
    exact room
  have used : writer.used + 1 = (plain.flags.push value).size := by
    rw [shows.used_eq, Array.size_push]
  have written :
      writeFlag writer.output writer.slot writer.used value =
        .ok (FlagWriter.bytes { plain with flags := plain.flags.push value }) := by
    cases value with
    | false =>
        rw [writeFlag, if_neg Bool.false_ne_true, shows.output_split]
        simp [FlagWriter.bytes, FlagWriter.written, numberOfFlags_append_false, pure, Except.pure]
    | true =>
        rw [writeFlag, if_pos rfl, shows.output_split, shows.slot_eq, shows.used_eq,
          ← Array.length_toList, ← Array.length_toList, setFlag_eq room]
        simp [FlagWriter.bytes, FlagWriter.written]
  rw [PatchingWriter.append, written, Except.ok_bind]
  exact ⟨_, rfl, rfl, shows.slot_eq, used, inWord⟩

/-- A flag is appended to the last word, or to a new one if that is full. -/
theorem flag
    (shows : writer.Shows plain)
    (value : Bool) :
    ∃ next, writer.flag value = .ok next ∧ next.Shows (plain.flag value) := by
  rw [PatchingWriter.flag, shows.used_eq]
  by_cases full : plain.flags.size = flagsPerWord
  · rw [if_pos full, FlagWriter.flag_of_full (Nat.not_lt_of_le (Nat.le_of_eq full.symm))]
    exact shows.reserve.append (Nat.zero_lt_of_ne_zero (by decide)) value
  · have room := Nat.lt_of_le_of_ne shows.inWord full
    rw [if_neg full, FlagWriter.flag_of_room room]
    exact shows.append room value

/-- Whatever is appended, the buffer goes on showing what a plain writer writes. -/
theorem putAll
    (shows : writer.Shows plain)
    (items : List StreamItem) :
    ∃ next, writer.putAll items = .ok next ∧ next.Shows (plain.putAll items) := by
  induction items generalizing writer plain with
  | nil => exact ⟨writer, rfl, shows⟩
  | cons item rest inductionHypothesis =>
      have put : ∃ next, writer.put item = .ok next ∧ next.Shows (plain.put item) := by
        cases item with
        | flag value => exact shows.flag value
        | byte value => exact ⟨_, rfl, shows.byte value⟩
      obtain ⟨next, done, shownThen⟩ := put
      rw [PatchingWriter.putAll, List.foldlM_cons, done, Except.ok_bind, FlagWriter.putAll_cons]
      exact inductionHypothesis shownThen

end Shows

end PatchingWriter

/-! ## Reading -/

namespace FlagReader

/-- The next item, if it is of the kind that is asked for. -/
def take? (reader : FlagReader) : ItemKind → Option (StreamItem × FlagReader)
  | .flag => do
      let (value, reader) ← reader.flag?
      return (.flag value, reader)
  | .byte => do
      let (value, reader) ← reader.byte?
      return (.byte value, reader)

/-- Items of the kinds that are asked for, one after the other. -/
def takeAll? : List ItemKind → FlagReader → Option (List StreamItem × FlagReader)
  | [], reader => some ([], reader)
  | kind :: kinds, reader => do
      let (item, reader) ← reader.take? kind
      let (items, reader) ← takeAll? kinds reader
      return (item :: items, reader)

/-- A reader gives the items that it has in front of it. -/
theorem takeAll?_before
    (used : Nat)
    (items : List StreamItem) :
    takeAll? (items.map StreamItem.kind) (before used items) =
      some (items, before (StreamItem.advanceAll used items) []) := by
  induction items generalizing used with
  | nil => rfl
  | cons item rest inductionHypothesis =>
      have taken :
          (before used (item :: rest)).take? item.kind =
            some (item, before (item.advance used) rest) := by
        cases item with
        | flag value =>
            rw [StreamItem.kind, take?, flag?_before]
            rfl
        | byte value => rfl
      simp only [List.map_cons, takeAll?, taken, Option.bind_eq_bind, Option.bind_some,
        inductionHypothesis]
      rfl

end FlagReader

namespace Window

variable {failed : Stop} {stream left : Stream}

namespace Stream

/-- Takes the next item, of the kind that is asked for. -/
def take (failed : Stop) (stream : Stream) : ItemKind → Except Stop (StreamItem × Stream)
  | .flag => do
      let (value, stream) ← stream.takeFlag failed
      return (.flag value, stream)
  | .byte => do
      let (value, stream) ← stream.takeByte failed
      return (.byte value, stream)

/-- Takes items of the kinds that are asked for, one after the other. -/
def takeAll (failed : Stop) : List ItemKind → Stream → Except Stop (List StreamItem × Stream)
  | [], stream => return ([], stream)
  | kind :: kinds, stream => do
      let (item, stream) ← stream.take failed kind
      let (items, stream) ← takeAll failed kinds stream
      return (item :: items, stream)

end Stream

/-- Items are taken off a stream as a reader takes them. -/
theorem finds_takeAll (failed : Stop) (kinds : List ItemKind) (stream : Stream) :
    Finds failed (stream.takeAll failed kinds) (stream.reader.takeAll? kinds) := by
  induction kinds generalizing stream with
  | nil => exact .found [] stream
  | cons kind kinds inductionHypothesis =>
      have taken : Finds failed (stream.take failed kind) (stream.reader.take? kind) := by
        cases kind with
        | flag =>
            exact (finds_takeFlag failed stream).bind fun value left =>
              .found (StreamItem.flag value) left
        | byte =>
            exact (finds_takeByte failed stream).bind fun value left =>
              .found (StreamItem.byte value) left
      refine taken.bind fun item stream => ?_
      exact (inductionHypothesis stream).bind fun items stream => .found (item :: items) stream

/-- What a reader finds is taken off a stream, and leaves the stream where it leaves the reader. -/
theorem Finds.exists_ok
    {α : Type}
    {step : Except Stop (α × Stream)}
    {plain : Option (α × FlagReader)}
    {value : α}
    {behind : FlagReader}
    (finds : Finds failed step plain)
    (found : plain = some (value, behind)) :
    ∃ left, step = .ok (value, left) ∧ left.reader = behind := by
  cases finds with
  | found other left =>
      obtain ⟨rfl, rfl⟩ := Prod.mk.inj (Option.some.inj found)
      exact ⟨left, rfl, rfl⟩
  | exhausted => contradiction

/-- Whether a word holds no flags but those that are available. -/
def Stream.HoldsAvailable (stream : Stream) : Prop :=
  stream.flags.toNat < 2 ^ stream.available

/-- A flag that is shifted out takes its place with it. -/
theorem holdsAvailable_shift
    {input : List UInt8}
    {flags : UInt16}
    {available : Nat}
    (holds : Stream.HoldsAvailable ⟨input, flags, available + 1⟩) :
    Stream.HoldsAvailable ⟨input, flags >>> 1, available⟩ := by
  rw [Stream.HoldsAvailable, Nat.pow_succ'] at holds
  have half : (flags >>> 1).toNat = flags.toNat / 2 := by
    rw [UInt16.toNat_shiftRight]
    exact Nat.shiftRight_eq_div_pow flags.toNat 1
  rw [Stream.HoldsAvailable, half]
  dsimp only at holds ⊢
  omega

/-- A word that has just been taken is full of flags. -/
theorem holdsAvailable_full (input : List UInt8) (flags : UInt16) :
    Stream.HoldsAvailable ⟨input, flags, 16⟩ :=
  flags.toNat_lt

/-- Taking an item leaves no flag where none is available. -/
theorem holdsAvailable_of_take
    {kind : ItemKind}
    {item : StreamItem}
    (holds : stream.HoldsAvailable)
    (taken : stream.take failed kind = .ok (item, left)) :
    left.HoldsAvailable := by
  cases kind with
  | byte =>
      rcases stream with ⟨_ | ⟨value, rest⟩, flags, available⟩
      · contradiction
      · cases taken
        exact holds
  | flag =>
      rcases stream with ⟨input, flags, _ | available⟩
      · obtain ⟨noWord, -⟩ | ⟨rest, word, filled, -⟩ := refill_cases failed ⟨input, flags, 0⟩
        · rw [Stream.take, Stream.takeFlag, if_pos rfl, noWord] at taken
          contradiction
        · rw [Stream.take, Stream.takeFlag, if_pos rfl, filled] at taken
          cases taken
          exact holdsAvailable_shift (holdsAvailable_full rest word)
      · cases taken
        exact holdsAvailable_shift holds

theorem holdsAvailable_of_takeAll
    {kinds : List ItemKind}
    {items : List StreamItem}
    (holds : stream.HoldsAvailable)
    (taken : stream.takeAll failed kinds = .ok (items, left)) :
    left.HoldsAvailable := by
  induction kinds generalizing stream items with
  | nil =>
      cases taken
      exact holds
  | cons kind kinds inductionHypothesis =>
      obtain ⟨⟨item, between⟩, first, taken⟩ := Except.bind_eq_ok_iff.mp taken
      obtain ⟨⟨others, last⟩, rest, taken⟩ := Except.bind_eq_ok_iff.mp taken
      cases taken
      exact inductionHypothesis (holdsAvailable_of_take holds first) rest

theorem length_flagsOfNumber (count number : Nat) :
    (flagsOfNumber count number).length = count := by
  induction count generalizing number with
  | zero => rfl
  | succ count inductionHypothesis => rw [flagsOfNumber, List.length_cons, inductionHypothesis]

/-- A number without digits is zero if it is small enough to have no others. -/
theorem eq_zero_of_flagsOfNumber
    {count number : Nat}
    (small : number < 2 ^ count)
    (unset : flagsOfNumber count number = List.replicate count false) :
    number = 0 := by
  induction count generalizing number with
  | zero => exact Nat.lt_one_iff.mp small
  | succ count inductionHypothesis =>
      rw [flagsOfNumber, List.replicate_succ] at unset
      obtain ⟨lowest, others⟩ := List.cons.inj unset
      rw [Nat.pow_succ'] at small
      have half := inductionHypothesis (by omega) others
      rw [beq_eq_false_iff_ne] at lowest
      omega

/-- A stream that stands behind all items has no input and no flag that is set. -/
theorem unset_of_reader_eq
    {used : Nat}
    (holds : stream.HoldsAvailable)
    (behindAll : stream.reader = FlagReader.before used []) :
    stream.input = [] ∧ stream.flags = 0 ∧ stream.available = flagsPerWord - used := by
  obtain ⟨unset, noInput⟩ := FlagReader.mk.inj behindAll
  have sameCount : stream.available = flagsPerWord - used := by
    have lengths := congrArg List.length unset
    rwa [List.length_replicate, length_flagsOfNumber] at lengths
  rw [← sameCount] at unset
  exact ⟨noInput, UInt16.toNat_inj.mp (eq_zero_of_flagsOfNumber holds unset), sameCount⟩

/-- A stream that is opened on what has been written stands before all items. -/
theorem exists_start_of_written (failed : Stop) (items : List StreamItem) :
    ∃ opened,
      Stream.start failed (FlagWriter.empty.putAll items).bytes = .ok opened ∧
        opened.HoldsAvailable ∧ opened.reader = FlagReader.before 0 items := by
  have readerOpened := FlagReader.ofInput?_bytes_putAll items
  obtain ⟨-, unopened⟩ | ⟨rest, flags, filled, opened⟩ :=
    refill_cases failed ⟨(FlagWriter.empty.putAll items).bytes, 0, 0⟩
  · cases unopened.symm.trans readerOpened
  · exact ⟨⟨rest, flags, 16⟩, filled, holdsAvailable_full rest flags,
      Option.some.inj (opened.symm.trans readerOpened)⟩

end Window

/--
Whatever flags and bytes are written, in whatever order, one access after the
other finds its place in the buffer.  A stream opened on the buffer gives each of
them back when it is asked for the same kinds in the same order; then the input is
used up, and the flags that have not been asked for are unset.
-/
theorem reads_written_items (items : List StreamItem) (failed : Window.Stop) :
    ∃ writer opened left,
      PatchingWriter.start.putAll items = .ok writer ∧
        writer.output = (FlagWriter.empty.putAll items).bytes ∧
        Window.Stream.start failed writer.output = .ok opened ∧
        opened.takeAll failed (items.map StreamItem.kind) = .ok (items, left) ∧
        left.input = [] ∧
        left.flags = 0 ∧
        FlagReader.ofInput? writer.output = some opened.reader ∧
        opened.reader.takeAll? (items.map StreamItem.kind) =
          some (items, ⟨List.replicate left.available false, []⟩) := by
  obtain ⟨writer, written, shows⟩ := PatchingWriter.Shows.start.putAll items
  obtain ⟨opened, started, holds, standsBefore⟩ := Window.exists_start_of_written failed items
  have given := FlagReader.takeAll?_before 0 items
  rw [← standsBefore] at given
  obtain ⟨left, taken, behindAll⟩ := (Window.finds_takeAll failed _ opened).exists_ok given
  obtain ⟨noInput, noFlag, available⟩ :=
    Window.unset_of_reader_eq (Window.holdsAvailable_of_takeAll holds taken) behindAll
  refine ⟨writer, opened, left, written, shows.output_eq, ?_, taken, noInput, noFlag, ?_, ?_⟩
  · rw [shows.output_eq, started]
  · rw [shows.output_eq, standsBefore, FlagReader.ofInput?_bytes_putAll]
  · rw [given, available]
    rfl

/-- Seventeen flags need a second word, which stands behind the byte written between them. -/
example :
    (PatchingWriter.start.putAll
        (List.replicate 9 (.flag true) ++ .byte 7 :: List.replicate 8 (.flag true))).toOption.map
      (·.output) = some [0xFF, 0xFF, 7, 0x01, 0x00] := by
  decide

end AdventureArchive.Lz
