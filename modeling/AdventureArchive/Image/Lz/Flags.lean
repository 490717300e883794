import AdventureArchive.Bytes.Layout

namespace AdventureArchive.Lz

/-!
# Flags among bytes

A compressed stream mixes single flags with whole bytes.  Sixteen flags share a
little-endian word, first flag in the lowest bit; the word stands where its
first flag is needed, and the bytes follow it.

`FlagWriter` and `FlagReader` are the two ends of such a stream.
-/

/-- Number of flags in one word. -/
def flagsPerWord : Nat := 16

/-- The number whose binary digits are the given flags, lowest first. -/
def numberOfFlags : List Bool → Nat
  | [] => 0
  | flag :: rest => flag.toNat + 2 * numberOfFlags rest

/-- The low binary digits of a number, lowest first. -/
def flagsOfNumber : Nat → Nat → List Bool
  | 0, _ => []
  | count + 1, number => (number % 2 == 1) :: flagsOfNumber count (number / 2)

/-- What is still to be read: flags of the last word, then the input behind it. -/
structure FlagReader where
  flags : List Bool
  input : List UInt8
  deriving Repr, DecidableEq

namespace FlagReader

/-- Takes the next word of flags off an input. -/
def ofInput? (input : List UInt8) : Option FlagReader :=
  match (Layout.read input : Option (UInt16 × List UInt8)) with
  | some (word, rest) => some ⟨flagsOfNumber flagsPerWord word.toNat, rest⟩
  | none => none

/-- The next byte and what is left to read. -/
def byte? (reader : FlagReader) : Option (UInt8 × FlagReader) :=
  match reader.input with
  | value :: rest => some (value, { reader with input := rest })
  | [] => none

/-- The next flag and what is left to read; a new word is taken only now. -/
def flag? (reader : FlagReader) : Option (Bool × FlagReader) :=
  match reader.flags with
  | flag :: rest => some (flag, { reader with flags := rest })
  | [] =>
      match ofInput? reader.input with
      | some ⟨flag :: rest, input⟩ => some (flag, ⟨rest, input⟩)
      | _ => none

/-- Taking a byte shortens the input by one. -/
theorem length_of_byte?
    {reader left : FlagReader}
    {value : UInt8}
    (taken : reader.byte? = some (value, left)) :
    reader.input.length = left.input.length + 1 := by
  unfold byte? at taken
  split at taken
  next found rest inputShape =>
    simp only [Option.some.injEq, Prod.mk.injEq] at taken
    obtain ⟨rfl, rfl⟩ := taken
    simp [inputShape]
  next => simp at taken

/-- Taking a flag never lengthens the input. -/
theorem length_le_of_flag?
    {reader left : FlagReader}
    {flag : Bool}
    (taken : reader.flag? = some (flag, left)) :
    left.input.length ≤ reader.input.length := by
  unfold flag? at taken
  split at taken
  next =>
    simp only [Option.some.injEq, Prod.mk.injEq] at taken
    obtain ⟨rfl, rfl⟩ := taken
    exact Nat.le_refl _
  next =>
    split at taken
    next found rest input opened =>
      simp only [Option.some.injEq, Prod.mk.injEq] at taken
      obtain ⟨rfl, rfl⟩ := taken
      unfold ofInput? at opened
      split at opened
      next word remaining readShape =>
        simp only [Option.some.injEq, FlagReader.mk.injEq] at opened
        obtain ⟨-, rfl⟩ := opened
        match shape : reader.input with
        | [] => simp [shape, Layout.read] at readShape
        | [_] => simp [shape, Layout.read] at readShape
        | first :: second :: behind =>
            simp only [shape, Layout.read, Option.some.injEq,
              Prod.mk.injEq] at readShape
            simp only [← readShape.2, List.length_cons]
            omega
      next => simp at opened
    next => simp at taken

end FlagReader

/--
A stream being written: the finished part, then the word whose flags are still
being collected, then the bytes behind that word.
-/
structure FlagWriter where
  finished : Array UInt8
  flags : Array Bool
  payload : Array UInt8
  deriving Repr, DecidableEq

namespace FlagWriter

/-- A stream whose first word of flags has been reserved. -/
def empty : FlagWriter := ⟨#[], #[], #[]⟩

/-- Everything written so far; flags not given yet count as unset. -/
def written (writer : FlagWriter) : Array UInt8 :=
  writer.finished ++
    (LittleEndian.encode 2 (numberOfFlags writer.flags.toList)).toArray ++
    writer.payload

/-- Appends a flag; a full word is finished first. -/
def flag (writer : FlagWriter) (value : Bool) : FlagWriter :=
  if writer.flags.size < flagsPerWord then
    { writer with flags := writer.flags.push value }
  else
    ⟨writer.written, #[value], #[]⟩

/-- Appends a byte. -/
def byte (writer : FlagWriter) (value : UInt8) : FlagWriter :=
  { writer with payload := writer.payload.push value }

/-- The bytes of the stream. -/
def bytes (writer : FlagWriter) : List UInt8 :=
  writer.written.toList

end FlagWriter

end AdventureArchive.Lz
