import AdventureArchive.Image.Lz.Flags

namespace AdventureArchive.Lz

/-!
# Tokens of a compressed stream

A compressed stream is a run of tokens.  A literal is one output byte; a copy
repeats output from some distance back, byte by byte, so that it may overlap
what it produces.  Copies have a short and a long spelling, and one long
spelling marks the end of the stream.

`Token.write` chooses the spelling, `Token.read?` accepts every spelling.
-/

/-- How far back a copy may reach; the output is preceded by that many zeros. -/
def windowSize : Nat := 0x1000

/-- How far back a short copy may reach. -/
def shortDistance : Nat := 0x100

/-- The shortest copy. -/
def minLength : Nat := 3

/-- The longest copy with the short spelling. -/
def shortLength : Nat := 6

/-- The longest copy whose length fits the half byte of the long spelling. -/
def nibbleLength : Nat := 18

/-- The longest copy. -/
def maxLength : Nat := 256

/-- One step of a compressed stream. -/
inductive Token where
  | literal (value : UInt8)
  | copy (length distance : Nat)
  | endMark
  deriving Repr, DecidableEq

namespace Token

/-- The short spelling: two flags of length and one byte of distance. -/
def readShortCopy? (reader : FlagReader) : Option (Token × FlagReader) := do
  let (high, reader) ← reader.flag?
  let (low, reader) ← reader.flag?
  let (offset, reader) ← reader.byte?
  return (.copy
    (2 * high.toNat + low.toNat + minLength)
    (shortDistance - offset.toNat), reader)

/--
The long spelling: twelve bits of distance and four of length.  A zero length
announces a length byte, and a zero length byte ends the stream.
-/
def readLongCopy? (reader : FlagReader) : Option (Token × FlagReader) := do
  let (low, reader) ← reader.byte?
  let (high, reader) ← reader.byte?
  let distance := windowSize - (low.toNat + 256 * (high.toNat / 16))
  let nibble := high.toNat % 16
  if nibble = 0 then
    let (extended, reader) ← reader.byte?
    if extended = 0 then
      return (.endMark, reader)
    else
      return (.copy (extended.toNat + 1) distance, reader)
  else
    return (.copy (nibble + minLength) distance, reader)

/-- The next token and what is left to read. -/
def read? (reader : FlagReader) : Option (Token × FlagReader) := do
  let (isLiteral, reader) ← reader.flag?
  if isLiteral then
    let (value, reader) ← reader.byte?
    return (.literal value, reader)
  else
    let (isLong, reader) ← reader.flag?
    if isLong then readLongCopy? reader else readShortCopy? reader

/-- Reading a short copy takes at least one byte. -/
theorem length_lt_of_readShortCopy?
    {reader left : FlagReader}
    {token : Token}
    (taken : readShortCopy? reader = some (token, left)) :
    left.input.length < reader.input.length := by
  simp only [readShortCopy?, Option.bind_eq_bind, Option.bind_eq_some_iff] at taken
  obtain ⟨⟨high, behindHigh⟩, highTaken, ⟨low, behindLow⟩, lowTaken,
    ⟨offset, behindOffset⟩, offsetTaken, taken⟩ := taken
  have highLength : behindHigh.input.length ≤ reader.input.length :=
    FlagReader.length_le_of_flag? highTaken
  have lowLength : behindLow.input.length ≤ behindHigh.input.length :=
    FlagReader.length_le_of_flag? lowTaken
  have offsetLength : behindLow.input.length = behindOffset.input.length + 1 :=
    FlagReader.length_of_byte? offsetTaken
  simp only [Option.pure_def, Option.some.injEq, Prod.mk.injEq] at taken
  obtain ⟨-, rfl⟩ := taken
  omega

/-- Reading a long copy takes at least one byte. -/
theorem length_lt_of_readLongCopy?
    {reader left : FlagReader}
    {token : Token}
    (taken : readLongCopy? reader = some (token, left)) :
    left.input.length < reader.input.length := by
  simp only [readLongCopy?, Option.bind_eq_bind, Option.bind_eq_some_iff] at taken
  obtain ⟨⟨low, behindLow⟩, lowTaken, ⟨high, behindHigh⟩, highTaken, taken⟩ := taken
  have lowLength : reader.input.length = behindLow.input.length + 1 :=
    FlagReader.length_of_byte? lowTaken
  have highLength : behindLow.input.length = behindHigh.input.length + 1 :=
    FlagReader.length_of_byte? highTaken
  split at taken
  next =>
    obtain ⟨⟨extended, behindExtended⟩, extendedTaken, taken⟩ :=
      Option.bind_eq_some_iff.mp taken
    have extendedLength : behindHigh.input.length = behindExtended.input.length + 1 :=
      FlagReader.length_of_byte? extendedTaken
    split at taken <;>
      simp only [Option.pure_def, Option.some.injEq, Prod.mk.injEq] at taken <;>
      obtain ⟨-, rfl⟩ := taken <;>
      omega
  next =>
    simp only [Option.pure_def, Option.some.injEq, Prod.mk.injEq] at taken
    obtain ⟨-, rfl⟩ := taken
    omega

/-- Reading a token takes at least one byte. -/
theorem length_lt_of_read?
    {reader left : FlagReader}
    {token : Token}
    (taken : read? reader = some (token, left)) :
    left.input.length < reader.input.length := by
  simp only [read?, Option.bind_eq_bind, Option.bind_eq_some_iff] at taken
  obtain ⟨⟨isLiteral, behindFirst⟩, firstTaken, taken⟩ := taken
  have firstLength : behindFirst.input.length ≤ reader.input.length :=
    FlagReader.length_le_of_flag? firstTaken
  split at taken
  next =>
    obtain ⟨⟨value, behindValue⟩, valueTaken, taken⟩ :=
      Option.bind_eq_some_iff.mp taken
    have valueLength : behindFirst.input.length = behindValue.input.length + 1 :=
      FlagReader.length_of_byte? valueTaken
    simp only [Option.pure_def, Option.some.injEq, Prod.mk.injEq] at taken
    obtain ⟨-, rfl⟩ := taken
    omega
  next =>
    obtain ⟨⟨isLong, behindSecond⟩, secondTaken, taken⟩ :=
      Option.bind_eq_some_iff.mp taken
    have secondLength : behindSecond.input.length ≤ behindFirst.input.length :=
      FlagReader.length_le_of_flag? secondTaken
    split at taken
    next =>
      have copyLength : left.input.length < behindSecond.input.length :=
        length_lt_of_readLongCopy? taken
      omega
    next =>
      have copyLength : left.input.length < behindSecond.input.length :=
        length_lt_of_readShortCopy? taken
      omega

/-- Writes the short spelling of a copy. -/
def writeShortCopy
    (writer : FlagWriter)
    (length distance : Nat) :
    FlagWriter :=
  let code := length - minLength
  writer
    |>.flag false
    |>.flag false
    |>.flag (code / 2 % 2 == 1)
    |>.flag (code % 2 == 1)
    |>.byte (UInt8.ofNat (shortDistance - distance))

/-- Writes the long spelling of a copy. -/
def writeLongCopy
    (writer : FlagWriter)
    (length distance : Nat) :
    FlagWriter :=
  let offset := windowSize - distance
  let writer :=
    writer
      |>.flag false
      |>.flag true
      |>.byte (UInt8.ofNat (offset % 256))
  let high := 16 * (offset / 256 % 16)
  if minLength < length ∧ length ≤ nibbleLength then
    writer.byte (UInt8.ofNat (high + (length - minLength)))
  else
    writer
      |>.byte (UInt8.ofNat high)
      |>.byte (UInt8.ofNat (length - 1))

/-- Appends a token to a stream. -/
def write (writer : FlagWriter) : Token → FlagWriter
  | .literal value => (writer.flag true).byte value
  | .copy length distance =>
      if length ≤ shortLength ∧ distance ≤ shortDistance then
        writeShortCopy writer length distance
      else
        writeLongCopy writer length distance
  | .endMark => ((writer.flag false).flag true).byte 0 |>.byte 0 |>.byte 0

end Token

end AdventureArchive.Lz
