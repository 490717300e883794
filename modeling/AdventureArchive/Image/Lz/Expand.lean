import AdventureArchive.Image.Error
import AdventureArchive.Image.Lz.Token

namespace AdventureArchive.Lz

/-!
# Expanding a compressed stream

Tokens are read and expanded one at a time until enough output has been
produced.  A copy that would produce too much is cut.  A stream that runs out
in the middle of a token and a stream that announces its end are different
faults, and both say how much had been produced.

The output is built in one buffer, behind as many zeros as a copy can reach
back.  An expected length for which there can be no such buffer ends the program
before the stream is looked at (`DecompressError.oversized`): the size of the buffer
is checked when it is added up.  A buffer that there can be is taken to be
allocated.
-/

/-- The greatest number of bytes that a buffer can hold. -/
def maxBufferSize : Nat := 0x7FFFFFFFFFFFFFFF

/-- Whether a buffer can hold the zeros and the expected output. -/
def HasRoom (expected : Nat) : Prop :=
  windowSize + expected ≤ maxBufferSize

instance (expected : Nat) : Decidable (HasRoom expected) :=
  inferInstanceAs (Decidable (_ ≤ _))

/-- Why decompressing gives no output. -/
inductive DecompressError where
  | stream (cause : ImageError)
  | oversized (expected : Nat)
  deriving Repr, DecidableEq

/-- The byte some distance back, in an output preceded by zeros. -/
def byteBack (produced : Array UInt8) (distance : Nat) : UInt8 :=
  if distance ≤ produced.size then
    produced.getD (produced.size - distance) 0
  else
    0

/-- Repeats output from a distance back, one byte at a time. -/
def copyBack (distance : Nat) : Nat → Array UInt8 → Array UInt8
  | 0, produced => produced
  | count + 1, produced =>
      copyBack distance count (produced.push (byteBack produced distance))

/-- Reads and expands tokens until the output has the expected length. -/
def expandFrom
    (expected : Nat)
    (reader : FlagReader)
    (produced : Array UInt8) :
    Except ImageError (Array UInt8) :=
  if expected ≤ produced.size then
    .ok produced
  else
    match taken : Token.read? reader with
    | none => .error (.streamExhausted produced.size expected)
    | some (token, left) =>
        have _shorter := Token.length_lt_of_read? taken
        match token with
        | .literal value => expandFrom expected left (produced.push value)
        | .copy length distance =>
            expandFrom expected left
              (copyBack distance (min length (expected - produced.size)) produced)
        | .endMark => .error (.shortOutput produced.size expected)
termination_by reader.input.length

/-- Expands a stream into exactly the expected number of bytes, however many. -/
def expandTo
    (input : List UInt8)
    (expected : Nat) :
    Except ImageError (List UInt8) :=
  if expected = 0 then
    .ok []
  else
    match FlagReader.ofInput? input with
    | none => .error (.streamExhausted 0 expected)
    | some reader => (expandFrom expected reader #[]).map Array.toList

/-- Expands a stream into exactly the expected number of bytes, if a buffer can hold them. -/
def decompress
    (input : List UInt8)
    (expected : Nat) :
    Except DecompressError (List UInt8) :=
  if HasRoom expected then
    (expandTo input expected).mapError .stream
  else
    .error (.oversized expected)

section Room

variable {input : List UInt8} {expected : Nat}

/-- Where there is room, only the stream can be at fault. -/
theorem decompress_of_hasRoom (room : HasRoom expected) :
    decompress input expected = (expandTo input expected).mapError .stream :=
  if_pos room

/-- Where there is no room, the stream plays no part. -/
theorem decompress_of_oversized (noRoom : ¬ HasRoom expected) :
    decompress input expected = .error (.oversized expected) :=
  if_neg noRoom

end Room

end AdventureArchive.Lz
