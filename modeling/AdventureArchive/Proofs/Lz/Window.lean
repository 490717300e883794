import AdventureArchive.Image
import AdventureArchive.Proofs.Fallible
import AdventureArchive.Proofs.Lz.Grammar
import AdventureArchive.Proofs.Overflow

namespace AdventureArchive.Lz

namespace Window

/-!
# Expanding in a window

A stream can be expanded in one buffer: a window of zeros, with room behind it
for the output.  Copies take bytes at lower indexes of the buffer, so that those
from before the output are zeros; flags are shifted out of a word.  The size of
the buffer, indexes and differences are checked here, and what is wrong goes
astray (`Stop.stray`).  The size is a sum, which may stop or wrap where it does
not fit (`Overflow`); positions never pass it, so that counting them up needs no
check.

Where there is room for the output, nothing goes astray.  The buffer always shows
the zeros and the output behind them (`Shows`), each round of the loop takes
something off the input (`length_lt_of_round`), and the result is that of
decompressing (`decompress_eq_safely`).  Where there is no room, every stream that
has flags goes astray (`exists_stray_iff`).
-/

/-- What expanding in a window must never do. -/
inductive Stray where
  | sum (number term : Nat)
  | buffer (size : Nat)
  | read (index length : Nat)
  | write (index length : Nat)
  | split (index length : Nat)
  | difference (number subtrahend : Nat)
  deriving Repr, DecidableEq

/-- Why expanding in a window ends early. -/
inductive Stop where
  | fault (cause : ImageError)
  | stray (what : Stray)
  deriving Repr, DecidableEq

/-- A step that may have a fault and cannot go astray. -/
def safely {α : Type} (step : Except ImageError α) : Except Stop α :=
  step.mapError .fault

/-- A difference of numbers that must not be negative. -/
def subtract (number subtrahend : Nat) : Except Stop Nat :=
  if subtrahend ≤ number then
    .ok (number - subtrahend)
  else
    .error (.stray (.difference number subtrahend))

theorem subtract_of_le
    {number subtrahend : Nat}
    (inRange : subtrahend ≤ number) :
    subtract number subtrahend = .ok (number - subtrahend) :=
  if_pos inRange

/-- The byte at an index. -/
def readAt (buffer : List UInt8) (index : Nat) : Except Stop UInt8 :=
  match buffer[index]? with
  | some value => .ok value
  | none => .error (.stray (.read index buffer.length))

/-- Replaces the byte at an index. -/
def writeAt (buffer : List UInt8) (index : Nat) (value : UInt8) : Except Stop (List UInt8) :=
  if index < buffer.length then
    .ok (buffer.set index value)
  else
    .error (.stray (.write index buffer.length))

/-- What stands from an index on. -/
def splitOff (buffer : List UInt8) (index : Nat) : Except Stop (List UInt8) :=
  if index ≤ buffer.length then
    .ok (buffer.drop index)
  else
    .error (.stray (.split index buffer.length))

/-! ## The stream -/

/-- What is still to be read: flags in the low bits of a word, how many, and the input. -/
structure Stream where
  input : List UInt8
  flags : UInt16
  available : Nat

namespace Stream

/-- Takes a byte; `failed` says how to stop if there is none. -/
def takeByte (failed : Stop) (stream : Stream) : Except Stop (UInt8 × Stream) :=
  match stream.input with
  | value :: rest => .ok (value, { stream with input := rest })
  | [] => .error failed

/-- Takes a word, low byte first. -/
def takeWord (failed : Stop) (stream : Stream) : Except Stop (UInt16 × Stream) := do
  let (low, stream) ← stream.takeByte failed
  let (high, stream) ← stream.takeByte failed
  return (UInt16.ofNat (low.toNat + 256 * high.toNat), stream)

/-- Takes the next word of flags. -/
def refill (failed : Stop) (stream : Stream) : Except Stop Stream := do
  let (flags, stream) ← stream.takeWord failed
  return { stream with flags := flags, available := 16 }

/-- The stream of an input, with the first word of flags taken. -/
def start (failed : Stop) (input : List UInt8) : Except Stop Stream :=
  refill failed ⟨input, 0, 0⟩

/-- Takes a flag, off a new word if none is available. -/
def takeFlag (failed : Stop) (stream : Stream) : Except Stop (Bool × Stream) := do
  let stream ← if stream.available = 0 then stream.refill failed else pure stream
  let available ← subtract stream.available 1
  return (stream.flags &&& 1 == 1,
    { stream with flags := stream.flags >>> 1, available := available })

/-- Takes what follows the flags of a short copy. -/
def takeShortCopy (failed : Stop) (stream : Stream) : Except Stop (Token × Stream) := do
  let (high, stream) ← stream.takeFlag failed
  let (low, stream) ← stream.takeFlag failed
  let (offset, stream) ← stream.takeByte failed
  let distance ← subtract shortDistance offset.toNat
  return (.copy (high.toNat * 2 + low.toNat + minLength) distance, stream)

/-- Takes what follows the flags of a long copy or an end mark. -/
def takeLongCopy (failed : Stop) (stream : Stream) : Except Stop (Token × Stream) := do
  let (low, stream) ← stream.takeByte failed
  let (high, stream) ← stream.takeByte failed
  let distance ← subtract windowSize (low.toNat ||| ((high.toNat &&& 0xF0) <<< 4))
  let length := (high.toNat &&& 0x0F) + minLength
  if length = minLength then
    let (extended, stream) ← stream.takeByte failed
    let length := extended.toNat + 1
    if length = 1 then
      return (.endMark, stream)
    else
      return (.copy length distance, stream)
  else
    return (.copy length distance, stream)

/-- Takes a token. -/
def takeToken (failed : Stop) (stream : Stream) : Except Stop (Token × Stream) := do
  let (isLiteral, stream) ← stream.takeFlag failed
  if isLiteral then
    let (value, stream) ← stream.takeByte failed
    return (.literal value, stream)
  else
    let (isLong, stream) ← stream.takeFlag failed
    if isLong then stream.takeLongCopy failed else stream.takeShortCopy failed

/-- The reader that stands where a stream does. -/
def reader (stream : Stream) : FlagReader :=
  ⟨flagsOfNumber stream.available stream.flags.toNat, stream.input⟩

end Stream

/-- Whether a stream finds what a reader finds and leaves what it leaves, or fails like it. -/
inductive Finds {α : Type} (failed : Stop) :
    Except Stop (α × Stream) → Option (α × FlagReader) → Prop where
  | found (value : α) (stream : Stream) :
      Finds failed (.ok (value, stream)) (some (value, stream.reader))
  | exhausted : Finds failed (.error failed) none

namespace Finds

variable {α β : Type} {failed : Stop}

/-- One thing may be found behind the other. -/
theorem bind
    {step : Except Stop (α × Stream)}
    {plain : Option (α × FlagReader)}
    {next : α × Stream → Except Stop (β × Stream)}
    {plainNext : α × FlagReader → Option (β × FlagReader)}
    (first : Finds failed step plain)
    (second : ∀ value stream,
      Finds failed (next (value, stream)) (plainNext (value, stream.reader))) :
    Finds failed (step >>= next) (plain >>= plainNext) := by
  cases first with
  | found value stream => exact second value stream
  | exhausted => exact .exhausted

/-- What is taken off a stream is found by the reader. -/
theorem eq_some
    {step : Except Stop (α × Stream)}
    {plain : Option (α × FlagReader)}
    {value : α}
    {stream : Stream}
    (finds : Finds failed step plain)
    (taken : step = .ok (value, stream)) :
    plain = some (value, stream.reader) := by
  cases finds with
  | found => cases taken; rfl
  | exhausted => contradiction

end Finds

section Reading

variable (failed : Stop)

theorem finds_takeByte (stream : Stream) :
    Finds failed (stream.takeByte failed) stream.reader.byte? := by
  rcases stream with ⟨_ | ⟨value, rest⟩, flags, available⟩
  · exact .exhausted
  · exact .found value ⟨rest, flags, available⟩

/-- A flag that is shifted out of a word was in front of the others. -/
theorem reader_succ
    (input : List UInt8)
    (flags : UInt16)
    (available : Nat) :
    Stream.reader ⟨input, flags, available + 1⟩ =
      ⟨(flags &&& 1 == 1) :: (Stream.reader ⟨input, flags >>> 1, available⟩).flags, input⟩ := by
  have lowest : (flags.toNat % 2 == 1) = (flags &&& 1 == 1) := by
    rw [Bool.eq_iff_iff, beq_iff_eq, beq_iff_eq, ← UInt16.toNat_inj, UInt16.toNat_and,
      UInt16.toNat_one, Nat.and_one_is_mod]
  have others : flags.toNat / 2 = (flags >>> 1).toNat := by
    rw [UInt16.toNat_shiftRight]
    exact (Nat.shiftRight_eq_div_pow flags.toNat 1).symm
  simp only [Stream.reader, flagsOfNumber, lowest, others]

/-- A word of flags is taken off a stream as a reader takes it, or cannot be taken. -/
theorem refill_cases (stream : Stream) :
    stream.refill failed = .error failed ∧ FlagReader.ofInput? stream.input = none ∨
      ∃ input flags, stream.refill failed = .ok ⟨input, flags, 16⟩ ∧
        FlagReader.ofInput? stream.input = some (Stream.reader ⟨input, flags, 16⟩) := by
  rcases stream with ⟨_ | ⟨low, _ | ⟨high, rest⟩⟩, flags, available⟩
  · exact .inl ⟨rfl, rfl⟩
  · exact .inl ⟨rfl, rfl⟩
  · exact .inr ⟨rest, _, rfl, rfl⟩

theorem finds_takeFlag (stream : Stream) :
    Finds failed (stream.takeFlag failed) stream.reader.flag? := by
  rcases stream with ⟨input, flags, _ | available⟩
  · rw [Stream.takeFlag, if_pos rfl]
    change Finds failed _ (FlagReader.flag? ⟨[], input⟩)
    obtain ⟨noWord, unopened⟩ | ⟨rest, word, filled, opened⟩ :=
      refill_cases failed ⟨input, flags, 0⟩
    · rw [noWord, FlagReader.flag?, unopened]
      exact .exhausted
    · rw [filled, FlagReader.flag?, opened, reader_succ]
      exact .found _ ⟨rest, word >>> 1, 15⟩
  · rw [reader_succ]
    exact .found _ ⟨input, flags >>> 1, available⟩

theorem finds_takeShortCopy (stream : Stream) :
    Finds failed (stream.takeShortCopy failed) (Token.readShortCopy? stream.reader) := by
  refine (finds_takeFlag failed stream).bind fun high stream => ?_
  refine (finds_takeFlag failed stream).bind fun low stream => ?_
  refine (finds_takeByte failed stream).bind fun offset stream => ?_
  have inRange : offset.toNat ≤ shortDistance := Nat.le_of_lt offset.toNat_lt
  simp only [subtract_of_le inRange, Except.ok_bind, Nat.mul_comm high.toNat 2]
  exact .found _ stream

/-- Twelve bits of distance: eight from one byte and the upper half of another. -/
theorem or_shiftLeft_eq_add (low high : UInt8) :
    low.toNat ||| ((high.toNat &&& 0xF0) <<< 4) = low.toNat + 256 * (high.toNat / 16) := by
  have upperHalf : ∀ byte : Fin 256, byte.val &&& 0xF0 = (byte.val / 16) <<< 4 := by
    decide +kernel
  have highHalf : high.toNat &&& 0xF0 = (high.toNat / 16) <<< 4 := upperHalf high.toFin
  rw [highHalf, ← Nat.shiftLeft_add, Nat.or_comm,
    ← Nat.shiftLeft_add_eq_or_of_lt low.toNat_lt, Nat.shiftLeft_eq]
  omega

theorem finds_takeLongCopy (stream : Stream) :
    Finds failed (stream.takeLongCopy failed) (Token.readLongCopy? stream.reader) := by
  refine (finds_takeByte failed stream).bind fun low stream => ?_
  refine (finds_takeByte failed stream).bind fun high stream => ?_
  have inRange : low.toNat + 256 * (high.toNat / 16) ≤ windowSize := by
    have lowSmall := low.toNat_lt
    have highSmall := high.toNat_lt
    change _ ≤ 0x1000
    omega
  have lowerHalf : high.toNat &&& 0x0F = high.toNat % 16 :=
    Nat.and_two_pow_sub_one_eq_mod high.toNat 4
  simp only [or_shiftLeft_eq_add, lowerHalf, subtract_of_le inRange, Except.ok_bind,
    Nat.add_eq_right, extendedLength_eq_one_iff]
  split
  next noNibble =>
    refine (finds_takeByte failed stream).bind fun extended stream => ?_
    by_cases isEnd : extended = 0
    · simp only [if_pos isEnd]
      exact .found Token.endMark stream
    · simp only [if_neg isEnd]
      exact .found (Token.copy (extended.toNat + 1) _) stream
  next nibble => exact .found (Token.copy (high.toNat % 16 + minLength) _) stream

theorem finds_takeToken (stream : Stream) :
    Finds failed (stream.takeToken failed) (Token.read? stream.reader) := by
  refine (finds_takeFlag failed stream).bind fun isLiteral stream => ?_
  cases isLiteral with
  | true =>
      exact (finds_takeByte failed stream).bind fun value stream => .found (Token.literal value) stream
  | false =>
      refine (finds_takeFlag failed stream).bind fun isLong stream => ?_
      cases isLong with
      | true => exact finds_takeLongCopy failed stream
      | false => exact finds_takeShortCopy failed stream

end Reading

/-! ## The buffer -/

/-- The state of expanding. -/
structure Machine where
  stream : Stream
  buffer : List UInt8
  position : Nat

/-- The state behind a round, and whether it was the last one. -/
structure Round where
  machine : Machine
  isLast : Bool

/-- How expanding stops where the input runs out. -/
def exhaustion (expected position : Nat) : Stop :=
  match subtract position windowSize with
  | .ok produced => .fault (.streamExhausted produced expected)
  | .error stop => stop

/-- Repeats bytes from a distance back until there are enough of them or no more room. -/
def repeatBack (stop distance : Nat) :
    Nat → List UInt8 → Nat → Except Stop (List UInt8 × Nat)
  | 0, buffer, position => .ok (buffer, position)
  | count + 1, buffer, position =>
      if position = stop then
        .ok (buffer, position)
      else do
        let index ← subtract position distance
        let value ← readAt buffer index
        let buffer ← writeAt buffer position value
        repeatBack stop distance count buffer (position + 1)

/-- One round in a buffer of the given size: a token is taken and expanded. -/
def round (expected size : Nat) (machine : Machine) : Except Stop Round := do
  let (token, stream) ←
    machine.stream.takeToken (exhaustion expected machine.position)
  match token with
  | .literal value =>
      let buffer ← writeAt machine.buffer machine.position value
      return ⟨⟨stream, buffer, machine.position + 1⟩, false⟩
  | .copy length distance =>
      let (buffer, position) ←
        repeatBack size distance length machine.buffer machine.position
      return ⟨⟨stream, buffer, position⟩, false⟩
  | .endMark => return ⟨⟨stream, machine.buffer, machine.position⟩, true⟩

/-- A round leaves the stream behind the token that it takes. -/
theorem takeToken_of_round
    {expected size : Nat}
    {machine : Machine}
    {next : Round}
    (made : round expected size machine = .ok next) :
    ∃ token,
      machine.stream.takeToken (exhaustion expected machine.position) =
        .ok (token, next.machine.stream) := by
  obtain ⟨⟨token, stream⟩, taken, made⟩ := Except.bind_eq_ok_iff.mp made
  suffices next.machine.stream = stream from ⟨token, this ▸ taken⟩
  cases token with
  | literal value =>
      obtain ⟨buffer, -, made⟩ := Except.bind_eq_ok_iff.mp made
      cases made
      rfl
  | copy length distance =>
      obtain ⟨⟨buffer, position⟩, -, made⟩ := Except.bind_eq_ok_iff.mp made
      cases made
      rfl
  | endMark =>
      cases made
      rfl

/-- Every round takes something off the input, the last one too. -/
theorem length_lt_of_round
    {expected size : Nat}
    {machine : Machine}
    {next : Round}
    (made : round expected size machine = .ok next) :
    next.machine.stream.input.length < machine.stream.input.length := by
  obtain ⟨token, taken⟩ := takeToken_of_round made
  exact Token.length_lt_of_read? ((finds_takeToken _ machine.stream).eq_some taken)

/-- Rounds are made until the buffer is full or a round is the last one. -/
def run (expected size : Nat) (machine : Machine) : Except Stop Machine :=
  if machine.position < size then
    match made : round expected size machine with
    | .error stop => .error stop
    | .ok next =>
        have _shorter := length_lt_of_round made
        if next.isLast then
          .ok next.machine
        else
          run expected size next.machine
  else
    .ok machine
termination_by machine.stream.input.length

/-- The output of a machine, if its buffer is full. -/
def finish (expected size : Nat) (machine : Machine) : Except Stop (List UInt8) :=
  if machine.position < size then do
    let produced ← subtract machine.position windowSize
    .error (.fault (.shortOutput produced expected))
  else
    splitOff machine.buffer windowSize

/-- The size of a buffer for the zeros and the expected output. -/
def bufferSize (overflow : Overflow) (expected : Nat) : Except Stop Nat :=
  match overflow.addSizes windowSize expected with
  | some size => .ok size
  | none => .error (.stray (.sum windowSize expected))

/-- A buffer of zeros. -/
def zeros (size : Nat) : Except Stop (List UInt8) :=
  if size ≤ maxBufferSize then
    .ok (List.replicate size 0)
  else
    .error (.stray (.buffer size))

/-- Expands a stream in a window. -/
def decompress
    (overflow : Overflow)
    (input : List UInt8)
    (expected : Nat) :
    Except Stop (List UInt8) := do
  let size ← bufferSize overflow expected
  let buffer ← zeros size
  if expected = 0 then
    return []
  else
    let stream ← Stream.start (exhaustion expected windowSize) input
    let machine ← run expected size ⟨stream, buffer, windowSize⟩
    finish expected size machine

/-! ## What the buffer shows -/

/-- Whether a buffer shows the zeros and the output behind them, with room for the rest. -/
structure Shows
    (expected : Nat)
    (buffer : List UInt8)
    (position : Nat)
    (produced : Array UInt8) : Prop where
  length_eq : buffer.length = windowSize + expected
  position_eq : position = windowSize + produced.size
  size_le : produced.size ≤ expected
  shown : List.replicate windowSize 0 ++ produced.toList <+: buffer

namespace Shows

variable {expected position : Nat} {buffer : List UInt8} {produced : Array UInt8}

/-- At first there are zeros only. -/
theorem start (expected : Nat) :
    Shows expected (List.replicate (windowSize + expected) 0) windowSize #[] where
  length_eq := List.length_replicate
  position_eq := rfl
  size_le := Nat.zero_le expected
  shown := by
    rw [List.append_nil, List.replicate_add]
    exact List.prefix_append _ _

/-- There is room exactly where output is missing. -/
theorem position_lt_iff (shows : Shows expected buffer position produced) :
    position < windowSize + expected ↔ ¬ expected ≤ produced.size := by
  rw [shows.position_eq, Nat.add_lt_add_iff_left, Nat.not_le]

/-- A byte is written behind the output if some is missing. -/
theorem writeAt
    (shows : Shows expected buffer position produced)
    (notFull : ¬ expected ≤ produced.size)
    (value : UInt8) :
    ∃ longer, Window.writeAt buffer position value = .ok longer ∧
      Shows expected longer (position + 1) (produced.push value) := by
  have inBuffer : position < buffer.length := by
    rw [shows.length_eq]
    exact shows.position_lt_iff.mpr notFull
  refine ⟨buffer.set position value, if_pos inBuffer, ?_, ?_, ?_, ?_⟩
  · rw [List.length_set, shows.length_eq]
  · rw [Array.size_push, shows.position_eq, Nat.add_assoc]
  · rw [Array.size_push]
    omega
  · obtain ⟨rest, split⟩ := shows.shown
    have position_eq :
        position = (List.replicate windowSize (0 : UInt8) ++ produced.toList).length := by
      rw [List.length_append, List.length_replicate, Array.length_toList, shows.position_eq]
    cases rest with
    | nil =>
        rw [← split, List.append_nil, ← position_eq] at inBuffer
        exact absurd inBuffer (Nat.lt_irrefl position)
    | cons old behind =>
        refine ⟨behind, ?_⟩
        rw [← split, position_eq, List.set_append_right _ _ (Nat.le_refl _), Nat.sub_self,
          List.set_cons_zero, Array.toList_push, List.append_assoc, List.append_assoc,
          List.singleton_append, List.append_assoc]

/-- A byte is read back from the output or the zeros. -/
theorem readAt
    (shows : Shows expected buffer position produced)
    {distance : Nat}
    (backwards : 1 ≤ distance) :
    Window.readAt buffer (position - distance) = .ok (byteBack produced distance) := by
  obtain ⟨rest, split⟩ := shows.shown
  have found := historyByte?_toList backwards produced
  rw [historyByte?, Array.length_toList, ← windowSize, ← shows.position_eq] at found
  have inOutput := (List.getElem?_eq_some_iff.mp found).1
  rw [Window.readAt, ← split, List.getElem?_append_left inOutput, found]

/-- A whole output is what stands behind the zeros. -/
theorem splitOff
    (shows : Shows expected buffer position produced)
    (full : expected ≤ produced.size) :
    Window.splitOff buffer windowSize = .ok produced.toList := by
  have inBuffer : windowSize ≤ buffer.length := by
    rw [shows.length_eq]
    exact Nat.le_add_right windowSize expected
  have whole : List.replicate windowSize 0 ++ produced.toList = buffer := by
    apply shows.shown.eq_of_length
    rw [List.length_append, List.length_replicate, Array.length_toList, shows.length_eq,
      Nat.le_antisymm shows.size_le full]
  rw [Window.splitOff, if_pos inBuffer, ← whole, List.drop_left' List.length_replicate]

/-- A copy repeats output until it is done or the output is whole. -/
theorem repeatBack
    (shows : Shows expected buffer position produced)
    {distance : Nat}
    (backwards : 1 ≤ distance)
    (inWindow : distance ≤ windowSize)
    (count : Nat) :
    ∃ longer next,
      Window.repeatBack (windowSize + expected) distance count buffer position =
        .ok (longer, next) ∧
      Shows expected longer next
        (copyBack distance (min count (expected - produced.size)) produced) := by
  -- Each byte is one more of the output, so that the copy may overlap what it produces.
  induction count generalizing buffer position produced with
  | zero => exact ⟨buffer, position, rfl, by simpa only [Nat.zero_min]⟩
  | succ count inductionHypothesis =>
      rw [Window.repeatBack]
      by_cases full : expected ≤ produced.size
      · have atEnd : position = windowSize + expected := by
          rw [shows.position_eq, Nat.le_antisymm shows.size_le full]
        rw [if_pos atEnd, Nat.sub_eq_zero_of_le full, Nat.min_zero]
        exact ⟨buffer, position, rfl, shows⟩
      · have inRoom := shows.position_lt_iff.mpr full
        have inRange : distance ≤ position := by
          rw [shows.position_eq]
          exact Nat.le_add_right_of_le inWindow
        obtain ⟨longer, written, shownThen⟩ :=
          shows.writeAt full (byteBack produced distance)
        have oneLess :
            min (count + 1) (expected - produced.size) =
              min count (expected - (produced.push (byteBack produced distance)).size) + 1 := by
          rw [Array.size_push]
          omega
        rw [if_neg (Nat.ne_of_lt inRoom), subtract_of_le inRange, Except.ok_bind,
          shows.readAt backwards, Except.ok_bind, written, Except.ok_bind, oneLess, copyBack]
        exact inductionHypothesis shownThen

/-- Where the input runs out, the fault says how much has been produced. -/
theorem exhaustion
    (shows : Shows expected buffer position produced) :
    Window.exhaustion expected position =
      .fault (.streamExhausted produced.size expected) := by
  rw [Window.exhaustion, shows.position_eq, subtract_of_le (Nat.le_add_right _ _),
    Nat.add_sub_cancel_left]

section Rounds

variable {machine : Machine}

/-- A whole output is handed over. -/
theorem finish_of_full
    (shows : Shows expected machine.buffer machine.position produced)
    (full : expected ≤ produced.size) :
    finish expected (windowSize + expected) machine = .ok produced.toList := by
  have noRoom : ¬ machine.position < windowSize + expected := fun inRoom =>
    shows.position_lt_iff.mp inRoom full
  rw [finish, if_neg noRoom, shows.splitOff full]

/-- An output that is too short is a fault, which says how much has been produced. -/
theorem finish_of_short
    (shows : Shows expected machine.buffer machine.position produced)
    (notFull : ¬ expected ≤ produced.size) :
    finish expected (windowSize + expected) machine =
      .error (.fault (.shortOutput produced.size expected)) := by
  rw [finish, if_pos (shows.position_lt_iff.mpr notFull), shows.position_eq,
    subtract_of_le (Nat.le_add_right _ _), Nat.add_sub_cancel_left]
  rfl

/--
A round fails where no token is left, and otherwise expands one as far as output
is missing.
-/
theorem round_cases
    (shows : Shows expected machine.buffer machine.position produced)
    (notFull : ¬ expected ≤ produced.size) :
    Token.read? machine.stream.reader = none ∧
        round expected (windowSize + expected) machine =
          .error (.fault (.streamExhausted produced.size expected)) ∨
      ∃ token next,
        Token.read? machine.stream.reader = some (token, next.machine.stream.reader) ∧
          round expected (windowSize + expected) machine = .ok next ∧
          next.isLast = (token == .endMark) ∧
          Shows expected next.machine.buffer next.machine.position
            (token.expandUpTo expected produced) := by
  have finds :=
    finds_takeToken (.fault (.streamExhausted produced.size expected)) machine.stream
  have tokenInWindow (token : Token) (left : FlagReader) :
      Token.read? machine.stream.reader = some (token, left) → token.InWindow :=
    Token.inWindow_of_read?
  rw [round, shows.exhaustion]
  -- What is taken is all that matters of the stream from here on.
  generalize machine.stream.takeToken (.fault (.streamExhausted produced.size expected)) = step
    at *
  generalize Token.read? machine.stream.reader = plain at *
  cases finds with
  | exhausted => exact .inl ⟨rfl, rfl⟩
  | found token left =>
      refine .inr ?_
      cases token with
      | literal value =>
          obtain ⟨longer, written, shownThen⟩ := shows.writeAt notFull value
          refine ⟨_, ⟨⟨left, longer, _⟩, false⟩, rfl, ?_, rfl, shownThen⟩
          simp only [Except.ok_bind, written]
          rfl
      | copy length distance =>
          obtain ⟨backwards, inWindow⟩ := tokenInWindow _ _ rfl
          obtain ⟨longer, position, repeated, shownThen⟩ :=
            shows.repeatBack backwards inWindow length
          refine ⟨_, ⟨⟨left, longer, position⟩, false⟩, rfl, ?_, rfl, shownThen⟩
          simp only [Except.ok_bind, repeated]
          rfl
      | endMark =>
          exact ⟨_, ⟨⟨left, machine.buffer, machine.position⟩, true⟩, rfl, rfl, rfl, shows⟩

/-- Only for want of a token a round fails. -/
theorem eq_exhausted_of_round
    {stop : Stop}
    (shows : Shows expected machine.buffer machine.position produced)
    (notFull : ¬ expected ≤ produced.size)
    (made : round expected (windowSize + expected) machine = .error stop) :
    Token.read? machine.stream.reader = none ∧
      stop = .fault (.streamExhausted produced.size expected) := by
  obtain ⟨noToken, fails⟩ | ⟨token, next, -, succeeds, -⟩ := shows.round_cases notFull
  · exact ⟨noToken, Except.error.inj (made.symm.trans fails)⟩
  · cases made.symm.trans succeeds

/-- Behind a round that is made, the buffer shows the output behind its token. -/
theorem exists_token_of_round
    {next : Round}
    (shows : Shows expected machine.buffer machine.position produced)
    (notFull : ¬ expected ≤ produced.size)
    (made : round expected (windowSize + expected) machine = .ok next) :
    ∃ token,
      Token.read? machine.stream.reader = some (token, next.machine.stream.reader) ∧
        next.isLast = (token == .endMark) ∧
        Shows expected next.machine.buffer next.machine.position
          (token.expandUpTo expected produced) := by
  obtain ⟨-, fails⟩ | ⟨token, found, taken, succeeds, rest⟩ := shows.round_cases notFull
  · cases made.symm.trans fails
  · obtain rfl := Except.ok.inj (made.symm.trans succeeds)
    exact ⟨token, taken, rest⟩

/-- The rest of a run comes to what expanding the rest of the stream comes to. -/
theorem run_finish
    (shows : Shows expected machine.buffer machine.position produced) :
    (run expected (windowSize + expected) machine >>=
        finish expected (windowSize + expected)) =
      safely ((expandFrom expected machine.stream.reader produced).map Array.toList) := by
  -- One case for each way to go on; what the buffer shows is carried from round to round.
  fun_induction run expected (windowSize + expected) machine generalizing produced with
  | case1 machine inRoom stop made =>
      have notFull := shows.position_lt_iff.mp inRoom
      obtain ⟨noToken, rfl⟩ := shows.eq_exhausted_of_round notFull made
      rw [expandFrom_of_exhausted notFull noToken]
      rfl
  | case2 machine inRoom next made shorter isLast =>
      have notFull := shows.position_lt_iff.mp inRoom
      obtain ⟨token, taken, last, shownThen⟩ := shows.exists_token_of_round notFull made
      obtain rfl : token = .endMark := beq_iff_eq.mp (last.symm.trans isLast)
      rw [expandFrom_of_token notFull taken, if_pos rfl, Except.ok_bind,
        shownThen.finish_of_short notFull]
      rfl
  | case3 machine inRoom next made shorter goesOn inductionHypothesis =>
      have notFull := shows.position_lt_iff.mp inRoom
      obtain ⟨token, taken, last, shownThen⟩ := shows.exists_token_of_round notFull made
      have notEnd : token ≠ .endMark := fun isEnd =>
        goesOn (last.trans (beq_iff_eq.mpr isEnd))
      rw [expandFrom_of_token notFull taken, if_neg notEnd]
      exact inductionHypothesis shownThen
  | case4 machine noRoom =>
      have full : expected ≤ produced.size := not_not.mp (mt shows.position_lt_iff.mpr noRoom)
      rw [expandFrom_of_full full, Except.ok_bind, shows.finish_of_full full]
      rfl

end Rounds

end Shows

/-- What cannot go astray does not. -/
theorem safely_ne_stray
    {α : Type}
    (step : Except ImageError α)
    (what : Stray) :
    safely step ≠ .error (.stray what) := by
  cases step with
  | error fault => rintro ⟨⟩
  | ok value => rintro ⟨⟩

section Buffer

variable {input : List UInt8} {expected : Nat}

/-- Where there is room, the size of the buffer is the sum that is meant. -/
theorem bufferSize_of_hasRoom (room : HasRoom expected) (overflow : Overflow) :
    bufferSize overflow expected = .ok (windowSize + expected) := by
  have fits : windowSize + expected < UInt64.size := Nat.lt_of_le_of_lt room (by decide)
  rw [bufferSize, Overflow.addSizes_of_fits fits]

/-- Where there is room, there is a buffer. -/
theorem zeros_of_hasRoom (room : HasRoom expected) :
    zeros (windowSize + expected) = .ok (List.replicate (windowSize + expected) 0) :=
  if_pos room

/-- Expanding in a window comes to what expanding comes to, if there is room. -/
theorem decompress_eq_safely
    (room : HasRoom expected)
    (overflow : Overflow)
    (input : List UInt8) :
    decompress overflow input expected = safely (expandTo input expected) := by
  rw [decompress, bufferSize_of_hasRoom room, Except.ok_bind, zeros_of_hasRoom room,
    Except.ok_bind, expandTo]
  split
  next => rfl
  next =>
    have shows := Shows.start expected
    rw [Stream.start, shows.exhaustion]
    obtain ⟨noWord, unopened⟩ | ⟨rest, flags, filled, opened⟩ :=
      refill_cases (.fault (.streamExhausted (#[] : Array UInt8).size expected)) ⟨input, 0, 0⟩
    · rw [noWord, unopened]
      rfl
    · rw [filled, opened, Except.ok_bind]
      exact shows.run_finish

/-- A buffer that does not even hold the zeros has no output to be split off. -/
theorem run_finish_of_short
    {size : Nat}
    (short : size < windowSize)
    (stream : Stream) :
    (run expected size ⟨stream, List.replicate size 0, windowSize⟩ >>= finish expected size) =
      .error (.stray (.split windowSize size)) := by
  have noRoom : ¬ windowSize < size := Nat.lt_asymm short
  have outside : ¬ windowSize ≤ size := Nat.not_le_of_lt short
  rw [run, if_neg noRoom, Except.ok_bind, finish, if_neg noRoom, splitOff,
    List.length_replicate, if_neg outside]

/-- A sum that wraps leaves a buffer that does not even hold the zeros. -/
theorem bufferSize_wraps_of_overflow
    (tooGreat : UInt64.size ≤ windowSize + expected)
    (isSize : expected < UInt64.size) :
    ∃ size, bufferSize .wraps expected = .ok size ∧ size < windowSize := by
  refine ⟨windowSize + expected - UInt64.size, ?_, by omega⟩
  have wrapped : (windowSize + expected) % UInt64.size = windowSize + expected - UInt64.size := by
    rw [Nat.mod_eq_sub_mod tooGreat, Nat.mod_eq_of_lt]
    have small : windowSize < UInt64.size := by decide
    omega
  rw [bufferSize, Overflow.addSizes, wrapped]

/-- Where the size of the buffer wraps, a stream that has flags goes astray. -/
theorem exists_stray_of_wraps
    (tooGreat : UInt64.size ≤ windowSize + expected)
    (isSize : expected < UInt64.size)
    (flagged : FlagReader.ofInput? input ≠ none) :
    ∃ what, decompress .wraps input expected = .error (.stray what) := by
  obtain ⟨size, sized, short⟩ := bufferSize_wraps_of_overflow tooGreat isSize
  have held : size ≤ maxBufferSize := Nat.le_trans (Nat.le_of_lt short) (by decide)
  have asked : expected ≠ 0 := by
    rintro rfl
    contradiction
  obtain ⟨-, unopened⟩ | ⟨rest, flags, filled, -⟩ :=
    refill_cases (exhaustion expected windowSize) ⟨input, 0, 0⟩
  · exact absurd unopened flagged
  · refine ⟨.split windowSize size, ?_⟩
    rw [decompress, sized, Except.ok_bind, zeros, if_pos held, Except.ok_bind, if_neg asked,
      Stream.start, filled, Except.ok_bind]
    exact run_finish_of_short short _

/--
A stream that has flags goes astray just where there is no room for the output,
whether the size of the buffer stops or wraps.
-/
theorem exists_stray_iff
    (isSize : expected < UInt64.size)
    (flagged : FlagReader.ofInput? input ≠ none)
    (overflow : Overflow) :
    (∃ what, decompress overflow input expected = .error (.stray what)) ↔
      ¬ HasRoom expected := by
  constructor
  · rintro ⟨what, strays⟩ room
    rw [decompress_eq_safely room] at strays
    exact safely_ne_stray _ what strays
  · intro noRoom
    by_cases fits : windowSize + expected < UInt64.size
    · -- The sum is right, but there is no buffer of that size.
      refine ⟨.buffer (windowSize + expected), ?_⟩
      have noBuffer : zeros (windowSize + expected) = .error (.stray (.buffer _)) :=
        if_neg noRoom
      rw [decompress, bufferSize, Overflow.addSizes_of_fits fits, Except.ok_bind, noBuffer]
      rfl
    · cases overflow with
      | stops =>
          refine ⟨.sum windowSize expected, ?_⟩
          rw [decompress, bufferSize, Overflow.addSizes, if_neg fits]
          rfl
      | wraps => exact exists_stray_of_wraps (Nat.le_of_not_lt fits) isSize flagged

end Buffer

end Window

/-! ## The length of the output -/

section Length

variable {input output : List UInt8} {expected : Nat}

/-- Output that is found is as long as expected. -/
theorem length_of_expandTo (found : expandTo input expected = .ok output) :
    output.length = expected := by
  rw [expandTo_eq_cut, StreamEnd.cut] at found
  split at found
  next enough =>
    cases found
    rw [List.length_take, Nat.min_eq_left enough]
  next => contradiction

/-- Output of a stream that there is room for is as long as expected. -/
theorem length_of_decompress (found : decompress input expected = .ok output) :
    output.length = expected := by
  by_cases room : HasRoom expected
  · rw [decompress_of_hasRoom room] at found
    exact length_of_expandTo (Except.mapError_eq_ok_iff.mp found)
  · rw [decompress_of_oversized room] at found
    contradiction

/-- What expanding finds fault with is never the length of the payload. -/
theorem expandTo_ne_payloadLength (asked actual : Nat) :
    expandTo input expected ≠ .error (.payloadLength asked actual) := by
  rw [expandTo_eq_cut, StreamEnd.cut]
  split
  next => rintro ⟨⟩
  next => cases (contentOf input).ending <;> rintro ⟨⟩

/-- Decompressed pixels fill their grid, so that their number is never at fault. -/
theorem lzPixels_ne_payloadLength
    (width height : UInt16)
    (asked actual : Nat) :
    Compression.lz.pixels input width height ≠ .error (.payloadLength asked actual) := by
  intro fails
  rw [Compression.pixels] at fails
  cases outcome : expandTo input (PixelGrid.area width height) with
  | error fault =>
      rw [outcome] at fails
      cases fails
      exact expandTo_ne_payloadLength asked actual outcome
  | ok pixels =>
      have fits : pixels.toArray.size = PixelGrid.area width height :=
        length_of_expandTo outcome
      rw [outcome, Except.ok_bind, PixelGrid.ofPixels, dif_pos fits] at fails
      contradiction

end Length

/-- Where there is room, decompressing comes to what the stream stands for, and to nothing else. -/
theorem decompress_eq_iff_standsFor
    {input : List UInt8}
    {expected : Nat}
    {outcome : Except ImageError (List UInt8)}
    (room : HasRoom expected) :
    decompress input expected = outcome.mapError .stream ↔ StandsFor input expected outcome := by
  rw [decompress_of_hasRoom room,
    Except.mapError_inj fun _ _ => DecompressError.stream.inj]
  exact expandTo_eq_iff_standsFor

/--
If a buffer can hold the expected output, decompressing is expanding in a window,
and comes to what the stream stands for.  The buffer has the size that is meant,
the index of every byte that is read or written is in it, no difference is
negative, and each round takes something off the input.  Copies reach back at
least one byte and at most as many as there are zeros.  Output that is found is as
long as expected.  Pixels are decompressed, and always fill their grid.
-/
theorem decompress_in_window
    (input : List UInt8)
    {expected : Nat}
    (inRange : expected < 2 ^ 63 - 4096) :
    (∀ outcome, decompress input expected = outcome.mapError .stream ↔
      StandsFor input expected outcome) ∧
    (∃ outcome, decompress input expected = outcome.mapError .stream ∧
      ∀ overflow, Window.decompress overflow input expected = Window.safely outcome) ∧
    (∀ overflow what, Window.decompress overflow input expected ≠ .error (.stray what)) ∧
    (∀ size machine next, Window.round expected size machine = .ok next →
      next.machine.stream.input.length < machine.stream.input.length) ∧
    (∀ tokens ending, Parses (.start input) tokens ending →
      ∀ length distance, .copy length distance ∈ tokens → 1 ≤ distance ∧ distance ≤ 4096) ∧
    (∀ output, decompress input expected = .ok output → output.length = expected) ∧
    ∀ width height,
      (Compression.lz.pixels input width height).mapError DecompressError.stream =
        (decompress input (PixelGrid.area width height) >>= fun pixels =>
          (PixelGrid.ofPixels width height pixels).mapError .stream) ∧
      ∀ asked actual,
        Compression.lz.pixels input width height ≠ .error (.payloadLength asked actual) := by
  have room := hasRoom_iff.mpr inRange
  refine ⟨fun outcome => decompress_eq_iff_standsFor room,
    ⟨expandTo input expected, decompress_of_hasRoom room, fun overflow => ?_⟩,
    fun overflow what => ?_, fun size machine next => Window.length_lt_of_round,
    fun tokens ending parses length distance inside => ?_, fun output => length_of_decompress,
    fun width height => ⟨?_, fun asked actual => ?_⟩⟩
  · exact Window.decompress_eq_safely room overflow input
  · rw [Window.decompress_eq_safely room]
    exact Window.safely_ne_stray _ what
  · exact (inWindow_of_parses parses _ inside).1
  · exact Compression.mapError_pixels_lz input width height
  · exact lzPixels_ne_payloadLength width height asked actual

/-- Behind its one byte the stream ends with a mark, so that more cannot be had of it. -/
theorem standsFor_markedStream {expected : Nat} (asked : 1 < expected) :
    StandsFor markedStream expected (.error (.shortOutput 1 expected)) := by
  rw [← expandTo_eq_iff_standsFor, expandTo_eq_cut, outputOf_markedStream, ending_markedStream]
  exact StreamEnd.cut_of_short (Nat.not_le_of_lt asked) .marked

/-- To ask for a second byte is a fault, in the window as well. -/
theorem markedStream_in_window :
    2 < 2 ^ 63 - 4096 ∧
      decompress markedStream 2 = .error (.stream (.shortOutput 1 2)) ∧
      ∀ overflow, Window.decompress overflow markedStream 2 = .error (.fault (.shortOutput 1 2)) := by
  have inRange : 2 < 2 ^ 63 - 4096 := by decide
  obtain ⟨standsFor_iff, ⟨outcome, found, foundInWindow⟩, -⟩ :=
    decompress_in_window markedStream inRange
  have short : StandsFor markedStream 2 outcome := (standsFor_iff outcome).mp found
  obtain rfl : outcome = .error (.shortOutput 1 2) :=
    (expandTo_eq_iff_standsFor.mpr short).symm.trans
      (expandTo_eq_iff_standsFor.mpr (standsFor_markedStream (by decide)))
  exact ⟨inRange, found, foundInWindow⟩

/--
For the greatest length there is, the stream still stands for the fault that there
is one byte only.  Decompressing does not come to that, and the window goes astray.
-/
theorem markedStream_astray :
    StandsFor markedStream (2 ^ 64 - 1) (.error (.shortOutput 1 (2 ^ 64 - 1))) ∧
      decompress markedStream (2 ^ 64 - 1) ≠
        .error (.stream (.shortOutput 1 (2 ^ 64 - 1))) ∧
      ∀ overflow, ∃ what,
        Window.decompress overflow markedStream (2 ^ 64 - 1) = .error (.stray what) := by
  have noRoom : ¬ HasRoom (2 ^ 64 - 1) := by decide
  refine ⟨standsFor_markedStream (by decide), ?_, fun overflow => ?_⟩
  · rw [decompress_of_oversized noRoom]
    simp
  · exact (Window.exists_stray_iff (by decide) (by decide) overflow).mpr noRoom

end AdventureArchive.Lz
