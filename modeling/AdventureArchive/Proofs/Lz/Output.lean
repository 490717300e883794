import AdventureArchive.Proofs.Lz.Expansion
import Mathlib.Algebra.Group.Nat.Defs

namespace AdventureArchive.Lz

/-!
# The output of a stream

A stream stands for one run of tokens, whoever asks for how much of its output.
`contentOf` reads these tokens to the end of the stream and says how it ends;
`outputOf` is what they expand to.  Decompressing cuts this output at the
expected length (`decompress_cuts_output`), provided a buffer can hold as much.

Bytes behind a stream are looked at only where the stream would have been
exhausted, so they can prolong the output and never change it.
-/

/-- How a stream ends behind its last token. -/
inductive StreamEnd where
  | exhausted
  | marked
  deriving Repr, DecidableEq

namespace StreamEnd

/-- The fault of asking for output beyond the end of a stream. -/
def fault : StreamEnd → Nat → Nat → ImageError
  | .exhausted => .streamExhausted
  | .marked => .shortOutput

/-- The outcome of asking for output of the expected length. -/
def cut
    (ending : StreamEnd)
    (output : List UInt8)
    (expected : Nat) :
    Except ImageError (List UInt8) :=
  if expected ≤ output.length then
    .ok (output.take expected)
  else
    .error (ending.fault output.length expected)

/-- Output of the expected length is not changed by what would follow it. -/
theorem cut_of_extension
    {expected : Nat}
    {produced output : List UInt8}
    (start : produced <+: output)
    (whole : produced.length = expected)
    (ending : StreamEnd) :
    ending.cut output expected = .ok produced := by
  have enough : expected ≤ output.length := whole ▸ start.length_le
  rw [cut, if_pos enough, ← whole, ← List.prefix_iff_eq_take.mp start]

/-- Output that is too short is a fault, which says how much there is. -/
theorem cut_of_short
    {expected : Nat}
    {output : List UInt8}
    (short : ¬ expected ≤ output.length)
    (ending : StreamEnd) :
    ending.cut output expected = .error (ending.fault output.length expected) :=
  if_neg short

end StreamEnd

/-- The tokens of a stream and how it ends. -/
structure StreamContent where
  tokens : List Token
  ending : StreamEnd
  deriving Repr, DecidableEq

/-- What a reader has in front of it. -/
def FlagReader.content (reader : FlagReader) : StreamContent :=
  match taken : Token.read? reader with
  | none => ⟨[], .exhausted⟩
  | some (token, left) =>
      have _shorter := Token.length_lt_of_read? taken
      if token = .endMark then
        ⟨[], .marked⟩
      else
        ⟨token :: left.content.tokens, left.content.ending⟩
termination_by reader.input.length

/-- What a stream holds. -/
def contentOf (input : List UInt8) : StreamContent :=
  match FlagReader.ofInput? input with
  | none => ⟨[], .exhausted⟩
  | some reader => reader.content

/-- All that a stream expands to. -/
def outputOf (input : List UInt8) : List UInt8 :=
  (expandAll #[] (contentOf input).tokens).toList

namespace FlagReader

variable {reader left : FlagReader} {token : Token}

/-- A reader that holds no further token is at the end of its stream. -/
theorem content_of_exhausted (exhausted : Token.read? reader = none) :
    reader.content = ⟨[], .exhausted⟩ := by
  rw [content]
  split
  next => rfl
  next found behind taken =>
    rw [exhausted] at taken
    contradiction

/-- The end mark is no part of what it ends. -/
theorem content_of_endMark (taken : Token.read? reader = some (.endMark, left)) :
    reader.content = ⟨[], .marked⟩ := by
  rw [content]
  split
  next exhausted =>
    rw [taken] at exhausted
    contradiction
  next found behind foundTaken =>
    rw [taken] at foundTaken
    cases foundTaken
    rfl

/-- A token comes before what is read behind it. -/
theorem content_of_taken
    (taken : Token.read? reader = some (token, left))
    (notEnd : token ≠ .endMark) :
    reader.content = ⟨token :: left.content.tokens, left.content.ending⟩ := by
  rw [content]
  split
  next exhausted =>
    rw [taken] at exhausted
    contradiction
  next found behind foundTaken =>
    rw [taken] at foundTaken
    cases foundTaken
    exact if_neg notEnd

end FlagReader

/-- An output that is long enough is what asking for its length comes to. -/
theorem map_toList_expandFrom_of_full
    {expected : Nat}
    {produced : Array UInt8}
    (whole : produced.size = expected)
    (reader : FlagReader)
    (content : StreamContent) :
    (expandFrom expected reader produced).map Array.toList =
      content.ending.cut (expandAll produced content.tokens).toList expected := by
  rw [expandFrom_of_full (Nat.le_of_eq whole.symm),
    StreamEnd.cut_of_extension (prefix_expandAll produced _) whole]
  rfl

/--
Expanding what a reader has in front of it produces what its tokens expand to,
cut at the expected length.
-/
theorem map_toList_expandFrom_content
    {expected : Nat}
    {reader : FlagReader}
    {produced : Array UInt8}
    (notTooMuch : produced.size ≤ expected) :
    (expandFrom expected reader produced).map Array.toList =
      reader.content.ending.cut
        (expandAll produced reader.content.tokens).toList expected := by
  fun_induction FlagReader.content reader generalizing produced with
  | case1 reader exhausted =>
      by_cases full : expected ≤ produced.size
      · exact map_toList_expandFrom_of_full (Nat.le_antisymm notTooMuch full) _ ⟨_, _⟩
      · rw [expandFrom_of_exhausted full exhausted]
        exact (StreamEnd.cut_of_short full .exhausted).symm
  | case2 reader left taken =>
      by_cases full : expected ≤ produced.size
      · exact map_toList_expandFrom_of_full (Nat.le_antisymm notTooMuch full) _ ⟨_, _⟩
      · rw [expandFrom_of_taken full taken]
        exact (StreamEnd.cut_of_short full .marked).symm
  | case3 reader token left taken _ notEnd inductionHypothesis =>
      by_cases full : expected ≤ produced.size
      · exact map_toList_expandFrom_of_full (Nat.le_antisymm notTooMuch full) _ ⟨_, _⟩
      rw [expandFrom_of_taken full taken]
      cases token with
      | literal value =>
          refine inductionHypothesis ?_
          rw [Array.size_push]
          omega
      | copy length distance =>
          by_cases fits : length ≤ expected - produced.size
          · simp only [Nat.min_eq_left fits]
            refine inductionHypothesis ?_
            rw [size_copyBack]
            omega
          · -- The cut copy fills the output, so nothing behind it matters.
            have shorter : expected - produced.size ≤ length := by omega
            have whole :
                (copyBack distance (expected - produced.size) produced).size =
                  expected := by
              rw [size_copyBack]
              omega
            have start :=
              (prefix_copyBack_of_le shorter distance produced).trans
                (prefix_expandAll (copyBack distance length produced) left.content.tokens)
            simp only [Nat.min_eq_right shorter]
            rw [expandFrom_of_full (Nat.le_of_eq whole.symm)]
            exact (StreamEnd.cut_of_extension start whole _).symm
      | endMark => exact absurd rfl notEnd

/-! ## Whole streams -/

/-- A stream too short for a word of flags holds nothing. -/
theorem contentOf_of_unopened
    {input : List UInt8}
    (unopened : FlagReader.ofInput? input = none) :
    contentOf input = ⟨[], .exhausted⟩ := by
  rw [contentOf, unopened]

/-- A stream holds what a reader that is opened on it has in front of it. -/
theorem contentOf_of_opened
    {input : List UInt8}
    {reader : FlagReader}
    (opened : FlagReader.ofInput? input = some reader) :
    contentOf input = reader.content := by
  rw [contentOf, opened]

/-- Expanding a stream cuts its output. -/
theorem expandTo_eq_cut
    (input : List UInt8)
    (expected : Nat) :
    expandTo input expected =
      (contentOf input).ending.cut (outputOf input) expected := by
  by_cases nothingAsked : expected = 0
  · subst nothingAsked
    rw [expandTo, if_pos rfl]
    exact (StreamEnd.cut_of_extension List.nil_prefix rfl _).symm
  · have nothingYet : ¬ expected ≤ (#[] : Array UInt8).size := by simpa using nothingAsked
    rw [expandTo, if_neg nothingAsked, outputOf]
    match opened : FlagReader.ofInput? input with
    | none =>
        rw [contentOf_of_unopened opened]
        exact (StreamEnd.cut_of_short nothingYet .exhausted).symm
    | some reader =>
        rw [contentOf_of_opened opened]
        exact map_toList_expandFrom_content (Nat.zero_le expected)

/-! ## Written streams -/

/-- A reader before the items of some tokens has these tokens in front of it. -/
theorem content_before
    {tokens : List Token}
    (spelled : ∀ token ∈ tokens, token.Encodable ∧ token ≠ .endMark)
    (used : Nat) :
    (FlagReader.before used (tokens.flatMap Token.items)).content = ⟨tokens, .exhausted⟩ := by
  induction tokens generalizing used with
  | nil => exact FlagReader.content_of_exhausted (Token.read?_before_nil used)
  | cons token rest inductionHypothesis =>
      obtain ⟨⟨encodable, notEnd⟩, restSpelled⟩ := List.forall_mem_cons.mp spelled
      rw [List.flatMap_cons,
        FlagReader.content_of_taken (Token.read?_before encodable used _) notEnd,
        inductionHypothesis restSpelled]

/-! ## Longer streams -/

namespace FlagReader

/-- A reader of the same stream with more bytes at its end. -/
def extend (reader : FlagReader) (more : List UInt8) : FlagReader :=
  { reader with input := reader.input ++ more }

variable {reader left : FlagReader} (more : List UInt8)

/-- A byte that is there is there in a longer stream too. -/
theorem byte?_extend
    {value : UInt8}
    (taken : reader.byte? = some (value, left)) :
    (reader.extend more).byte? = some (value, left.extend more) := by
  rcases reader with ⟨flags, _ | ⟨first, rest⟩⟩
  · contradiction
  · cases taken
    rfl

/-- A word of flags that is there is there in a longer stream too. -/
theorem ofInput?_append
    {input : List UInt8}
    (opened : ofInput? input = some reader) :
    ofInput? (input ++ more) = some (reader.extend more) := by
  unfold ofInput? at opened
  split at opened
  next word rest wordRead =>
    cases opened
    rw [LawfulLayout.eq_append_of_read wordRead, List.append_assoc, ofInput?,
      LawfulLayout.read_append]
    rfl
  next => contradiction

/-- A flag that is there is there in a longer stream too. -/
theorem flag?_extend
    {flag : Bool}
    (taken : reader.flag? = some (flag, left)) :
    (reader.extend more).flag? = some (flag, left.extend more) := by
  rcases reader with ⟨_ | ⟨first, rest⟩, input⟩
  · unfold flag? at taken
    split at taken
    next => contradiction
    next =>
      split at taken
      next first rest behind opened =>
        cases taken
        have openedLonger := ofInput?_append more opened
        simp only [flag?, extend] at openedLonger ⊢
        rw [openedLonger]
      next => contradiction
  · cases taken
    rfl

end FlagReader

namespace Token

variable {reader left : FlagReader} {token : Token} (more : List UInt8)

theorem readShortCopy?_extend
    (taken : readShortCopy? reader = some (token, left)) :
    readShortCopy? (reader.extend more) = some (token, left.extend more) := by
  simp only [readShortCopy?, Option.bind_eq_bind, Option.bind_eq_some_iff] at taken
  obtain ⟨⟨high, behindHigh⟩, highTaken, ⟨low, behindLow⟩, lowTaken,
    ⟨offset, behindOffset⟩, offsetTaken, taken⟩ := taken
  cases taken
  simp only [readShortCopy?, FlagReader.flag?_extend more highTaken,
    FlagReader.flag?_extend more lowTaken, FlagReader.byte?_extend more offsetTaken,
    Option.bind_eq_bind, Option.bind_some]
  rfl

theorem readLongCopy?_extend
    (taken : readLongCopy? reader = some (token, left)) :
    readLongCopy? (reader.extend more) = some (token, left.extend more) := by
  simp only [readLongCopy?, Option.bind_eq_bind, Option.bind_eq_some_iff] at taken
  obtain ⟨⟨low, behindLow⟩, lowTaken, ⟨high, behindHigh⟩, highTaken, taken⟩ := taken
  simp only [readLongCopy?, FlagReader.byte?_extend more lowTaken,
    FlagReader.byte?_extend more highTaken, Option.bind_eq_bind, Option.bind_some]
  split at taken
  next noNibble =>
    obtain ⟨⟨extended, behindExtended⟩, extendedTaken, taken⟩ :=
      Option.bind_eq_some_iff.mp taken
    rw [if_pos noNibble, FlagReader.byte?_extend more extendedTaken, Option.bind_some]
    split at taken
    next isEnd =>
      cases taken
      rw [if_pos isEnd]
      rfl
    next notEnd =>
      cases taken
      rw [if_neg notEnd]
      rfl
  next nibble =>
    cases taken
    rw [if_neg nibble]
    rfl

/-- A token that is there is there in a longer stream too. -/
theorem read?_extend
    (taken : read? reader = some (token, left)) :
    read? (reader.extend more) = some (token, left.extend more) := by
  simp only [read?, Option.bind_eq_bind, Option.bind_eq_some_iff] at taken
  obtain ⟨⟨isLiteral, behindFirst⟩, firstTaken, taken⟩ := taken
  simp only [read?, FlagReader.flag?_extend more firstTaken, Option.bind_eq_bind,
    Option.bind_some]
  split at taken
  next literal =>
    obtain ⟨⟨value, behindValue⟩, valueTaken, taken⟩ := Option.bind_eq_some_iff.mp taken
    cases taken
    rw [if_pos literal, FlagReader.byte?_extend more valueTaken]
    rfl
  next noLiteral =>
    obtain ⟨⟨isLong, behindSecond⟩, secondTaken, taken⟩ := Option.bind_eq_some_iff.mp taken
    rw [if_neg noLiteral, FlagReader.flag?_extend more secondTaken, Option.bind_some]
    split at taken
    next long => rw [if_pos long, readLongCopy?_extend more taken]
    next short => rw [if_neg short, readShortCopy?_extend more taken]

end Token

/-- The tokens of a stream are the first ones of a longer stream. -/
theorem FlagReader.prefix_tokens_extend
    (reader : FlagReader)
    (more : List UInt8) :
    reader.content.tokens <+: (reader.extend more).content.tokens := by
  fun_induction FlagReader.content reader with
  | case1 reader exhausted => exact List.nil_prefix
  | case2 reader left taken => exact List.nil_prefix
  | case3 reader token left taken _ notEnd inductionHypothesis =>
      rw [content_of_taken (Token.read?_extend more taken) notEnd]
      exact List.prefix_cons_inj token |>.mpr inductionHypothesis

/-- Nothing behind its end mark belongs to a stream. -/
theorem FlagReader.content_extend_of_marked
    {reader : FlagReader}
    (marked : reader.content.ending = .marked)
    (more : List UInt8) :
    (reader.extend more).content = reader.content := by
  fun_induction FlagReader.content reader with
  | case1 reader exhausted => contradiction
  | case2 reader left taken => exact content_of_endMark (Token.read?_extend more taken)
  | case3 reader token left taken _ notEnd inductionHypothesis =>
      rw [content_of_taken (Token.read?_extend more taken) notEnd, inductionHypothesis marked]

/-- The output of a stream is the start of the output of a longer stream. -/
theorem prefix_outputOf_append (input more : List UInt8) :
    outputOf input <+: outputOf (input ++ more) := by
  rw [outputOf, outputOf]
  match opened : FlagReader.ofInput? input with
  | none =>
      rw [contentOf_of_unopened opened]
      exact List.nil_prefix
  | some reader =>
      rw [contentOf_of_opened opened,
        contentOf_of_opened (FlagReader.ofInput?_append more opened)]
      obtain ⟨further, longer⟩ := reader.prefix_tokens_extend more
      rw [← longer, expandAll_append]
      exact prefix_expandAll _ further

/-- Bytes behind the end mark of a stream do not change what it holds. -/
theorem contentOf_append_of_marked
    {input : List UInt8}
    (marked : (contentOf input).ending = .marked)
    (more : List UInt8) :
    contentOf (input ++ more) = contentOf input := by
  match opened : FlagReader.ofInput? input with
  | none =>
      rw [contentOf_of_unopened opened] at marked
      contradiction
  | some reader =>
      rw [contentOf_of_opened opened] at marked
      rw [contentOf_of_opened opened,
        contentOf_of_opened (FlagReader.ofInput?_append more opened),
        FlagReader.content_extend_of_marked marked]

/-- There is room for almost 2 ^ 63 bytes. -/
theorem hasRoom_iff {expected : Nat} :
    HasRoom expected ↔ expected < 2 ^ 63 - 4096 := by
  rw [HasRoom, windowSize, maxBufferSize]
  omega

/--
A stream has one output.  Whatever length is asked for, if a buffer can hold as
much, the answer is the start of that output, or, if it is too short, the way in
which the stream ends and the length of all there is.  More bytes behind the
stream leave the output at the start of the longer one; behind an end mark they
change nothing.
-/
theorem decompress_cuts_output (input : List UInt8) :
    (∀ expected < 2 ^ 63 - 4096, decompress input expected =
      if expected ≤ (outputOf input).length then
        .ok ((outputOf input).take expected)
      else
        .error (.stream
          ((contentOf input).ending.fault (outputOf input).length expected))) ∧
    ∀ more,
      outputOf input <+: outputOf (input ++ more) ∧
        ((contentOf input).ending = .marked →
          outputOf (input ++ more) = outputOf input ∧
            (contentOf (input ++ more)).ending = .marked) := by
  refine ⟨fun expected inRange => ?_, fun more => ⟨prefix_outputOf_append input more, ?_⟩⟩
  · rw [decompress_of_hasRoom (hasRoom_iff.mpr inRange), expandTo_eq_cut, StreamEnd.cut]
    split
    next enough => rfl
    next short => rfl
  · intro marked
    have sameContent := contentOf_append_of_marked marked more
    rw [outputOf, outputOf, sameContent]
    exact ⟨rfl, marked⟩

/-- The byte 7 and an end mark. -/
def markedStream : List UInt8 := [0x05, 0x00, 7, 0, 0, 0]

@[simp] theorem outputOf_markedStream : outputOf markedStream = [7] := by
  decide +kernel

@[simp] theorem ending_markedStream : (contentOf markedStream).ending = .marked := by
  decide +kernel

/-- The end mark stops the stream behind its byte, and what follows plays no part. -/
theorem decompress_markedStream :
    decompress markedStream 1 = .ok [7] ∧
      decompress markedStream 2 = .error (.stream (.shortOutput 1 2)) ∧
      ∀ more, outputOf (markedStream ++ more) = [7] := by
  obtain ⟨cuts, longer⟩ := decompress_cuts_output markedStream
  rw [outputOf_markedStream, ending_markedStream] at cuts
  refine ⟨cuts 1 (by decide), cuts 2 (by decide), fun more => ?_⟩
  rw [((longer more).2 ending_markedStream).1, outputOf_markedStream]

/--
Not every answer of a stream is its output, cut at the length asked for: for the
greatest length there is no buffer, so that there is neither output nor a fault of
the stream.
-/
theorem not_cut_markedStream :
    ¬ ∃ output ending, ∀ expected < 2 ^ 64,
      decompress markedStream expected =
        (StreamEnd.cut ending output expected).mapError .stream := by
  rintro ⟨output, ending, cuts⟩
  have noRoom : ¬ HasRoom (2 ^ 64 - 1) := by decide
  have cutGreatest := cuts (2 ^ 64 - 1) (by decide)
  rw [decompress_of_oversized noRoom] at cutGreatest
  generalize StreamEnd.cut ending output (2 ^ 64 - 1) = outcome at cutGreatest
  cases outcome <;> cases cutGreatest

end AdventureArchive.Lz
