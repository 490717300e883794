import AdventureArchive.Proofs.Lz.Output

namespace AdventureArchive.Lz

/-!
# What a compressed stream stands for

The format, written down without a reader or an output array.  A place in a
stream is the flag word taken last, how many of its flags are used up, and the
bytes behind.  A flag is the next bit of that word, lowest first; a new word is
taken only if a flag is needed and none is left (`TakesFlag`).  Tokens are
spelled by flags and bytes (`Spells`), a stream by tokens up to the place where
nothing more is spelled or an end mark is (`Parses`), and an output grows byte by
byte, each copied one being found in the output preceded by zeros (`Expands`).

Expanding a stream comes to what the stream stands for in this sense, and to
nothing else (`expandTo_eq_iff_standsFor`).
-/

/-- A place in a stream: the word of flags taken last, the number of its flags used, the rest. -/
structure Place where
  word : Nat
  used : Nat
  rest : List UInt8
  inWord : used ≤ 16

namespace Place

/-- Where a stream starts: there is no flag left, as none has been taken. -/
def start (input : List UInt8) : Place :=
  ⟨0, 16, input, Nat.le_refl 16⟩

/-- What a reader that stands at a place holds. -/
def reader (place : Place) : FlagReader :=
  ⟨flagsOfNumber (16 - place.used) (place.word >>> place.used), place.rest⟩

end Place

/-- How a flag is taken: from the word, or from the next word if the word is used up. -/
inductive TakesFlag : Place → Bool → Place → Prop where
  | inWord
      {word used : Nat}
      {rest : List UInt8}
      (room : used < 16) :
      TakesFlag ⟨word, used, rest, Nat.le_of_lt room⟩ (word.testBit used)
        ⟨word, used + 1, rest, room⟩
  | nextWord
      {word : Nat}
      {low high : UInt8}
      {rest : List UInt8} :
      TakesFlag ⟨word, 16, low :: high :: rest, Nat.le_refl 16⟩
        ((low.toNat + 256 * high.toNat).testBit 0)
        ⟨low.toNat + 256 * high.toNat, 1, rest, by decide⟩

/-- How a byte is taken, whatever flags are left. -/
inductive TakesByte : Place → UInt8 → Place → Prop where
  | next
      {word used : Nat}
      {value : UInt8}
      {rest : List UInt8}
      {inWord : used ≤ 16} :
      TakesByte ⟨word, used, value :: rest, inWord⟩ value ⟨word, used, rest, inWord⟩

/-- How tokens are spelled.  The places lead from before the first flag to behind the last byte. -/
inductive Spells : Place → Token → Place → Prop where
  | literal
      {first second third : Place}
      {value : UInt8}
      (isLiteral : TakesFlag first true second)
      (byte : TakesByte second value third) :
      Spells first (.literal value) third
  | shortCopy
      {first second third fourth fifth sixth : Place}
      {high low : Bool}
      {offset : UInt8}
      (isCopy : TakesFlag first false second)
      (isShort : TakesFlag second false third)
      (highLength : TakesFlag third high fourth)
      (lowLength : TakesFlag fourth low fifth)
      (byte : TakesByte fifth offset sixth) :
      Spells first (.copy (2 * high.toNat + low.toNat + 3) (0x100 - offset.toNat)) sixth
  | longCopy
      {first second third fourth fifth : Place}
      {low high : UInt8}
      (isCopy : TakesFlag first false second)
      (isLong : TakesFlag second true third)
      (lowByte : TakesByte third low fourth)
      (highByte : TakesByte fourth high fifth)
      (nibble : high.toNat % 16 ≠ 0) :
      Spells first
        (.copy (high.toNat % 16 + 3) (0x1000 - (low.toNat + 256 * (high.toNat / 16)))) fifth
  | extendedCopy
      {first second third fourth fifth sixth : Place}
      {low high extended : UInt8}
      (isCopy : TakesFlag first false second)
      (isLong : TakesFlag second true third)
      (lowByte : TakesByte third low fourth)
      (highByte : TakesByte fourth high fifth)
      (noNibble : high.toNat % 16 = 0)
      (lengthByte : TakesByte fifth extended sixth)
      (notOne : extended.toNat + 1 ≠ 1) :
      Spells first
        (.copy (extended.toNat + 1) (0x1000 - (low.toNat + 256 * (high.toNat / 16)))) sixth
  | endMark
      {first second third fourth fifth sixth : Place}
      {low high extended : UInt8}
      (isCopy : TakesFlag first false second)
      (isLong : TakesFlag second true third)
      (lowByte : TakesByte third low fourth)
      (highByte : TakesByte fourth high fifth)
      (noNibble : high.toNat % 16 = 0)
      (lengthByte : TakesByte fifth extended sixth)
      (isOne : extended.toNat + 1 = 1) :
      Spells first .endMark sixth

/-- The tokens from a place on, and how the stream ends behind them. -/
inductive Parses : Place → List Token → StreamEnd → Prop where
  | exhausted
      {place : Place}
      (nothing : ∀ token next, ¬ Spells place token next) :
      Parses place [] .exhausted
  | marked
      {place next : Place}
      (mark : Spells place .endMark next) :
      Parses place [] .marked
  | token
      {place next : Place}
      {token : Token}
      {tokens : List Token}
      {ending : StreamEnd}
      (spelled : Spells place token next)
      (notEnd : token ≠ .endMark)
      (others : Parses next tokens ending) :
      Parses place (token :: tokens) ending

/-- The byte some distance back in an output that is preceded by zeros. -/
def historyByte? (output : List UInt8) (distance : Nat) : Option UInt8 :=
  (List.replicate 0x1000 0 ++ output)[0x1000 + output.length - distance]?

/-- How output is repeated from a distance back: one byte, and then the others. -/
inductive Repeats (distance : Nat) : Nat → List UInt8 → List UInt8 → Prop where
  | done (output : List UInt8) : Repeats distance 0 output output
  | byte
      {count : Nat}
      {output result : List UInt8}
      {value : UInt8}
      (found : historyByte? output distance = some value)
      (others : Repeats distance count (output ++ [value]) result) :
      Repeats distance (count + 1) output result

/-- How tokens expand an output. -/
inductive Expands : List Token → List UInt8 → List UInt8 → Prop where
  | done (output : List UInt8) : Expands [] output output
  | literal
      {value : UInt8}
      {tokens : List Token}
      {output result : List UInt8}
      (others : Expands tokens (output ++ [value]) result) :
      Expands (.literal value :: tokens) output result
  | copy
      {length distance : Nat}
      {tokens : List Token}
      {output longer result : List UInt8}
      (copied : Repeats distance length output longer)
      (others : Expands tokens longer result) :
      Expands (.copy length distance :: tokens) output result

/--
The outcome that a stream stands for where so many bytes are expected: as many
bytes of what its tokens expand to, or else how it ends.
-/
def StandsFor
    (input : List UInt8)
    (expected : Nat)
    (outcome : Except ImageError (List UInt8)) : Prop :=
  ∃ tokens ending output,
    Parses (.start input) tokens ending ∧
      Expands tokens [] output ∧
      ending.cut output expected = outcome

/-! ## Flags and bytes -/

/-- The next flag of a word that is not used up is its next bit. -/
theorem Place.reader_of_room
    {word used : Nat}
    {rest : List UInt8}
    (room : used < 16) :
    Place.reader ⟨word, used, rest, Nat.le_of_lt room⟩ =
      ⟨word.testBit used :: (Place.reader ⟨word, used + 1, rest, room⟩).flags, rest⟩ := by
  have left : 16 - used = 16 - (used + 1) + 1 := by omega
  have bit : (word >>> used % 2 == 1) = word.testBit used := by
    rw [Nat.testBit_eq_decide_div_mod_eq, Nat.shiftRight_eq_div_pow]
    rfl
  simp only [Place.reader, left, flagsOfNumber, bit, Nat.shiftRight_succ]

/-- Two bytes at the front of an input are a word of flags, low byte first. -/
theorem ofInput?_cons_cons
    (low high : UInt8)
    (rest : List UInt8) :
    FlagReader.ofInput? (low :: high :: rest) =
      some (Place.reader ⟨low.toNat + 256 * high.toNat, 0, rest, Nat.zero_le 16⟩) := by
  have fits : low.toNat + 256 * high.toNat < UInt16.size := by
    have := low.toNat_lt
    have := high.toNat_lt
    change _ < 65536
    omega
  have number : (UInt16.ofNat (LittleEndian.decode [low, high])).toNat =
      low.toNat + 256 * high.toNat :=
    UInt16.toNat_ofNat_of_lt' fits
  simp only [FlagReader.ofInput?, Layout.read, number, Place.reader, Nat.shiftRight_zero]
  rfl

/-- A reader takes the flag that the grammar has next. -/
theorem flag?_of_takesFlag
    {place next : Place}
    {flag : Bool}
    (taken : TakesFlag place flag next) :
    place.reader.flag? = some (flag, next.reader) := by
  cases taken with
  | inWord room =>
      rw [Place.reader_of_room room]
      rfl
  | @nextWord word low high rest =>
      change FlagReader.flag? ⟨[], low :: high :: rest⟩ = _
      rw [FlagReader.flag?, ofInput?_cons_cons, Place.reader_of_room (by decide : 0 < 16)]
      rfl

/-- Where a reader takes a flag, the grammar has one. -/
theorem exists_takesFlag
    {place : Place}
    {flag : Bool}
    {left : FlagReader}
    (taken : place.reader.flag? = some (flag, left)) :
    ∃ next, TakesFlag place flag next ∧ next.reader = left := by
  -- The flag that is there is the one that is taken, so only its presence matters.
  suffices someFlag : ∃ found next, TakesFlag place found next by
    obtain ⟨found, next, grammatical⟩ := someFlag
    rw [flag?_of_takesFlag grammatical] at taken
    cases taken
    exact ⟨next, grammatical, rfl⟩
  rcases place with ⟨word, used, rest, inWord⟩
  rcases Nat.lt_or_eq_of_le inWord with room | rfl
  · exact ⟨_, _, .inWord room⟩
  · match rest with
    | low :: high :: rest => exact ⟨_, _, .nextWord⟩
    | [] => contradiction
    | [_] => contradiction

/-- Bytes are taken by readers as by the grammar. -/
theorem byte?_reader_eq_some_iff
    {place : Place}
    {value : UInt8}
    {left : FlagReader} :
    place.reader.byte? = some (value, left) ↔
      ∃ next, TakesByte place value next ∧ next.reader = left := by
  constructor
  · intro taken
    rcases place with ⟨word, used, _ | ⟨first, rest⟩, inWord⟩
    · contradiction
    · cases taken
      exact ⟨_, .next, rfl⟩
  · rintro ⟨next, ⟨⟩, rfl⟩
    rfl

theorem flag?_reader_eq_some_iff
    {place : Place}
    {flag : Bool}
    {left : FlagReader} :
    place.reader.flag? = some (flag, left) ↔
      ∃ next, TakesFlag place flag next ∧ next.reader = left := by
  constructor
  · exact exists_takesFlag
  · rintro ⟨next, taken, rfl⟩
    exact flag?_of_takesFlag taken

/-! ## Tokens -/

/-- The extended length of one is that of a zero byte. -/
theorem extendedLength_eq_one_iff {extended : UInt8} : extended.toNat + 1 = 1 ↔ extended = 0 := by
  rw [Nat.succ_inj, ← UInt8.toNat_inj]
  rfl

/-- A reader finds the token that is spelled at its place. -/
theorem read?_of_spells
    {place next : Place}
    {token : Token}
    (spelled : Spells place token next) :
    Token.read? place.reader = some (token, next.reader) := by
  have flagTaken {place next : Place} {flag : Bool} (taken : TakesFlag place flag next) :=
    flag?_of_takesFlag taken
  have byteTaken {place next : Place} {value : UInt8} (taken : TakesByte place value next) :
      place.reader.byte? = some (value, next.reader) :=
    byte?_reader_eq_some_iff.mpr ⟨next, taken, rfl⟩
  cases spelled with
  | literal isLiteral byte =>
      simp [Token.read?, flagTaken isLiteral, byteTaken byte]
  | shortCopy isCopy isShort highLength lowLength byte =>
      simp [Token.read?, Token.readShortCopy?, flagTaken isCopy, flagTaken isShort,
        flagTaken highLength, flagTaken lowLength, byteTaken byte, minLength, shortDistance]
  | longCopy isCopy isLong lowByte highByte nibble =>
      simp [Token.read?, Token.readLongCopy?, flagTaken isCopy, flagTaken isLong,
        byteTaken lowByte, byteTaken highByte, nibble, minLength, windowSize]
  | extendedCopy isCopy isLong lowByte highByte noNibble lengthByte notOne =>
      rw [ne_eq, extendedLength_eq_one_iff] at notOne
      simp [Token.read?, Token.readLongCopy?, flagTaken isCopy, flagTaken isLong,
        byteTaken lowByte, byteTaken highByte, noNibble, byteTaken lengthByte, notOne,
        windowSize]
  | endMark isCopy isLong lowByte highByte noNibble lengthByte isOne =>
      rw [extendedLength_eq_one_iff] at isOne
      simp [Token.read?, Token.readLongCopy?, flagTaken isCopy, flagTaken isLong,
        byteTaken lowByte, byteTaken highByte, noNibble, byteTaken lengthByte, isOne]

section Found

variable {first second third : Place} {found : Token × FlagReader}

/-- Behind two unset flags, what a reader takes for a short copy spells one. -/
theorem exists_spells_of_readShortCopy?
    (isCopy : TakesFlag first false second)
    (isShort : TakesFlag second false third)
    (taken : Token.readShortCopy? third.reader = some found) :
    ∃ token next, Spells first token next := by
  simp only [Token.readShortCopy?, Option.bind_eq_bind, Option.bind_eq_some_iff, Prod.exists,
    flag?_reader_eq_some_iff] at taken
  obtain ⟨high, _, ⟨fourth, highTaken, rfl⟩, taken⟩ := taken
  simp only [flag?_reader_eq_some_iff] at taken
  obtain ⟨low, _, ⟨fifth, lowTaken, rfl⟩, taken⟩ := taken
  simp only [byte?_reader_eq_some_iff] at taken
  obtain ⟨offset, _, ⟨sixth, offsetTaken, -⟩, -⟩ := taken
  exact ⟨_, _, .shortCopy isCopy isShort highTaken lowTaken offsetTaken⟩

/-- Behind an unset and a set flag, what a reader takes for a long copy spells a token. -/
theorem exists_spells_of_readLongCopy?
    (isCopy : TakesFlag first false second)
    (isLong : TakesFlag second true third)
    (taken : Token.readLongCopy? third.reader = some found) :
    ∃ token next, Spells first token next := by
  simp only [Token.readLongCopy?, Option.bind_eq_bind, Option.bind_eq_some_iff, Prod.exists,
    byte?_reader_eq_some_iff] at taken
  obtain ⟨low, _, ⟨fourth, lowTaken, rfl⟩, taken⟩ := taken
  simp only [byte?_reader_eq_some_iff] at taken
  obtain ⟨high, _, ⟨fifth, highTaken, rfl⟩, taken⟩ := taken
  by_cases nibble : high.toNat % 16 = 0
  · rw [if_pos nibble] at taken
    simp only [Option.bind_eq_some_iff, Prod.exists, byte?_reader_eq_some_iff] at taken
    obtain ⟨extended, _, ⟨sixth, lengthTaken, -⟩, -⟩ := taken
    by_cases isOne : extended.toNat + 1 = 1
    · exact ⟨_, _, .endMark isCopy isLong lowTaken highTaken nibble lengthTaken isOne⟩
    · exact ⟨_, _, .extendedCopy isCopy isLong lowTaken highTaken nibble lengthTaken isOne⟩
  · exact ⟨_, _, .longCopy isCopy isLong lowTaken highTaken nibble⟩

/-- Where a reader finds a token, the grammar spells one. -/
theorem exists_spells
    {token : Token}
    {left : FlagReader}
    (taken : Token.read? first.reader = some (token, left)) :
    ∃ next, Spells first token next ∧ next.reader = left := by
  -- As with flags, only the presence of a token is in question.
  suffices someToken : ∃ found next, Spells first found next by
    obtain ⟨found, next, spelled⟩ := someToken
    rw [read?_of_spells spelled] at taken
    cases taken
    exact ⟨next, spelled, rfl⟩
  simp only [Token.read?, Option.bind_eq_bind, Option.bind_eq_some_iff, Prod.exists,
    flag?_reader_eq_some_iff] at taken
  obtain ⟨isLiteral, _, ⟨second, isLiteralTaken, rfl⟩, taken⟩ := taken
  cases isLiteral with
  | true =>
      simp only [if_true, Option.bind_eq_some_iff, Prod.exists, byte?_reader_eq_some_iff] at taken
      obtain ⟨value, _, ⟨third, valueTaken, -⟩, -⟩ := taken
      exact ⟨_, _, .literal isLiteralTaken valueTaken⟩
  | false =>
      simp only [Bool.false_eq_true, if_false, Option.bind_eq_some_iff, Prod.exists,
        flag?_reader_eq_some_iff] at taken
      obtain ⟨isLong, _, ⟨third, isLongTaken, rfl⟩, taken⟩ := taken
      cases isLong with
      | false => exact exists_spells_of_readShortCopy? isLiteralTaken isLongTaken taken
      | true => exact exists_spells_of_readLongCopy? isLiteralTaken isLongTaken taken

end Found

/-- Whether a copy reaches back at least one byte and no further than the zeros go. -/
def Token.InWindow : Token → Prop
  | .copy _ distance => 1 ≤ distance ∧ distance ≤ 0x1000
  | _ => True

section InWindow

variable {reader left : FlagReader} {token : Token}

theorem Token.inWindow_of_readShortCopy?
    (taken : Token.readShortCopy? reader = some (token, left)) :
    token.InWindow := by
  simp only [Token.readShortCopy?, Option.bind_eq_bind, Option.bind_eq_some_iff, Prod.exists,
    Option.pure_def, Option.some.injEq, Prod.mk.injEq] at taken
  obtain ⟨_, _, -, _, _, -, offset, _, -, rfl, -⟩ := taken
  have small := offset.toNat_lt
  simp only [Token.InWindow, shortDistance]
  omega

theorem Token.inWindow_of_readLongCopy?
    (taken : Token.readLongCopy? reader = some (token, left)) :
    token.InWindow := by
  simp only [Token.readLongCopy?, Option.bind_eq_bind, Option.bind_eq_some_iff,
    Prod.exists] at taken
  obtain ⟨low, _, -, high, _, -, taken⟩ := taken
  have copyInWindow (length : Nat) :
      (Token.copy length
        (windowSize - (low.toNat + 256 * (high.toNat / 16)))).InWindow := by
    have lowSmall := low.toNat_lt
    have highSmall := high.toNat_lt
    simp only [Token.InWindow, windowSize]
    omega
  split at taken
  next =>
    obtain ⟨extended, -, taken⟩ := Option.bind_eq_some_iff.mp taken
    split at taken <;> cases taken
    · trivial
    · exact copyInWindow _
  next =>
    cases taken
    exact copyInWindow _

/-- Every token that is read reaches back no further than the zeros go. -/
theorem Token.inWindow_of_read?
    (taken : Token.read? reader = some (token, left)) :
    token.InWindow := by
  simp only [Token.read?, Option.bind_eq_bind, Option.bind_eq_some_iff, Prod.exists] at taken
  obtain ⟨isLiteral, _, -, taken⟩ := taken
  split at taken
  next =>
    obtain ⟨value, -, taken⟩ := Option.bind_eq_some_iff.mp taken
    cases taken
    trivial
  next =>
    obtain ⟨isLong, -, taken⟩ := Option.bind_eq_some_iff.mp taken
    split at taken
    next => exact Token.inWindow_of_readLongCopy? taken
    next => exact Token.inWindow_of_readShortCopy? taken

end InWindow

/-! ## Whole streams -/

/-- The grammar parses what a reader has in front of it. -/
theorem parses_content (place : Place) :
    Parses place place.reader.content.tokens place.reader.content.ending := by
  generalize size : place.reader.input.length = length
  induction length using Nat.strongRecOn generalizing place with
  | ind length inductionHypothesis =>
      match taken : Token.read? place.reader with
      | none =>
          rw [FlagReader.content_of_exhausted taken]
          refine .exhausted fun token next spelled => ?_
          rw [read?_of_spells spelled] at taken
          contradiction
      | some (token, left) =>
          obtain ⟨next, spelled, rfl⟩ := exists_spells taken
          by_cases isEnd : token = .endMark
          · subst isEnd
            rw [FlagReader.content_of_endMark taken]
            exact .marked spelled
          · rw [FlagReader.content_of_taken taken isEnd]
            have shorter := Token.length_lt_of_read? taken
            exact .token spelled isEnd (inductionHypothesis _ (size ▸ shorter) next rfl)

/-- Nothing else is parsed. -/
theorem content_of_parses
    {place : Place}
    {tokens : List Token}
    {ending : StreamEnd}
    (parses : Parses place tokens ending) :
    place.reader.content = ⟨tokens, ending⟩ := by
  induction parses with
  | exhausted nothing =>
      apply FlagReader.content_of_exhausted
      rw [Option.eq_none_iff_forall_ne_some]
      rintro ⟨token, left⟩ taken
      obtain ⟨next, spelled, -⟩ := exists_spells taken
      exact nothing token next spelled
  | marked mark => exact FlagReader.content_of_endMark (read?_of_spells mark)
  | token spelled notEnd others inductionHypothesis =>
      rw [FlagReader.content_of_taken (read?_of_spells spelled) notEnd, inductionHypothesis]

/-- Copies in a stream reach back no further than the zeros go, and the end mark is none of them. -/
theorem inWindow_of_parses
    {place : Place}
    {tokens : List Token}
    {ending : StreamEnd}
    (parses : Parses place tokens ending) :
    ∀ token ∈ tokens, token.InWindow ∧ token ≠ .endMark := by
  induction parses with
  | exhausted | marked => exact fun _ impossible => absurd impossible List.not_mem_nil
  | token spelled notEnd others inductionHypothesis =>
      exact List.forall_mem_cons.mpr
        ⟨⟨Token.inWindow_of_read? (read?_of_spells spelled), notEnd⟩, inductionHypothesis⟩

/-- What a reader has in front of it is told from the first token and what is left behind it. -/
theorem FlagReader.content_congr
    {first second : FlagReader}
    (same : Token.read? first = Token.read? second) :
    first.content = second.content := by
  match taken : Token.read? second with
  | none => rw [content_of_exhausted (same.trans taken), content_of_exhausted taken]
  | some (token, left) =>
      by_cases isEnd : token = .endMark
      · subst isEnd
        rw [content_of_endMark (same.trans taken), content_of_endMark taken]
      · rw [content_of_taken (same.trans taken) isEnd, content_of_taken taken isEnd]

/-- Whether the first word of flags is taken at once or only when needed makes no difference. -/
theorem content_start (input : List UInt8) :
    (Place.start input).reader.content = contentOf input := by
  match input with
  | [] | [_] => exact FlagReader.content_of_exhausted rfl
  | low :: high :: rest =>
      have opened := ofInput?_cons_cons low high rest
      have sameFlag :
          (Place.start (low :: high :: rest)).reader.flag? =
            (Place.reader ⟨low.toNat + 256 * high.toNat, 0, rest, Nat.zero_le 16⟩).flag? := by
        rw [Place.start, flag?_of_takesFlag .nextWord, flag?_of_takesFlag (.inWord (by decide))]
      rw [contentOf_of_opened opened]
      apply FlagReader.content_congr
      rw [Token.read?, Token.read?, sameFlag]

/-! ## Expanding -/

section Expanding

variable {produced : Array UInt8} {result : List UInt8} {distance : Nat}

/-- The byte some distance back is found in the output preceded by zeros. -/
theorem historyByte?_toList
    (backwards : 1 ≤ distance)
    (produced : Array UInt8) :
    historyByte? produced.toList distance = some (byteBack produced distance) := by
  rw [historyByte?, byteBack]
  split
  next inOutput =>
    have index :
        0x1000 + produced.toList.length - distance =
          (List.replicate 0x1000 (0 : UInt8)).length + (produced.size - distance) := by
      rw [List.length_replicate, Array.length_toList]
      omega
    have inside : produced.size - distance < produced.size := by omega
    rw [index, List.getElem?_append_right (Nat.le_add_right _ _), Nat.add_sub_cancel_left,
      Array.getElem?_toList, Array.getElem?_eq_getElem inside, Array.getD,
      dif_pos inside]
    rfl
  next inZeros =>
    have index : 0x1000 + produced.toList.length - distance < 0x1000 := by
      rw [Array.length_toList]
      omega
    rw [List.getElem?_append_left (by rwa [List.length_replicate]),
      List.getElem?_replicate, if_pos index]

theorem repeats_zero_iff {output : List UInt8} :
    Repeats distance 0 output result ↔ output = result := by
  constructor
  · rintro ⟨⟩
    rfl
  · rintro rfl
    exact .done output

theorem repeats_succ_iff
    {count : Nat}
    {output : List UInt8} :
    Repeats distance (count + 1) output result ↔
      ∃ value, historyByte? output distance = some value ∧
        Repeats distance count (output ++ [value]) result := by
  constructor
  · rintro (_ | ⟨found, others⟩)
    exact ⟨_, found, others⟩
  · rintro ⟨value, found, others⟩
    exact .byte found others

/-- Output is repeated as the grammar says. -/
theorem repeats_iff
    (backwards : 1 ≤ distance)
    {count : Nat} :
    Repeats distance count produced.toList result ↔
      (copyBack distance count produced).toList = result := by
  induction count generalizing produced with
  | zero => exact repeats_zero_iff
  | succ count inductionHypothesis =>
      rw [repeats_succ_iff, copyBack, ← inductionHypothesis, Array.toList_push]
      simp only [historyByte?_toList backwards, Option.some.injEq, exists_eq_left']

/-- Tokens are expanded as the grammar says. -/
theorem expands_iff
    {tokens : List Token}
    (inWindow : ∀ token ∈ tokens, token.InWindow ∧ token ≠ .endMark) :
    Expands tokens produced.toList result ↔ (expandAll produced tokens).toList = result := by
  induction tokens generalizing produced with
  | nil =>
      constructor
      · rintro ⟨⟩
        rfl
      · rintro rfl
        exact .done _
  | cons token rest inductionHypothesis =>
      obtain ⟨⟨tokenInWindow, notEnd⟩, restInWindow⟩ := List.forall_mem_cons.mp inWindow
      rw [expandAll_cons, ← inductionHypothesis restInWindow]
      cases token with
      | literal value =>
          rw [Token.expand, Array.toList_push]
          constructor
          · rintro (_ | others)
            exact others
          · exact .literal
      | copy length distance =>
          have repeats (longer : List UInt8) :
              Repeats distance length produced.toList longer ↔
                (copyBack distance length produced).toList = longer :=
            repeats_iff tokenInWindow.1
          constructor
          · rintro (_ | _ | ⟨copied, others⟩)
            rw [repeats] at copied
            rwa [Token.expand, copied]
          · intro others
            exact .copy ((repeats _).mpr rfl) others
      | endMark => exact absurd rfl notEnd

end Expanding

/-- Expanding a stream comes to what it stands for, and to nothing else. -/
theorem expandTo_eq_iff_standsFor
    {input : List UInt8}
    {expected : Nat}
    {outcome : Except ImageError (List UInt8)} :
    expandTo input expected = outcome ↔ StandsFor input expected outcome := by
  have parses := parses_content (Place.start input)
  rw [content_start] at parses
  have expands := @expands_iff #[] (outputOf input) _ (inWindow_of_parses parses)
  rw [expandTo_eq_cut]
  constructor
  · rintro rfl
    exact ⟨_, _, _, parses, expands.mpr rfl, rfl⟩
  · rintro ⟨tokens, ending, output, otherParses, otherExpands, rfl⟩
    have content := content_of_parses otherParses
    rw [content_start] at content
    have sameOutput : (expandAll #[] tokens).toList = output :=
      (expands_iff (inWindow_of_parses otherParses)).mp otherExpands
    rw [outputOf, content, sameOutput]

end AdventureArchive.Lz
