import AdventureArchive.Image.Lz.Compress
import AdventureArchive.Proofs.Lz.Occurrence
import AdventureArchive.Proofs.Lz.Output

namespace AdventureArchive.Lz

/-!
# Compressed data is expanded again

`Covers` is what holds between any two tokens that data is cut into: the tokens
found so far can be spelled and expand to the bytes up to the end of the last
copy.  Every step of `tokensFrom` preserves it, so the tokens of some data
expand to that data, and a reader of the compressed stream produces them.
-/

/-- The byte some distance back, where the output reaches that far. -/
theorem byteBack_eq
    {produced : List UInt8}
    {distance : Nat}
    {value : UInt8}
    (reaches : distance ≤ produced.length)
    (found : produced[produced.length - distance]? = some value) :
    byteBack produced.toArray distance = value := by
  simp only [byteBack, List.size_toArray, reaches, if_true, Array.getD_eq_getD_getElem?,
    List.getElem?_toArray, found, Option.getD_some]

/-- A copy produces the bytes that agree with the ones its distance back. -/
theorem copyBack_of_agreeing
    {data : List UInt8}
    {position distance length : Nat}
    (positive : 1 ≤ distance)
    (inside : distance ≤ position)
    (agreeing : ∀ index < length,
      ∃ value, data[position - distance + index]? = some value ∧
        data[position + index]? = some value) :
    copyBack distance length (data.take position).toArray =
      (data.take (position + length)).toArray := by
  induction length with
  | zero => rfl
  | succ length inductionHypothesis =>
      have copied :
          copyBack distance length (data.take position).toArray =
            (data.take (position + length)).toArray :=
        inductionHypothesis fun index below =>
          agreeing index (Nat.lt_succ_of_lt below)
      obtain ⟨value, back, here⟩ := agreeing length (Nat.lt_succ_self length)
      have hereInside : position + length < data.length :=
        (List.getElem?_eq_some_iff.mp here).1
      have producedLength :
          (data.take (position + length)).length = position + length :=
        List.length_take_of_le (Nat.le_of_lt hereInside)
      have sourceByte :
          byteBack (data.take (position + length)).toArray distance = value := by
        refine byteBack_eq ?_ ?_
        · omega
        · rw [producedLength, List.getElem?_take_of_lt (by omega), ← back]
          congr 1
          omega
      rw [copyBack_add, copied, copyBack, copyBack, sourceByte,
        ← Nat.add_assoc, List.take_add_one, here]
      simp

/--
The tokens found at a position whose next `covered` bytes are already produced
can be spelled and expand to the bytes before that point.
-/
structure Covers
    (data : List UInt8)
    (position covered : Nat)
    (found : List Token) : Prop where
  inside : position + covered ≤ data.length
  spelled : ∀ token ∈ found, token.Encodable ∧ token ≠ .endMark
  expands : expandAll #[] found = (data.take (position + covered)).toArray

namespace Covers

variable {data : List UInt8} {position : Nat} {found : List Token}

/-- Nothing is found before the first byte. -/
theorem start (data : List UInt8) : Covers data 0 0 [] where
  inside := Nat.zero_le _
  spelled := by simp
  expands := by simp

/-- A byte that is covered already is passed over. -/
theorem skip
    {covered : Nat}
    (covers : Covers data position (covered + 1) found) :
    Covers data (position + 1) covered found where
  inside := by
    have := covers.inside
    omega
  spelled := covers.spelled
  expands := by
    rw [covers.expands, show position + (covered + 1) = position + 1 + covered by omega]

/-- A literal covers the next byte. -/
theorem literal
    {next : UInt8}
    (covers : Covers data position 0 found)
    (here : data[position]? = some next) :
    Covers data (position + 1) 0 (found ++ [.literal next]) where
  inside := (List.getElem?_eq_some_iff.mp here).1
  spelled := by
    intro token member
    rcases List.mem_append.mp member with earlier | isNew
    · exact covers.spelled token earlier
    · rw [List.mem_singleton.mp isNew]
      exact ⟨trivial, by simp⟩
  expands := by
    rw [expandAll_append, covers.expands, expandAll_cons, expandAll_nil,
      Token.expand, Nat.add_zero, Nat.add_zero, List.take_add_one, here]
    simp

/-- A copy of an occurrence covers as many bytes as the occurrence is long. -/
theorem copy
    {ahead : List UInt8}
    {occurrence : Match}
    (covers : Covers data position 0 found)
    (aheadShape : data.drop position = ahead)
    (longest : longestMatch (suffixesBefore data position) ahead = occurrence)
    (longEnough : minLength ≤ occurrence.length) :
    Covers data position occurrence.length
      (found ++ [.copy occurrence.length occurrence.distance]) := by
  have nonempty : 0 < occurrence.length := Nat.lt_of_lt_of_le (by decide) longEnough
  obtain ⟨back, candidate, isCandidate, distance, near, maxFits, agreed⟩ :=
    longestMatch_found (longest ▸ nonempty)
  rw [longest] at distance maxFits agreed
  obtain ⟨backInside, rfl⟩ := getElem?_suffixesBefore isCandidate
  have agreeing : ∀ index < occurrence.length,
      ∃ value, data[position - occurrence.distance + index]? = some value ∧
        data[position + index]? = some value := by
    intro index below
    rw [agreed, ← aheadShape] at below
    obtain ⟨value, atCandidate, atAhead⟩ := getElem?_eq_of_lt_agreement below
    rw [List.getElem?_drop] at atCandidate atAhead
    rw [distance]
    exact ⟨value, atCandidate, atAhead⟩
  have copied :
      copyBack occurrence.distance occurrence.length (data.take position).toArray =
        (data.take (position + occurrence.length)).toArray := by
    refine copyBack_of_agreeing ?_ ?_ agreeing
    · omega
    · omega
  exact {
    inside := by
      obtain ⟨value, -, last⟩ := agreeing (occurrence.length - 1) (by omega)
      have := (List.getElem?_eq_some_iff.mp last).1
      omega
    spelled := by
      intro token member
      rcases List.mem_append.mp member with earlier | isNew
      · exact covers.spelled token earlier
      · rw [List.mem_singleton.mp isNew]
        refine ⟨⟨longEnough, maxFits, ?_, ?_⟩, by simp⟩
        · omega
        · exact distance ▸ near
    expands := by
      rw [expandAll_append, covers.expands, expandAll_cons, expandAll_nil,
        Token.expand, Nat.add_zero]
      exact copied
  }

/-- Cutting data into tokens to its end covers all of it. -/
theorem tokensFrom
    {found : Array Token}
    {covered : Nat}
    {ahead : List UInt8}
    (covers : Covers data position covered found.toList)
    (aheadShape : data.drop position = ahead) :
    Covers data data.length 0
      (tokensFrom found (suffixesBefore data position) covered ahead).toList := by
  induction ahead generalizing position covered found with
  | nil =>
      have atEnd : data.length ≤ position := List.drop_eq_nil_iff.mp aheadShape
      have inside := covers.inside
      obtain rfl : position = data.length := by omega
      obtain rfl : covered = 0 := by omega
      simpa only [Lz.tokensFrom] using covers
  | cons next rest inductionHypothesis =>
      have here : data[position]? = some next := by
        rw [← Nat.add_zero position, ← List.getElem?_drop, aheadShape]
        rfl
      have restShape : data.drop (position + 1) = rest := by
        rw [← List.drop_drop, aheadShape]
        rfl
      have earlierShape :
          (next :: rest) :: suffixesBefore data position =
            suffixesBefore data (position + 1) := by
        rw [suffixesBefore_succ, aheadShape]
      cases covered with
      | succ covered =>
          rw [Lz.tokensFrom, earlierShape]
          exact inductionHypothesis covers.skip restShape
      | zero =>
          simp only [Lz.tokensFrom, earlierShape]
          generalize longest :
            longestMatch (suffixesBefore data position) (next :: rest) = occurrence
          split
          next tooShort =>
            refine inductionHypothesis ?_ restShape
            rw [Array.toList_push]
            exact covers.literal here
          next notTooShort =>
            have longEnough : minLength ≤ occurrence.length := Nat.le_of_not_lt notTooShort
            have copied := covers.copy aheadShape longest longEnough
            refine inductionHypothesis ?_ restShape
            rw [Array.toList_push]
            apply skip
            rwa [Nat.sub_add_cancel (Nat.le_trans (by decide) longEnough)]

end Covers

/-- The tokens of some data cover it. -/
theorem covers_tokens (data : List UInt8) : Covers data data.length 0 (tokens data) :=
  Covers.tokensFrom (Covers.start data) rfl

/-- The tokens of some data expand to it. -/
theorem expandAll_tokens (data : List UInt8) :
    (expandAll #[] (tokens data)).toList = data := by
  rw [(covers_tokens data).expands]
  simp

/-- A compressed stream holds the items of the tokens that the data is cut into. -/
theorem compress_eq_bytes_putAll (data : List UInt8) :
    compress data =
      (FlagWriter.empty.putAll ((tokens data).flatMap Token.items)).bytes := by
  rw [compress, Token.foldl_write_eq_putAll]

/-- A compressed stream holds the tokens that the data is cut into. -/
theorem contentOf_compress (data : List UInt8) :
    contentOf (compress data) = ⟨tokens data, .exhausted⟩ := by
  rw [compress_eq_bytes_putAll,
    contentOf_of_opened (FlagReader.ofInput?_bytes_putAll _),
    content_before (covers_tokens data).spelled]

/--
Compressed data expands to its first bytes, whatever number of them is asked for;
when more are asked for than there are, the stream is exhausted behind the last one.
-/
theorem expandTo_compress
    (data : List UInt8)
    (expected : Nat) :
    expandTo (compress data) expected =
      if expected ≤ data.length then
        .ok (data.take expected)
      else
        .error (.streamExhausted data.length expected) := by
  rw [expandTo_eq_cut, outputOf, contentOf_compress, expandAll_tokens]
  rfl

/--
Compressed data gives back its first bytes, whatever number of them is asked for
that a buffer can hold; when more are asked for than there are, the stream is
exhausted behind the last one.  A number that no buffer can hold has no answer.
-/
theorem decompress_compress
    (data : List UInt8)
    (expected : Nat) :
    decompress (compress data) expected =
      if expected < 2 ^ 63 - 4096 then
        if expected ≤ data.length then
          .ok (data.take expected)
        else
          .error (.stream (.streamExhausted data.length expected))
      else
        .error (.oversized expected) := by
  by_cases room : HasRoom expected
  · rw [decompress_of_hasRoom room, if_pos (hasRoom_iff.mp room), expandTo_compress]
    split
    next enough => rfl
    next short => rfl
  · rw [decompress_of_oversized room, if_neg (mt hasRoom_iff.mpr room)]

/--
Where three bytes are asked for the greatest length there is, the answer is not
that they are exhausted: no buffer can hold as much.
-/
theorem oversized_compress_triple :
    decompress (compress [1, 2, 3]) (2 ^ 64 - 1) = .error (.oversized (2 ^ 64 - 1)) ∧
      decompress (compress [1, 2, 3]) (2 ^ 64 - 1) ≠
        .error (.stream (.streamExhausted 3 (2 ^ 64 - 1))) := by
  have noRoom : ¬ HasRoom (2 ^ 64 - 1) := by decide
  rw [decompress_of_oversized noRoom]
  exact ⟨rfl, by simp⟩

end AdventureArchive.Lz
