import AdventureArchive.Image.Lz.Token
import AdventureArchive.Proofs.Lz.FlagStream

namespace AdventureArchive.Lz

/-!
# Tokens as runs of stream items

Writing a token appends its items, and a reader that stands before these items
takes the token off, whatever follows (`read?_before`).  The spelling has to
tell apart the short copy, the copy whose length fits a half byte and the copy
with a length byte; `Encodable` bounds the copies that have a spelling.

Behind the last item a reader finds only unset flags and no byte, which is no
token (`read?_before_nil`).
-/

namespace Token

/-- Tokens that can be spelled. -/
def Encodable : Token → Prop
  | .literal _ => True
  | .copy length distance =>
      minLength ≤ length ∧ length ≤ maxLength ∧ 1 ≤ distance ∧ distance ≤ windowSize
  | .endMark => True

/-- The items of the short spelling of a copy. -/
def shortItems (length distance : Nat) : List StreamItem :=
  let code := length - minLength
  [.flag false, .flag false, .flag (code / 2 % 2 == 1), .flag (code % 2 == 1),
    .byte (UInt8.ofNat (shortDistance - distance))]

/-- The items of the long spelling of a copy. -/
def longItems (length distance : Nat) : List StreamItem :=
  let offset := windowSize - distance
  let high := 16 * (offset / 256 % 16)
  .flag false :: .flag true :: .byte (UInt8.ofNat (offset % 256)) ::
    if minLength < length ∧ length ≤ nibbleLength then
      [.byte (UInt8.ofNat (high + (length - minLength)))]
    else
      [.byte (UInt8.ofNat high), .byte (UInt8.ofNat (length - 1))]

/-- The items a token is written as. -/
def items : Token → List StreamItem
  | .literal value => [.flag true, .byte value]
  | .copy length distance =>
      if length ≤ shortLength ∧ distance ≤ shortDistance then
        shortItems length distance
      else
        longItems length distance
  | .endMark => [.flag false, .flag true, .byte 0, .byte 0, .byte 0]

/-- Writing a token appends its items. -/
theorem write_eq_putAll
    (writer : FlagWriter)
    (token : Token) :
    token.write writer = writer.putAll token.items := by
  cases token with
  | literal value => rfl
  | copy length distance =>
      simp only [write, items]
      split
      next short => rfl
      next long =>
        simp only [writeLongCopy, longItems]
        split <;> rfl
  | endMark => rfl

/-- Writing tokens appends the items of all of them. -/
theorem foldl_write_eq_putAll
    (writer : FlagWriter)
    (tokens : List Token) :
    tokens.foldl write writer = writer.putAll (tokens.flatMap items) := by
  induction tokens generalizing writer with
  | nil => rfl
  | cons token rest inductionHypothesis =>
      rw [List.foldl_cons, inductionHypothesis, write_eq_putAll,
        List.flatMap_cons, FlagWriter.putAll_append]

/-- The short spelling of a near copy of three to six bytes is read back. -/
theorem readShortCopy?_before
    {length distance : Nat}
    (lengthFits : minLength ≤ length ∧ length ≤ shortLength)
    (distanceFits : 1 ≤ distance ∧ distance ≤ shortDistance)
    (used : Nat)
    (rest : List StreamItem) :
    read? (FlagReader.before used (shortItems length distance ++ rest)) =
      some (.copy length distance,
        FlagReader.before (StreamItem.advanceAll used (shortItems length distance)) rest) := by
  have lengthBack :
      2 * ((length - minLength) / 2 % 2 == 1).toNat +
        ((length - minLength) % 2 == 1).toNat + minLength = length := by
    simp only [minLength, shortLength] at lengthFits ⊢
    have cases : length = 3 ∨ length = 4 ∨ length = 5 ∨ length = 6 := by omega
    rcases cases with rfl | rfl | rfl | rfl <;> rfl
  have distanceBack :
      shortDistance - (UInt8.ofNat (shortDistance - distance)).toNat = distance := by
    simp only [shortDistance, UInt8.toNat_ofNat'] at distanceFits ⊢
    omega
  simp only [read?, readShortCopy?, shortItems, List.cons_append, List.nil_append,
    FlagReader.flag?_before, FlagReader.byte?_before, Option.bind_eq_bind,
    Option.bind_some, Bool.false_eq_true, if_false, lengthBack, distanceBack]
  rfl

/-- The two bytes of the long spelling give the distance back. -/
theorem longDistance_back
    {distance : Nat}
    (distanceFits : 1 ≤ distance ∧ distance ≤ windowSize)
    (nibble : Nat)
    (halfByte : nibble < 16) :
    let offset := windowSize - distance
    let high := (UInt8.ofNat (16 * (offset / 256 % 16) + nibble)).toNat
    windowSize - ((UInt8.ofNat (offset % 256)).toNat + 256 * (high / 16)) = distance ∧
      high % 16 = nibble := by
  simp only [windowSize, UInt8.toNat_ofNat'] at distanceFits ⊢
  omega

/-- The long spelling of a copy is read back. -/
theorem readLongCopy?_before
    {length distance : Nat}
    (lengthFits : minLength ≤ length ∧ length ≤ maxLength)
    (distanceFits : 1 ≤ distance ∧ distance ≤ windowSize)
    (used : Nat)
    (rest : List StreamItem) :
    read? (FlagReader.before used (longItems length distance ++ rest)) =
      some (.copy length distance,
        FlagReader.before (StreamItem.advanceAll used (longItems length distance)) rest) := by
  simp only [minLength, maxLength] at lengthFits
  by_cases inNibble : minLength < length ∧ length ≤ nibbleLength
  · have halfByte : length - minLength < 16 := by
      simp only [minLength, nibbleLength] at inNibble ⊢
      omega
    have notZero : length - minLength ≠ 0 := by omega
    have lengthBack : length - minLength + minLength = length := by omega
    obtain ⟨distanceBack, nibbleBack⟩ := longDistance_back distanceFits _ halfByte
    simp only [read?, readLongCopy?, longItems, inNibble, and_self, if_true,
      List.cons_append, List.nil_append, FlagReader.flag?_before,
      FlagReader.byte?_before, Option.bind_eq_bind, Option.bind_some,
      Bool.false_eq_true, if_false, distanceBack, nibbleBack, notZero, lengthBack]
    rfl
  · have extended : (UInt8.ofNat (length - 1)).toNat = length - 1 := by
      rw [UInt8.toNat_ofNat']
      omega
    have notZero : UInt8.ofNat (length - 1) ≠ 0 := by
      intro isZero
      rw [isZero] at extended
      have : (0 : UInt8).toNat = 0 := rfl
      omega
    have lengthBack : (UInt8.ofNat (length - 1)).toNat + 1 = length := by omega
    obtain ⟨distanceBack, nibbleBack⟩ :=
      longDistance_back distanceFits 0 (by decide)
    simp only [Nat.add_zero] at distanceBack nibbleBack
    simp only [read?, readLongCopy?, longItems, inNibble, if_true,
      List.cons_append, List.nil_append, FlagReader.flag?_before,
      FlagReader.byte?_before, Option.bind_eq_bind, Option.bind_some,
      Bool.false_eq_true, if_false, distanceBack, nibbleBack, notZero, lengthBack]
    rfl

/-- A reader before the items of a token takes the token off. -/
theorem read?_before
    {token : Token}
    (encodable : token.Encodable)
    (used : Nat)
    (rest : List StreamItem) :
    read? (FlagReader.before used (token.items ++ rest)) =
      some (token,
        FlagReader.before (StreamItem.advanceAll used token.items) rest) := by
  cases token with
  | literal value =>
      simp [read?, items, StreamItem.advanceAll,
        FlagReader.flag?_before, FlagReader.byte?_before]
  | copy length distance =>
      obtain ⟨minFits, maxFits, near, far⟩ := encodable
      by_cases short : length ≤ shortLength ∧ distance ≤ shortDistance
      · simp only [items, short, and_self, if_true]
        exact readShortCopy?_before ⟨minFits, short.1⟩ ⟨near, short.2⟩ used rest
      · simp only [items, short, if_false]
        exact readLongCopy?_before ⟨minFits, maxFits⟩ ⟨near, far⟩ used rest
  | endMark =>
      simp [read?, readLongCopy?, items, StreamItem.advanceAll,
        FlagReader.flag?_before, FlagReader.byte?_before]

/-- Unset flags without a byte behind them hold no token. -/
theorem read?_before_nil (used : Nat) :
    read? (FlagReader.before used []) = none := by
  -- At most four flags are asked for before the first byte.
  have noToken : ∀ count, read? ⟨List.replicate count false, []⟩ = none
    | 0 => rfl
    | 1 => rfl
    | 2 => rfl
    | 3 => rfl
    | _ + 4 => rfl
  exact noToken (flagsPerWord - used)

end Token

end AdventureArchive.Lz
