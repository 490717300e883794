import AdventureArchive.Bytes.SingleByteText

namespace AdventureArchive.SingleByteText

/-!
# Every byte list spells one text

A text has bytes exactly when some byte list spells it, and then those are its
bytes (`encode?_eq_some_iff`).
-/

/-- The code point of a byte is its number. -/
theorem toNat_charOfByte (byte : UInt8) : (charOfByte byte).toNat = byte.toNat := by
  have small : byte.toNat < 256 := byte.toNat_lt
  have valid : byte.toNat.isValidChar := Or.inl (by omega)
  rw [charOfByte, Char.ofNat, dif_pos valid]
  rfl

/-- A character has the byte that stands for it, and only that one. -/
theorem byteOfChar?_eq_some_iff
    {character : Char}
    {byte : UInt8} :
    byteOfChar? character = some byte ↔ charOfByte byte = character := by
  unfold byteOfChar?
  constructor
  · intro encoded
    split at encoded
    next small =>
      obtain rfl := Option.some.inj encoded
      rw [charOfByte, UInt8.toNat_ofNat', Nat.mod_eq_of_lt small, Char.ofNat_toNat]
    next => contradiction
  · rintro rfl
    have small : byte.toNat < 256 := byte.toNat_lt
    rw [toNat_charOfByte, if_pos small, UInt8.ofNat_toNat]

/-- A text has exactly the bytes that spell it. -/
theorem encode?_eq_some_iff
    {text : String}
    {bytes : List UInt8} :
    encode? text = some bytes ↔ decode bytes = text := by
  have characters :
      ∀ {list : List Char} {bytes : List UInt8},
        list.mapM byteOfChar? = some bytes ↔ bytes.map charOfByte = list := by
    intro list
    induction list with
    | nil => simp [eq_comm]
    | cons character rest inductionHypothesis =>
        intro bytes
        cases bytes with
        | nil => simp [List.mapM_cons, Option.bind_eq_some_iff]
        | cons byte others =>
            simp [List.mapM_cons, Option.bind_eq_some_iff, byteOfChar?_eq_some_iff,
              inductionHypothesis]
  rw [encode?, characters, decode]
  constructor
  · intro spelled
    rw [spelled, String.ofList_toList]
  · rintro rfl
    exact String.toList_ofList.symm

end AdventureArchive.SingleByteText
