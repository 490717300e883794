namespace AdventureArchive.LittleEndian

/-!
# Little-endian numbers

A natural number becomes a fixed number of bytes, least significant first, and
a byte list becomes a natural number.  Every multi-byte field of an archive is
an instance of this pair.

The two maps undo each other: `decode_encode` holds for numbers that fit the
width, `encode_decode` for every byte list.
-/

/-- The `width` low bytes of a number, least significant first. -/
def encode : Nat → Nat → List UInt8
  | 0, _ => []
  | width + 1, value =>
      UInt8.ofNat value :: encode width (value / 256)

/-- The number whose bytes are given, least significant first. -/
def decode : List UInt8 → Nat
  | [] => 0
  | byte :: rest => byte.toNat + 256 * decode rest

/-- How many numbers a number of bytes can tell apart. -/
def capacity : Nat → Nat
  | 0 => 1
  | width + 1 => 256 * capacity width

/-- An encoding has exactly the width that was asked for. -/
@[simp] theorem length_encode
    (width value : Nat) :
    (encode width value).length = width := by
  induction width generalizing value with
  | zero => rfl
  | succ width inductionHypothesis =>
      simp [encode, inductionHypothesis]

/-- Decoded numbers fit the bytes they came from. -/
theorem decode_lt
    (bytes : List UInt8) :
    decode bytes < capacity bytes.length := by
  induction bytes with
  | nil => simp [decode, capacity]
  | cons byte rest inductionHypothesis =>
      have byteBound : byte.toNat < 256 := byte.toNat_lt
      simp only [decode, List.length_cons, capacity]
      omega

/-- Numbers that fit the width are read back. -/
theorem decode_encode
    {width value : Nat}
    (fits : value < capacity width) :
    decode (encode width value) = value := by
  induction width generalizing value with
  | zero =>
      simp only [capacity] at fits
      simp only [encode, decode]
      omega
  | succ width inductionHypothesis =>
      have quotientFits : value / 256 < capacity width := by
        simp only [capacity] at fits
        omega
      simp only [encode, decode, inductionHypothesis quotientFits,
        UInt8.toNat_ofNat']
      omega

/-- Every byte list is the encoding of the number it decodes to. -/
theorem encode_decode
    (bytes : List UInt8) :
    encode bytes.length (decode bytes) = bytes := by
  induction bytes with
  | nil => rfl
  | cons byte rest inductionHypothesis =>
      have byteBound : byte.toNat < 256 := byte.toNat_lt
      have lowByte : UInt8.ofNat (byte.toNat + 256 * decode rest) = byte := by
        apply UInt8.toNat_inj.mp
        rw [UInt8.toNat_ofNat']
        omega
      have highBytes : (byte.toNat + 256 * decode rest) / 256 = decode rest := by
        omega
      simp only [List.length_cons, decode, encode, lowByte, highBytes,
        inductionHypothesis]

end AdventureArchive.LittleEndian
