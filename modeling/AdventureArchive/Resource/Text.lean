import AdventureArchive.Bytes.Layout
import AdventureArchive.Bytes.SingleByteText
import AdventureArchive.Resource.Error

namespace AdventureArchive

/-!
# The text of an archive

One text for the whole archive, stored behind the length it declares.  The
declared length may disagree with the text; that is remarked upon and kept.
-/

/-- The archive text with the length it declares. -/
structure TextBlob where
  declaredLength : UInt32
  text : String
  deriving Repr, DecidableEq, Inhabited

namespace TextBlob

/-- A text that declares its own number of characters. -/
def ofText (text : String) : TextBlob where
  declaredLength := UInt32.ofNat text.length
  text := text

/-- Declared and actual number of characters, where they disagree. -/
def lengthMismatch? (blob : TextBlob) : Option (UInt32 × Nat) :=
  if blob.text.length = blob.declaredLength.toNat then
    none
  else
    some (blob.declaredLength, blob.text.length)

/-- Reads a declared length and takes all that follows as text. -/
def decode (bytes : List UInt8) : Except ResourceError TextBlob :=
  match Layout.read bytes with
  | none => .error (.truncated .textLengthPrefix)
  | some (declaredLength, body) =>
      .ok ⟨declaredLength, SingleByteText.decode body⟩

/-- The declared length and the bytes of the text. -/
def encode (blob : TextBlob) : Except ResourceError (List UInt8) :=
  match SingleByteText.encode? blob.text with
  | none => .error (.invalid .unencodableText)
  | some body => .ok (Layout.write blob.declaredLength ++ body)

end TextBlob

end AdventureArchive
