import AdventureArchive.Proofs.Lz.RoundTrip
import Mathlib.Algebra.Order.Floor.Div

namespace AdventureArchive.Lz

/-!
# How long compressed data is

A stream is as long as its bytes and its words of flags: one word for each
sixteen flags, and one at least (`FlagWriter.length_bytes_empty`).  A short copy
of three bytes of data takes four flags, more than three literals would, but
only one byte.  So flags are charged with the bytes that are saved: twice the
flags of a token and its bytes are never more than three times the data it
stands for (`Token.cost_le`).  Compressed data is therefore not longer than the
same data in literals (`length_compress_le`).
-/

namespace StreamItem

/-- Whether an item is a flag. -/
def isFlag : StreamItem → Bool
  | .flag _ => true
  | .byte _ => false

/-- Number of flags among some items. -/
def flagCount (items : List StreamItem) : Nat :=
  items.countP isFlag

/-- Number of bytes among some items. -/
def byteCount (items : List StreamItem) : Nat :=
  items.countP fun item => !item.isFlag

variable (items more : List StreamItem)

@[simp] theorem flagCount_nil : flagCount [] = 0 :=
  rfl

@[simp] theorem byteCount_nil : byteCount [] = 0 :=
  rfl

@[simp] theorem flagCount_flag (value : Bool) :
    flagCount (.flag value :: items) = flagCount items + 1 :=
  List.countP_cons_of_pos rfl

@[simp] theorem byteCount_flag (value : Bool) :
    byteCount (.flag value :: items) = byteCount items :=
  List.countP_cons_of_neg Bool.false_ne_true

@[simp] theorem flagCount_byte (value : UInt8) :
    flagCount (.byte value :: items) = flagCount items :=
  List.countP_cons_of_neg Bool.false_ne_true

@[simp] theorem byteCount_byte (value : UInt8) :
    byteCount (.byte value :: items) = byteCount items + 1 :=
  List.countP_cons_of_pos rfl

@[simp] theorem flagCount_append : flagCount (items ++ more) = flagCount items + flagCount more :=
  List.countP_append

@[simp] theorem byteCount_append : byteCount (items ++ more) = byteCount items + byteCount more :=
  List.countP_append

end StreamItem

open StreamItem (flagCount byteCount)

namespace FlagWriter

/-- The word that is being collected takes two bytes, whatever its flags are. -/
theorem length_bytes (writer : FlagWriter) :
    writer.bytes.length = writer.finished.size + 2 + writer.payload.size := by
  simp only [bytes, written, Array.toList_append, List.length_append, LittleEndian.length_encode,
    Array.length_toList]

/-- A byte lengthens a stream by one. -/
theorem length_bytes_byte (writer : FlagWriter) (value : UInt8) :
    (writer.byte value).bytes.length = writer.bytes.length + 1 := by
  simp only [length_bytes, byte, Array.size_push, Nat.add_assoc]

/-- A flag for which the word has room does not lengthen a stream. -/
theorem length_bytes_flag_of_room
    {writer : FlagWriter}
    (room : writer.flags.size < flagsPerWord)
    (value : Bool) :
    (writer.flag value).bytes.length = writer.bytes.length ∧
      (writer.flag value).flags.size = writer.flags.size + 1 := by
  rw [length_bytes, length_bytes, flag_of_room room]
  exact ⟨rfl, Array.size_push value⟩

/-- A flag behind a full word lengthens a stream by the next word. -/
theorem length_bytes_flag_of_full
    {writer : FlagWriter}
    (full : ¬ writer.flags.size < flagsPerWord)
    (value : Bool) :
    (writer.flag value).bytes.length = writer.bytes.length + 2 ∧
      (writer.flag value).flags.size = 1 := by
  rw [length_bytes, flag_of_full full]
  exact ⟨rfl, rfl⟩

/-- Appended bytes take one byte each, and flags two for each word that they open. -/
theorem length_bytes_putAll
    {writer : FlagWriter}
    (inWord : writer.flags.size ≤ flagsPerWord)
    (items : List StreamItem) :
    (writer.putAll items).bytes.length =
      writer.bytes.length + byteCount items +
        2 * ((writer.flags.size + flagCount items - 1) / flagsPerWord) := by
  induction items generalizing writer with
  | nil =>
      have noWord : (writer.flags.size - 1) / flagsPerWord = 0 :=
        Nat.div_eq_of_lt (Nat.lt_of_le_of_lt (Nat.sub_le_sub_right inWord 1) (by decide))
      simp [noWord]
  | cons item rest inductionHypothesis =>
      cases item with
      | byte value =>
          have sameWord : (writer.byte value).flags.size ≤ flagsPerWord := inWord
          rw [putAll_cons, put, inductionHypothesis sameWord, length_bytes_byte,
            StreamItem.byteCount_byte, StreamItem.flagCount_byte]
          simp only [byte]
          omega
      | flag value =>
          rw [putAll_cons, put, StreamItem.byteCount_flag, StreamItem.flagCount_flag]
          by_cases room : writer.flags.size < flagsPerWord
          · obtain ⟨sameLength, oneMore⟩ := length_bytes_flag_of_room room value
            rw [inductionHypothesis (oneMore ▸ room), sameLength, oneMore, Nat.add_assoc _ 1,
              Nat.add_comm 1]
          · obtain ⟨longer, onlyOne⟩ := length_bytes_flag_of_full room value
            have opensWord : (writer.flag value).flags.size ≤ flagsPerWord := by
              rw [onlyOne]
              decide
            rw [inductionHypothesis opensWord, longer, onlyOne]
            simp only [flagsPerWord] at *
            omega

/-- A stream has a byte for each byte that is put into it, and two for each sixteen flags. -/
theorem length_bytes_empty (items : List StreamItem) :
    (empty.putAll items).bytes.length =
      byteCount items + 2 * max 1 (flagCount items ⌈/⌉ 16) := by
  have noFlags : empty.flags.size = 0 := rfl
  have reserved : empty.bytes.length = 2 := rfl
  rw [length_bytes_putAll (by decide), reserved, noFlags, Nat.ceilDiv_eq_add_pred_div]
  simp only [flagsPerWord]
  omega

end FlagWriter

namespace Token

/-- Number of bytes that a token stands for. -/
def extent : Token → Nat
  | .literal _ => 1
  | .copy length _ => length
  | .endMark => 0

/-- A token lengthens the output by the bytes that it stands for. -/
theorem size_expand
    (produced : Array UInt8)
    (token : Token) :
    (token.expand produced).size = produced.size + token.extent := by
  cases token with
  | literal value => exact Array.size_push _
  | copy length distance => exact size_copyBack _ _ _
  | endMark => rfl

/-- A short copy takes four flags and a byte. -/
theorem cost_shortItems (length distance : Nat) :
    flagCount (shortItems length distance) = 4 ∧ byteCount (shortItems length distance) = 1 :=
  ⟨rfl, rfl⟩

/-- A long copy takes two flags and two bytes, or a third one for its length. -/
theorem cost_longItems (length distance : Nat) :
    flagCount (longItems length distance) = 2 ∧
      byteCount (longItems length distance) =
        if minLength < length ∧ length ≤ nibbleLength then 2 else 3 := by
  rw [longItems]
  split
  next => exact ⟨rfl, rfl⟩
  next => exact ⟨rfl, rfl⟩

/--
A token takes no more bytes than it stands for, and what it takes in flags beyond
that number it saves in bytes.
-/
theorem cost_le
    {token : Token}
    (encodable : token.Encodable)
    (notEnd : token ≠ .endMark) :
    byteCount token.items ≤ token.extent ∧
      2 * flagCount token.items + byteCount token.items ≤ 3 * token.extent := by
  cases token with
  | literal value => exact ⟨Nat.le_refl 1, Nat.le_refl 3⟩
  | copy length distance =>
      have atLeastThree : 3 ≤ length := encodable.1
      simp only [items, extent]
      split
      next short =>
        obtain ⟨flags, bytes⟩ := cost_shortItems length distance
        omega
      next long =>
        obtain ⟨flags, bytes⟩ := cost_longItems length distance
        by_cases inNibble : minLength < length ∧ length ≤ nibbleLength
        · have atLeastFour : 4 ≤ length := inNibble.1
          rw [if_pos inNibble] at bytes
          omega
        · rw [if_neg inNibble] at bytes
          omega
  | endMark => exact absurd rfl notEnd

end Token

/-- Tokens lengthen the output by the bytes that they stand for. -/
theorem size_expandAll
    (produced : Array UInt8)
    (tokens : List Token) :
    (expandAll produced tokens).size = produced.size + (tokens.map Token.extent).sum := by
  induction tokens generalizing produced with
  | nil => rfl
  | cons token rest inductionHypothesis =>
      rw [expandAll_cons, inductionHypothesis, token.size_expand, List.map_cons, List.sum_cons,
        Nat.add_assoc]

/-- The tokens of some data stand for as many bytes as it has. -/
theorem sum_extent_tokens (data : List UInt8) :
    ((tokens data).map Token.extent).sum = data.length := by
  have produced := congrArg List.length (expandAll_tokens data)
  rwa [Array.length_toList, size_expandAll, Array.size_empty, Nat.zero_add] at produced

/-- Tokens cost no more than what they stand for. -/
theorem cost_items_le
    {tokens : List Token}
    (spelled : ∀ token ∈ tokens, token.Encodable ∧ token ≠ .endMark) :
    byteCount (tokens.flatMap Token.items) ≤ (tokens.map Token.extent).sum ∧
      2 * flagCount (tokens.flatMap Token.items) + byteCount (tokens.flatMap Token.items) ≤
        3 * (tokens.map Token.extent).sum := by
  induction tokens with
  | nil => exact ⟨Nat.le_refl 0, Nat.le_refl 0⟩
  | cons token rest inductionHypothesis =>
      obtain ⟨⟨encodable, notEnd⟩, restSpelled⟩ := List.forall_mem_cons.mp spelled
      obtain ⟨fewBytes, fewFlags⟩ := token.cost_le encodable notEnd
      obtain ⟨restFewBytes, restFewFlags⟩ := inductionHypothesis restSpelled
      rw [List.flatMap_cons, StreamItem.flagCount_append, StreamItem.byteCount_append,
        List.map_cons, List.sum_cons]
      omega

/--
Compressed data is at most as long as the data in literals would be: a byte for
each byte, and a word of flags for each sixteen of them, but one at least.
-/
theorem length_compress_le (data : List UInt8) :
    (compress data).length ≤ data.length + 2 * max 1 (data.length ⌈/⌉ 16) := by
  obtain ⟨fewBytes, fewFlags⟩ := cost_items_le (covers_tokens data).spelled
  rw [sum_extent_tokens] at fewBytes fewFlags
  rw [compress_eq_bytes_putAll, FlagWriter.length_bytes_empty, Nat.ceilDiv_eq_add_pred_div,
    Nat.ceilDiv_eq_add_pred_div]
  omega

/-- Data in which nothing is repeated is as long as that, with its second word of flags. -/
example :
    (compress [0, 1, 2, 3, 4, 5, 6, 7, 8, 9, 10, 11, 12, 13, 14, 15, 16]).length = 17 + 2 * 2 := by
  decide +kernel

end AdventureArchive.Lz
