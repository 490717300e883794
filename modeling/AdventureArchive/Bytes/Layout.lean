import AdventureArchive.Bytes.LittleEndian

namespace AdventureArchive

/-!
# Fixed-width fields

A `Layout` says how a value is stored in a fixed number of bytes: how many,
which ones, and how to take the value off the front of a byte list.  Words are
little-endian, pairs are stored one part after the other, and a record is
stored like the tuple of its fields.
-/

/-- Storage of a type in a fixed number of bytes. -/
class Layout (α : Type) where
  width : Nat
  write : α → List UInt8
  read : List UInt8 → Option (α × List UInt8)

namespace Layout

/--
Stores a record like the value it is rearranged into, such as the tuple of its
fields.
-/
@[reducible] def via
    {α β : Type}
    [Layout β]
    (toFields : α → β)
    (ofFields : β → α) :
    Layout α where
  width := width β
  write record := write (toFields record)
  read bytes :=
    match read bytes with
    | some (fields, rest) => some (ofFields fields, rest)
    | none => none

instance : Layout Unit where
  width := 0
  write _ := []
  read bytes := some ((), bytes)

instance : Layout UInt8 where
  width := 1
  write byte := [byte]
  read
    | byte :: rest => some (byte, rest)
    | [] => none

instance : Layout UInt16 where
  width := 2
  write word := LittleEndian.encode 2 word.toNat
  read
    | first :: second :: rest =>
        some (UInt16.ofNat (LittleEndian.decode [first, second]), rest)
    | _ => none

instance : Layout UInt32 where
  width := 4
  write word := LittleEndian.encode 4 word.toNat
  read
    | first :: second :: third :: fourth :: rest =>
        some (UInt32.ofNat (LittleEndian.decode [first, second, third, fourth]), rest)
    | _ => none

/-- Signed words are stored in two's complement. -/
instance : Layout Int16 :=
  via Int16.toUInt16 UInt16.toInt16

/-- Signed long words are stored in two's complement. -/
instance : Layout Int32 :=
  via Int32.toUInt32 UInt32.toInt32

instance {α β : Type} [Layout α] [Layout β] : Layout (α × β) where
  width := width α + width β
  write pair := write pair.1 ++ write pair.2
  read bytes :=
    match read bytes with
    | none => none
    | some (first, afterFirst) =>
        match read afterFirst with
        | none => none
        | some (second, rest) => some ((first, second), rest)

/-- Takes values off the front while collecting the earlier ones in reverse. -/
def readOnto
    {α : Type}
    [Layout α]
    (collected : List α) :
    Nat → List UInt8 → Option (List α × List UInt8)
  | 0, bytes => some (collected.reverse, bytes)
  | count + 1, bytes =>
      match read bytes with
      | none => none
      | some (value, rest) => readOnto (value :: collected) count rest

/-- Takes a number of consecutive values off the front of a byte list. -/
def readMany
    {α : Type}
    [Layout α]
    (count : Nat)
    (bytes : List UInt8) :
    Option (List α × List UInt8) :=
  readOnto [] count bytes

/-- Consecutive values, one after the other. -/
def writeMany
    {α : Type}
    [Layout α]
    (values : List α) :
    List UInt8 :=
  values.flatMap write

/-- A vector is stored as its consecutive values. -/
instance {α : Type} {count : Nat} [Layout α] : Layout (Vector α count) where
  width := count * width α
  write values := writeMany values.toList
  read bytes :=
    match readMany count bytes with
    | none => none
    | some (values, rest) =>
        if size : values.length = count then
          some (⟨values.toArray, by simpa using size⟩, rest)
        else
          none

end Layout

/-- Takes exactly `count` bytes off the front of a byte list. -/
def takeBytes?
    (count : Nat)
    (bytes : List UInt8) :
    Option (List UInt8 × List UInt8) :=
  let taken := bytes.take count
  if taken.length = count then some (taken, bytes.drop count) else none

end AdventureArchive
