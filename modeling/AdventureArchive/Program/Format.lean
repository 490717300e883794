import AdventureArchive.Bytes.SingleByteText
import AdventureArchive.Program.Code

namespace AdventureArchive.Program

/-!
# The stored form of a program

A stored program is its code length and code, nine record sections and the
strings.  A section is a 16-bit count and that many records; a string is its
id, its length and its bytes.  Nothing may follow the strings.

A count, id or length that is cut short leaves nothing to read, so the error
then says that no byte remains.  Room for as many records as are counted is taken
to be allocated.
-/

/-- Reads a record section and returns what follows it. -/
def readSection
    {α : Type}
    [Layout α]
    (part : ProgramSection)
    (bytes : List UInt8) :
    Except ProgramError (List α × List UInt8) :=
  match (Layout.read bytes : Option (UInt16 × List UInt8)) with
  | none => .error (.truncatedSection part (Layout.width UInt16) 0)
  | some (count, behindCount) =>
      match Layout.readMany count.toNat behindCount with
      | some records => .ok records
      | none =>
          .error (.truncatedSection part
            (count.toNat * Layout.width α) behindCount.length)

/-- The bytes of a record section. -/
def writeSection
    {α : Type}
    [Layout α]
    (part : ProgramSection)
    (records : List α) :
    Except ProgramError (List UInt8) :=
  if records.length < UInt16.size then
    .ok (Layout.write (UInt16.ofNat records.length) ++ Layout.writeMany records)
  else
    .error (.sectionTooLarge part records.length)

/-- Reads strings, adding them to those read before. -/
def readStringsOnto
    (collected : SortedMap UInt16 String) :
    Nat → List UInt8 → Except ProgramError (SortedMap UInt16 String × List UInt8)
  | 0, bytes => .ok (collected, bytes)
  | count + 1, bytes =>
      match (Layout.read bytes : Option (UInt16 × List UInt8)) with
      | none => .error (.truncatedSection .strings 4 0)
      | some (id, behindId) =>
          match (Layout.read behindId : Option (UInt16 × List UInt8)) with
          | none => .error (.truncatedSection .strings 2 0)
          | some (length, behindLength) =>
              match takeBytes? length.toNat behindLength with
              | none =>
                  .error (.truncatedSection .strings
                    length.toNat behindLength.length)
              | some (text, rest) =>
                  if collected.contains id then
                    .error (.duplicateString id)
                  else
                    readStringsOnto
                      (collected.insert id (SingleByteText.decode text))
                      count rest

/-- Reads the string section and returns what follows it. -/
def readStrings
    (bytes : List UInt8) :
    Except ProgramError (SortedMap UInt16 String × List UInt8) :=
  match (Layout.read bytes : Option (UInt16 × List UInt8)) with
  | none => .error (.truncatedSection .strings 2 0)
  | some (count, behindCount) =>
      readStringsOnto .empty count.toNat behindCount

/-- The bytes of one string record. -/
def writeString
    (entry : UInt16 × String) :
    Except ProgramError (List UInt8) :=
  match SingleByteText.encode? entry.2 with
  | none => .error (.unencodableText entry.1)
  | some text =>
      if text.length < UInt16.size then
        .ok (Layout.write entry.1 ++
          Layout.write (UInt16.ofNat text.length) ++ text)
      else
        .error (.stringTooLong entry.1 text.length)

/-- The bytes of the string section, in ascending id order. -/
def writeStrings
    (strings : SortedMap UInt16 String) :
    Except ProgramError (List UInt8) :=
  if strings.size < UInt16.size then do
    let records ← strings.toList.mapM writeString
    return Layout.write (UInt16.ofNat strings.size) ++ records.flatten
  else
    .error (.sectionTooLarge .strings strings.size)

/-- Splits a stored program into its code and what follows the code. -/
def splitCode
    (bytes : List UInt8) :
    Except ProgramError (List UInt8 × List UInt8) :=
  match (Layout.read bytes : Option (UInt32 × List UInt8)) with
  | none => .error .truncatedHeader
  | some (codeLength, behindLength) =>
      match takeBytes? codeLength.toNat behindLength with
      | none => .error (.codeOverrun codeLength behindLength.length)
      | some split => .ok split

/-- Reads a stored program; the bytes must end with its strings. -/
def decode
    (registry : OpcodeRegistry)
    (bytes : List UInt8) :
    Except ProgramError Program := do
  let (code, bytes) ← splitCode bytes
  let instructions ← decodeCode registry code
  let (rects, bytes) ← readSection .rects bytes
  let (points, bytes) ← readSection .points bytes
  let (walkLinks, bytes) ← readSection .walkLinks bytes
  let (areas, bytes) ← readSection .areas bytes
  let (backgrounds, bytes) ← readSection .backgrounds bytes
  let (hitboxes, bytes) ← readSection .hitboxes bytes
  let (actionScripts, bytes) ← readSection .actionScripts bytes
  let (conversations, bytes) ← readSection .conversations bytes
  let (characterScripts, bytes) ← readSection .characterScripts bytes
  let (strings, bytes) ← readStrings bytes
  if bytes.isEmpty then
    return {
      rects, points, walkLinks, areas, backgrounds, hitboxes, actionScripts,
      conversations, characterScripts, strings, instructions
    }
  else
    throw (.trailingBytes bytes.length)

/-- The code behind its length. -/
def writeCode
    (instructions : SortedMap UInt32 Instruction) :
    Except ProgramError (List UInt8) := do
  let code ← encodeCode instructions
  if code.length < UInt32.size then
    return Layout.write (UInt32.ofNat code.length) ++ code
  else
    throw (.codeTooLarge code.length)

/-- The stored form of a program. -/
def encode (program : Program) : Except ProgramError (List UInt8) := do
  let code ← writeCode program.instructions
  let rects ← writeSection .rects program.rects
  let points ← writeSection .points program.points
  let walkLinks ← writeSection .walkLinks program.walkLinks
  let areas ← writeSection .areas program.areas
  let backgrounds ← writeSection .backgrounds program.backgrounds
  let hitboxes ← writeSection .hitboxes program.hitboxes
  let actionScripts ← writeSection .actionScripts program.actionScripts
  let conversations ← writeSection .conversations program.conversations
  let characterScripts ← writeSection .characterScripts program.characterScripts
  let strings ← writeStrings program.strings
  return code ++ rects ++ points ++ walkLinks ++ areas ++ backgrounds ++ hitboxes ++
    actionScripts ++ conversations ++ characterScripts ++ strings

end AdventureArchive.Program
