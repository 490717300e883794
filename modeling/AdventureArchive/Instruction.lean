import AdventureArchive.Bytes.Layout
import AdventureArchive.Bytes.Size

namespace AdventureArchive

/-!
# Script instructions

An instruction is one opcode byte followed by operands of fixed width.  This
module holds the instruction set, what each instruction is written as, and how
the operands that follow an opcode are read.

`Instruction.parts` names the written parts of an instruction: opcode,
mnemonic and operands in storage order.  Width, bytes and listing text are all
taken from these parts.  `Instruction.forms` is the table for reading: one form
per opcode, in opcode order.
-/

/-- One step of a script. -/
inductive Instruction where
  | noop
  | stopScript
  | jump (target : UInt16)
  | jumpIfZero (target : UInt16)
  | jumpIfNotZero (target : UInt16)
  | call (target : UInt16)
  | pushByte (value : UInt8)
  | pushWord (value : Int16)
  | pushLong (value : Int32)
  | pushVar (var : UInt16)
  | popVar (var : UInt16)
  | dup
  | discard
  | add
  | sub
  | mul
  | div
  | mod
  | neg
  | and
  | or
  | not
  | equal
  | notEqual
  | less
  | greater
  | lessEqual
  | greaterEqual
  | pushFlag (flag : UInt16)
  | setFlag (flag : UInt16)
  | clearFlag (flag : UInt16)
  | say (character : UInt8) (message : UInt16)
  | walkTo (point : UInt16)
  | playSequence (area : UInt8) (sequence : UInt16)
  | playSound (sound : UInt16)
  | changeRoom (room : UInt16) (entry : UInt8)
  | giveItem (item : UInt16)
  | takeItem (item : UInt16)
  | hasItem (item : UInt16)
  | startConversation (conversation : UInt16)
  | addChoice (choice : UInt8) (message : UInt16)
  | enableHitbox (hitbox : UInt16)
  | disableHitbox (hitbox : UInt16)
  | wait (ticks : UInt16)
  | setCharacterScript (character : UInt8) (offset : UInt16)
  | random (max : UInt16)
  | fadePalette (palette : UInt16) (steps : UInt8)
  | setBackground (background : UInt8)
  deriving Repr, DecidableEq

/-- A number stored behind an opcode. -/
inductive Operand where
  | byte (value : UInt8)
  | word (value : UInt16)
  | signedWord (value : Int16)
  | signedLong (value : Int32)
  deriving Repr, DecidableEq

namespace Operand

/-- The stored bytes of an operand. -/
def bytes : Operand → List UInt8
  | .byte value => Layout.write value
  | .word value => Layout.write value
  | .signedWord value => Layout.write value
  | .signedLong value => Layout.write value

/-- Number of bytes an operand takes. -/
def width : Operand → Nat
  | .byte _ => Layout.width UInt8
  | .word _ => Layout.width UInt16
  | .signedWord _ => Layout.width Int16
  | .signedLong _ => Layout.width Int32

/-- The number an operand holds. -/
def number : Operand → Int
  | .byte value => value.toNat
  | .word value => value.toNat
  | .signedWord value => value.toInt
  | .signedLong value => value.toInt

end Operand

namespace Instruction

/-- What an instruction is written as. -/
structure Parts where
  opcode : UInt8
  mnemonic : String
  operands : List (String × Operand)
  deriving Repr, DecidableEq

/-- Opcode, mnemonic and named operands of each instruction. -/
def parts : Instruction → Parts
  | .noop => ⟨0x00, "Noop", []⟩
  | .stopScript => ⟨0x01, "StopScript", []⟩
  | .jump target => ⟨0x02, "Jump", [("target", .word target)]⟩
  | .jumpIfZero target => ⟨0x03, "JumpIfZero", [("target", .word target)]⟩
  | .jumpIfNotZero target => ⟨0x04, "JumpIfNotZero", [("target", .word target)]⟩
  | .call target => ⟨0x05, "Call", [("target", .word target)]⟩
  | .pushByte value => ⟨0x06, "PushByte", [("value", .byte value)]⟩
  | .pushWord value => ⟨0x07, "PushWord", [("value", .signedWord value)]⟩
  | .pushLong value => ⟨0x08, "PushLong", [("value", .signedLong value)]⟩
  | .pushVar var => ⟨0x09, "PushVar", [("var", .word var)]⟩
  | .popVar var => ⟨0x0A, "PopVar", [("var", .word var)]⟩
  | .dup => ⟨0x0B, "Dup", []⟩
  | .discard => ⟨0x0C, "Discard", []⟩
  | .add => ⟨0x0D, "Add", []⟩
  | .sub => ⟨0x0E, "Sub", []⟩
  | .mul => ⟨0x0F, "Mul", []⟩
  | .div => ⟨0x10, "Div", []⟩
  | .mod => ⟨0x11, "Mod", []⟩
  | .neg => ⟨0x12, "Neg", []⟩
  | .and => ⟨0x13, "And", []⟩
  | .or => ⟨0x14, "Or", []⟩
  | .not => ⟨0x15, "Not", []⟩
  | .equal => ⟨0x16, "Equal", []⟩
  | .notEqual => ⟨0x17, "NotEqual", []⟩
  | .less => ⟨0x18, "Less", []⟩
  | .greater => ⟨0x19, "Greater", []⟩
  | .lessEqual => ⟨0x1A, "LessEqual", []⟩
  | .greaterEqual => ⟨0x1B, "GreaterEqual", []⟩
  | .pushFlag flag => ⟨0x20, "PushFlag", [("flag", .word flag)]⟩
  | .setFlag flag => ⟨0x21, "SetFlag", [("flag", .word flag)]⟩
  | .clearFlag flag => ⟨0x22, "ClearFlag", [("flag", .word flag)]⟩
  | .say character message => ⟨0x30, "Say", [("character", .byte character), ("message", .word message)]⟩
  | .walkTo point => ⟨0x31, "WalkTo", [("point", .word point)]⟩
  | .playSequence area sequence => ⟨0x32, "PlaySequence", [("area", .byte area), ("sequence", .word sequence)]⟩
  | .playSound sound => ⟨0x33, "PlaySound", [("sound", .word sound)]⟩
  | .changeRoom room entry => ⟨0x34, "ChangeRoom", [("room", .word room), ("entry", .byte entry)]⟩
  | .giveItem item => ⟨0x35, "GiveItem", [("item", .word item)]⟩
  | .takeItem item => ⟨0x36, "TakeItem", [("item", .word item)]⟩
  | .hasItem item => ⟨0x37, "HasItem", [("item", .word item)]⟩
  | .startConversation conversation => ⟨0x38, "StartConversation", [("conversation", .word conversation)]⟩
  | .addChoice choice message => ⟨0x39, "AddChoice", [("choice", .byte choice), ("message", .word message)]⟩
  | .enableHitbox hitbox => ⟨0x3A, "EnableHitbox", [("hitbox", .word hitbox)]⟩
  | .disableHitbox hitbox => ⟨0x3B, "DisableHitbox", [("hitbox", .word hitbox)]⟩
  | .wait ticks => ⟨0x3C, "Wait", [("ticks", .word ticks)]⟩
  | .setCharacterScript character offset => ⟨0x3D, "SetCharacterScript", [("character", .byte character), ("offset", .word offset)]⟩
  | .random max => ⟨0x3E, "Random", [("max", .word max)]⟩
  | .fadePalette palette steps => ⟨0x3F, "FadePalette", [("palette", .word palette), ("steps", .byte steps)]⟩
  | .setBackground background => ⟨0x40, "SetBackground", [("background", .byte background)]⟩

/-- The byte that stands for the instruction. -/
def opcode (instruction : Instruction) : UInt8 :=
  instruction.parts.opcode

/-- The name the instruction is listed under. -/
def mnemonic (instruction : Instruction) : String :=
  instruction.parts.mnemonic

/-- Operands with their names, in storage order. -/
def operands (instruction : Instruction) : List (String × Operand) :=
  instruction.parts.operands

/-- Number of operand bytes. -/
def width (instruction : Instruction) : Nat :=
  totalSize (fun operand => operand.2.width) instruction.operands

/-- Number of bytes the instruction takes, its opcode included. -/
def size (instruction : Instruction) : Nat :=
  1 + instruction.width

/-- The operand bytes. -/
def payload (instruction : Instruction) : List UInt8 :=
  instruction.operands.flatMap fun operand => operand.2.bytes

/-- The opcode followed by the operand bytes. -/
def encode (instruction : Instruction) : List UInt8 :=
  instruction.opcode :: instruction.payload

/-- Mnemonic and operands as a listing shows them. -/
def text (instruction : Instruction) : String :=
  instruction.operands.foldl
    (fun listed operand => listed ++ s!" {operand.1}={operand.2.number}")
    instruction.mnemonic

/-- The number that a literal instruction fetches, widened to a stack slot. -/
def literal? : Instruction → Option Int32
  | .pushByte value => some (Int32.ofNat value.toNat)
  | .pushWord value => some value.toInt32
  | .pushLong value => some value
  | _ => none

/-- Name, opcode and operand width of an instruction of the set. -/
structure Descriptor where
  name : String
  opcode : UInt8
  width : Nat
  deriving Repr, DecidableEq

/-- A descriptor with the reader for the operands it describes. -/
structure Form extends Descriptor where
  read : List UInt8 → Option (Instruction × List UInt8)

namespace Form

/-- An instruction without operands. -/
def fixed
    (opcode : UInt8)
    (name : String)
    (instruction : Instruction) :
    Form where
  opcode := opcode
  name := name
  width := 0
  read bytes := some (instruction, bytes)

/-- An instruction with one operand. -/
def one
    {α : Type}
    [Layout α]
    (opcode : UInt8)
    (name : String)
    (make : α → Instruction) :
    Form where
  opcode := opcode
  name := name
  width := Layout.width α
  read bytes :=
    (Layout.read bytes).map fun stored => (make stored.1, stored.2)

/-- An instruction with two operands. -/
def two
    {α β : Type}
    [Layout α]
    [Layout β]
    (opcode : UInt8)
    (name : String)
    (make : α → β → Instruction) :
    Form :=
  one opcode name fun (operands : α × β) => make operands.1 operands.2

end Form

/-- Every instruction of the set, in opcode order. -/
def forms : List Form := [
  .fixed 0x00 "Noop" .noop,
  .fixed 0x01 "StopScript" .stopScript,
  .one 0x02 "Jump" .jump,
  .one 0x03 "JumpIfZero" .jumpIfZero,
  .one 0x04 "JumpIfNotZero" .jumpIfNotZero,
  .one 0x05 "Call" .call,
  .one 0x06 "PushByte" .pushByte,
  .one 0x07 "PushWord" .pushWord,
  .one 0x08 "PushLong" .pushLong,
  .one 0x09 "PushVar" .pushVar,
  .one 0x0A "PopVar" .popVar,
  .fixed 0x0B "Dup" .dup,
  .fixed 0x0C "Discard" .discard,
  .fixed 0x0D "Add" .add,
  .fixed 0x0E "Sub" .sub,
  .fixed 0x0F "Mul" .mul,
  .fixed 0x10 "Div" .div,
  .fixed 0x11 "Mod" .mod,
  .fixed 0x12 "Neg" .neg,
  .fixed 0x13 "And" .and,
  .fixed 0x14 "Or" .or,
  .fixed 0x15 "Not" .not,
  .fixed 0x16 "Equal" .equal,
  .fixed 0x17 "NotEqual" .notEqual,
  .fixed 0x18 "Less" .less,
  .fixed 0x19 "Greater" .greater,
  .fixed 0x1A "LessEqual" .lessEqual,
  .fixed 0x1B "GreaterEqual" .greaterEqual,
  .one 0x20 "PushFlag" .pushFlag,
  .one 0x21 "SetFlag" .setFlag,
  .one 0x22 "ClearFlag" .clearFlag,
  .two 0x30 "Say" .say,
  .one 0x31 "WalkTo" .walkTo,
  .two 0x32 "PlaySequence" .playSequence,
  .one 0x33 "PlaySound" .playSound,
  .two 0x34 "ChangeRoom" .changeRoom,
  .one 0x35 "GiveItem" .giveItem,
  .one 0x36 "TakeItem" .takeItem,
  .one 0x37 "HasItem" .hasItem,
  .one 0x38 "StartConversation" .startConversation,
  .two 0x39 "AddChoice" .addChoice,
  .one 0x3A "EnableHitbox" .enableHitbox,
  .one 0x3B "DisableHitbox" .disableHitbox,
  .one 0x3C "Wait" .wait,
  .two 0x3D "SetCharacterScript" .setCharacterScript,
  .one 0x3E "Random" .random,
  .two 0x3F "FadePalette" .fadePalette,
  .one 0x40 "SetBackground" .setBackground]

/-- Descriptors of the whole instruction set, in opcode order. -/
def descriptors : List Descriptor :=
  forms.map Form.toDescriptor

/-- Reads the operands that follow an opcode. -/
def readOperands
    (opcode : UInt8)
    (bytes : List UInt8) :
    Option (Instruction × List UInt8) :=
  (forms.find? fun form => form.opcode == opcode).bind fun form =>
    form.read bytes

end Instruction

end AdventureArchive
