import AdventureArchive.Json.Form
import AdventureArchive.Program
import AdventureArchive.Text.Hexadecimal

namespace AdventureArchive

/-!
# JSON forms of programs

A record has a field for each of its own.  An instruction names its mnemonic
and then its operands; maps become objects whose names are their keys.  An
instruction is read from its stored bytes in hexadecimal.
-/

instance : ToJson Rect where
  toJson rect := .record [
    ("left", toJson rect.left),
    ("top", toJson rect.top),
    ("right", toJson rect.right),
    ("bottom", toJson rect.bottom)]

instance : FromJson Rect where
  fromJson value := return {
    left := ← value.get "left"
    top := ← value.get "top"
    right := ← value.get "right"
    bottom := ← value.get "bottom"
  }

instance : ToJson Point where
  toJson point := .record [("x", toJson point.x), ("y", toJson point.y)]

instance : FromJson Point where
  fromJson value := return ⟨← value.get "x", ← value.get "y"⟩

instance : ToJson WalkLink where
  toJson link := .record [
    ("from", toJson link.start),
    ("to", toJson link.finish),
    ("clip", toJson link.clip),
    ("area_from", toJson link.startArea),
    ("area_to", toJson link.finishArea)]

instance : FromJson WalkLink where
  fromJson value := return {
    start := ← value.get "from"
    finish := ← value.get "to"
    clip := ← value.get "clip"
    startArea := ← value.get "area_from"
    finishArea := ← value.get "area_to"
  }

instance : ToJson Area where
  toJson area := .record [
    ("sequence", toJson area.sequence),
    ("x", toJson area.x),
    ("y", toJson area.y),
    ("flags", toJson area.flags)]

instance : FromJson Area where
  fromJson value := return {
    sequence := ← value.get "sequence"
    x := ← value.get "x"
    y := ← value.get "y"
    flags := ← value.get "flags"
  }

instance : ToJson Background where
  toJson background := .record [
    ("room_image", toJson background.roomImage),
    ("source", toJson background.source),
    ("dest", toJson background.dest),
    ("scale", toJson background.scale)]

instance : FromJson Background where
  fromJson value := return {
    roomImage := ← value.get "room_image"
    source := ← value.get "source"
    dest := ← value.get "dest"
    scale := ← value.get "scale"
  }

instance : ToJson Hitbox where
  toJson hitbox := .record [
    ("object", toJson hitbox.object),
    ("actions", toJson hitbox.actions.toList),
    ("bounds", toJson hitbox.bounds),
    ("approach", toJson hitbox.approach)]

/-- Verbs that are not listed have action zero. -/
instance : FromJson Hitbox where
  fromJson value := do
    let actions : List UInt16 ← value.get "actions"
    return {
      object := ← value.get "object"
      actions := Vector.ofFn fun verb => actions.getD verb.val 0
      bounds := ← value.get "bounds"
      approach := ← value.get "approach"
    }

instance : ToJson ActionScript where
  toJson script := .record [
    ("object", toJson script.object),
    ("target", toJson script.target),
    ("offset", toJson script.offset)]

instance : FromJson ActionScript where
  fromJson value := return {
    object := ← value.get "object"
    target := ← value.get "target"
    offset := ← value.get "offset"
  }

instance : ToJson Conversation where
  toJson conversation := .record [
    ("choice", toJson conversation.choice),
    ("offset", toJson conversation.offset),
    ("message", toJson conversation.message)]

instance : FromJson Conversation where
  fromJson value := return {
    choice := ← value.get "choice"
    offset := ← value.get "offset"
    message := ← value.get "message"
  }

instance : ToJson CharacterScript where
  toJson script := .record [
    ("character", toJson script.character),
    ("offset", toJson script.offset)]

instance : FromJson CharacterScript where
  fromJson value := return ⟨← value.get "character", ← value.get "offset"⟩

instance : ToJson Operand := ⟨fun operand => .integer operand.number⟩

instance : ToJson Instruction where
  toJson instruction := .record <|
    ("op", toJson instruction.mnemonic) ::
      instruction.operands.map fun operand => (operand.1, toJson operand.2)

instance : FromJson Instruction where
  fromJson value := do
    let text : String ← fromJson value
    match Hexadecimal.decode? text with
    | some (opcode :: operands) =>
        match OpcodeRegistry.standard.decode opcode operands with
        | .ok (instruction, _) => return instruction
        | .error cause => throw (.expected ("instruction, not " ++ cause.message))
    | _ => throw (.expected "instruction")

instance
    {κ α : Type}
    [SortKey κ]
    [ToString κ]
    [ToJson α] :
    ToJson (SortedMap κ α) where
  toJson map := .record <|
    map.toList.map fun entry => (toString entry.1, toJson entry.2)

instance : ToJson Program where
  toJson program := .record [
    ("rects", toJson program.rects),
    ("points", toJson program.points),
    ("walk_links", toJson program.walkLinks),
    ("areas", toJson program.areas),
    ("backgrounds", toJson program.backgrounds),
    ("hitboxes", toJson program.hitboxes),
    ("action_scripts", toJson program.actionScripts),
    ("conversations", toJson program.conversations),
    ("character_scripts", toJson program.characterScripts),
    ("strings", toJson program.strings),
    ("instructions", toJson program.instructions)]

/-- The map of a field whose names are decimal keys. -/
def Json.keyed
    {κ α : Type}
    [SortKey κ]
    [FromJson α]
    (value : Json)
    (key : Nat → κ)
    (name : String) :
    Except FormFault (SortedMap κ α) :=
  return .ofList ((← value.numbered name).map fun entry => (key entry.1, entry.2))

instance : FromJson Program where
  fromJson value := return {
    rects := ← value.get "rects"
    points := ← value.get "points"
    walkLinks := ← value.get "walk_links"
    areas := ← value.get "areas"
    backgrounds := ← value.get "backgrounds"
    hitboxes := ← value.get "hitboxes"
    actionScripts := ← value.get "action_scripts"
    conversations := ← value.get "conversations"
    characterScripts := ← value.get "character_scripts"
    strings := ← value.keyed UInt16.ofNat "strings"
    instructions := ← value.keyed UInt32.ofNat "instructions"
  }

instance : ToJson Instruction.Descriptor where
  toJson descriptor := .record [
    ("name", toJson descriptor.name),
    ("opcode", toJson descriptor.opcode),
    ("width", toJson descriptor.width)]

instance : FromJson Instruction.Descriptor where
  fromJson value := return {
    name := ← value.get "name"
    opcode := ← value.get "opcode"
    width := ← value.get "width"
  }

end AdventureArchive
