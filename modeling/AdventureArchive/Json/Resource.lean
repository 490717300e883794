import AdventureArchive.Archive.Load
import AdventureArchive.Json.Form

namespace AdventureArchive

/-!
# JSON forms of plain resources and reports

Palettes, room records, sequences and the archive text, and what a load or a
database says about itself.  Kinds appear under their identifier.
-/

instance : ToJson Colour where
  toJson colour := .record [
    ("r", toJson colour.red),
    ("g", toJson colour.green),
    ("b", toJson colour.blue)]

instance : FromJson Colour where
  fromJson value := return ⟨← value.get "r", ← value.get "g", ← value.get "b"⟩

instance : ToJson Palette where
  toJson palette := .record [("colors", toJson palette.colours)]

instance : FromJson Palette where
  fromJson value := return ⟨← value.get "colors"⟩

instance : ToJson BackdropSize where
  toJson size := .record [("width", toJson size.width), ("height", toJson size.height)]

instance : FromJson BackdropSize where
  fromJson value := return ⟨← value.get "width", ← value.get "height"⟩

instance : ToJson RoomInfo where
  toJson room := .record [
    ("backdrop", toJson room.backdrop),
    ("palette", toJson room.palette),
    ("program", toJson room.program),
    ("music", toJson room.music),
    ("flags", toJson room.flags)]

instance : FromJson RoomInfo where
  fromJson value := return {
    backdrop := ← value.get "backdrop"
    palette := ← value.get "palette"
    program := ← value.get "program"
    music := ← value.get "music"
    flags := ← value.get "flags"
  }

instance : ToJson SequenceFrame where
  toJson frame := .record [
    ("sprite", toJson frame.sprite),
    ("delay", toJson frame.delay),
    ("dx", toJson frame.dx),
    ("dy", toJson frame.dy)]

instance : FromJson SequenceFrame where
  fromJson value := return {
    sprite := ← value.get "sprite"
    delay := ← value.get "delay"
    dx := ← value.get "dx"
    dy := ← value.get "dy"
  }

instance : ToJson Sequence where
  toJson sequence := .record [("frames", toJson sequence.frames)]

instance : FromJson Sequence where
  fromJson value := return ⟨← value.get "frames"⟩

instance : ToJson TextBlob where
  toJson blob := .record [
    ("declared_len", toJson blob.declaredLength),
    ("text", toJson blob.text)]

instance : FromJson TextBlob where
  fromJson value := return ⟨← value.get "declared_len", ← value.get "text"⟩

instance : ToJson SpriteFrame where
  toJson frame := .record [("width", toJson frame.width), ("height", toJson frame.height)]

instance : FromJson SpriteFrame where
  fromJson value := return ⟨← value.get "width", ← value.get "height"⟩

instance : ToJson Compression where
  toJson
    | .raw => .text "raw"
    | .lz => .text "lz"

instance : ToJson ResourceKind := ⟨fun kind => .text kind.identifier⟩

instance : FromJson ResourceKind where
  fromJson value := do
    let identifier : String ← fromJson value
    match ResourceKind.all.find? fun kind => kind.identifier == identifier with
    | some kind => return kind
    | none => throw (.expected "kind")

instance : FromJson TableKind where
  fromJson value := do
    match ← fromJson value with
    | ResourceKind.table kind => return kind
    | .text => throw (FormFault.expected "table kind")

instance : FromJson ImageKind where
  fromJson value := do
    match ← fromJson value with
    | TableKind.image kind => return kind
    | _ => throw (FormFault.expected "image kind")

instance : ToJson TableSummary where
  toJson summary := .record [
    ("kind", toJson summary.kind),
    ("loaded", toJson summary.loaded),
    ("failed", toJson summary.failed)]

instance : ToJson ResourceFailure where
  toJson failure := .record [
    ("kind", toJson failure.kind),
    ("id", toJson failure.id),
    ("message", toJson failure.message)]

instance : ToJson TextLengthWarning := ⟨fun warning => .text warning.message⟩

instance : ToJson LoadReport where
  toJson report := .record [
    ("failures", toJson report.failures),
    ("warnings", toJson report.warnings)]

end AdventureArchive
