import AdventureArchive.Bytes.LayoutLaws
import AdventureArchive.Resource.Error

namespace AdventureArchive

/-!
# Room records

Two small records of fixed size: how large the backdrop of a room is, and which
resources belong to the room.
-/

/-- Pixel size of the scrolling backdrop of a room. -/
structure BackdropSize where
  width : UInt16
  height : UInt16
  deriving Repr, DecidableEq, Inhabited

instance : Layout BackdropSize :=
  .via
    (fun size => (size.width, size.height))
    (fun (width, height) => ⟨width, height⟩)

instance : LawfulLayout BackdropSize :=
  .via (fun _ => rfl) (fun _ => rfl)

/-- The resources that make up a room. -/
structure RoomInfo where
  backdrop : UInt16
  palette : UInt16
  program : UInt16
  music : UInt16
  flags : UInt16
  deriving Repr, DecidableEq, Inhabited

instance : Layout RoomInfo :=
  .via
    (fun room => (room.backdrop, room.palette, room.program, room.music, room.flags))
    (fun (backdrop, palette, program, music, flags) =>
      ⟨backdrop, palette, program, music, flags⟩)

instance : LawfulLayout RoomInfo :=
  .via (fun _ => rfl) (fun _ => rfl)

/-- Reads a record that has to fill its bytes exactly. -/
def decodeRecord
    {α : Type}
    [Layout α]
    (bytes : List UInt8) :
    Except ResourceError α :=
  if bytes.length ≠ Layout.width α then
    .error (.wrongLength (Layout.width α) bytes.length)
  else
    match Layout.read bytes with
    | some (record, _) => .ok record
    | none => .error (.truncated .roomRecord)

end AdventureArchive
