import AdventureArchive.Bytes.LayoutLaws

namespace AdventureArchive

/-!
# Records that accompany a script

Geometry, clickable regions and script entry points.  Each record has a fixed
layout: its fields in declaration order, little-endian, without padding.
-/

/-- A rectangle by its four edges. -/
structure Rect where
  left : Int16
  top : Int16
  right : Int16
  bottom : Int16
  deriving Repr, DecidableEq, Inhabited

/-- A point of the room. -/
structure Point where
  x : Int16
  y : Int16
  deriving Repr, DecidableEq, Inhabited

/-- A walkable connection between two points, clipped to a rectangle. -/
structure WalkLink where
  start : Point
  finish : Point
  clip : Rect
  startArea : UInt16
  finishArea : UInt16
  deriving Repr, DecidableEq, Inhabited

/-- A region that plays a sequence at a fixed position. -/
structure Area where
  sequence : UInt16
  x : Int16
  y : Int16
  flags : UInt16
  deriving Repr, DecidableEq, Inhabited

/-- A scaled part of a room image; the scale counts 1/256ths. -/
structure Background where
  roomImage : UInt16
  source : Rect
  dest : Rect
  scale : UInt16
  deriving Repr, DecidableEq, Inhabited

/-- A clickable region with what each of the eight verbs does to it. -/
structure Hitbox where
  object : UInt16
  actions : Vector UInt16 8
  bounds : Rect
  approach : Rect
  deriving Repr, DecidableEq, Inhabited

/-- Where the script starts that runs when one object is used on another. -/
structure ActionScript where
  object : UInt16
  target : UInt16
  offset : UInt32
  deriving Repr, DecidableEq, Inhabited

/-- A dialogue choice: where its script starts and which line it shows. -/
structure Conversation where
  choice : UInt16
  offset : UInt32
  message : UInt16
  deriving Repr, DecidableEq, Inhabited

/-- Where the script of a character starts. -/
structure CharacterScript where
  character : UInt16
  offset : UInt32
  deriving Repr, DecidableEq, Inhabited

/-- Whether a point lies in a rectangle; left and top edges belong to it. -/
def Rect.contains (rect : Rect) (point : Point) : Bool :=
  rect.left ≤ point.x && point.x < rect.right &&
    rect.top ≤ point.y && point.y < rect.bottom

instance : Layout Rect :=
  .via
    (fun rect => (rect.left, rect.top, rect.right, rect.bottom))
    (fun (left, top, right, bottom) => ⟨left, top, right, bottom⟩)

instance : LawfulLayout Rect :=
  .via (fun _ => rfl) (fun _ => rfl)

instance : Layout Point :=
  .via
    (fun point => (point.x, point.y))
    (fun (x, y) => ⟨x, y⟩)

instance : LawfulLayout Point :=
  .via (fun _ => rfl) (fun _ => rfl)

instance : Layout WalkLink :=
  .via
    (fun link => (link.start, link.finish, link.clip, link.startArea, link.finishArea))
    (fun (start, finish, clip, startArea, finishArea) =>
      ⟨start, finish, clip, startArea, finishArea⟩)

instance : LawfulLayout WalkLink :=
  .via (fun _ => rfl) (fun _ => rfl)

instance : Layout Area :=
  .via
    (fun area => (area.sequence, area.x, area.y, area.flags))
    (fun (sequence, x, y, flags) => ⟨sequence, x, y, flags⟩)

instance : LawfulLayout Area :=
  .via (fun _ => rfl) (fun _ => rfl)

instance : Layout Background :=
  .via
    (fun background =>
      (background.roomImage, background.source, background.dest, background.scale))
    (fun (roomImage, source, dest, scale) => ⟨roomImage, source, dest, scale⟩)

instance : LawfulLayout Background :=
  .via (fun _ => rfl) (fun _ => rfl)

instance : Layout Hitbox :=
  .via
    (fun hitbox => (hitbox.object, hitbox.actions, hitbox.bounds, hitbox.approach))
    (fun (object, actions, bounds, approach) => ⟨object, actions, bounds, approach⟩)

instance : LawfulLayout Hitbox :=
  .via (fun _ => rfl) (fun _ => rfl)

instance : Layout ActionScript :=
  .via
    (fun script => (script.object, script.target, script.offset))
    (fun (object, target, offset) => ⟨object, target, offset⟩)

instance : LawfulLayout ActionScript :=
  .via (fun _ => rfl) (fun _ => rfl)

instance : Layout Conversation :=
  .via
    (fun conversation => (conversation.choice, conversation.offset, conversation.message))
    (fun (choice, offset, message) => ⟨choice, offset, message⟩)

instance : LawfulLayout Conversation :=
  .via (fun _ => rfl) (fun _ => rfl)

instance : Layout CharacterScript :=
  .via
    (fun script => (script.character, script.offset))
    (fun (character, offset) => ⟨character, offset⟩)

instance : LawfulLayout CharacterScript :=
  .via (fun _ => rfl) (fun _ => rfl)

end AdventureArchive
