import AdventureArchive.Json

namespace AdventureArchive

/-!
# JSON forms

`ToJson` gives a value its JSON form, `FromJson` reads one.  A record may leave
out fields, which then have the default of their type; a list may be given by
one item and how often it is repeated.  Numbers outside the range of their type
are refused.
-/

/-- Values with a JSON form. -/
class ToJson (α : Type) where
  toJson : α → Json

export ToJson (toJson)

/-- What a JSON value should have been. -/
inductive FormFault where
  | expected (what : String)
  | outOfRange (value : Int)
  | missing (field : String)
  deriving Repr, DecidableEq

/-- The wording of a form fault. -/
def FormFault.message : FormFault → String
  | .expected what => what ++ " expected"
  | .outOfRange value => s!"{value} is out of range"
  | .missing field => field ++ " is missing"

/-- Values that can be read from their JSON form. -/
class FromJson (α : Type) where
  fromJson : Json → Except FormFault α

export FromJson (fromJson)

namespace Json

/-- The value of an optional field; null counts as absent. -/
def optional?
    {α : Type}
    [FromJson α]
    (value : Json)
    (name : String) :
    Except FormFault (Option α) :=
  match value.field? name with
  | none => .ok none
  | some .null => .ok none
  | some found => some <$> fromJson found

/-- The value of a field, which has its default when it is absent. -/
def get
    {α : Type}
    [FromJson α]
    [Inhabited α]
    (value : Json)
    (name : String) :
    Except FormFault α := do
  return (← value.optional? name).getD default

/-- The value of a field that has to be there. -/
def require
    {α : Type}
    [FromJson α]
    (value : Json)
    (name : String) :
    Except FormFault α := do
  match ← value.optional? name with
  | some found => return found
  | none => throw (.missing name)

/-- What is repeated, and how often, where a value says so. -/
def repetition? (value : Json) : Option (Json × Except FormFault Nat) :=
  (value.field? "repeat").map fun item =>
    (item,
      match value.field? "count" with
      | some (.integer count) => .ok count.toNat
      | _ => .error (.missing "count"))

/-- The items of a list, read one by one. -/
def listOf
    {α : Type}
    (read : Json → Except FormFault α)
    (value : Json) :
    Except FormFault (List α) :=
  match value with
  | .array items => items.mapM read
  | _ =>
      match value.repetition? with
      | some (item, count) => return List.replicate (← count) (← read item)
      | none => .error (.expected "list")

/-- The entries of an object whose names are decimal numbers. -/
def numberedOf
    {α : Type}
    (read : Json → Except FormFault α)
    (value : Json) :
    Except FormFault (List (Nat × α)) :=
  match value.repetition?, value with
  | some (item, count), _ => do
      let item ← read item
      return (List.range (← count)).map fun number => (number, item)
  | none, .object fields =>
      fields.mapM fun (name, item) =>
        match name.bind String.toNat? with
        | some number => return (number, ← read item)
        | none => .error (.expected "decimal name")
  | none, _ => .error (.expected "object")

/-- The entries of a field that is such an object; none when it is absent. -/
def numbered
    {α : Type}
    [FromJson α]
    (value : Json)
    (name : String) :
    Except FormFault (List (Nat × α)) :=
  match value.field? name with
  | none => .ok []
  | some .null => .ok []
  | some entries => entries.numberedOf fromJson

/-- An integer between two bounds, the upper one excluded. -/
def integerWithin (low high : Int) : Json → Except FormFault Int
  | .integer value =>
      if low ≤ value ∧ value < high then .ok value else .error (.outOfRange value)
  | _ => .error (.expected "integer")

end Json

instance : ToJson Json := ⟨id⟩

instance : FromJson Json := ⟨.ok⟩

instance : ToJson Bool := ⟨.bool⟩

instance : FromJson Bool where
  fromJson
    | .bool value => .ok value
    | _ => .error (.expected "boolean")

instance : ToJson String := ⟨.text⟩

/-- A text may be given by a part and how often it is repeated. -/
instance : FromJson String where
  fromJson value :=
    match value with
    | .string (some text) => .ok text
    | _ =>
        match value.repetition? with
        | some (.string (some part), count) =>
            return String.join (List.replicate (← count) part)
        | _ => .error (.expected "text")

instance : ToJson Nat := ⟨fun value => .integer value⟩

instance : FromJson Nat where
  fromJson
    | .integer (.ofNat value) => .ok value
    | .integer value => .error (.outOfRange value)
    | _ => .error (.expected "integer")

instance : ToJson UInt8 := ⟨fun value => .integer value.toNat⟩

instance : FromJson UInt8 where
  fromJson value := return UInt8.ofNat (← value.integerWithin 0 UInt8.size).toNat

instance : ToJson UInt16 := ⟨fun value => .integer value.toNat⟩

instance : FromJson UInt16 where
  fromJson value := return UInt16.ofNat (← value.integerWithin 0 UInt16.size).toNat

instance : ToJson UInt32 := ⟨fun value => .integer value.toNat⟩

instance : FromJson UInt32 where
  fromJson value := return UInt32.ofNat (← value.integerWithin 0 UInt32.size).toNat

instance : ToJson Int16 := ⟨fun value => .integer value.toInt⟩

instance : FromJson Int16 where
  fromJson value := return Int16.ofInt (← value.integerWithin (-0x8000) 0x8000)

instance : ToJson Int32 := ⟨fun value => .integer value.toInt⟩

instance {α : Type} [ToJson α] : ToJson (Option α) where
  toJson
    | some value => toJson value
    | none => .null

instance {α : Type} [ToJson α] : ToJson (List α) :=
  ⟨fun items => .array (items.map toJson)⟩

instance {α : Type} [FromJson α] : FromJson (List α) := ⟨Json.listOf fromJson⟩

instance {α β : Type} [ToJson α] [ToJson β] : ToJson (α × β) :=
  ⟨fun pair => .array [toJson pair.1, toJson pair.2]⟩

end AdventureArchive
