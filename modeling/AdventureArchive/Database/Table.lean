import AdventureArchive.SortedMap

namespace AdventureArchive

/-!
# Resource tables

A table knows for some ids either a resource or the reason why none could be
read.  An id has only one of the two, so the last thing said about an id is
what the table knows of it.
-/

/-- What a table knows about one id. -/
inductive TableEntry (α : Type) where
  | loaded (resource : α)
  | failed (message : String)
  deriving Repr, DecidableEq, BEq

namespace TableEntry

variable {α : Type}

/-- The resource of an entry that has one. -/
def resource? : TableEntry α → Option α
  | .loaded resource => some resource
  | .failed _ => none

/-- The reason why an entry has no resource. -/
def message? : TableEntry α → Option String
  | .loaded _ => none
  | .failed message => some message

end TableEntry

/-- Resources of one kind by id, with the ids that could not be read. -/
structure ResourceTable (α : Type) where
  entries : SortedMap UInt16 (TableEntry α)

namespace ResourceTable

variable {α : Type}

instance [BEq α] : BEq (ResourceTable α) where
  beq first second := first.entries == second.entries

/-- A table that knows nothing. -/
def empty : ResourceTable α := ⟨.empty⟩

instance : Inhabited (ResourceTable α) := ⟨empty⟩

/-- Puts a resource under an id. -/
def insert (table : ResourceTable α) (id : UInt16) (resource : α) : ResourceTable α :=
  ⟨table.entries.insert id (.loaded resource)⟩

/-- Says why an id has no resource. -/
def markFailed
    (table : ResourceTable α)
    (id : UInt16)
    (message : String) :
    ResourceTable α :=
  ⟨table.entries.insert id (.failed message)⟩

/-- Forgets an id. -/
def erase (table : ResourceTable α) (id : UInt16) : ResourceTable α :=
  ⟨table.entries.erase id⟩

/-- Forgets every failed id. -/
def clearFailures (table : ResourceTable α) : ResourceTable α :=
  ⟨table.entries.filter fun _ entry => entry.resource?.isSome⟩

/-- The resource under an id. -/
def get? (table : ResourceTable α) (id : UInt16) : Option α :=
  (table.entries.get? id).bind TableEntry.resource?

/-- The reason why an id has no resource. -/
def failure? (table : ResourceTable α) (id : UInt16) : Option String :=
  (table.entries.get? id).bind TableEntry.message?

/-- Whether an id has a resource. -/
def contains (table : ResourceTable α) (id : UInt16) : Bool :=
  (table.get? id).isSome

/-- Ids and resources, ids ascending. -/
def loaded (table : ResourceTable α) : List (UInt16 × α) :=
  table.entries.toList.filterMap fun entry =>
    entry.2.resource?.map fun resource => (entry.1, resource)

/-- Failed ids and their reasons, ids ascending. -/
def failures (table : ResourceTable α) : List (UInt16 × String) :=
  table.entries.toList.filterMap fun entry =>
    entry.2.message?.map fun message => (entry.1, message)

/-- Ids that have a resource, ascending. -/
def ids (table : ResourceTable α) : List UInt16 :=
  table.loaded.map Prod.fst

/-- Number of ids that have a resource. -/
def loadedCount (table : ResourceTable α) : Nat :=
  table.loaded.length

/-- Number of failed ids. -/
def failedCount (table : ResourceTable α) : Nat :=
  table.failures.length

/-- Whether no id has a resource; failed ids do not count. -/
def isEmpty (table : ResourceTable α) : Bool :=
  table.loaded.isEmpty

/-- Whether the table knows nothing at all. -/
def isUntouched (table : ResourceTable α) : Bool :=
  table.entries.isEmpty

/-- Changes the resource under an id, if there is one. -/
def modify
    (table : ResourceTable α)
    (id : UInt16)
    (change : α → α) :
    ResourceTable α :=
  match table.get? id with
  | some resource => table.insert id (change resource)
  | none => table

/-- Changes every resource. -/
def mapResources (change : α → α) (table : ResourceTable α) : ResourceTable α where
  entries := table.entries.map fun
    | .loaded resource => .loaded (change resource)
    | .failed message => .failed message

/-- Puts copies of one resource under every id of a range, both ends included. -/
def insertRange
    (table : ResourceTable α)
    (first last : UInt16)
    (resource : α) :
    ResourceTable α :=
  (List.range' first.toNat (last.toNat + 1 - first.toNat)).foldl
    (fun filled id => filled.insert (UInt16.ofNat id) resource)
    table

/-- Enters what reading each of some ids has come to. -/
def enter
    {ε : Type}
    (explain : ε → String)
    (table : ResourceTable α)
    (results : List (UInt16 × Except ε α)) :
    ResourceTable α :=
  results.foldl
    (fun entered result =>
      match result.2 with
      | .ok resource => entered.insert result.1 resource
      | .error cause => entered.markFailed result.1 (explain cause))
    table

end ResourceTable

end AdventureArchive
