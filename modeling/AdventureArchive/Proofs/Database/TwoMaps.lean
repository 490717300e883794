import AdventureArchive.Proofs.Database.Table

namespace AdventureArchive

/-!
# Tables as two maps

A table can keep its resources in one map and the reasons for its failed ids in
another, as long as whatever puts an id into one of them takes it out of the
other.  `ResourceTable.maps` are these two maps of a table with one entry for
each id.  Every change of the table is found again in them (`maps_insert`,
`maps_markFailed`, `maps_erase`, `maps_clearFailures`), and the table lists what
they hold (`toList_loaded_maps`, `toList_failed_maps`).
-/

/-- Resources by id, and by id the reasons why there is none. -/
structure TableMaps (α : Type) where
  loaded : SortedMap UInt16 α
  failed : SortedMap UInt16 String

variable {α : Type}

namespace TableMaps

/-- Two maps without entries. -/
def empty : TableMaps α := ⟨.empty, .empty⟩

/-- Puts a resource under an id, which has not failed any more. -/
def insert (maps : TableMaps α) (id : UInt16) (resource : α) : TableMaps α where
  failed := maps.failed.erase id
  loaded := maps.loaded.insert id resource

/-- Says why an id has no resource, and takes away the one it may have had. -/
def markFailed (maps : TableMaps α) (id : UInt16) (message : String) : TableMaps α where
  loaded := maps.loaded.erase id
  failed := maps.failed.insert id message

/-- Drops an id from both maps. -/
def erase (maps : TableMaps α) (id : UInt16) : TableMaps α where
  failed := maps.failed.erase id
  loaded := maps.loaded.erase id

/-- Empties the map of reasons. -/
def clearFailures (maps : TableMaps α) : TableMaps α :=
  { maps with failed := .empty }

/-- Maps that look up the same are the same. -/
theorem ext_get?
    {first second : TableMaps α}
    (sameLoaded : ∀ id, first.loaded.get? id = second.loaded.get? id)
    (sameFailed : ∀ id, first.failed.get? id = second.failed.get? id) :
    first = second := by
  rcases first with ⟨loaded, failed⟩
  rcases second with ⟨otherLoaded, otherFailed⟩
  obtain rfl : loaded = otherLoaded := SortedMap.ext_get? sameLoaded
  obtain rfl : failed = otherFailed := SortedMap.ext_get? sameFailed
  rfl

end TableMaps

namespace ResourceTable

/-- The resources and the reasons of a table in a map each. -/
def maps (table : ResourceTable α) : TableMaps α where
  loaded := table.entries.filterMap TableEntry.resource?
  failed := table.entries.filterMap TableEntry.message?

@[simp] theorem get?_loaded_maps (table : ResourceTable α) (id : UInt16) :
    table.maps.loaded.get? id = table.get? id :=
  SortedMap.get?_filterMap _ _ id

@[simp] theorem get?_failed_maps (table : ResourceTable α) (id : UInt16) :
    table.maps.failed.get? id = table.failure? id :=
  SortedMap.get?_filterMap _ _ id

/-- The map of resources holds what the table lists as loaded. -/
theorem toList_loaded_maps (table : ResourceTable α) :
    table.maps.loaded.toList = table.loaded :=
  Array.toList_filterMap

/-- The map of reasons holds what the table lists as failed. -/
theorem toList_failed_maps (table : ResourceTable α) :
    table.maps.failed.toList = table.failures :=
  Array.toList_filterMap

/-- A resource is loaded under an id exactly if it is found there. -/
theorem mem_loaded_iff_get?
    {table : ResourceTable α}
    {id : UInt16}
    {resource : α} :
    (id, resource) ∈ table.loaded ↔ table.get? id = some resource := by
  rw [← toList_loaded_maps, ← SortedMap.get?_eq_some_iff, get?_loaded_maps]

/-- An id has failed for a reason exactly if that reason is found. -/
theorem mem_failures_iff_failure?
    {table : ResourceTable α}
    {id : UInt16}
    {message : String} :
    (id, message) ∈ table.failures ↔ table.failure? id = some message := by
  rw [← toList_failed_maps, ← SortedMap.get?_eq_some_iff, get?_failed_maps]

/-! ## What is known of an id after a change -/

theorem get?_insert (table : ResourceTable α) (id other : UInt16) (resource : α) :
    (table.insert id resource).get? other =
      if id = other then some resource else table.get? other := by
  rw [get?, insert, SortedMap.get?_insert]
  split <;> rfl

theorem failure?_insert (table : ResourceTable α) (id other : UInt16) (resource : α) :
    (table.insert id resource).failure? other =
      if id = other then none else table.failure? other := by
  rw [failure?, insert, SortedMap.get?_insert]
  split <;> rfl

theorem get?_markFailed (table : ResourceTable α) (id other : UInt16) (message : String) :
    (table.markFailed id message).get? other =
      if id = other then none else table.get? other := by
  rw [get?, markFailed, SortedMap.get?_insert]
  split <;> rfl

theorem failure?_markFailed (table : ResourceTable α) (id other : UInt16) (message : String) :
    (table.markFailed id message).failure? other =
      if id = other then some message else table.failure? other := by
  rw [failure?, markFailed, SortedMap.get?_insert]
  split <;> rfl

theorem get?_erase (table : ResourceTable α) (id other : UInt16) :
    (table.erase id).get? other = if id = other then none else table.get? other := by
  rw [get?, erase, SortedMap.get?_erase]
  split <;> rfl

theorem failure?_erase (table : ResourceTable α) (id other : UInt16) :
    (table.erase id).failure? other = if id = other then none else table.failure? other := by
  rw [failure?, erase, SortedMap.get?_erase]
  split <;> rfl

@[simp] theorem get?_clearFailures (table : ResourceTable α) (id : UInt16) :
    table.clearFailures.get? id = table.get? id := by
  rw [get?, get?, clearFailures, SortedMap.get?_filter]
  rcases table.entries.get? id with _ | resource | message <;> rfl

theorem get?_mapResources (change : α → α) (table : ResourceTable α) (id : UInt16) :
    (table.mapResources change).get? id = (table.get? id).map change := by
  rw [get?, get?, mapResources, SortedMap.get?_map]
  rcases table.entries.get? id with _ | resource | message <;> rfl

@[simp] theorem failure?_clearFailures (table : ResourceTable α) (id : UInt16) :
    table.clearFailures.failure? id = none := by
  rw [failure?, clearFailures, SortedMap.get?_filter]
  rcases table.entries.get? id with _ | resource | message <;> rfl

/-! ## The maps after a change -/

@[simp] theorem maps_empty : (empty : ResourceTable α).maps = .empty :=
  TableMaps.ext_get? (fun _ => rfl) (fun _ => rfl)

theorem maps_insert (table : ResourceTable α) (id : UInt16) (resource : α) :
    (table.insert id resource).maps = table.maps.insert id resource := by
  apply TableMaps.ext_get?
  · intro other
    rw [get?_loaded_maps, get?_insert, TableMaps.insert, SortedMap.get?_insert, get?_loaded_maps]
  · intro other
    rw [get?_failed_maps, failure?_insert, TableMaps.insert, SortedMap.get?_erase,
      get?_failed_maps]

theorem maps_markFailed (table : ResourceTable α) (id : UInt16) (message : String) :
    (table.markFailed id message).maps = table.maps.markFailed id message := by
  apply TableMaps.ext_get?
  · intro other
    rw [get?_loaded_maps, get?_markFailed, TableMaps.markFailed, SortedMap.get?_erase,
      get?_loaded_maps]
  · intro other
    rw [get?_failed_maps, failure?_markFailed, TableMaps.markFailed, SortedMap.get?_insert,
      get?_failed_maps]

theorem maps_erase (table : ResourceTable α) (id : UInt16) :
    (table.erase id).maps = table.maps.erase id := by
  apply TableMaps.ext_get?
  · intro other
    rw [get?_loaded_maps, get?_erase, TableMaps.erase, SortedMap.get?_erase, get?_loaded_maps]
  · intro other
    rw [get?_failed_maps, failure?_erase, TableMaps.erase, SortedMap.get?_erase,
      get?_failed_maps]

theorem maps_clearFailures (table : ResourceTable α) :
    table.clearFailures.maps = table.maps.clearFailures := by
  apply TableMaps.ext_get?
  · intro id
    rw [get?_loaded_maps, get?_clearFailures, TableMaps.clearFailures, get?_loaded_maps]
  · intro id
    rw [get?_failed_maps, failure?_clearFailures]
    rfl

end ResourceTable

end AdventureArchive
