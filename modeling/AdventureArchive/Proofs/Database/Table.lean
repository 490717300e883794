import Mathlib.Data.List.Nodup
import AdventureArchive.Database.Table
import AdventureArchive.Proofs.SortedMap

namespace AdventureArchive

/-!
# Filled resource tables

Entering the results of reading some ids is filling the map of a table
(`entries_enter`).  Results in ascending order of ids are therefore kept as they
are (`toList_enter_of_ascending`), and in any order a resource that a table ends
up with is one of the results (`mem_of_mem_loaded_enter`).  If the ids are
different, every result is kept, as a resource or as a failed id
(`mem_loaded_enter_iff`, `mem_failures_enter_iff`).
-/

variable {α β ε : Type}

/-- Two images of a list are equal if the items have equal images. -/
theorem beq_map_map
    [BEq β]
    {first second : α → β}
    (same : ∀ item, (first item == second item) = true)
    (items : List α) :
    (items.map first == items.map second) = true := by
  induction items with
  | nil => rfl
  | cons item rest inductionHypothesis =>
      rw [List.map_cons, List.map_cons, List.cons_beq_cons, same, inductionHypothesis,
        Bool.and_self]

/-- Images of two lists are equal if the items look the same one by one. -/
theorem beq_map_iff
    [BEq β]
    {image : α → β}
    {view : α → ε}
    (equal_iff : ∀ first second, (image first == image second) = true ↔ view first = view second)
    {firsts seconds : List α} :
    (firsts.map image == seconds.map image) = true ↔ firsts.map view = seconds.map view := by
  induction firsts generalizing seconds with
  | nil => cases seconds <;> simp
  | cons first rest inductionHypothesis =>
      cases seconds with
      | nil => simp
      | cons second others =>
          simp only [List.map_cons, List.cons_beq_cons, Bool.and_eq_true, equal_iff,
            inductionHypothesis, List.cons.injEq]

namespace TableEntry

/-- What a table knows of an id whose resource has been read. -/
def ofResult (explain : ε → String) : Except ε α → TableEntry α
  | .ok resource => .loaded resource
  | .error cause => .failed (explain cause)

@[simp] theorem resource?_ofResult
    (explain : ε → String)
    (result : Except ε α) :
    (ofResult explain result).resource? = result.toOption := by
  cases result <;> rfl

theorem resource?_eq_some_iff
    {entry : TableEntry α}
    {resource : α} :
    entry.resource? = some resource ↔ entry = .loaded resource := by
  cases entry <;> simp [resource?]

theorem message?_eq_some_iff
    {entry : TableEntry α}
    {message : String} :
    entry.message? = some message ↔ entry = .failed message := by
  cases entry <;> simp [message?]

theorem ofResult_eq_loaded_iff
    {explain : ε → String}
    {result : Except ε α}
    {resource : α} :
    ofResult explain result = .loaded resource ↔ result = .ok resource := by
  cases result <;> simp [ofResult]

theorem ofResult_eq_failed_iff
    {explain : ε → String}
    {result : Except ε α}
    {message : String} :
    ofResult explain result = .failed message ↔
      ∃ cause, result = .error cause ∧ explain cause = message := by
  cases result <;> simp [ofResult]

end TableEntry

namespace ResourceTable

/-- Tables with the same list of entries are the same. -/
theorem ext_toList
    {first second : ResourceTable α}
    (sameEntries : first.entries.toList = second.entries.toList) :
    first = second := by
  rcases first with ⟨entries⟩
  rcases second with ⟨others⟩
  exact congrArg ResourceTable.mk (SortedMap.ext_toList sameEntries)

/-- A resource is loaded under an id exactly when the id's entry holds it. -/
theorem mem_loaded_iff
    {table : ResourceTable α}
    {id : UInt16}
    {resource : α} :
    (id, resource) ∈ table.loaded ↔ (id, .loaded resource) ∈ table.entries.toList := by
  simp only [loaded, List.mem_filterMap, Option.map_eq_some_iff, Prod.mk.injEq,
    TableEntry.resource?_eq_some_iff]
  constructor
  · rintro ⟨⟨_, _⟩, member, _, rfl, rfl, rfl⟩
    exact member
  · intro member
    exact ⟨_, member, resource, rfl, rfl, rfl⟩

/-- An id has failed for a reason exactly when the id's entry holds that reason. -/
theorem mem_failures_iff
    {table : ResourceTable α}
    {id : UInt16}
    {message : String} :
    (id, message) ∈ table.failures ↔ (id, .failed message) ∈ table.entries.toList := by
  simp only [failures, List.mem_filterMap, Option.map_eq_some_iff, Prod.mk.injEq,
    TableEntry.message?_eq_some_iff]
  constructor
  · rintro ⟨⟨_, _⟩, member, _, rfl, rfl, rfl⟩
    exact member
  · intro member
    exact ⟨_, member, message, rfl, rfl, rfl⟩

/-- An id that is loaded has not failed. -/
theorem not_mem_failures_of_mem_loaded
    {table : ResourceTable α}
    {id : UInt16}
    (isLoaded : id ∈ table.loaded.map Prod.fst) :
    id ∉ table.failures.map Prod.fst := by
  intro hasFailed
  obtain ⟨⟨_, resource⟩, loadedMember, rfl⟩ := List.mem_map.mp isLoaded
  obtain ⟨⟨_, message⟩, failedMember, rfl⟩ := List.mem_map.mp hasFailed
  have loadedEntry := SortedMap.get?_eq_some_iff.mpr (mem_loaded_iff.mp loadedMember)
  have failedEntry := SortedMap.get?_eq_some_iff.mpr (mem_failures_iff.mp failedMember)
  rw [loadedEntry] at failedEntry
  exact absurd (Option.some.inj failedEntry) (by simp)

/-- Every entry is counted once, as loaded or as failed. -/
theorem loadedCount_add_failedCount (table : ResourceTable α) :
    table.loadedCount + table.failedCount = table.entries.size := by
  rw [loadedCount, failedCount, loaded, failures, ← SortedMap.length_toList]
  induction table.entries.toList with
  | nil => rfl
  | cons entry rest inductionHypothesis =>
      rw [List.length_cons, ← inductionHypothesis]
      rcases entry with ⟨id, resource | message⟩
      · simp only [List.filterMap_cons, TableEntry.resource?, TableEntry.message?,
          Option.map_some, Option.map_none, List.length_cons]
        exact Nat.add_right_comm _ _ _
      · simp only [List.filterMap_cons, TableEntry.resource?, TableEntry.message?,
          Option.map_some, Option.map_none, List.length_cons]
        exact (Nat.add_assoc _ _ _).symm

/-- Loaded ids ascend. -/
theorem ascending_loaded (table : ResourceTable α) :
    table.loaded.Pairwise fun first second => rank first.1 < rank second.1 := by
  refine List.Pairwise.filterMap _ ?_ table.entries.ascending
  intro first second ordered inFirst firstShape inSecond secondShape
  obtain ⟨_, _, rfl⟩ := Option.map_eq_some_iff.mp firstShape
  obtain ⟨_, _, rfl⟩ := Option.map_eq_some_iff.mp secondShape
  exact ordered

/-- Failed ids ascend. -/
theorem ascending_failures (table : ResourceTable α) :
    table.failures.Pairwise fun first second => rank first.1 < rank second.1 := by
  refine List.Pairwise.filterMap _ ?_ table.entries.ascending
  intro first second ordered inFirst firstShape inSecond secondShape
  obtain ⟨_, _, rfl⟩ := Option.map_eq_some_iff.mp firstShape
  obtain ⟨_, _, rfl⟩ := Option.map_eq_some_iff.mp secondShape
  exact ordered

/-- No id is loaded twice. -/
theorem nodup_ids (table : ResourceTable α) : table.ids.Nodup := by
  rw [ids, List.Nodup, List.pairwise_map]
  apply table.ascending_loaded.imp
  intro first second ordered sameId
  rw [sameId] at ordered
  exact Nat.lt_irrefl _ ordered

/-- Without its failed ids a table is the list of its resources. -/
theorem toList_clearFailures (table : ResourceTable α) :
    table.clearFailures.entries.toList =
      table.loaded.map fun entry => (entry.1, .loaded entry.2) := by
  rw [clearFailures, SortedMap.toList_filter, loaded]
  induction table.entries.toList with
  | nil => rfl
  | cons entry rest inductionHypothesis =>
      rcases entry with ⟨id, resource | message⟩
      · simpa [TableEntry.resource?] using inductionHypothesis
      · simpa [TableEntry.resource?] using inductionHypothesis

/-- A table whose entries are those of a list of resources has them loaded. -/
theorem loaded_of_toList
    {table : ResourceTable α}
    {resources : List (UInt16 × α)}
    (entriesShape : table.entries.toList =
      resources.map fun entry => (entry.1, .loaded entry.2)) :
    table.loaded = resources := by
  rw [loaded, entriesShape, List.filterMap_map]
  exact List.filterMap_some

/-- Forgetting failed ids keeps every resource. -/
@[simp] theorem loaded_clearFailures (table : ResourceTable α) :
    table.clearFailures.loaded = table.loaded :=
  loaded_of_toList table.toList_clearFailures

/-! ## Entering results -/

variable (explain : ε → String)

/-- Entering results fills the map of a table. -/
theorem entries_enter
    (table : ResourceTable α)
    (results : List (UInt16 × Except ε α)) :
    (table.enter explain results).entries =
      table.entries.insertAll
        (results.map fun result => (result.1, TableEntry.ofResult explain result.2)) := by
  induction results generalizing table with
  | nil => rfl
  | cons result rest inductionHypothesis =>
      rcases result with ⟨id, cause | resource⟩
      · exact inductionHypothesis (table.markFailed id (explain cause))
      · exact inductionHypothesis (table.insert id resource)

/-- Results that are entered in two parts. -/
theorem enter_append
    (table : ResourceTable α)
    (results more : List (UInt16 × Except ε α)) :
    table.enter explain (results ++ more) =
      (table.enter explain results).enter explain more :=
  List.foldl_append

/-- Results in ascending order become the entries of an empty table. -/
theorem toList_enter_of_ascending
    {results : List (UInt16 × Except ε α)}
    (ascending : results.Pairwise fun first second => rank first.1 < rank second.1) :
    ((empty : ResourceTable α).enter explain results).entries.toList =
      results.map fun result => (result.1, TableEntry.ofResult explain result.2) := by
  rw [entries_enter]
  exact SortedMap.toList_ofList_of_ascending (ascending.map _ fun _ _ ordered => ordered)

variable {explain}

/-- A resource that has been entered into an empty table is one of the results. -/
theorem mem_of_mem_loaded_enter
    {results : List (UInt16 × Except ε α)}
    {id : UInt16}
    {resource : α}
    (member : (id, resource) ∈ ((empty : ResourceTable α).enter explain results).loaded) :
    (id, .ok resource) ∈ results := by
  rw [mem_loaded_iff, entries_enter] at member
  rcases SortedMap.mem_of_mem_insertAll member with wasThere | isNew
  · exact absurd wasThere List.not_mem_nil
  · obtain ⟨⟨_, result⟩, inResults, same⟩ := List.mem_map.mp isNew
    obtain ⟨rfl, resultShape⟩ := Prod.mk.inj same
    obtain rfl := TableEntry.ofResult_eq_loaded_iff.mp resultShape
    exact inResults

/-- Results for different ids all become entries of an empty table. -/
theorem mem_toList_enter_iff
    {results : List (UInt16 × Except ε α)}
    (nodup : (results.map Prod.fst).Nodup)
    {entry : UInt16 × TableEntry α} :
    entry ∈ ((empty : ResourceTable α).enter explain results).entries.toList ↔
      ∃ result ∈ results, (result.1, TableEntry.ofResult explain result.2) = entry := by
  have sameIds :
      ((results.map fun result =>
        (result.1, TableEntry.ofResult explain result.2)).map Prod.fst).Nodup := by
    rwa [List.map_map]
  rw [entries_enter, SortedMap.mem_toList_insertAll_iff sameIds, List.mem_map]
  exact or_iff_left fun ⟨wasThere, _⟩ => absurd wasThere List.not_mem_nil

/-- The resources among results for different ids are loaded. -/
theorem mem_loaded_enter_iff
    {results : List (UInt16 × Except ε α)}
    (nodup : (results.map Prod.fst).Nodup)
    {id : UInt16}
    {resource : α} :
    (id, resource) ∈ ((empty : ResourceTable α).enter explain results).loaded ↔
      (id, .ok resource) ∈ results := by
  rw [mem_loaded_iff, mem_toList_enter_iff nodup]
  simp only [Prod.mk.injEq, TableEntry.ofResult_eq_loaded_iff]
  constructor
  · rintro ⟨⟨_, _⟩, member, rfl, rfl⟩
    exact member
  · intro member
    exact ⟨_, member, rfl, rfl⟩

/-- The faults among results for different ids are failed ids. -/
theorem mem_failures_enter_iff
    {results : List (UInt16 × Except ε α)}
    (nodup : (results.map Prod.fst).Nodup)
    {id : UInt16}
    {message : String} :
    (id, message) ∈ ((empty : ResourceTable α).enter explain results).failures ↔
      ∃ cause, (id, .error cause) ∈ results ∧ explain cause = message := by
  rw [mem_failures_iff, mem_toList_enter_iff nodup]
  simp only [Prod.mk.injEq, TableEntry.ofResult_eq_failed_iff]
  constructor
  · rintro ⟨⟨_, _⟩, member, rfl, cause, rfl, explained⟩
    exact ⟨cause, member, explained⟩
  · rintro ⟨cause, member, explained⟩
    exact ⟨_, member, rfl, cause, rfl, explained⟩

/-- Each of different ids is loaded or has failed. -/
theorem mem_ids_enter_iff
    {results : List (UInt16 × Except ε α)}
    (nodup : (results.map Prod.fst).Nodup)
    {id : UInt16} :
    id ∈ results.map Prod.fst ↔
      id ∈ ((empty : ResourceTable α).enter explain results).loaded.map Prod.fst ∨
        id ∈ ((empty : ResourceTable α).enter explain results).failures.map Prod.fst := by
  simp only [List.mem_map, Prod.exists, mem_loaded_enter_iff nodup,
    mem_failures_enter_iff nodup]
  constructor
  · rintro ⟨_, cause | resource, member, rfl⟩
    · exact Or.inr ⟨_, _, ⟨cause, member, rfl⟩, rfl⟩
    · exact Or.inl ⟨_, resource, member, rfl⟩
  · rintro (⟨_, resource, member, rfl⟩ | ⟨_, _, ⟨cause, member, -⟩, rfl⟩)
    · exact ⟨_, .ok resource, member, rfl⟩
    · exact ⟨_, .error cause, member, rfl⟩

/-- There are as many entries as results for different ids. -/
theorem size_entries_enter
    {results : List (UInt16 × Except ε α)}
    (nodup : (results.map Prod.fst).Nodup) :
    ((empty : ResourceTable α).enter explain results).entries.size = results.length := by
  have resultsNodup :
      (results.map fun result =>
        (result.1, TableEntry.ofResult explain result.2)).Nodup := by
    apply List.Nodup.of_map Prod.fst
    rwa [List.map_map]
  have entriesNodup :
      ((empty : ResourceTable α).enter explain results).entries.toList.Nodup := by
    apply ((empty : ResourceTable α).enter explain results).entries.ascending.imp
    intro first second ordered same
    rw [same] at ordered
    exact Nat.lt_irrefl _ ordered
  have sameEntries := (List.perm_ext_iff_of_nodup entriesNodup resultsNodup).mpr fun entry => by
    rw [mem_toList_enter_iff nodup, List.mem_map]
  rw [← SortedMap.length_toList, sameEntries.length_eq, List.length_map]

/-- A table has at most as many resources as results have been entered. -/
theorem length_loaded_enter_le (results : List (UInt16 × Except ε α)) :
    ((empty : ResourceTable α).enter explain results).loaded.length ≤ results.length := by
  calc
    ((empty : ResourceTable α).enter explain results).loaded.length
        ≤ ((empty : ResourceTable α).enter explain results).entries.toList.length :=
      List.length_filterMap_le _ _
    _ ≤ (SortedMap.empty : SortedMap UInt16 (TableEntry α)).size +
          (results.map fun result =>
            (result.1, TableEntry.ofResult explain result.2)).length := by
        rw [entries_enter]
        exact SortedMap.size_insertAll_le _ _
    _ = results.length := by
        rw [List.length_map]
        exact Nat.zero_add _

/-- The resources of an empty table into which ascending results have been entered. -/
theorem loaded_enter_of_ascending
    {results : List (UInt16 × Except ε α)}
    (ascending : results.Pairwise fun first second => rank first.1 < rank second.1) :
    ((empty : ResourceTable α).enter explain results).loaded =
      results.filterMap fun result =>
        result.2.toOption.map fun resource => (result.1, resource) := by
  rw [loaded, toList_enter_of_ascending explain ascending, List.filterMap_map]
  simp only [Function.comp_def, TableEntry.resource?_ofResult]

/-- Its failed ids. -/
theorem failures_enter_of_ascending
    {results : List (UInt16 × Except ε α)}
    (ascending : results.Pairwise fun first second => rank first.1 < rank second.1) :
    ((empty : ResourceTable α).enter explain results).failures =
      results.filterMap fun result =>
        match result.2 with
        | .ok _ => none
        | .error cause => some (result.1, explain cause) := by
  rw [failures, toList_enter_of_ascending explain ascending, List.filterMap_map]
  congr 1
  funext result
  rcases result with ⟨id, cause | resource⟩ <;> rfl

/-! ## Comparing tables -/

/-- Tables with the same ids and with equal resources under each are equal. -/
theorem beq_of_toList
    [BEq α]
    {first second : ResourceTable α}
    {resources : List (UInt16 × α)}
    {change : α → α}
    (firstShape : first.entries.toList =
      resources.map fun entry => (entry.1, .loaded (change entry.2)))
    (secondShape : second.entries.toList =
      resources.map fun entry => (entry.1, .loaded entry.2))
    (unchanged : ∀ resource, (change resource == resource) = true) :
    (first == second) = true := by
  change (first.entries.entries == second.entries.entries) = true
  rw [← Array.beq_toList]
  change (first.entries.toList == second.entries.toList) = true
  rw [firstShape, secondShape]
  apply beq_map_map
  intro entry
  change (entry.1 == entry.1 && change entry.2 == entry.2) = true
  rw [unchanged, beq_self_eq_true, Bool.and_self]

/-- Apart from their failed ids tables are equal if they look the same. -/
theorem beq_clearFailures_iff
    [BEq α]
    {view : α → β}
    (equal_iff : ∀ first second : α, (first == second) = true ↔ view first = view second)
    {first second : ResourceTable α} :
    (first.clearFailures == second.clearFailures) = true ↔
      first.loaded.map (fun entry => (entry.1, view entry.2)) =
        second.loaded.map (fun entry => (entry.1, view entry.2)) := by
  change (first.clearFailures.entries.entries == second.clearFailures.entries.entries) = true ↔ _
  rw [← Array.beq_toList]
  change (first.clearFailures.entries.toList == second.clearFailures.entries.toList) = true ↔ _
  rw [toList_clearFailures, toList_clearFailures]
  apply beq_map_iff
  intro entry other
  change (entry.1 == other.1 && entry.2 == other.2) = true ↔ _
  rw [Bool.and_eq_true, beq_iff_eq, equal_iff, Prod.mk.injEq]

end ResourceTable

end AdventureArchive
