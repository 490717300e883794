import Mathlib.Data.List.Induction
import AdventureArchive.Proofs.Database.TwoMaps

namespace AdventureArchive

/-!
# Histories of tables

What a table knows of an id is what was said of it last
(`ResourceTable.tellsLast_after`).  One step settles what is known of the id it
names and leaves other ids alone, except that forgetting failures reaches all
failed ids at once (`TableStep.get?_perform_iff`, `TableStep.failure?_perform_iff`).
Over a whole history only the last step that has to do with an id counts
(`lastOf_concat`).
-/

/-- What can be done to a table. -/
inductive TableStep (α : Type) where
  | insert (id : UInt16) (resource : α)
  | markFailed (id : UInt16) (message : String)
  | erase (id : UInt16)
  | clearFailures

variable {α β : Type}

namespace TableStep

/-- The id that a step names; forgetting failures names none. -/
def id? : TableStep α → Option UInt16
  | .insert id _ => some id
  | .markFailed id _ => some id
  | .erase id => some id
  | .clearFailures => none

/-- Whether a step names an id. -/
def Names (id : UInt16) (step : TableStep α) : Prop :=
  step.id? = some id

/-- Whether a step ends what has been said about the failure of an id. -/
def EndsFailure (id : UInt16) (step : TableStep α) : Prop :=
  step.Names id ∨ step = .clearFailures

/-- The table after a step. -/
def perform (table : ResourceTable α) : TableStep α → ResourceTable α
  | .insert id resource => table.insert id resource
  | .markFailed id message => table.markFailed id message
  | .erase id => table.erase id
  | .clearFailures => table.clearFailures

/-- Two maps after a step. -/
def performMaps (maps : TableMaps α) : TableStep α → TableMaps α
  | .insert id resource => maps.insert id resource
  | .markFailed id message => maps.markFailed id message
  | .erase id => maps.erase id
  | .clearFailures => maps.clearFailures

/-- A step changes the maps of a table as it changes the table. -/
theorem maps_perform (step : TableStep α) (table : ResourceTable α) :
    (step.perform table).maps = step.performMaps table.maps := by
  cases step with
  | insert id resource => exact table.maps_insert id resource
  | markFailed id message => exact table.maps_markFailed id message
  | erase id => exact table.maps_erase id
  | clearFailures => exact table.maps_clearFailures

/-- After a step an id has the resource the step puts there, or has it still. -/
theorem get?_perform_iff
    {step : TableStep α}
    {table : ResourceTable α}
    {id : UInt16}
    {resource : α} :
    (step.perform table).get? id = some resource ↔
      .insert id resource = step ∨ ¬ step.Names id ∧ table.get? id = some resource := by
  cases step with
  | insert named other =>
      rw [perform, ResourceTable.get?_insert]
      by_cases same : named = id
      · simp [same, Names, id?, eq_comm]
      · simp [same, Ne.symm same, Names, id?]
  | markFailed named message =>
      rw [perform, ResourceTable.get?_markFailed]
      by_cases same : named = id
      · simp [same, Names, id?]
      · simp [same, Names, id?]
  | erase named =>
      rw [perform, ResourceTable.get?_erase]
      by_cases same : named = id
      · simp [same, Names, id?]
      · simp [same, Names, id?]
  | clearFailures =>
      rw [perform, ResourceTable.get?_clearFailures]
      simp [Names, id?]

/-- After a step an id has failed for the reason the step gives, or for an earlier one still. -/
theorem failure?_perform_iff
    {step : TableStep α}
    {table : ResourceTable α}
    {id : UInt16}
    {message : String} :
    (step.perform table).failure? id = some message ↔
      .markFailed id message = step ∨
        ¬ step.EndsFailure id ∧ table.failure? id = some message := by
  cases step with
  | insert named resource =>
      rw [perform, ResourceTable.failure?_insert]
      by_cases same : named = id
      · simp [same, EndsFailure, Names, id?]
      · simp [same, EndsFailure, Names, id?]
  | markFailed named other =>
      rw [perform, ResourceTable.failure?_markFailed]
      by_cases same : named = id
      · simp [same, EndsFailure, Names, id?, eq_comm]
      · simp [same, Ne.symm same, EndsFailure, Names, id?]
  | erase named =>
      rw [perform, ResourceTable.failure?_erase]
      by_cases same : named = id
      · simp [same, EndsFailure, Names, id?]
      · simp [same, EndsFailure, Names, id?]
  | clearFailures =>
      rw [perform, ResourceTable.failure?_clearFailures]
      simp [EndsFailure]

end TableStep

/-- A step of a history behind which there is none that ends what it has said. -/
def LastOf (ends : β → Prop) (history : List β) (step : β) : Prop :=
  ∃ before after, history = before ++ step :: after ∧ ∀ later ∈ after, ¬ ends later

theorem not_lastOf_nil
    {ends : β → Prop}
    {step : β} :
    ¬ LastOf ends [] step := by
  rintro ⟨before, after, shape, -⟩
  simp at shape

/-- The newest step of a history is a last one, and so is an earlier one that it does not end. -/
theorem lastOf_concat
    {ends : β → Prop}
    {history : List β}
    {newest step : β} :
    LastOf ends (history ++ [newest]) step ↔
      step = newest ∨ ¬ ends newest ∧ LastOf ends history step := by
  constructor
  · rintro ⟨before, after, shape, untouched⟩
    rcases List.eq_nil_or_concat after with rfl | ⟨between, final, rfl⟩
    · have isNewest := (List.append_inj' shape rfl).2
      exact Or.inl (List.cons.inj isNewest).1.symm
    · rw [List.concat_eq_append] at shape untouched
      rw [← List.cons_append, ← List.append_assoc] at shape
      obtain ⟨earlier, isFinal⟩ := List.append_inj' shape rfl
      obtain rfl := (List.cons.inj isFinal).1
      refine Or.inr ⟨untouched newest (by simp), before, between, earlier, ?_⟩
      intro later member
      exact untouched later (List.mem_append_left _ member)
  · rintro (rfl | ⟨fine, before, after, rfl, untouched⟩)
    · exact ⟨history, [], rfl, fun _ member => absurd member List.not_mem_nil⟩
    · refine ⟨before, after ++ [newest], by simp, ?_⟩
      intro later member
      rcases List.mem_append.mp member with earlier | isNewest
      · exact untouched later earlier
      · rw [List.mem_singleton.mp isNewest]
        exact fine

namespace ResourceTable

/-- The table that a history leaves behind, from a table that knows nothing. -/
def after (history : List (TableStep α)) : ResourceTable α :=
  history.foldl (fun table step => step.perform table) .empty

/-- A history goes on with one more step. -/
theorem after_concat (history : List (TableStep α)) (newest : TableStep α) :
    after (history ++ [newest]) = newest.perform (after history) :=
  List.foldl_concat ..

/-- A resource is found under an id if the last step that names the id has put it there. -/
theorem get?_after_iff
    {history : List (TableStep α)}
    {id : UInt16}
    {resource : α} :
    (after history).get? id = some resource ↔
      LastOf (TableStep.Names id) history (.insert id resource) := by
  induction history using List.reverseRecOn with
  | nil => exact iff_of_false (by simp [after, get?, empty]) not_lastOf_nil
  | append_singleton history newest inductionHypothesis =>
      rw [after_concat, TableStep.get?_perform_iff, lastOf_concat, inductionHypothesis]

/-- A reason is found for an id if the last step that bears on the id's failure has given it. -/
theorem failure?_after_iff
    {history : List (TableStep α)}
    {id : UInt16}
    {message : String} :
    (after history).failure? id = some message ↔
      LastOf (TableStep.EndsFailure id) history (.markFailed id message) := by
  induction history using List.reverseRecOn with
  | nil => exact iff_of_false (by simp [after, failure?, empty]) not_lastOf_nil
  | append_singleton history newest inductionHypothesis =>
      rw [after_concat, TableStep.failure?_perform_iff, lastOf_concat, inductionHypothesis]

/-- The two maps that a history leaves behind are those of the table it leaves behind. -/
theorem maps_after (history : List (TableStep α)) :
    (after history).maps =
      history.foldl (fun maps step => step.performMaps maps) .empty := by
  induction history using List.reverseRecOn with
  | nil => exact maps_empty
  | append_singleton history newest inductionHypothesis =>
      rw [after_concat, TableStep.maps_perform, inductionHypothesis, List.foldl_concat]

/-- What has to hold of a table after a history: it tells what was said of each id last. -/
structure TellsLast (history : List (TableStep α)) (table : ResourceTable α) : Prop where
  separate : ∀ id ∈ table.ids, id ∉ table.failures.map Prod.fst
  found :
    ∀ id resource,
      table.get? id = some resource ↔
        LastOf (TableStep.Names id) history (.insert id resource)
  failed :
    ∀ id message,
      table.failure? id = some message ↔
        LastOf (TableStep.EndsFailure id) history (.markFailed id message)
  ids :
    table.ids.Pairwise (· < ·) ∧
      (∀ id, id ∈ table.ids ↔ ∃ resource, table.get? id = some resource) ∧
      table.loadedCount = table.ids.length
  failures :
    (table.failures.map Prod.fst).Pairwise (· < ·) ∧
      (∀ id message, (id, message) ∈ table.failures ↔ table.failure? id = some message) ∧
      table.failedCount = table.failures.length
  maps :
    let maps := history.foldl (fun maps step => step.performMaps maps) TableMaps.empty
    table.loaded = maps.loaded.toList ∧ table.failures = maps.failed.toList

/-- Whatever has been done to a table, it tells what was said of each id last. -/
theorem tellsLast_after (history : List (TableStep α)) :
    (after history).TellsLast history where
  separate _ isLoaded := not_mem_failures_of_mem_loaded isLoaded
  found _ _ := get?_after_iff
  failed _ _ := failure?_after_iff
  ids := by
    refine ⟨?_, ?_, ?_⟩
    · rw [ids, List.pairwise_map]
      exact (after history).ascending_loaded.imp UInt16.lt_iff_toNat_lt.mpr
    · intro id
      rw [ids, List.mem_map]
      constructor
      · rintro ⟨⟨_, resource⟩, member, rfl⟩
        exact ⟨resource, mem_loaded_iff_get?.mp member⟩
      · rintro ⟨resource, found⟩
        exact ⟨(id, resource), mem_loaded_iff_get?.mpr found, rfl⟩
    · rw [loadedCount, ids, List.length_map]
  failures := by
    refine ⟨?_, fun _ _ => mem_failures_iff_failure?, rfl⟩
    rw [List.pairwise_map]
    exact (after history).ascending_failures.imp UInt16.lt_iff_toNat_lt.mpr
  maps := by
    intro maps
    have sameMaps : (after history).maps = maps := maps_after history
    rw [← sameMaps, toList_loaded_maps, toList_failed_maps]
    exact ⟨rfl, rfl⟩

end ResourceTable

end AdventureArchive
