import AdventureArchive.Database
import AdventureArchive.Proofs.Database.Kind
import AdventureArchive.Proofs.Database.Table

namespace AdventureArchive.Database

/-!
# Databases as families of tables

A database is its text and its tables (`ext_table`), and what is done to every
table is found again at each kind (`table_clearFailures`).
-/

/-- Databases with the same text and the same tables are the same. -/
theorem ext_table
    {first second : Database}
    (sameText : first.text? = second.text?)
    (sameTables : ∀ kind, first.table kind = second.table kind) :
    first = second := by
  rcases first with ⟨text?, _, _, _, _, _, _, _, _, _⟩
  rcases second with ⟨other?, _, _, _, _, _, _, _, _, _⟩
  obtain rfl : text? = other? := sameText
  congr 1
  · exact sameTables .backdropSize
  · exact sameTables .program
  · exact sameTables (.image .sprite)
  · exact sameTables (.image .icon)
  · exact sameTables (.image .roomImage)
  · exact sameTables .palette
  · exact sameTables .roomInfo
  · exact sameTables .sequence
  · exact sameTables .sound

/-- Databases with the same text and with equal tables are equal. -/
theorem beq_of_table
    {first second : Database}
    (sameText : first.text? = second.text?)
    (equalTables : ∀ kind, (first.table kind == second.table kind) = true) :
    (first == second) = true := by
  change (first.text? == second.text? &&
    TableKind.all.all fun kind => first.table kind == second.table kind) = true
  rw [sameText, beq_self_eq_true, Bool.true_and]
  exact List.all_eq_true.mpr fun kind _ => equalTables kind

/-- Replacing a table leaves the text alone. -/
@[simp] theorem text?_setTable
    (database : Database)
    (kind : TableKind)
    (changed : ResourceTable kind.Resource) :
    (database.setTable kind changed).text? = database.text? := by
  cases kind with
  | image kind => cases kind <;> rfl
  | _ => rfl

@[simp] theorem table_empty (kind : TableKind) : empty.table kind = .empty := by
  cases kind with
  | image kind => cases kind <;> rfl
  | _ => rfl

/-- Forgetting failed ids leaves the text alone. -/
@[simp] theorem text?_clearFailures (database : Database) :
    database.clearFailures.text? = database.text? :=
  rfl

/-- Forgetting failed ids happens in every table. -/
@[simp] theorem table_clearFailures
    (database : Database)
    (kind : TableKind) :
    database.clearFailures.table kind = (database.table kind).clearFailures := by
  cases kind with
  | image kind => cases kind <;> rfl
  | _ => rfl

/-- Copying a database happens in every table. -/
@[simp] theorem table_copy
    (database : Database)
    (kind : TableKind) :
    database.copy.table kind = (database.table kind).mapResources kind.copy := by
  cases kind with
  | image kind => cases kind <;> rfl
  | _ => rfl

/-- Databases with the same text that have resources under the same ids which look the same. -/
structure SameResources (first second : Database) : Prop where
  text : first.text? = second.text?
  resources :
    ∀ kind,
      (first.table kind).loaded.map (fun entry => (entry.1, kind.reloaded entry.2)) =
        (second.table kind).loaded.map (fun entry => (entry.1, kind.reloaded entry.2))

/-- Apart from their failed ids databases are equal if they have the same resources. -/
theorem beq_clearFailures_iff {first second : Database} :
    (first.clearFailures == second.clearFailures) = true ↔ first.SameResources second := by
  change (first.clearFailures.text? == second.clearFailures.text? &&
    TableKind.all.all fun kind =>
      first.clearFailures.table kind == second.clearFailures.table kind) = true ↔ _
  simp only [Bool.and_eq_true, beq_iff_eq, List.all_eq_true, text?_clearFailures,
    table_clearFailures, ResourceTable.beq_clearFailures_iff TableKind.beq_iff_reloaded_eq]
  constructor
  · rintro ⟨sameText, sameTables⟩
    exact ⟨sameText, fun kind => sameTables kind kind.mem_all⟩
  · rintro ⟨sameText, sameTables⟩
    exact ⟨sameText, fun kind _ => sameTables kind⟩

end AdventureArchive.Database
