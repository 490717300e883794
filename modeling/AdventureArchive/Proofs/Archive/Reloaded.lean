import AdventureArchive.Proofs.Archive.Saved

namespace AdventureArchive

/-!
# What a reload keeps

The database that is loaded where one has been saved, table by table: readable
resources are kept (`loaded_reloaded`), the ids of the others have failed
(`failedIds_reloaded`), and the report lists just these failures
(`failures_reloaded`).
-/

namespace TableKind

variable
  {kind : TableKind}
  {resource : kind.Resource}
  {registry : OpcodeRegistry}

/-- A readable resource that has a stored form becomes itself. -/
theorem reread_of_readable
    (encodable : ∃ payload, kind.encode resource = .ok payload)
    (readable : kind.Readable registry resource) :
    kind.reread registry resource = .ok (kind.reloaded resource) := by
  obtain ⟨payload, encoded⟩ := encodable
  rw [reread, encoded]
  exact decode_of_encode encoded readable

/-- A resource that has a stored form but is not readable becomes a fault. -/
theorem reread_of_not_readable
    (encodable : ∃ payload, kind.encode resource = .ok payload)
    (unreadable : ¬ kind.Readable registry resource) :
    ∃ fault, kind.reread registry resource = .error fault := by
  obtain ⟨payload, encoded⟩ := encodable
  rw [reread, encoded]
  exact decode_of_not_readable encoded unreadable

end TableKind

namespace Archive

/-- What is loaded where a database has been saved. -/
def reloaded (registry : OpcodeRegistry) (database : Database) : LoadedArchive :=
  ofContents (storedContents registry database)

/-- What the resources of a kind have become. -/
def rereadAll
    (registry : OpcodeRegistry)
    (database : Database)
    (kind : TableKind) :
    List (UInt16 × Except ResourceError kind.Resource) :=
  (database.table kind).loaded.map fun entry => (entry.1, kind.reread registry entry.2)

variable (registry : OpcodeRegistry) (database : Database)

/-- Rereading keeps the order of ids. -/
theorem ascending_rereadAll (kind : TableKind) :
    (rereadAll registry database kind).Pairwise fun first second =>
      rank first.1 < rank second.1 :=
  (database.table kind).ascending_loaded.map _ fun _ _ ordered => ordered

/-- A reloaded table is filled with what the resources of its kind have become. -/
theorem table_reloaded (kind : TableKind) :
    (reloaded registry database).database.table kind =
      (ResourceTable.empty : ResourceTable kind.Resource).enter ResourceError.message
        (rereadAll registry database kind) := by
  rw [reloaded, table_ofContents]
  congr 1
  by_cases isEmpty : (database.table kind).loaded.isEmpty
  · have noneStored : storedContent? registry database (.table kind) = none :=
      if_pos isEmpty
    rw [rereadAll, List.isEmpty_iff.mp isEmpty]
    apply flatMap_resultsFor_eq_nil
    intro content member sameKind
    obtain ⟨other, -, stored⟩ := List.mem_filterMap.mp member
    rw [← kind_of_storedContent? stored, sameKind, noneStored] at stored
    contradiction
  · have stored :
        storedContent? registry database (.table kind) =
          some (.resources kind (rereadAll registry database kind)) :=
      if_neg isEmpty
    have member :
        TableContent.resources kind (rereadAll registry database kind) ∈
          storedContents registry database :=
      List.mem_filterMap.mpr ⟨.table kind, ResourceKind.mem_all _, stored⟩
    rw [flatMap_resultsFor (nodup_storedContents registry database) member rfl,
      TableContent.resultsFor_resources]

/-- What is collected from the stored contents is collected kind by kind. -/
theorem flatMap_storedContents
    {β : Type}
    (collect : TableContent → List β) :
    (storedContents registry database).flatMap collect =
      ResourceKind.all.flatMap fun kind =>
        (storedContent? registry database kind).toList.flatMap collect := by
  rw [storedContents]
  induction ResourceKind.all with
  | nil => rfl
  | cons kind rest inductionHypothesis =>
      rw [List.flatMap_cons, ← inductionHypothesis]
      cases stored : storedContent? registry database kind with
      | none => rw [List.filterMap_cons_none stored]; rfl
      | some content =>
          rw [List.filterMap_cons_some stored, List.flatMap_cons, Option.toList_some,
            List.flatMap_singleton]

/-- The text is reloaded as it is. -/
theorem text?_reloaded : (reloaded registry database).database.text? = database.text? := by
  have onlyText :
      (storedContents registry database).filterMap TableContent.text? =
        database.text?.toList := by
    have noTextInTables (kind : TableKind) :
        (storedContent? registry database (.table kind)).bind TableContent.text? = none := by
      rw [storedContent?]
      split <;> rfl
    rw [storedContents, List.filterMap_filterMap, ResourceKind.all, List.filterMap_cons,
      List.filterMap_map]
    have noTexts :
        TableKind.all.filterMap
            ((fun kind =>
              (storedContent? registry database kind).bind TableContent.text?) ∘ .table) = [] :=
      List.filterMap_eq_nil_iff.mpr fun kind _ => noTextInTables kind
    rw [noTexts, storedContent?]
    cases database.text? <;> rfl
  have sameList :=
    (text?_ofContents (nodup_storedContents registry database)).trans onlyText
  rw [← Option.head?_toList (o := database.text?), ← sameList, Option.head?_toList]
  rfl

/-- The failures in the content of a table are the failed ids of the reloaded table. -/
theorem failures_storedContent? (kind : TableKind) :
    (storedContent? registry database (.table kind)).toList.flatMap TableContent.failures =
      ((reloaded registry database).database.table kind).failures.map fun failure =>
        ⟨.table kind, failure.1, failure.2⟩ := by
  rw [table_reloaded,
    ResourceTable.failures_enter_of_ascending (ascending_rereadAll registry database kind),
    List.map_filterMap]
  simp only [storedContent?]
  split
  next isEmpty =>
    rw [rereadAll, List.isEmpty_iff.mp isEmpty]
    rfl
  next =>
    rw [Option.toList_some, List.flatMap_singleton, TableContent.failures]
    congr 1
    funext result
    rcases result with ⟨id, cause | resource⟩ <;> rfl

/-- Table kinds are listed in the order of their numbers. -/
theorem ascending_codes :
    TableKind.all.Pairwise fun first second => first.code < second.code := by
  decide

/-- The failures of a reload are those of its tables, in the order of the kinds. -/
theorem failures_reloaded :
    (reloaded registry database).report.failures =
      TableKind.all.flatMap fun kind =>
        ((reloaded registry database).database.table kind).failures.map fun failure =>
          ⟨.table kind, failure.1, failure.2⟩ := by
  have collected :
      (storedContents registry database).flatMap TableContent.failures =
        TableKind.all.flatMap fun kind =>
          ((reloaded registry database).database.table kind).failures.map fun failure =>
            ⟨.table kind, failure.1, failure.2⟩ := by
    have noFailuresInText :
        (storedContent? registry database .text).toList.flatMap TableContent.failures = [] := by
      rw [storedContent?]
      cases database.text? <;> rfl
    rw [flatMap_storedContents, ResourceKind.all, List.flatMap_cons, noFailuresInText,
      List.nil_append, List.flatMap_map]
    simp only [failures_storedContent?]
  rw [← collected]
  apply failures_ofContents
  rw [collected, List.pairwise_flatMap]
  constructor
  · intro kind _
    rw [List.pairwise_map]
    apply (ResourceTable.ascending_failures _).imp
    intro first second ordered
    simp only [failureLe, beq_self_eq_true, Bool.true_and, Bool.or_eq_true,
      decide_eq_true_eq]
    exact Or.inr (UInt16.le_iff_toNat_le.mpr (Nat.le_of_lt ordered))
  · apply ascending_codes.imp
    intro first second ordered failure inFirst other inSecond
    obtain ⟨_, -, rfl⟩ := List.mem_map.mp inFirst
    obtain ⟨_, -, rfl⟩ := List.mem_map.mp inSecond
    simp only [failureLe, Bool.or_eq_true, decide_eq_true_eq]
    exact Or.inl ordered

/-! ## Readable resources -/

variable {registry database} {kind : TableKind}

/-- What is loaded from a table are the readable resources. -/
theorem loaded_reloaded
    (encodable : ∀ entry ∈ (database.table kind).loaded,
      ∃ payload, kind.encode entry.2 = .ok payload) :
    ((reloaded registry database).database.table kind).loaded =
      ((database.table kind).loaded.filter fun entry =>
          kind.Readable registry entry.2).map fun entry =>
        (entry.1, kind.reloaded entry.2) := by
  rw [table_reloaded,
    ResourceTable.loaded_enter_of_ascending (ascending_rereadAll registry database kind),
    rereadAll, List.filterMap_map, ← List.filterMap_eq_map, List.filterMap_filter]
  apply List.filterMap_congr
  intro entry member
  by_cases readable : kind.Readable registry entry.2
  · have kept := TableKind.reread_of_readable (encodable entry member) readable
    simp only [Function.comp_apply, kept, readable, decide_true, if_true]
    rfl
  · obtain ⟨fault, refused⟩ :=
      TableKind.reread_of_not_readable (encodable entry member) readable
    simp only [Function.comp_apply, refused, readable, decide_false, Bool.false_eq_true,
      if_false]
    rfl

/-- What fails in a table are the ids of the other resources. -/
theorem failedIds_reloaded
    (encodable : ∀ entry ∈ (database.table kind).loaded,
      ∃ payload, kind.encode entry.2 = .ok payload) :
    ((reloaded registry database).database.table kind).failures.map Prod.fst =
      ((database.table kind).loaded.filter fun entry =>
          ¬ kind.Readable registry entry.2).map Prod.fst := by
  rw [table_reloaded,
    ResourceTable.failures_enter_of_ascending (ascending_rereadAll registry database kind),
    rereadAll, List.filterMap_map, List.map_filterMap, ← List.filterMap_eq_map,
    List.filterMap_filter]
  apply List.filterMap_congr
  intro entry member
  by_cases readable : kind.Readable registry entry.2
  · have kept := TableKind.reread_of_readable (encodable entry member) readable
    simp only [Function.comp_apply, kept, readable, not_true_eq_false, decide_false,
      Bool.false_eq_true, if_false]
    rfl
  · obtain ⟨fault, refused⟩ :=
      TableKind.reread_of_not_readable (encodable entry member) readable
    simp only [Function.comp_apply, refused, readable, not_false_eq_true, decide_true,
      if_true]
    rfl

end Archive

end AdventureArchive
