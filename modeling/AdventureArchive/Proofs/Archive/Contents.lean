import AdventureArchive.Archive.Load
import AdventureArchive.Proofs.Database

namespace AdventureArchive.Archive

/-!
# What the contents of tables amount to

The tables of a database that is put together from contents are filled with the
results for their kinds (`table_ofContents`).  If no two contents are of one
kind, the text and the warnings of the report come from the only text
(`warnings_ofContents`).
-/

namespace TableContent

/-- The kind of the table the content comes from. -/
def kind : TableContent → ResourceKind
  | .text _ => .text
  | .resources kind _ => .table kind

/-- The content of a table of resources is their results. -/
theorem eq_resources
    {content : TableContent}
    {kind : TableKind}
    (sameKind : content.kind = .table kind) :
    ∃ results, content = .resources kind results := by
  cases content with
  | text blob => contradiction
  | resources other results =>
      obtain rfl := ResourceKind.table.inj sameKind
      exact ⟨results, rfl⟩

/-- The text, if it is the content of a text table. -/
def text? : TableContent → Option TextBlob
  | .text blob => some blob
  | .resources _ _ => none

/-- The results for a kind; there are none in the table of another kind. -/
def resultsFor (kind : TableKind) :
    TableContent → List (UInt16 × Except ResourceError kind.Resource)
  | .text _ => []
  | .resources other results => if same : other = kind then same ▸ results else []

@[simp] theorem resultsFor_resources
    (kind : TableKind)
    (results : List (UInt16 × Except ResourceError kind.Resource)) :
    (TableContent.resources kind results).resultsFor kind = results :=
  dif_pos rfl

theorem resultsFor_resources_of_ne
    {kind other : TableKind}
    (different : other ≠ kind)
    (results : List (UInt16 × Except ResourceError other.Resource)) :
    (TableContent.resources other results).resultsFor kind = [] :=
  dif_neg different

/-- A content with results for a kind is the content of that kind's table. -/
theorem resultsFor_eq_nil
    {content : TableContent}
    {kind : TableKind}
    (different : content.kind ≠ .table kind) :
    content.resultsFor kind = [] := by
  cases content with
  | text blob => rfl
  | resources other results =>
      exact resultsFor_resources_of_ne (fun same => different (congrArg _ same)) results

/-- Entering a content fills the table of its kind and no other. -/
theorem table_enter
    (database : Database)
    (content : TableContent)
    (kind : TableKind) :
    (enter database content).table kind =
      (database.table kind).enter ResourceError.message (content.resultsFor kind) := by
  cases content with
  | text blob =>
      cases kind with
      | image kind => cases kind <;> rfl
      | _ => rfl
  | resources other results =>
      by_cases same : other = kind
      · subst same
        rw [enter, Database.table_setTable, resultsFor_resources]
      · rw [enter, Database.table_setTable_of_ne _ _ (Ne.symm same),
          resultsFor_resources_of_ne same]
        rfl

/-- Entering contents fills a table with all results for its kind. -/
theorem table_foldl_enter
    (database : Database)
    (contents : List TableContent)
    (kind : TableKind) :
    (contents.foldl enter database).table kind =
      (database.table kind).enter ResourceError.message
        (contents.flatMap (resultsFor kind)) := by
  induction contents generalizing database with
  | nil => rfl
  | cons content rest inductionHypothesis =>
      rw [List.foldl_cons, inductionHypothesis, table_enter, List.flatMap_cons,
        ResourceTable.enter_append]

/-- Contents of different kinds leave at most one text, next to none that was there. -/
theorem text?_foldl_enter
    {database : Database}
    {contents : List TableContent}
    (nodup : (contents.map kind).Nodup)
    (isNew : ResourceKind.text ∈ contents.map kind → database.text? = none) :
    (contents.foldl enter database).text?.toList =
      database.text?.toList ++ contents.filterMap text? := by
  induction contents generalizing database with
  | nil => exact (List.append_nil _).symm
  | cons content rest inductionHypothesis =>
      obtain ⟨notInRest, restNodup⟩ := List.nodup_cons.mp nodup
      cases content with
      | text blob =>
          rw [List.foldl_cons, inductionHypothesis restNodup fun inRest =>
            absurd inRest notInRest, isNew List.mem_cons_self]
          rfl
      | resources kind results =>
          have sameText :
              (enter database (.resources kind results)).text? = database.text? :=
            Database.text?_setTable database kind _
          have isStillNew :
              ResourceKind.text ∈ rest.map TableContent.kind →
                (enter database (.resources kind results)).text? = none :=
            fun inRest => sameText.trans (isNew (List.mem_cons_of_mem _ inRest))
          rw [List.foldl_cons, inductionHypothesis restNodup isStillNew, sameText]
          rfl

end TableContent

/-- The warning about a text whose declared length is not its length. -/
def textWarnings (text? : Option TextBlob) : List TextLengthWarning :=
  ((text?.bind TextBlob.lengthMismatch?).map fun (declared, actual) =>
    (⟨declared, actual⟩ : TextLengthWarning)).toList

/-- A table is filled with the results for its kind. -/
theorem table_ofContents
    (contents : List TableContent)
    (kind : TableKind) :
    (ofContents contents).database.table kind =
      (ResourceTable.empty : ResourceTable kind.Resource).enter ResourceError.message
        (contents.flatMap (TableContent.resultsFor kind)) := by
  have filled := TableContent.table_foldl_enter .empty contents kind
  rwa [Database.table_empty] at filled

/-- The text is the only text of the contents. -/
theorem text?_ofContents
    {contents : List TableContent}
    (nodup : (contents.map TableContent.kind).Nodup) :
    (ofContents contents).database.text?.toList =
      contents.filterMap TableContent.text? :=
  TableContent.text?_foldl_enter nodup fun _ => rfl

/-- Warnings are about the text of the database. -/
theorem warnings_ofContents
    {contents : List TableContent}
    (nodup : (contents.map TableContent.kind).Nodup) :
    (ofContents contents).report.warnings =
      textWarnings (ofContents contents).database.text? := by
  have fromTexts :
      contents.flatMap TableContent.warnings =
        (contents.filterMap TableContent.text?).flatMap fun blob =>
          textWarnings (some blob) := by
    -- This holds of any contents; only their text has to be unique.
    clear nodup
    induction contents with
    | nil => rfl
    | cons content rest inductionHypothesis =>
        rw [List.flatMap_cons, inductionHypothesis]
        cases content <;> rfl
  change contents.flatMap TableContent.warnings = _
  rw [fromTexts, ← text?_ofContents nodup]
  cases (ofContents contents).database.text? with
  | none => rfl
  | some blob => exact List.append_nil _

/-- A report lists failures that are in order as they are. -/
theorem failures_ofContents
    {contents : List TableContent}
    (ordered : (contents.flatMap TableContent.failures).Pairwise fun first second =>
      failureLe first second = true) :
    (ofContents contents).report.failures = contents.flatMap TableContent.failures :=
  List.mergeSort_of_pairwise ordered

/-! ## Contents of one kind -/

/-- Among contents of different kinds only one has results for a kind. -/
theorem flatMap_resultsFor
    {contents : List TableContent}
    (nodup : (contents.map TableContent.kind).Nodup)
    {content : TableContent}
    (member : content ∈ contents)
    {kind : TableKind}
    (sameKind : content.kind = .table kind) :
    contents.flatMap (TableContent.resultsFor kind) = content.resultsFor kind := by
  induction contents with
  | nil => exact absurd member List.not_mem_nil
  | cons first rest inductionHypothesis =>
      obtain ⟨notInRest, restNodup⟩ := List.nodup_cons.mp nodup
      rw [List.flatMap_cons]
      rcases List.mem_cons.mp member with rfl | inRest
      · have othersEmpty : rest.flatMap (TableContent.resultsFor kind) = [] := by
          rw [List.flatMap_eq_nil_iff]
          intro other inRest
          apply TableContent.resultsFor_eq_nil
          intro sameOther
          exact notInRest (List.mem_map.mpr ⟨other, inRest, sameOther.trans sameKind.symm⟩)
        rw [othersEmpty, List.append_nil]
      · have firstEmpty : first.resultsFor kind = [] := by
          apply TableContent.resultsFor_eq_nil
          intro sameFirst
          exact notInRest (List.mem_map.mpr ⟨content, inRest, sameKind.trans sameFirst.symm⟩)
        rw [firstEmpty, List.nil_append, inductionHypothesis restNodup inRest]

/-- No results are found for a kind that no content has. -/
theorem flatMap_resultsFor_eq_nil
    {contents : List TableContent}
    {kind : TableKind}
    (absent : ∀ content ∈ contents, content.kind ≠ .table kind) :
    contents.flatMap (TableContent.resultsFor kind) = [] :=
  List.flatMap_eq_nil_iff.mpr fun content member =>
    TableContent.resultsFor_eq_nil (absent content member)

end AdventureArchive.Archive
