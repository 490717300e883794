import AdventureArchive.Proofs.Archive.Accounting
import AdventureArchive.Proofs.StableSort

namespace AdventureArchive

/-!
# The order in which entries are merged

The results of reading the entries of a table are merged into the table and into
the list of failures one by one (`Archive.Merged.add`).  In whatever order they
come they make the same table, and the list of failures is the same once it has
been sorted, as it is at the end of a load (`Archive.addAll_of_perm`).

Results for different ids change the table independently of each other
(`ResourceTable.enter_of_perm`).  The failures among them are listed in another
order, but no two of them are alike in the order of reports, so that sorting
brings each to its place among earlier and later ones
(`Archive.mergeSort_failures_of_perm`).
-/

/-- Results for different ids make the same of a table in whatever order they come. -/
theorem ResourceTable.enter_of_perm
    {α ε : Type}
    (explain : ε → String)
    (table : ResourceTable α)
    {results finished : List (UInt16 × Except ε α)}
    (permuted : results.Perm finished)
    (distinct : (results.map Prod.fst).Nodup) :
    table.enter explain finished = table.enter explain results := by
  have entriesDistinct :
      ((results.map fun result =>
        (result.1, TableEntry.ofResult explain result.2)).map Prod.fst).Nodup := by
    rwa [List.map_map]
  have sameEntries := table.entries.insertAll_eq_of_perm (permuted.map _) entriesDistinct
  rw [← entries_enter, ← entries_enter] at sameEntries
  exact congrArg ResourceTable.mk sameEntries.symm

namespace Archive

variable {kind : TableKind}

/-- What results are merged into: a table, and the failures listed so far. -/
structure Merged (kind : TableKind) where
  table : ResourceTable kind.Resource
  failures : List ResourceFailure

namespace Merged

/-- A result that is a resource is inserted; a fault fails its id and is listed. -/
def add
    (merged : Merged kind)
    (result : UInt16 × Except ResourceError kind.Resource) :
    Merged kind :=
  match result.2 with
  | .ok resource => { merged with table := merged.table.insert result.1 resource }
  | .error cause => {
      table := merged.table.markFailed result.1 cause.message
      failures := merged.failures ++ [⟨.table kind, result.1, cause.message⟩]
    }

/-- Results merged one after the other. -/
def addAll
    (merged : Merged kind)
    (results : List (UInt16 × Except ResourceError kind.Resource)) :
    Merged kind :=
  results.foldl add merged

/-- Merging enters the results into the table and appends the failures among them. -/
theorem addAll_eq
    (merged : Merged kind)
    (results : List (UInt16 × Except ResourceError kind.Resource)) :
    merged.addAll results = {
      table := merged.table.enter ResourceError.message results
      failures := merged.failures ++ (TableContent.resources kind results).failures
    } := by
  induction results generalizing merged with
  | nil =>
      rw [TableContent.failures, List.filterMap_nil, List.append_nil]
      rfl
  | cons result rest inductionHypothesis =>
      rcases result with ⟨id, cause | resource⟩
      · have merges := inductionHypothesis (merged.add (id, .error cause))
        rw [addAll, List.foldl_cons]
        refine merges.trans ?_
        simp only [add, List.append_assoc]
        rfl
      · exact inductionHypothesis (merged.add (id, .ok resource))

end Merged

/-- Failures that may stand in either order are about one id. -/
theorem id_eq_of_alike
    {first second : ResourceFailure}
    (alike : StableSort.alike failureLe first second = true) :
    first.id = second.id := by
  have ⟨forward, backward⟩ := StableSort.alike_iff.mp alike
  rw [failureLe_iff] at forward backward
  apply UInt16.toNat_inj.mp
  omega

/-- A table of results for different ids has a result for each of them only once. -/
theorem distinctIds_resources
    {results : List (UInt16 × Except ResourceError kind.Resource)}
    (distinct : (results.map Prod.fst).Nodup) :
    (TableContent.resources kind results).DistinctIds := by
  intro other
  by_cases same : kind = other
  · subst same
    rwa [TableContent.resultsFor_resources]
  · rw [TableContent.resultsFor_resources_of_ne same]
    exact List.nodup_nil

/-- The failures among results for different ids are sorted into others in any order. -/
theorem mergeSort_failures_of_perm
    {results finished : List (UInt16 × Except ResourceError kind.Resource)}
    (permuted : results.Perm finished)
    (distinct : (results.map Prod.fst).Nodup)
    (earlier later : List ResourceFailure) :
    (earlier ++ (TableContent.resources kind finished).failures ++ later).mergeSort failureLe =
      (earlier ++ (TableContent.resources kind results).failures ++ later).mergeSort failureLe := by
  have apart :
      (TableContent.resources kind results).failures.Pairwise fun first second =>
        StableSort.alike failureLe first second = false := by
    apply (TableContent.pairwise_failures (distinctIds_resources distinct)).imp
    intro first second different
    rw [Bool.eq_false_iff]
    exact fun alike => different (id_eq_of_alike alike)
  exact (StableSort.mergeSort_append_of_perm failureLe_trans failureLe_total
    (permuted.filterMap _) apart earlier later).symm

/-- A load does not show in which order the results of one of its tables have come. -/
theorem ofContents_of_perm
    {results finished : List (UInt16 × Except ResourceError kind.Resource)}
    (permuted : results.Perm finished)
    (distinct : (results.map Prod.fst).Nodup)
    (before after : List TableContent) :
    ofContents (before ++ .resources kind finished :: after) =
      ofContents (before ++ .resources kind results :: after) := by
  have sameEntered (database : Database) :
      TableContent.enter database (.resources kind finished) =
        TableContent.enter database (.resources kind results) := by
    rw [TableContent.enter, TableContent.enter,
      ResourceTable.enter_of_perm _ _ permuted distinct]
  have sameSorted :=
    mergeSort_failures_of_perm permuted distinct
      (before.flatMap TableContent.failures) (after.flatMap TableContent.failures)
  simp only [ofContents, List.foldl_append, List.foldl_cons, sameEntered, List.flatMap_append,
    List.flatMap_cons, ← List.append_assoc, sameSorted]
  rfl

/--
Results for different ids may be merged in any order: they make the same table,
the same list of failures once it has been sorted, whatever has been listed
before and is listed afterwards, and the same load.
-/
theorem addAll_of_perm
    {results finished : List (UInt16 × Except ResourceError kind.Resource)}
    (permuted : results.Perm finished)
    (distinct : (results.map Prod.fst).Nodup)
    (merged : Merged kind) :
    (merged.addAll finished).table = (merged.addAll results).table ∧
      (∀ later,
        ((merged.addAll finished).failures ++ later).mergeSort failureLe =
          ((merged.addAll results).failures ++ later).mergeSort failureLe) ∧
      ∀ before after,
        ofContents (before ++ .resources kind finished :: after) =
          ofContents (before ++ .resources kind results :: after) := by
  rw [merged.addAll_eq, merged.addAll_eq]
  refine ⟨?_, ?_, ?_⟩
  · exact ResourceTable.enter_of_perm _ _ permuted distinct
  · exact mergeSort_failures_of_perm permuted distinct merged.failures
  · exact ofContents_of_perm permuted distinct

/-- Backdrop sizes in the order of their index; two of them have not been readable. -/
def backdropResults : List (UInt16 × Except ResourceError BackdropSize) := [
  (9, .ok ⟨320, 200⟩), (4, .error (.wrongLength 4 3)), (2, .error (.wrongLength 4 5))]

/-- The same results in the order in which they have come. -/
def lateBackdrops : List (UInt16 × Except ResourceError BackdropSize) := [
  (2, .error (.wrongLength 4 5)), (9, .ok ⟨320, 200⟩), (4, .error (.wrongLength 4 3))]

/-- A load that has failed to read a program, with a backdrop size under one of the ids. -/
def startedLoad : Merged .backdropSize where
  table := ResourceTable.empty.insert 4 ⟨640, 480⟩
  failures := [⟨.table .program, 3, "program is cut short"⟩]

/-- Backdrop sizes that come late are listed in another order and make the same load. -/
theorem addAll_lateBackdrops :
    backdropResults.Perm lateBackdrops ∧
      (backdropResults.map Prod.fst).Nodup ∧
      ((startedLoad.addAll lateBackdrops).failures.map ResourceFailure.id = [3, 2, 4] ∧
        (startedLoad.addAll backdropResults).failures.map ResourceFailure.id = [3, 4, 2]) ∧
      (startedLoad.addAll lateBackdrops).table = (startedLoad.addAll backdropResults).table ∧
      (startedLoad.addAll lateBackdrops).failures.mergeSort failureLe =
        (startedLoad.addAll backdropResults).failures.mergeSort failureLe := by
  have permuted : backdropResults.Perm lateBackdrops :=
    @List.perm_append_comm _ (backdropResults.take 2) (backdropResults.drop 2)
  have distinct : (backdropResults.map Prod.fst).Nodup := by decide
  obtain ⟨sameTable, sameFailures, -⟩ :=
    @addAll_of_perm .backdropSize _ _ permuted distinct startedLoad
  have sorted := sameFailures []
  rw [List.append_nil, List.append_nil] at sorted
  exact ⟨permuted, distinct, ⟨rfl, rfl⟩, sameTable, sorted⟩

end Archive

end AdventureArchive
