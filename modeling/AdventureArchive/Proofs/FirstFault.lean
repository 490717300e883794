import AdventureArchive.Proofs.Fallible

namespace AdventureArchive

/-!
# The first of several faults

A computation that checks one thing after the other fails with the first fault
it meets.  Which fault that is can be said without the computation: all faults
are listed in the order of the checks, and the first of the list is reported
(`ReportsFirst`).  The lists follow the checks (`ReportsFirst.check`), the
chains (`ReportsFirst.bind`) and the loops (`ReportsFirst.mapM`).  The first
fault of ascending items is a fault of the least item that has one
(`head?_flatMap_eq_some_iff`).
-/

variable {ε α β : Type}

/-- A fault that is there under a condition. -/
def faultIf
    (condition : Prop)
    [Decidable condition]
    (fault : ε) :
    List ε :=
  if condition then [fault] else []

theorem faultIf_of
    {condition : Prop}
    [Decidable condition]
    (holds : condition)
    (fault : ε) :
    faultIf condition fault = [fault] :=
  if_pos holds

theorem faultIf_of_not
    {condition : Prop}
    [Decidable condition]
    (fails : ¬ condition)
    (fault : ε) :
    faultIf condition fault = [] :=
  if_neg fails

/-- There is no fault exactly if its condition fails. -/
theorem faultIf_eq_nil_iff
    {condition : Prop}
    [Decidable condition]
    {fault : ε} :
    faultIf condition fault = [] ↔ ¬ condition := by
  unfold faultIf
  split
  next holds => simp [holds]
  next fails => simp [fails]

/-- The first fault of ascending items is the first one of the least item that has any. -/
theorem head?_flatMap_eq_some_iff
    {key : α → Nat}
    {items : List α}
    (ascending : items.Pairwise fun first second => key first < key second)
    {faults : α → List ε}
    {fault : ε} :
    (items.flatMap faults).head? = some fault ↔
      ∃ item ∈ items, (faults item).head? = some fault ∧
        ∀ earlier ∈ items, key earlier < key item → faults earlier = [] := by
  induction items with
  | nil => simp
  | cons item rest inductionHypothesis =>
      obtain ⟨itemFirst, restAscending⟩ := List.pairwise_cons.mp ascending
      rw [List.flatMap_cons]
      cases itemFaults : faults item with
      | nil =>
          rw [List.nil_append, inductionHypothesis restAscending]
          constructor
          · rintro ⟨found, inRest, isFirst, noneBefore⟩
            refine ⟨found, List.mem_cons_of_mem _ inRest, isFirst, ?_⟩
            exact List.forall_mem_cons.mpr ⟨fun _ => itemFaults, noneBefore⟩
          · rintro ⟨found, member, isFirst, noneBefore⟩
            rcases List.mem_cons.mp member with rfl | inRest
            · rw [itemFaults] at isFirst
              contradiction
            · exact ⟨found, inRest, isFirst, (List.forall_mem_cons.mp noneBefore).2⟩
      | cons first others =>
          constructor
          · intro isFirst
            refine ⟨item, List.mem_cons_self, ?_, ?_⟩
            · rwa [itemFaults]
            · refine List.forall_mem_cons.mpr ⟨fun before => ?_, fun later inRest before => ?_⟩
              · exact absurd before (Nat.lt_irrefl _)
              · exact absurd before (Nat.lt_asymm (itemFirst later inRest))
          · rintro ⟨found, member, isFirst, noneBefore⟩
            rcases List.mem_cons.mp member with rfl | inRest
            · rwa [itemFaults] at isFirst
            · have none := (List.forall_mem_cons.mp noneBefore).1 (itemFirst found inRest)
              rw [itemFaults] at none
              contradiction

/-- A step that fails with the first of some faults, and succeeds if there is none. -/
def ReportsFirst
    (step : Except ε α)
    (faults : List ε) :
    Prop :=
  ∀ fault, step = .error fault ↔ faults.head? = some fault

namespace ReportsFirst

variable {step : Except ε α} {faults : List ε}

/-- A success reports nothing. -/
theorem ok (value : α) : ReportsFirst (.ok value : Except ε α) [] := by
  intro fault
  simp

/-- A failure reports its fault, whatever other faults there are. -/
theorem error
    (fault : ε)
    (others : List ε) :
    ReportsFirst (.error fault : Except ε α) (fault :: others) := by
  intro other
  simp

/-- A step that succeeds has no faults to report. -/
theorem eq_nil_of_ok
    (reports : ReportsFirst step faults)
    {value : α}
    (succeeds : step = .ok value) :
    faults = [] := by
  cases faults with
  | nil => rfl
  | cons fault rest =>
      rw [(reports fault).mpr rfl] at succeeds
      contradiction

/-- A step succeeds exactly if it has no faults to report. -/
theorem exists_ok_iff (reports : ReportsFirst step faults) :
    (∃ value, step = .ok value) ↔ faults = [] := by
  constructor
  · rintro ⟨value, succeeds⟩
    exact reports.eq_nil_of_ok succeeds
  · rintro rfl
    cases step with
    | error fault => simpa using (reports fault).mp rfl
    | ok value => exact ⟨value, rfl⟩

/-- A step reports its own fault. -/
theorem of_fault? (step : Except ε α) : ReportsFirst step step.fault?.toList := by
  intro fault
  cases step with
  | error found => simp [Except.fault?]
  | ok value => simp [Except.fault?]

/-- A check comes before the faults of what it guards. -/
theorem check
    {condition : Prop}
    [Decidable condition]
    {fault : ε}
    (remaining : ¬ condition → ReportsFirst step faults) :
    ReportsFirst
      (if condition then .error fault else step)
      (faultIf condition fault ++ faults) := by
  unfold faultIf
  split
  next =>
    intro other
    simp
  next fine => exact remaining fine

/-- A check that guards a success is its only fault. -/
theorem check_ok
    {condition : Prop}
    [Decidable condition]
    {fault : ε}
    {value : α} :
    ReportsFirst (if condition then .error fault else .ok value) (faultIf condition fault) := by
  rw [← List.append_nil (faultIf condition fault)]
  exact check fun _ => ok value

/-- The faults of a step come before those of what follows it. -/
theorem bind
    {next : α → Except ε β}
    {later : List ε}
    (first : ReportsFirst step faults)
    (remaining : ∀ value, step = .ok value → ReportsFirst (next value) later) :
    ReportsFirst (step >>= next) (faults ++ later) := by
  match stepped : step with
  | .error fault =>
      intro other
      rw [List.head?_append, (first fault).mp rfl]
      simp [Bind.bind, Except.bind]
  | .ok value =>
      rw [first.eq_nil_of_ok rfl, List.nil_append, Except.ok_bind]
      exact remaining value rfl

/-- Steps for all items of a list report the first fault of the first item that has one. -/
theorem mapM
    {step : α → Except ε β}
    {faults : α → List ε}
    {items : List α}
    (each : ∀ item ∈ items, ReportsFirst (step item) (faults item)) :
    ReportsFirst (items.mapM step) (items.flatMap faults) := by
  induction items with
  | nil => exact ok []
  | cons item rest inductionHypothesis =>
      obtain ⟨first, remaining⟩ := List.forall_mem_cons.mp each
      rw [List.mapM_cons, List.flatMap_cons]
      refine first.bind fun value _ => ?_
      rw [← List.append_nil (rest.flatMap faults)]
      exact (inductionHypothesis remaining).bind fun values _ => ok (value :: values)

/-- Giving faults another name renames the listed ones. -/
theorem mapError
    {δ : Type}
    (reports : ReportsFirst step faults)
    (explain : ε → δ) :
    ReportsFirst (step.mapError explain) (faults.map explain) := by
  match stepped : step with
  | .error fault =>
      intro other
      rw [List.head?_map, (reports fault).mp rfl]
      simp [Except.mapError]
  | .ok value =>
      rw [reports.eq_nil_of_ok rfl]
      exact ok value

/-- Changing the value of a success leaves the faults alone. -/
theorem map
    (reports : ReportsFirst step faults)
    (change : α → β) :
    ReportsFirst (step.map change) faults := by
  intro fault
  rw [← reports fault]
  cases step with
  | error _ => simp [Except.map]
  | ok _ => simp [Except.map]

end ReportsFirst

end AdventureArchive
