import Mathlib.Data.List.Forall2

/-!
# Chains of steps that can fail

A chain of steps comes to a result exactly when every step does, each with the
results of the ones before it.
-/

namespace Except

variable {ε δ α β γ : Type}

/-- A step and what follows it succeed together. -/
theorem bind_eq_ok_iff
    {step : Except ε α}
    {next : α → Except ε β}
    {result : β} :
    (step >>= next) = .ok result ↔
      ∃ value, step = .ok value ∧ next value = .ok result := by
  cases step with
  | error fault => simp [bind, Except.bind]
  | ok value => simp [bind, Except.bind]

/-- The fault of a step that fails. -/
def fault? : Except ε α → Option ε
  | .error fault => some fault
  | .ok _ => none

theorem fault?_eq_some_iff
    {step : Except ε α}
    {fault : ε} :
    step.fault? = some fault ↔ step = .error fault := by
  cases step with
  | error found => simp [fault?]
  | ok value => simp [fault?]

@[simp] theorem ok_bind
    (value : α)
    (next : α → Except ε β) :
    ((.ok value : Except ε α) >>= next) = next value :=
  rfl

/-- A step that is found to succeed has a result. -/
theorem exists_of_isOk
    {step : Except ε α}
    (succeeds : step.isOk = true) :
    ∃ value, step = .ok value := by
  cases step with
  | error fault => contradiction
  | ok value => exact ⟨value, rfl⟩

/-- Naming a fault differently does not change a success. -/
theorem mapError_eq_ok_iff
    {step : Except ε α}
    {explain : ε → δ}
    {value : α} :
    step.mapError explain = .ok value ↔ step = .ok value := by
  cases step with
  | error fault => simp [Except.mapError]
  | ok found => simp [Except.mapError]

/-- Different faults stay different under different names. -/
theorem mapError_inj
    {explain : ε → δ}
    (injective : Function.Injective explain)
    {step other : Except ε α} :
    step.mapError explain = other.mapError explain ↔ step = other := by
  cases step <;> cases other <;> simp [Except.mapError, injective.eq_iff]

/-- Changing the value of a success does not make one. -/
theorem map_eq_ok_iff
    {step : Except ε α}
    {change : α → β}
    {result : β} :
    step.map change = .ok result ↔ ∃ value, step = .ok value ∧ change value = result := by
  cases step with
  | error fault => simp [Except.map]
  | ok value => simp [Except.map]

/-- Changing the value of a success does not change a fault. -/
theorem map_eq_error_iff
    {step : Except ε α}
    {change : α → β}
    {fault : ε} :
    step.map change = .error fault ↔ step = .error fault := by
  cases step with
  | error found => simp [Except.map]
  | ok value => simp [Except.map]

/-- Two changes of the value of a success are one. -/
theorem map_map
    (step : Except ε α)
    (change : α → β)
    (later : β → γ) :
    (step.map change).map later = step.map fun value => later (change value) := by
  cases step with
  | error fault => rfl
  | ok value => rfl

/-- A step for each item of a list: all of them succeed, with the values in order. -/
theorem mapM_eq_ok_iff
    {step : α → Except ε β}
    {items : List α}
    {values : List β} :
    items.mapM step = .ok values ↔ items.map step = values.map .ok := by
  induction items generalizing values with
  | nil => simp [pure, Except.pure, eq_comm]
  | cons item rest inductionHypothesis =>
      rw [List.mapM_cons, bind_eq_ok_iff]
      constructor
      · rintro ⟨value, stepped, remaining⟩
        obtain ⟨others, restStepped, same⟩ := bind_eq_ok_iff.mp remaining
        obtain rfl : value :: others = values := Except.ok.inj same
        rw [List.map_cons, List.map_cons, stepped, inductionHypothesis.mp restStepped]
      · intro stepped
        cases values with
        | nil => contradiction
        | cons value others =>
            rw [List.map_cons, List.map_cons, List.cons.injEq] at stepped
            refine ⟨value, stepped.1, ?_⟩
            rw [inductionHypothesis.mpr stepped.2]
            rfl

/-- What holds of each item and its result holds along the list. -/
theorem forall₂_of_mapM
    {step : α → Except ε β}
    {items : List α}
    {values : List β}
    (stepped : items.mapM step = .ok values)
    {related : α → β → Prop}
    (relates : ∀ {item value}, step item = .ok value → related item value) :
    List.Forall₂ related items values := by
  rw [mapM_eq_ok_iff] at stepped
  induction items generalizing values with
  | nil =>
      obtain rfl := List.map_eq_nil_iff.mp stepped.symm
      exact List.Forall₂.nil
  | cons item rest inductionHypothesis =>
      cases values with
      | nil => contradiction
      | cons value others =>
          rw [List.map_cons, List.map_cons, List.cons.injEq] at stepped
          exact List.Forall₂.cons (relates stepped.1) (inductionHypothesis stepped.2)

/-- Items and results that agree one by one agree as lists. -/
theorem map_eq_map_of_mapM
    {step : α → Except ε β}
    {items : List α}
    {values : List β}
    (stepped : items.mapM step = .ok values)
    {first : α → γ}
    {second : β → γ}
    (same : ∀ {item value}, step item = .ok value → first item = second value) :
    items.map first = values.map second := by
  rw [← List.forall₂_eq_eq_eq, List.forall₂_map_left_iff, List.forall₂_map_right_iff]
  exact forall₂_of_mapM stepped same

/-- Steps that all succeed have a list of results. -/
theorem exists_mapM_eq_ok
    {step : α → Except ε β}
    {items : List α}
    (succeeds : ∀ item ∈ items, ∃ value, step item = .ok value) :
    ∃ values, items.mapM step = .ok values := by
  induction items with
  | nil => exact ⟨[], rfl⟩
  | cons item rest inductionHypothesis =>
      obtain ⟨⟨value, stepped⟩, restSucceeds⟩ := List.forall_mem_cons.mp succeeds
      obtain ⟨values, restStepped⟩ := inductionHypothesis restSucceeds
      refine ⟨value :: values, ?_⟩
      rw [List.mapM_cons, stepped, ok_bind, restStepped]
      rfl

/-- If all steps succeed, so does each of them. -/
theorem exists_of_mapM
    {step : α → Except ε β}
    {items : List α}
    {values : List β}
    (stepped : items.mapM step = .ok values)
    {item : α}
    (member : item ∈ items) :
    ∃ value, step item = .ok value := by
  have inResults : step item ∈ values.map .ok :=
    mapM_eq_ok_iff.mp stepped ▸ List.mem_map_of_mem member
  obtain ⟨value, -, valueShape⟩ := List.mem_map.mp inResults
  exact ⟨value, valueShape.symm⟩

/-- Steps for some of the items come to values, those for the others to nothing. -/
theorem exists_filterMap_of_forall₂
    {step : α → Except ε (Option β)}
    {keep : α → Bool}
    {items : List α}
    {values : List β}
    (kept : List.Forall₂ (fun item value => step item = .ok (some value))
      (items.filter keep) values)
    (dropped : ∀ item ∈ items, keep item = false → step item = .ok none) :
    ∃ values?, items.mapM step = .ok values? ∧ values?.filterMap id = values := by
  induction items generalizing values with
  | nil =>
      cases kept
      exact ⟨[], rfl, rfl⟩
  | cons item rest inductionHypothesis =>
      obtain ⟨itemDropped, restDropped⟩ := List.forall_mem_cons.mp dropped
      cases keeps : keep item with
      | true =>
          rw [List.filter_cons_of_pos keeps] at kept
          obtain ⟨value, others, stepped, restKept, rfl⟩ := List.forall₂_cons_left_iff.mp kept
          obtain ⟨values?, restStepped, rfl⟩ := inductionHypothesis restKept restDropped
          refine ⟨some value :: values?, ?_, rfl⟩
          rw [List.mapM_cons, stepped, ok_bind, restStepped]
          rfl
      | false =>
          rw [List.filter_cons_of_neg (by simp [keeps])] at kept
          obtain ⟨values?, restStepped, rfl⟩ := inductionHypothesis kept restDropped
          refine ⟨none :: values?, ?_, rfl⟩
          rw [List.mapM_cons, itemDropped keeps, ok_bind, restStepped]
          rfl

/-- Steps that can only fail in one way fail in that way, if at all. -/
theorem mapM_cases
    {step : α → Except ε β}
    {fault : ε}
    {cause : Prop}
    {items : List α}
    (each : ∀ item ∈ items,
      (∃ value, step item = .ok value) ∨ step item = .error fault ∧ cause) :
    (∃ values, items.mapM step = .ok values) ∨ items.mapM step = .error fault ∧ cause := by
  induction items with
  | nil => exact Or.inl ⟨[], rfl⟩
  | cons item rest inductionHypothesis =>
      obtain ⟨first, remaining⟩ := List.forall_mem_cons.mp each
      rw [List.mapM_cons]
      rcases first with ⟨value, stepped⟩ | ⟨failed, caused⟩
      · rcases inductionHypothesis remaining with ⟨values, restStepped⟩ | ⟨failed, caused⟩
        · left
          refine ⟨value :: values, ?_⟩
          rw [stepped, ok_bind, restStepped]
          rfl
        · right
          rw [stepped, ok_bind, failed]
          exact ⟨rfl, caused⟩
      · right
        rw [failed]
        exact ⟨rfl, caused⟩

/-- A chain of steps is seen as another one if each of its steps is. -/
theorem foldlM_view
    {step : β → α → Except ε β}
    {seen : γ → α → Except ε γ}
    {view : β → γ}
    (same : ∀ state item, seen (view state) item = (step state item).map view)
    (items : List α)
    (state : β) :
    items.foldlM seen (view state) = (items.foldlM step state).map view := by
  induction items generalizing state with
  | nil => rfl
  | cons item rest inductionHypothesis =>
      rw [List.foldlM_cons, List.foldlM_cons, same]
      cases step state item with
      | error fault => rfl
      | ok next => exact inductionHypothesis next

end Except
