import AdventureArchive.Proofs.SharedCell.Readers

namespace AdventureArchive

/-!
# What becomes of a shared cell

Whatever its readers do, a shared cell goes from phase to phase: its initializer
is taken out, started, and then the cell is filled for good or poisoned for good
(`ReadPhase`).  Each step of a reader is one that the phase allows
(`Readers.InPhase.step`), so what is said of all runs is proved of the phases.
-/

/-- What has become of an initializer. -/
inductive ReadPhase (α : Type) where
  | unread (initializer : Initializer α)
  | taken (initializer : Initializer α)
  | started (initializer : Initializer α)
  | filled (value : α)
  | poisoned
  deriving Repr, DecidableEq

variable {ι α : Type}

namespace ReadEvent

/-- Whether an initializer is started. -/
def isStart : ReadEvent ι α → Bool
  | .started _ => true
  | _ => false

/-- What a read that ends comes to. -/
def outcome? : ReadEvent ι α → Option (Except ReadFault α)
  | .got _ outcome => some outcome
  | _ => none

/-- Whether something noticed is as it has to be once all reads come to the same. -/
def Agrees (settled : Except ReadFault α) : ReadEvent ι α → Prop
  | .started _ => False
  | .got _ outcome => outcome = settled
  | .peeked _ value? => value? = settled.toOption
  | .checked _ answer => answer = settled.toOption.isSome

end ReadEvent

/-- How often an initializer is started. -/
def startsOf (history : List (ReadEvent ι α)) : Nat :=
  history.countP ReadEvent.isStart

/-- What the reads come to, in the order in which they end. -/
def outcomesOf (history : List (ReadEvent ι α)) : List (Except ReadFault α) :=
  history.filterMap ReadEvent.outcome?

/-! ## Reads one after the other -/

namespace SharedCell

variable {cell : SharedCell α} {value : α}

/-- A cell that gives its value goes on to give it, and a cell that does not never will. -/
theorem get_get_eq_ok_iff : cell.get.2.get.1 = .ok value ↔ cell.get.1 = .ok value := by
  rcases cell with ⟨published?, initializer?, starts⟩
  match published?, initializer? with
  | some _, _ => rfl
  | none, some (.returns _) => rfl
  | none, some (.breaks _) => exact iff_of_false nofun nofun
  | none, none => rfl

/-- One read and then some more. -/
theorem getMany_succ
    (cell : SharedCell α)
    (count : Nat) :
    cell.getMany (count + 1) =
      (cell.get.1 :: (cell.get.2.getMany count).1, (cell.get.2.getMany count).2) :=
  rfl

/-- Some reads and then some more. -/
theorem getMany_add
    (cell : SharedCell α)
    (count more : Nat) :
    cell.getMany (count + more) =
      ((cell.getMany count).1 ++ ((cell.getMany count).2.getMany more).1,
        ((cell.getMany count).2.getMany more).2) := by
  induction count generalizing cell with
  | zero => rw [Nat.zero_add]; rfl
  | succ count inductionHypothesis =>
      rw [Nat.succ_add, getMany_succ, getMany_succ, inductionHypothesis, List.cons_append]

/-- What any read gives the first one gives. -/
theorem get_eq_ok_of_mem_getMany
    {count : Nat}
    (given : .ok value ∈ (cell.getMany count).1) :
    cell.get.1 = .ok value := by
  induction count generalizing cell with
  | zero => exact absurd given List.not_mem_nil
  | succ count inductionHypothesis =>
      rcases List.mem_cons.mp given with first | other
      · exact first.symm
      · exact get_get_eq_ok_iff.mp (inductionHypothesis other)

end SharedCell

namespace ReadPhase

/-- The value that everyone sees. -/
def value? : ReadPhase α → Option α
  | .filled value => some value
  | _ => none

/-- Only a filled cell has a value. -/
theorem eq_filled_of_value?
    {phase : ReadPhase α}
    {value : α}
    (found : phase.value? = some value) :
    phase = .filled value := by
  cases phase with
  | filled _ => exact congrArg filled (Option.some.inj found)
  | _ => contradiction

/-- How often the initializer will yet be started at most. -/
def pendingStarts : ReadPhase α → Nat
  | .unread _ | .taken _ => 1
  | _ => 0

/-- What all reads come to from now on. -/
def settled? : ReadPhase α → Option (Except ReadFault α)
  | .filled value => some (.ok value)
  | .poisoned => some (.error .poisoned)
  | _ => none

/-- The phase of a cell that nobody is reading. -/
def ofCell (cell : SharedCell α) : ReadPhase α :=
  match cell.published?, cell.initializer? with
  | some value, _ => .filled value
  | none, some initializer => .unread initializer
  | none, none => .poisoned

/-- An initializer is started once at most. -/
theorem pendingStarts_le_one (phase : ReadPhase α) : phase.pendingStarts ≤ 1 := by
  cases phase with
  | unread _ | taken _ => exact Nat.le_refl 1
  | _ => exact Nat.zero_le 1

/-- With a value from the start nothing is started. -/
theorem pendingStarts_ofCell
    {cell : SharedCell α}
    (initialized : cell.isInitialized) :
    (ofCell cell).pendingStarts = 0 := by
  rcases cell with ⟨published?, initializer?, starts⟩
  cases published? with
  | none => contradiction
  | some _ => rfl

/-- What may happen in a phase. -/
inductive Step : ReadPhase α → Option (ReadEvent ι α) → ReadPhase α → Prop where
  | rest {phase} : Step phase none phase
  | peek {phase reader} : Step phase (some (.peeked reader phase.value?)) phase
  | check {phase reader} : Step phase (some (.checked reader phase.value?.isSome)) phase
  | take {initializer} : Step (.unread initializer) none (.taken initializer)
  | start {initializer reader} :
      Step (.taken initializer) (some (.started reader)) (.started initializer)
  | fill {value} : Step (.started (.returns value)) none (.filled value)
  | breakDown {reason reader} :
      Step (.started (.breaks reason)) (some (.got reader (.error (.broken reason)))) .poisoned
  | find {value reader} :
      Step (.filled value) (some (.got reader (.ok value))) (.filled value)
  | refuse {reader} : Step .poisoned (some (.got reader (.error .poisoned))) .poisoned

/-! ## What is noticed of the phases -/

section

variable
  {phase next last : ReadPhase α}
  {event? : Option (ReadEvent ι α)}
  {history : List (ReadEvent ι α)}
  {outcome : Except ReadFault α}

/-- An initializer is started only where it has not been started. -/
theorem pendingStarts_of_step (step : Step phase event? next) :
    startsOf event?.toList + next.pendingStarts = phase.pendingStarts := by
  cases step with
  | rest | peek | check => exact Nat.zero_add _
  | _ => rfl

/-- All starts together. -/
theorem pendingStarts_of_trace (trace : Trace Step phase history last) :
    startsOf history + last.pendingStarts = phase.pendingStarts := by
  induction trace with
  | refl => exact Nat.zero_add _
  | step step _ inductionHypothesis =>
      have here := pendingStarts_of_step step
      simp only [startsOf, List.countP_append] at here inductionHypothesis ⊢
      omega

/-- A phase in which all reads come to the same is left by no step. -/
theorem settled_of_step
    (settled : phase.settled? = some outcome)
    (step : Step phase event? next) :
    next = phase ∧ ∀ event ∈ event?, event.Agrees outcome := by
  cases step with
  | rest => exact ⟨rfl, nofun⟩
  | peek | check =>
      cases phase with
      | filled _ | poisoned =>
          obtain rfl := Option.some.inj settled
          exact ⟨rfl, fun _ member => Option.some.inj member ▸ rfl⟩
      | _ => contradiction
  | find | refuse =>
      obtain rfl := Option.some.inj settled
      exact ⟨rfl, fun _ member => Option.some.inj member ▸ rfl⟩
  | take | start | fill | breakDown => contradiction

/-- So it stays, whatever happens. -/
theorem settled_of_trace
    (settled : phase.settled? = some outcome)
    (trace : Trace Step phase history last) :
    last = phase ∧ ∀ event ∈ history, event.Agrees outcome := by
  induction trace with
  | refl => exact ⟨rfl, List.forall_mem_nil _⟩
  | step step _ inductionHypothesis =>
      obtain ⟨rfl, agrees⟩ := settled_of_step settled step
      obtain ⟨rfl, restAgrees⟩ := inductionHypothesis settled
      refine ⟨rfl, List.forall_mem_append.mpr ⟨?_, restAgrees⟩⟩
      exact fun event member => agrees event (Option.mem_toList.mp member)

/-- After an initializer has broken down its cell is poisoned. -/
theorem poisoned_of_trace
    (trace : Trace Step phase history last)
    {reader : ι}
    {reason : String}
    (broke : .got reader (.error (.broken reason)) ∈ history) :
    last = .poisoned := by
  induction trace with
  | refl => exact absurd broke List.not_mem_nil
  | step step rest inductionHypothesis =>
      rcases List.mem_append.mp broke with now | later
      · cases step with
        | breakDown => exact (settled_of_trace rfl rest).1
        | _ => simp at now
      · exact inductionHypothesis later

/-! ## What the reads come to -/

/-- Whether a phase can be that of a cell which as many reads as have ended have left. -/
def Fits (cell : SharedCell α) : ReadPhase α → Prop
  | .unread initializer | .taken initializer | .started initializer =>
      cell.published? = none ∧ cell.initializer? = some initializer
  | .filled value => cell.get.1 = .ok value
  | .poisoned => cell.published? = none ∧ cell.initializer? = none

variable {cell : SharedCell α}

/-- The phase of a cell that nobody is reading fits it. -/
theorem fits_ofCell (cell : SharedCell α) : (ofCell cell).Fits cell := by
  rcases cell with ⟨published?, initializer?, starts⟩
  match published?, initializer? with
  | some _, _ => rfl
  | none, some _ => exact ⟨rfl, rfl⟩
  | none, none => exact ⟨rfl, rfl⟩

/-- A read that ends comes to what it would come to if the reads had been one after the other. -/
theorem Fits.step
    (fits : phase.Fits cell)
    (step : Step phase event? next) :
    outcomesOf event?.toList = (cell.getMany (outcomesOf event?.toList).length).1 ∧
      next.Fits (cell.getMany (outcomesOf event?.toList).length).2 := by
  cases step with
  | rest | peek | check | take | start => exact ⟨rfl, fits⟩
  | fill =>
      refine ⟨rfl, ?_⟩
      change cell.get.1 = _
      rw [SharedCell.get, fits.1, fits.2]
  | find =>
      exact ⟨congrArg (· :: []) fits.symm, SharedCell.get_get_eq_ok_iff.mpr fits⟩
  | breakDown =>
      change [_] = [cell.get.1] ∧ Fits cell.get.2 _
      rw [SharedCell.get, fits.1, fits.2]
      exact ⟨rfl, rfl, rfl⟩
  | refuse =>
      change [_] = [cell.get.1] ∧ Fits cell.get.2 _
      rw [SharedCell.get, fits.1, fits.2]
      exact ⟨rfl, fits⟩

/-- All reads come to what they would come to one after the other. -/
theorem Fits.trace
    (fits : phase.Fits cell)
    (trace : Trace Step phase history last) :
    outcomesOf history = (cell.getMany (outcomesOf history).length).1 ∧
      last.Fits (cell.getMany (outcomesOf history).length).2 := by
  induction trace generalizing cell with
  | refl => exact ⟨rfl, fits⟩
  | step step _ inductionHypothesis =>
      obtain ⟨here, fitsNext⟩ := fits.step step
      obtain ⟨there, fitsLast⟩ := inductionHypothesis fitsNext
      simp only [outcomesOf, List.filterMap_append, List.length_append,
        SharedCell.getMany_add] at here there fitsLast ⊢
      rw [← here, ← there]
      exact ⟨rfl, fitsLast⟩

end

end ReadPhase

end AdventureArchive
