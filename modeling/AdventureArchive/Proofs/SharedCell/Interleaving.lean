import AdventureArchive.Proofs.SharedCell.Phases

namespace AdventureArchive

/-!
# Interleaved reads of a shared cell

Any number of readers may read a shared cell at once.  They are told apart from
readers that take turns by nothing they get, the initializer is started once at
most, and what the cell has come to it stays (`Readers.settlesOnce_of_runs`).
-/

namespace Readers

variable {ι α : Type} {once : OnceCell ι α}

/-- The phase that a cell and its readers are in. -/
inductive InPhase (readers : Readers once) : ReadPhase α → Prop where
  | unread {initializer} :
      readers.value? = none →
      readers.initializer? = some initializer →
      (∀ reader, readers.caller? = some reader → readers.stage reader = .entered) →
      InPhase readers (.unread initializer)
  | taken {initializer reader} :
      readers.value? = none →
      readers.initializer? = none →
      readers.caller? = some reader →
      readers.stage reader = .holding (some initializer) →
      InPhase readers (.taken initializer)
  | started {initializer reader} :
      readers.value? = none →
      readers.initializer? = none →
      readers.caller? = some reader →
      readers.stage reader = .running initializer →
      InPhase readers (.started initializer)
  | filled {value} :
      readers.value? = some value →
      readers.caller? = none →
      InPhase readers (.filled value)
  | poisoned :
      readers.value? = none →
      readers.initializer? = none →
      (∀ reader, readers.caller? = some reader →
        readers.stage reader = .entered ∨ readers.stage reader = .holding none) →
      InPhase readers .poisoned

/-- Readers start in the phase of the cell. -/
theorem inPhase_start (origin : SharedCell α) :
    InPhase (start once origin) (.ofCell origin) := by
  rcases origin with ⟨published?, initializer?, starts⟩
  match published?, initializer? with
  | some value, _ => exact .filled (once.value?_filled value) (once.caller?_filled value)
  | none, some _ =>
      refine .unread once.value?_empty rfl fun reader entered => ?_
      exact absurd (once.caller?_empty.symm.trans entered) nofun
  | none, none =>
      refine .poisoned once.value?_empty rfl fun reader entered => ?_
      exact absurd (once.caller?_empty.symm.trans entered) nofun

section

variable
  {readers next : Readers once}
  {phase : ReadPhase α}
  {event? : Option (ReadEvent ι α)}

/-- The value that everyone sees tells the phase. -/
theorem InPhase.value?_eq (inPhase : InPhase readers phase) : readers.value? = phase.value? := by
  cases inPhase with
  | filled found _ => exact found
  | unread empty | taken empty | started empty | poisoned empty => exact empty

/-- Where the initializer has been taken out it has not been started. -/
theorem InPhase.eq_taken
    (inPhase : InPhase readers phase)
    {reader : ι}
    {initializer : Initializer α}
    (entered : readers.caller? = some reader)
    (isHolding : readers.stage reader = .holding (some initializer)) :
    phase = .taken initializer := by
  cases inPhase <;> grind

/-- Where there was none to take out the cell is poisoned. -/
theorem InPhase.eq_poisoned
    (inPhase : InPhase readers phase)
    {reader : ι}
    (entered : readers.caller? = some reader)
    (isHolding : readers.stage reader = .holding none) :
    phase = .poisoned := by
  cases inPhase <;> grind

/-- Where the initializer is running it has been started. -/
theorem InPhase.eq_started
    (inPhase : InPhase readers phase)
    {reader : ι}
    {initializer : Initializer α}
    (entered : readers.caller? = some reader)
    (isRunning : readers.stage reader = .running initializer) :
    phase = .started initializer := by
  cases inPhase <;> grind

variable [DecidableEq ι]

/-- What readers do outside is of no effect on the phase. -/
theorem InPhase.move_outside
    (inPhase : InPhase readers phase)
    {reader : ι}
    (outside : readers.caller? ≠ some reader)
    (stage : ReadStage α) :
    InPhase (readers.move reader stage) phase := by
  have unmoved {other : ι} (entered : readers.caller? = some other) :
      (readers.move reader stage).stage other = readers.stage other :=
    stage_move_of_ne fun same => outside (same ▸ entered)
  cases inPhase with
  | unread empty present allEntered =>
      exact .unread empty present fun other entered =>
        (unmoved entered).trans (allEntered other entered)
  | taken empty absent entered isHolding =>
      exact .taken empty absent entered ((unmoved entered).trans isHolding)
  | started empty absent entered isRunning =>
      exact .started empty absent entered ((unmoved entered).trans isRunning)
  | filled found nobody => exact .filled found nobody
  | poisoned empty absent noneHolding =>
      refine .poisoned empty absent fun other entered => ?_
      rw [unmoved entered]
      exact noneHolding other entered

/-- Whoever enters finds the initializer or finds it gone. -/
theorem InPhase.enter
    (inPhase : InPhase readers phase)
    {reader : ι}
    {cell : once.State}
    (enters : once.Enters readers.cell reader cell) :
    InPhase ({ readers with cell := cell }.move reader .entered) phase := by
  obtain ⟨⟨wasEmpty, nobody⟩, empty, isCaller⟩ := once.of_enters enters
  have onlyEntered :
      ∀ other, once.caller? cell = some other →
        ({ readers with cell := cell }.move reader .entered).stage other = .entered := by
    intro other isOther
    obtain rfl : reader = other := Option.some.inj (isCaller.symm.trans isOther)
    exact stage_move_self
  cases inPhase with
  | unread _ present _ => exact .unread empty present onlyEntered
  | poisoned _ absent _ =>
      exact .poisoned empty absent fun other isOther => Or.inl (onlyEntered other isOther)
  | taken _ _ someone _ | started _ _ someone _ =>
      exact absurd (nobody.symm.trans someone) nofun
  | filled found _ => exact absurd (wasEmpty.symm.trans found) nofun

/-- Whoever has entered takes out the initializer, if it is still there. -/
theorem InPhase.take
    (inPhase : InPhase readers phase)
    {reader : ι}
    (isCaller : readers.caller? = some reader)
    (isEntered : readers.stage reader = .entered) :
    ∃ nextPhase, ReadPhase.Step (ι := ι) phase none nextPhase ∧
      InPhase
        ({ readers with initializer? := none }.move reader (.holding readers.initializer?))
        nextPhase := by
  cases inPhase with
  | unread empty present _ =>
      exact ⟨_, .take, .taken empty rfl isCaller (present ▸ stage_move_self)⟩
  | poisoned empty absent _ =>
      refine ⟨_, .rest, .poisoned empty rfl fun other isOther => Or.inr ?_⟩
      obtain rfl : reader = other := Option.some.inj (isCaller.symm.trans isOther)
      exact absent ▸ stage_move_self
  | taken _ _ someone isThere | started _ _ someone isThere =>
      obtain rfl := Option.some.inj (isCaller.symm.trans someone)
      exact absurd (isEntered.symm.trans isThere) nofun
  | filled _ nobody => exact absurd (nobody.symm.trans isCaller) nofun

/-- Each step of a reader is one that the phase allows. -/
theorem InPhase.step
    (oneInside : OneInside readers)
    (inPhase : InPhase readers phase)
    (step : Step readers event? next) :
    ∃ nextPhase, ReadPhase.Step phase event? nextPhase ∧ InPhase next nextPhase := by
  have isCaller
      {reader : ι} {stage : ReadStage α} (isThere : readers.stage reader = stage)
      (inside : stage.Inside) :
      readers.caller? = some reader :=
    (oneInside reader).mp (isThere ▸ inside)
  have notCaller
      {reader : ι} {stage : ReadStage α} (isThere : readers.stage reader = stage)
      (outside : ¬ stage.Inside) :
      readers.caller? ≠ some reader :=
    fun called => outside (isThere ▸ (oneInside reader).mpr called)
  have nobodyHolds
      {cell : once.State} (nobody : once.caller? cell = none) {property : ι → Prop} :
      ∀ other, once.caller? cell = some other → property other :=
    fun _ someone => absurd (nobody.symm.trans someone) nofun
  cases step with
  | ask _ isIdle => exact ⟨phase, .rest, inPhase.move_outside (notCaller isIdle id) _⟩
  | find _ isAsking found =>
      rw [inPhase.value?_eq] at found
      obtain rfl := ReadPhase.eq_filled_of_value? found
      exact ⟨_, .find, inPhase.move_outside (notCaller isAsking id) _⟩
  | enter _ _ enters => exact ⟨phase, .rest, inPhase.enter enters⟩
  | take _ isEntered => exact inPhase.take (isCaller isEntered trivial) isEntered
  | start _ isHolding =>
      obtain rfl := inPhase.eq_taken (isCaller isHolding trivial) isHolding
      cases inPhase with
      | taken empty absent _ _ =>
          exact ⟨_, .start, .started empty absent (isCaller isHolding trivial) stage_move_self⟩
  | fill _ isRunning fills =>
      obtain rfl := inPhase.eq_started (isCaller isRunning trivial) isRunning
      obtain ⟨found, nobody⟩ := once.of_fills fills
      exact ⟨_, .fill, .filled found nobody⟩
  | breakDown _ isRunning leaves =>
      obtain rfl := inPhase.eq_started (isCaller isRunning trivial) isRunning
      obtain ⟨empty, nobody⟩ := once.of_leaves leaves
      cases inPhase with
      | started _ absent _ _ =>
          exact ⟨_, .breakDown, .poisoned empty absent (nobodyHolds nobody)⟩
  | refuse _ isHolding leaves =>
      obtain rfl := inPhase.eq_poisoned (isCaller isHolding trivial) isHolding
      obtain ⟨empty, nobody⟩ := once.of_leaves leaves
      cases inPhase with
      | poisoned _ absent _ => exact ⟨_, .refuse, .poisoned empty absent (nobodyHolds nobody)⟩
  | peek _ _ => exact ⟨phase, inPhase.value?_eq ▸ .peek, inPhase⟩
  | check _ _ => exact ⟨phase, inPhase.value?_eq ▸ .check, inPhase⟩

/-- Each run is one that the phases allow. -/
theorem InPhase.run
    {last : Readers once}
    {history : List (ReadEvent ι α)}
    (oneInside : OneInside readers)
    (inPhase : InPhase readers phase)
    (run : Run readers history last) :
    ∃ lastPhase, Trace ReadPhase.Step phase history lastPhase ∧
      OneInside last ∧ InPhase last lastPhase := by
  refine run.simulate (fun readers phase => OneInside readers ∧ InPhase readers phase)
    ?_ ⟨oneInside, inPhase⟩
  rintro readers phase event? next ⟨oneInside, inPhase⟩ step
  obtain ⟨nextPhase, phaseStep, inNextPhase⟩ := inPhase.step oneInside step
  exact ⟨nextPhase, phaseStep, oneInside.step step, inNextPhase⟩

end

/-! ## All runs -/

variable [DecidableEq ι]

/--
What is true of readers that have come from `origin` to `mid` and on to `last`,
whatever they have done.  The initializer is started once at most, and not at all
if there is a value from the start; a read that gets a value gets the one that a
lone reader would get, and all together get what they would if they took turns.
A value that is there stays.  After the initializer has broken down there will be
none: whatever read ends then is told that the cell is poisoned, and each read
that has begun can come to that end.
-/
structure SettlesOnce
    (origin : SharedCell α)
    (before : List (ReadEvent ι α))
    (mid : Readers once)
    (after : List (ReadEvent ι α))
    (last : Readers once) : Prop where
  starts_le_one : startsOf (before ++ after) ≤ 1
  starts_eq_zero : origin.isInitialized → startsOf (before ++ after) = 0
  values :
    ∀ reader value, .got reader (.ok value) ∈ before ++ after → origin.get.1 = .ok value
  outcomes :
    outcomesOf (before ++ after) =
      (origin.getMany (outcomesOf (before ++ after)).length).1
  filled :
    ∀ value, mid.value? = some value →
      last.value? = some value ∧ ∀ event ∈ after, event.Agrees (.ok value)
  poisoned :
    ∀ reader reason, .got reader (.error (.broken reason)) ∈ before →
      last.value? = none ∧ (∀ event ∈ after, event.Agrees (.error .poisoned)) ∧
        ∀ waiting, last.stage waiting ≠ .idle →
          ∃ later final, Run last later final ∧ .got waiting (.error .poisoned) ∈ later
  finishes : ∀ reader, last.stage reader ≠ .idle → CanFinish last reader

/-- Whatever any number of readers do in whatever order, a shared cell settles once. -/
theorem settlesOnce_of_runs
    {origin : SharedCell α}
    {before after : List (ReadEvent ι α)}
    {mid last : Readers once}
    (run : Run (start once origin) before mid)
    (continued : Run mid after last) :
    SettlesOnce origin before mid after last := by
  obtain ⟨midPhase, beforeTrace, oneInsideMid, inMidPhase⟩ :=
    InPhase.run (oneInside_start origin) (inPhase_start origin) run
  obtain ⟨lastPhase, afterTrace, oneInsideLast, inLastPhase⟩ :=
    InPhase.run oneInsideMid inMidPhase continued
  have whole := beforeTrace.append afterTrace
  have starts := ReadPhase.pendingStarts_of_trace whole
  have outcomes := ((ReadPhase.fits_ofCell origin).trace whole).1
  constructor
  case starts_le_one =>
    have pending := ReadPhase.pendingStarts_le_one (.ofCell origin)
    omega
  case starts_eq_zero =>
    intro initialized
    rw [ReadPhase.pendingStarts_ofCell initialized] at starts
    exact Nat.eq_zero_of_add_eq_zero_right starts
  case values =>
    intro reader value got
    have inOutcomes : .ok value ∈ outcomesOf (before ++ after) :=
      List.mem_filterMap.mpr ⟨_, got, rfl⟩
    rw [outcomes] at inOutcomes
    exact SharedCell.get_eq_ok_of_mem_getMany inOutcomes
  case outcomes => exact outcomes
  case filled =>
    intro value found
    rw [inMidPhase.value?_eq] at found
    obtain rfl := ReadPhase.eq_filled_of_value? found
    obtain ⟨rfl, agrees⟩ := ReadPhase.settled_of_trace rfl afterTrace
    exact ⟨inLastPhase.value?_eq, agrees⟩
  case poisoned =>
    intro reader reason broke
    obtain rfl := ReadPhase.poisoned_of_trace beforeTrace broke
    obtain ⟨rfl, agrees⟩ := ReadPhase.settled_of_trace rfl afterTrace
    refine ⟨inLastPhase.value?_eq, agrees, fun waiting isReading => ?_⟩
    obtain ⟨outcome, later, final, finalRun, ends⟩ := canFinish oneInsideLast isReading
    obtain ⟨_, laterTrace, -⟩ := InPhase.run oneInsideLast inLastPhase finalRun
    obtain ⟨-, laterAgrees⟩ := ReadPhase.settled_of_trace rfl laterTrace
    obtain rfl : outcome = .error .poisoned := laterAgrees _ ends
    exact ⟨later, final, finalRun, ends⟩
  case finishes => exact fun _ isReading => canFinish oneInsideLast isReading

/-- A cell whose initializer breaks down. -/
def corruptCell : SharedCell Nat := .ofInitializer (.breaks "corrupt")

/-- What is noticed of the reader that runs into the fault. -/
def firstRead : List (ReadEvent Bool Nat) :=
  [.started false, .got false (.error (.broken "corrupt"))]

/-- What is noticed of the reader that has asked in the meantime. -/
def waitingRead : List (ReadEvent Bool Nat) :=
  [.got true (.error .poisoned), .checked true false]

/-- Two readers come to a cell whose initializer breaks down. -/
theorem settlesOnce_corruptCell :
    ∃ mid last : Readers (OnceCell.plain Bool Nat),
      Run (start _ corruptCell) firstRead mid ∧
        Run mid waitingRead last ∧
        SettlesOnce corruptCell firstRead mid waitingRead last := by
  suffices runs :
      ∃ mid last : Readers (OnceCell.plain Bool Nat),
        Run (start _ corruptCell) firstRead mid ∧ Run mid waitingRead last by
    obtain ⟨mid, last, run, continued⟩ := runs
    exact ⟨mid, last, run, continued, settlesOnce_of_runs run continued⟩
  exact ⟨_, _,
    .silent (.ask false rfl) <| .silent (.enter false rfl ⟨rfl, rfl⟩) <|
      .silent (.ask true rfl) <| .silent (.take false rfl) <|
      .noticed (.start false rfl) <| .noticed (.breakDown false rfl ⟨rfl, rfl⟩) .refl,
    .silent (.enter true rfl ⟨rfl, rfl⟩) <| .silent (.take true rfl) <|
      .noticed (.refuse true rfl ⟨rfl, rfl⟩) <| .noticed (.check true rfl) .refl⟩

end Readers

end AdventureArchive
