import Mathlib.Logic.Function.Basic
import AdventureArchive.SharedCell

namespace AdventureArchive

/-!
# Readers of a shared cell

`SharedCell.get` reads a cell while nobody else does.  Here any number of readers
take the steps of their reads in any order (`Readers.Run`); what a step changes is
seen by all of them at once.  Underneath is a cell that is filled once, of which
no more is known than its users may rely on (`OnceCell`): a reader that finds it
empty enters it, takes the initializer out, runs it, and leaves the cell filled or
as it was.

Only the reader that has entered is ever at the initializer (`OneInside`), and no
read gets stuck (`Readers.canFinish`).
-/

/-! ## Traces -/

/-- Steps one after the other, and what can be noticed of them in their order. -/
inductive Trace {σ ε : Type} (step : σ → Option ε → σ → Prop) : σ → List ε → σ → Prop where
  | refl {state} : Trace step state [] state
  | step {state event? next history last} :
      step state event? next →
      Trace step next history last →
      Trace step state (event?.toList ++ history) last

namespace Trace

variable
  {σ τ ε : Type}
  {step : σ → Option ε → σ → Prop}
  {otherStep : τ → Option ε → τ → Prop}
  {state mid last : σ}
  {history later : List ε}

/-- A step of which nothing is noticed. -/
theorem silent
    {next : σ}
    (stepped : step state none next)
    (trace : Trace step next history last) :
    Trace step state history last :=
  .step stepped trace

/-- A step of which something is noticed. -/
theorem noticed
    {next : σ}
    {event : ε}
    (stepped : step state (some event) next)
    (trace : Trace step next history last) :
    Trace step state (event :: history) last :=
  .step stepped trace

/-- A trace goes on where another one has come to. -/
theorem append
    (trace : Trace step state history mid)
    (continued : Trace step mid later last) :
    Trace step state (history ++ later) last := by
  induction trace with
  | refl => exact continued
  | step step _ inductionHypothesis =>
      rw [List.append_assoc]
      exact .step step (inductionHypothesis continued)

/-- If each step is matched by one of another system, so is a trace. -/
theorem simulate
    (related : σ → τ → Prop)
    (matched :
      ∀ {state other event? next}, related state other → step state event? next →
        ∃ otherNext, otherStep other event? otherNext ∧ related next otherNext)
    (trace : Trace step state history last)
    {other : τ}
    (here : related state other) :
    ∃ otherLast, Trace otherStep other history otherLast ∧ related last otherLast := by
  induction trace generalizing other with
  | refl => exact ⟨other, .refl, here⟩
  | step stepped _ inductionHypothesis =>
      obtain ⟨otherNext, otherStepped, there⟩ := matched here stepped
      obtain ⟨otherLast, otherTrace, relatedLast⟩ := inductionHypothesis there
      exact ⟨otherLast, .step otherStepped otherTrace, relatedLast⟩

end Trace

/-! ## Cells and readers -/

/--
A cell that is filled once.  One caller at a time runs what is to fill it, and
only while it is empty.  If that returns, its value is there for everyone; if it
breaks down, the cell is empty as before, and whoever waits may try.
-/
structure OnceCell (ι α : Type) where
  State : Type
  empty : State
  filled : α → State
  value? : State → Option α
  caller? : State → Option ι
  Enters : State → ι → State → Prop
  Fills : State → ι → α → State → Prop
  Leaves : State → ι → State → Prop
  value?_empty : value? empty = none
  caller?_empty : caller? empty = none
  value?_filled : ∀ value, value? (filled value) = some value
  caller?_filled : ∀ value, caller? (filled value) = none
  of_enters : ∀ {before caller after}, Enters before caller after →
    (value? before = none ∧ caller? before = none) ∧
      value? after = none ∧ caller? after = some caller
  of_fills : ∀ {before caller value after}, Fills before caller value after →
    value? after = some value ∧ caller? after = none
  of_leaves : ∀ {before caller after}, Leaves before caller after →
    value? after = none ∧ caller? after = none
  exists_enters : ∀ {before} caller, value? before = none → caller? before = none →
    ∃ after, Enters before caller after
  exists_fills : ∀ {before caller} value, caller? before = some caller →
    ∃ after, Fills before caller value after
  exists_leaves : ∀ {before caller}, caller? before = some caller →
    ∃ after, Leaves before caller after

/-- What may be in a cell that is filled once. -/
inductive OnceState (ι α : Type) where
  | empty
  | entered (caller : ι)
  | filled (value : α)
  deriving Repr, DecidableEq

/-- The cell that is in one of these states. -/
def OnceCell.plain (ι α : Type) : OnceCell ι α where
  State := OnceState ι α
  empty := .empty
  filled := .filled
  value?
    | .filled value => some value
    | _ => none
  caller?
    | .entered caller => some caller
    | _ => none
  Enters before caller after := before = .empty ∧ after = .entered caller
  Fills before caller value after := before = .entered caller ∧ after = .filled value
  Leaves before caller after := before = .entered caller ∧ after = .empty
  value?_empty := rfl
  caller?_empty := rfl
  value?_filled _ := rfl
  caller?_filled _ := rfl
  of_enters := by
    rintro _ caller _ ⟨rfl, rfl⟩
    exact ⟨⟨rfl, rfl⟩, rfl, rfl⟩
  of_fills := by
    rintro _ caller value _ ⟨-, rfl⟩
    exact ⟨rfl, rfl⟩
  of_leaves := by
    rintro _ caller _ ⟨-, rfl⟩
    exact ⟨rfl, rfl⟩
  exists_enters {before} caller noValue nobody :=
    match before with
    | .empty => ⟨_, rfl, rfl⟩
  exists_fills {before caller} value entered :=
    match before with
    | .entered _ => ⟨_, congrArg _ (Option.some.inj entered), rfl⟩
  exists_leaves {before caller} entered :=
    match before with
    | .entered _ => ⟨_, congrArg _ (Option.some.inj entered), rfl⟩

/-- How far a reader is with its read. -/
inductive ReadStage (α : Type) where
  | idle
  | asking
  | entered
  | holding (initializer? : Option (Initializer α))
  | running (initializer : Initializer α)
  deriving Repr, DecidableEq

/-- Whether a reader has entered the cell. -/
def ReadStage.Inside {α : Type} : ReadStage α → Prop
  | .idle | .asking => False
  | .entered | .holding _ | .running _ => True

/-- What can be noticed of the steps of readers. -/
inductive ReadEvent (ι α : Type) where
  | started (reader : ι)
  | got (reader : ι) (outcome : Except ReadFault α)
  | peeked (reader : ι) (value? : Option α)
  | checked (reader : ι) (answer : Bool)

variable {ι α : Type}

/-- A cell, the initializer beside it, and how far each of its readers is. -/
structure Readers (once : OnceCell ι α) where
  cell : once.State
  initializer? : Option (Initializer α)
  stage : ι → ReadStage α

namespace Readers

variable {once : OnceCell ι α}

/-- The value that everyone sees. -/
def value? (readers : Readers once) : Option α :=
  once.value? readers.cell

/-- The reader that has entered. -/
def caller? (readers : Readers once) : Option ι :=
  once.caller? readers.cell

/-- Readers about to read a cell that nobody has read so far. -/
def start (once : OnceCell ι α) (origin : SharedCell α) : Readers once where
  cell :=
    match origin.published? with
    | some value => once.filled value
    | none => once.empty
  initializer? := origin.initializer?
  stage _ := .idle

variable [DecidableEq ι]

/-- One reader goes on to another stage. -/
def move (readers : Readers once) (reader : ι) (stage : ReadStage α) : Readers once :=
  { readers with stage := Function.update readers.stage reader stage }

section

variable
  {readers : Readers once}
  {reader : ι}
  {stage : ReadStage α}

@[simp] theorem stage_move_self : (readers.move reader stage).stage reader = stage :=
  Function.update_self ..

theorem stage_move_of_ne
    {other : ι}
    (different : other ≠ reader) :
    (readers.move reader stage).stage other = readers.stage other :=
  Function.update_of_ne different ..

end

/--
The steps of a reader and what can be noticed of them.  The lock of the
initializer is held for the one step in which the initializer is taken out.
-/
inductive Step : Readers once → Option (ReadEvent ι α) → Readers once → Prop where
  | ask {readers} (reader) :
      readers.stage reader = .idle →
      Step readers none (readers.move reader .asking)
  | find {readers} (reader) {value} :
      readers.stage reader = .asking →
      readers.value? = some value →
      Step readers (some (.got reader (.ok value))) (readers.move reader .idle)
  | enter {readers} (reader) {cell} :
      readers.stage reader = .asking →
      once.Enters readers.cell reader cell →
      Step readers none ({ readers with cell := cell }.move reader .entered)
  | take {readers} (reader) :
      readers.stage reader = .entered →
      Step readers none
        ({ readers with initializer? := none }.move reader (.holding readers.initializer?))
  | start {readers} (reader) {initializer} :
      readers.stage reader = .holding (some initializer) →
      Step readers (some (.started reader)) (readers.move reader (.running initializer))
  | fill {readers} (reader) {value cell} :
      readers.stage reader = .running (.returns value) →
      once.Fills readers.cell reader value cell →
      Step readers none ({ readers with cell := cell }.move reader .asking)
  | breakDown {readers} (reader) {reason cell} :
      readers.stage reader = .running (.breaks reason) →
      once.Leaves readers.cell reader cell →
      Step readers (some (.got reader (.error (.broken reason))))
        ({ readers with cell := cell }.move reader .idle)
  | refuse {readers} (reader) {cell} :
      readers.stage reader = .holding none →
      once.Leaves readers.cell reader cell →
      Step readers (some (.got reader (.error .poisoned)))
        ({ readers with cell := cell }.move reader .idle)
  | peek {readers} (reader) :
      readers.stage reader = .idle →
      Step readers (some (.peeked reader readers.value?)) readers
  | check {readers} (reader) :
      readers.stage reader = .idle →
      Step readers (some (.checked reader readers.value?.isSome)) readers

/-- What readers do from one moment to another, in any order, and what can be noticed of it. -/
abbrev Run : Readers once → List (ReadEvent ι α) → Readers once → Prop :=
  Trace Step

/-! ## One reader inside -/

/-- The readers inside are the one that the cell knows to have entered. -/
def OneInside (readers : Readers once) : Prop :=
  ∀ reader, (readers.stage reader).Inside ↔ readers.caller? = some reader

omit [DecidableEq ι] in
/-- Nobody has entered a cell that has not been read. -/
theorem oneInside_start (origin : SharedCell α) : OneInside (start once origin) := by
  intro reader
  have nobody : (start once origin).caller? = none := by
    unfold start caller?
    dsimp only
    split
    next value _ => exact once.caller?_filled value
    next => exact once.caller?_empty
  rw [nobody]
  exact iff_of_false id nofun

section

variable
  {readers next : Readers once}
  {reader : ι}
  {stage : ReadStage α}

/-- A reader may move if the cell notices no more than that it enters or leaves. -/
theorem OneInside.move
    (oneInside : OneInside readers)
    (stages : next.stage = readers.stage)
    (here : stage.Inside ↔ next.caller? = some reader)
    (elsewhere :
      ∀ other ≠ reader, next.caller? = some other ↔ readers.caller? = some other) :
    OneInside (next.move reader stage) := by
  intro other
  change ((next.move reader stage).stage other).Inside ↔ next.caller? = some other
  by_cases same : other = reader
  · subst same
    rw [stage_move_self]
    exact here
  · rw [stage_move_of_ne same, elsewhere other same, stages]
    exact oneInside other

/-- A reader goes on where it is, inside or outside. -/
theorem OneInside.stay
    (oneInside : OneInside readers)
    (stages : next.stage = readers.stage)
    (sameCaller : next.caller? = readers.caller?)
    (sameSide : stage.Inside ↔ (readers.stage reader).Inside) :
    OneInside (next.move reader stage) := by
  apply oneInside.move stages
  · rw [sameSide, sameCaller]
    exact oneInside reader
  · intro other _
    rw [sameCaller]

/-- A reader enters if nobody is inside. -/
theorem OneInside.enter
    (oneInside : OneInside readers)
    (stages : next.stage = readers.stage)
    (inside : stage.Inside)
    (nobody : readers.caller? = none)
    (entered : next.caller? = some reader) :
    OneInside (next.move reader stage) := by
  apply oneInside.move stages
  · exact iff_of_true inside entered
  · intro other different
    rw [entered, nobody]
    exact iff_of_false (fun same => different (Option.some.inj same).symm) nofun

/-- The reader that is inside leaves. -/
theorem OneInside.leave
    (oneInside : OneInside readers)
    (stages : next.stage = readers.stage)
    (wasInside : (readers.stage reader).Inside)
    (outside : ¬ stage.Inside)
    (nobody : next.caller? = none) :
    OneInside (next.move reader stage) := by
  apply oneInside.move stages
  · rw [nobody]
    exact iff_of_false outside nofun
  · intro other different
    rw [nobody, (oneInside reader).mp wasInside]
    exact iff_of_false nofun fun same => different (Option.some.inj same).symm

end

/-- Each step keeps it to one reader inside. -/
theorem OneInside.step
    {readers next : Readers once}
    {event? : Option (ReadEvent ι α)}
    (oneInside : OneInside readers)
    (step : Step readers event? next) :
    OneInside next := by
  cases step with
  | ask _ isThere | find _ isThere _ | take _ isThere | start _ isThere =>
      exact oneInside.stay rfl rfl (by rw [isThere]; exact Iff.rfl)
  | enter _ _ enters =>
      obtain ⟨⟨-, nobody⟩, -, entered⟩ := once.of_enters enters
      exact oneInside.enter rfl trivial nobody entered
  | fill _ isRunning fills =>
      exact oneInside.leave rfl (by rw [isRunning]; trivial) id (once.of_fills fills).2
  | breakDown _ isInside leaves | refuse _ isInside leaves =>
      exact oneInside.leave rfl (by rw [isInside]; trivial) id (once.of_leaves leaves).2
  | peek _ _ | check _ _ => exact oneInside

/-! ## Reads come to an end -/

/-- Whether the readers can go on so that the read of one of them ends. -/
def CanFinish (readers : Readers once) (reader : ι) : Prop :=
  ∃ outcome history last, Run readers history last ∧ .got reader outcome ∈ history

/--
Whether a reader that is inside can go on alone until nobody is: its read ends,
or there is a value for it.
-/
def CanLeave (readers : Readers once) (reader : ι) : Prop :=
  ∃ history last,
    Run readers history last ∧
      last.caller? = none ∧
      (∀ other ≠ reader, last.stage other = readers.stage other) ∧
      ((∃ outcome, .got reader outcome ∈ history) ∨
        last.stage reader = .asking ∧ ∃ value, last.value? = some value)

section

variable
  {readers mid next : Readers once}
  {reader : ι}
  {stage : ReadStage α}
  {event? : Option (ReadEvent ι α)}
  {history : List (ReadEvent ι α)}

/-- What can be finished later can be finished. -/
theorem CanFinish.after
    (canFinish : CanFinish mid reader)
    (run : Run readers history mid) :
    CanFinish readers reader := by
  obtain ⟨outcome, later, last, continued, ends⟩ := canFinish
  exact ⟨outcome, history ++ later, last, run.append continued,
    List.mem_append_right history ends⟩

/-- A step of the reader that is inside leads on. -/
theorem CanLeave.after
    (canLeave : CanLeave (next.move reader stage) reader)
    (step : Step readers event? (next.move reader stage))
    (stages : next.stage = readers.stage) :
    CanLeave readers reader := by
  obtain ⟨history, last, run, nobody, others, ends⟩ := canLeave
  refine ⟨event?.toList ++ history, last, .step step run, nobody, ?_, ?_⟩
  · intro other different
    rw [others other different, stage_move_of_ne different, stages]
  · exact ends.imp_left fun ⟨outcome, got⟩ => ⟨outcome, List.mem_append_right _ got⟩

/-- The last step of a reader inside. -/
theorem CanLeave.of_step
    (step : Step readers event? (next.move reader stage))
    (stages : next.stage = readers.stage)
    (nobody : next.caller? = none)
    (ends :
      (∃ outcome, event? = some (.got reader outcome)) ∨
        stage = .asking ∧ ∃ value, next.value? = some value) :
    CanLeave readers reader := by
  refine ⟨event?.toList ++ [], _, .step step .refl, nobody, ?_, ?_⟩
  · intro other different
    rw [stage_move_of_ne different, stages]
  · rcases ends with ⟨outcome, rfl⟩ | ⟨rfl, filled⟩
    · exact Or.inl ⟨outcome, List.mem_cons_self⟩
    · exact Or.inr ⟨stage_move_self, filled⟩

/-- A running initializer may return or break down; the reader leaves either way. -/
theorem canLeave_of_running
    {initializer : Initializer α}
    (isRunning : readers.stage reader = .running initializer)
    (entered : readers.caller? = some reader) :
    CanLeave readers reader := by
  cases initializer with
  | returns value =>
      obtain ⟨cell, fills⟩ := once.exists_fills value entered
      have ⟨filled, nobody⟩ := once.of_fills fills
      exact .of_step (.fill _ isRunning fills) rfl nobody (Or.inr ⟨rfl, value, filled⟩)
  | breaks reason =>
      obtain ⟨cell, leaves⟩ := once.exists_leaves entered
      exact .of_step (.breakDown _ isRunning leaves) rfl (once.of_leaves leaves).2
        (Or.inl ⟨_, rfl⟩)

/-- With an initializer a reader goes on to run it, without one it is refused. -/
theorem canLeave_of_holding
    {initializer? : Option (Initializer α)}
    (isHolding : readers.stage reader = .holding initializer?)
    (entered : readers.caller? = some reader) :
    CanLeave readers reader := by
  cases initializer? with
  | none =>
      obtain ⟨cell, leaves⟩ := once.exists_leaves entered
      exact .of_step (.refuse _ isHolding leaves) rfl (once.of_leaves leaves).2
        (Or.inl ⟨_, rfl⟩)
  | some initializer =>
      have canLeave : CanLeave (readers.move reader (.running initializer)) reader :=
        canLeave_of_running stage_move_self entered
      exact canLeave.after (.start _ isHolding) rfl

/-- Whoever is inside can leave. -/
theorem canLeave_of_inside
    (inside : (readers.stage reader).Inside)
    (entered : readers.caller? = some reader) :
    CanLeave readers reader := by
  match isThere : readers.stage reader with
  | .idle | .asking =>
      rw [isThere] at inside
      exact inside.elim
  | .entered =>
      have canLeave :
          CanLeave
            ({ readers with initializer? := none }.move reader (.holding readers.initializer?))
            reader :=
        canLeave_of_holding stage_move_self entered
      exact canLeave.after (.take _ isThere) rfl
  | .holding initializer? => exact canLeave_of_holding isThere entered
  | .running initializer => exact canLeave_of_running isThere entered

/-- A reader that asks where there is a value can finish. -/
theorem canFinish_of_found
    {value : α}
    (isAsking : readers.stage reader = .asking)
    (found : readers.value? = some value) :
    CanFinish readers reader :=
  ⟨.ok value, _, _, .noticed (.find _ isAsking found) .refl, List.mem_cons_self⟩

/-- A reader inside can finish. -/
theorem CanLeave.canFinish (canLeave : CanLeave readers reader) : CanFinish readers reader := by
  obtain ⟨history, last, run, -, -, ⟨outcome, ends⟩ | ⟨isAsking, value, found⟩⟩ := canLeave
  · exact ⟨outcome, history, last, run, ends⟩
  · exact (canFinish_of_found isAsking found).after run

/-- A reader that asks can finish while nobody is inside. -/
theorem canFinish_of_nobody
    (isAsking : readers.stage reader = .asking)
    (nobody : readers.caller? = none) :
    CanFinish readers reader := by
  match found : readers.value? with
  | some value => exact canFinish_of_found isAsking found
  | none =>
      obtain ⟨cell, enters⟩ := once.exists_enters reader found nobody
      have canLeave : CanLeave ({ readers with cell := cell }.move reader .entered) reader :=
        canLeave_of_inside (by rw [stage_move_self]; trivial) (once.of_enters enters).2.2
      exact canLeave.canFinish.after (.silent (.enter _ isAsking enters) .refl)

/-- No read gets stuck. -/
theorem canFinish
    (oneInside : OneInside readers)
    (isReading : readers.stage reader ≠ .idle) :
    CanFinish readers reader := by
  by_cases inside : (readers.stage reader).Inside
  · exact (canLeave_of_inside inside ((oneInside reader).mp inside)).canFinish
  have isAsking : readers.stage reader = .asking := by
    cases isThere : readers.stage reader with
    | idle => exact absurd isThere isReading
    | asking => rfl
    | _ => exact absurd (isThere ▸ trivial) inside
  -- If another reader is inside, it is let out first.
  match called : readers.caller? with
  | none => exact canFinish_of_nobody isAsking called
  | some other =>
      have otherInside : (readers.stage other).Inside := (oneInside other).mpr called
      have different : reader ≠ other := fun same => inside (same ▸ otherInside)
      obtain ⟨history, last, run, nobody, others, -⟩ := canLeave_of_inside otherInside called
      have stillAsks : last.stage reader = .asking := (others reader different).trans isAsking
      exact (canFinish_of_nobody stillAsks nobody).after run

end

end Readers

end AdventureArchive
