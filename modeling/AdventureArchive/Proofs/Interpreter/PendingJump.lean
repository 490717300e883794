import AdventureArchive.Proofs.Interpreter.Reached
import AdventureArchive.Proofs.Interpreter.Registers

namespace AdventureArchive

/-!
# Pending jumps

A jump that has been set is open until a script returns to it or another program
is switched to.  `openJump?` tells it from what has happened, and the pending
jump of an interpreter is the open one whatever has happened
(`Interpreter.Reached.pendingJump?_eq`).  So a script returns only where it has
been told to, and once for each time (`Registers.takesOpenJumps_after`).
-/

/-! ## Open jumps -/

/-- The target of a jump that has been set. -/
def Event.jump? : Event → Option UInt32
  | .jumpSet target => some target
  | _ => none

/-- What has happened since the last switch and since a script has last returned. -/
def sinceReturn (history : List Event) : List Event :=
  (sinceSwitch history).rtakeWhile fun event => event.target?.isNone

/-- The jump that has been set last since then. -/
def openJump? (history : List Event) : Option UInt32 :=
  ((sinceReturn history).filterMap Event.jump?).getLast?

/-- Whether every script that has returned has returned to the jump that was open. -/
def ReturnsToOpenJumps (history : List Event) : Prop :=
  ∀ earlier instruction target later,
    history = earlier ++ .executed instruction (.ok (.returned target)) :: later →
      openJump? earlier = some target

section Histories

variable {history : List Event}

/-- A switch drops the open jump. -/
theorem openJump?_switched (id : UInt16) : openJump? (history ++ [.switched id]) = none := by
  rw [openJump?, sinceReturn, sinceSwitch_switched]
  rfl

/-- Only what has been executed returns. -/
theorem Event.eq_executed_of_target?
    {event : Event}
    {target : UInt32}
    (returned : event.target? = some target) :
    ∃ instruction, event = .executed instruction (.ok (.returned target)) := by
  unfold Event.target? at returned
  split at returned
  next instruction found =>
    obtain rfl := Option.some.inj returned
    exact ⟨instruction, rfl⟩
  next => contradiction

/-- A return closes the open jump. -/
theorem openJump?_returned
    {event : Event}
    {target : UInt32}
    (returned : event.target? = some target) :
    openJump? (history ++ [event]) = none := by
  obtain ⟨instruction, rfl⟩ := Event.eq_executed_of_target? returned
  rw [openJump?, sinceReturn, sinceSwitch_append rfl,
    List.rtakeWhile_concat_neg _ _ _ (by simp [returned])]
  rfl

/-- A jump that is set is open; all else leaves the open jump as it is. -/
theorem openJump?_append
    {event : Event}
    (noSwitch : event.isSwitch = false)
    (noReturn : event.target? = none) :
    openJump? (history ++ [event]) = event.jump?.or (openJump? history) := by
  rw [openJump?, sinceReturn, sinceSwitch_append noSwitch,
    List.rtakeWhile_concat_pos _ _ _ (by simp [noReturn]), List.filterMap_append]
  cases jump : event.jump? with
  | none => simp [jump, openJump?, sinceReturn]
  | some target => simp [jump]

/-- All returns are to open jumps if the last one is and all before it are. -/
theorem returnsToOpenJumps_append_iff {event : Event} :
    ReturnsToOpenJumps (history ++ [event]) ↔
      ReturnsToOpenJumps history ∧
        ∀ target, event.target? = some target → openJump? history = some target := by
  constructor
  · intro returns
    constructor
    · intro earlier instruction target later split
      apply returns earlier instruction target (later ++ [event])
      rw [split, List.append_assoc, List.cons_append]
    · intro target returned
      obtain ⟨instruction, rfl⟩ := Event.eq_executed_of_target? returned
      exact returns history instruction target [] rfl
  · rintro ⟨returns, lastReturns⟩ earlier instruction target later split
    rcases List.eq_nil_or_concat later with rfl | ⟨before, last, rfl⟩
    · obtain ⟨rfl, rfl⟩ := List.append_singleton_inj.mp split
      exact lastReturns target rfl
    · rw [List.concat_eq_append, ← List.cons_append, ← List.append_assoc] at split
      obtain ⟨sameHistory, -⟩ := List.append_singleton_inj.mp split
      exact returns earlier instruction target before sameHistory

/-- An item adds what is collected from it. -/
theorem length_filterMap_concat
    {α β : Type}
    (collect : α → Option β)
    (items : List α)
    (item : α) :
    ((items ++ [item]).filterMap collect).length =
      (items.filterMap collect).length + (collect item).toList.length := by
  rw [List.filterMap_append, List.length_append]
  cases found : collect item with
  | none => rw [List.filterMap_cons_none found, List.filterMap_nil, Option.toList_none]
  | some value => rw [List.filterMap_cons_some found, List.filterMap_nil, Option.toList_some]

/-- Scripts have not returned more often than jumps have been set; an open one is left over. -/
theorem ReturnsToOpenJumps.count_le (returns : ReturnsToOpenJumps history) :
    (history.filterMap Event.target?).length + (openJump? history).toList.length ≤
      (history.filterMap Event.jump?).length := by
  induction history using List.reverseRecOn with
  | nil => exact Nat.le_refl 0
  | append_singleton earlier event inductionHypothesis =>
      obtain ⟨earlierReturns, lastReturns⟩ := returnsToOpenJumps_append_iff.mp returns
      have counted := inductionHypothesis earlierReturns
      rw [length_filterMap_concat, length_filterMap_concat]
      cases event with
      | switched id =>
          rw [openJump?_switched]
          exact Nat.le_trans (Nat.le_add_right _ _) counted
      | jumpSet target =>
          rw [openJump?_append rfl rfl]
          exact Nat.succ_le_succ (Nat.le_trans (Nat.le_add_right _ _) counted)
      | executed instruction result =>
          cases returned : (Event.executed instruction result).target? with
          | none =>
              rw [openJump?_append rfl returned]
              exact counted
          | some target =>
              rw [openJump?_returned returned]
              rw [lastReturns target returned] at counted
              exact counted

end Histories

/-! ## Pending jumps -/

/-- The jump that is pending in the script that is or was stepped through last. -/
def Activity.pendingJump? (activity : Activity) : Option UInt32 :=
  activity.script?.bind ActiveScript.pendingJump?

section Steps

variable
  {history : List Event}
  {before after : Activity}
  {result : Except InterpreterError StepOutcome}

/-- A script that goes on behind an instruction has not returned. -/
theorem ActiveScript.outcome_ne_returned
    (script : ActiveScript)
    (instruction : Instruction)
    (offset target : UInt32) :
    script.outcome instruction offset ≠ .returned target := by
  unfold outcome
  split <;> nofun

/-- A step returns to the open jump and to no other. -/
theorem openJump?_of_stepOf
    (did : StepOf before result after)
    (pending : before.pendingJump? = openJump? history)
    {target : UInt32}
    (returned : result = .ok (.returned target)) :
    openJump? history = some target := by
  cases did with
  | returned current found =>
      obtain rfl := StepOutcome.returned.inj (Except.ok.inj returned)
      exact pending.symm.trans found
  | moved => exact absurd (Except.ok.inj returned) (ActiveScript.outcome_ne_returned _ _ _ _)
  | _ => contradiction

/-- A script that returns has come to its end. -/
theorem stepEvents_of_stepOf
    (did : StepOf before result after)
    {target : UInt32}
    (returned : result = .ok (.returned target)) :
    before.stepEvents result = [.executed .stopScript (.ok (.returned target))] := by
  cases did with
  | returned current found =>
      rw [Activity.stepEvents_of_current current, returned]
  | moved => exact absurd (Except.ok.inj returned) (ActiveScript.outcome_ne_returned _ _ _ _)
  | _ => contradiction

/-- What a step leaves pending is the jump that is open after it. -/
theorem pendingJump?_of_stepOf
    (did : StepOf before result after)
    (pending : before.pendingJump? = openJump? history) :
    after.pendingJump? = openJump? (history ++ before.stepEvents result) := by
  cases did with
  | idle => simpa [Activity.stepEvents] using pending
  | ended => simpa [Activity.stepEvents] using pending
  | lost nothingThere =>
      rw [Activity.stepEvents_of_lost nothingThere, List.append_nil]
      exact pending
  | returned current found =>
      rw [Activity.stepEvents_of_current current, openJump?_returned rfl]
      rfl
  | stopped current notPending =>
      rw [Activity.stepEvents_of_current current, openJump?_append rfl rfl]
      exact pending
  | overflowed current literal noSlot =>
      rw [Activity.stepEvents_of_current current, openJump?_append rfl rfl]
      exact pending
  | @moved script fetched instruction offset current notStop fetches next =>
      have noReturn :
          (Event.executed instruction (.ok (script.outcome instruction offset))).target? =
            none := by
        unfold ActiveScript.outcome
        split <;> rfl
      rw [Activity.stepEvents_of_current current, openJump?_append rfl noReturn,
        ActiveScript.eq_of_fetches fetches]
      exact pending
  | finished current notStop fetches last =>
      rw [Activity.stepEvents_of_current current, openJump?_append rfl rfl,
        ActiveScript.eq_of_fetches fetches]
      exact pending

/-- A step adds no return but to the open jump. -/
theorem returnsToOpenJumps_of_stepOf
    (did : StepOf before result after)
    (pending : before.pendingJump? = openJump? history)
    (returns : ReturnsToOpenJumps history) :
    ReturnsToOpenJumps (history ++ before.stepEvents result) := by
  unfold Activity.stepEvents
  split
  next script =>
    cases script.instruction? with
    | none => simpa using returns
    | some instruction =>
        rw [Option.map_some, Option.toList_some]
        refine returnsToOpenJumps_append_iff.mpr ⟨returns, fun target isReturn => ?_⟩
        obtain ⟨_, same⟩ := Event.eq_executed_of_target? isReturn
        exact openJump?_of_stepOf did pending (Event.executed.inj same).2
  next => simpa using returns

end Steps

namespace Interpreter

/-- A jump that has been set is pending. -/
theorem pendingJump?_of_setPendingJump
    {interpreter next : Interpreter}
    {target : UInt32}
    (succeeds : interpreter.setPendingJump target = (.ok (), next)) :
    next.activity.pendingJump? = some target := by
  unfold setPendingJump at succeeds
  split at succeeds
  next => simp at succeeds
  next =>
    obtain rfl := (Prod.mk.inj succeeds).2
    rfl
  next =>
    obtain rfl := (Prod.mk.inj succeeds).2
    rfl

/-- Whatever has happened, what is pending is the open jump, and returns were to open jumps. -/
theorem Reached.pendingJump?_eq
    {database : Database}
    {stackCapacity : Nat}
    {history : List Event}
    {interpreter : Interpreter}
    (reached : Reached database stackCapacity history interpreter) :
    interpreter.activity.pendingJump? = openJump? history ∧ ReturnsToOpenJumps history := by
  induction reached with
  | start => exact ⟨rfl, by simp [ReturnsToOpenJumps]⟩
  | switched _ succeeds inductionHypothesis =>
      obtain ⟨program, offset, rfl⟩ := eq_of_switchProgram succeeds
      rw [openJump?_switched]
      exact ⟨rfl, returnsToOpenJumps_append_iff.mpr ⟨inductionHypothesis.2, nofun⟩⟩
  | jumpSet _ succeeds inductionHypothesis =>
      rw [pendingJump?_of_setPendingJump succeeds, openJump?_append rfl rfl]
      exact ⟨rfl, returnsToOpenJumps_append_iff.mpr ⟨inductionHypothesis.2, nofun⟩⟩
  | @stepped _ interpreter _ inductionHypothesis =>
      obtain ⟨pending, returns⟩ := inductionHypothesis
      exact ⟨pendingJump?_of_stepOf interpreter.stepOf_step pending,
        returnsToOpenJumps_of_stepOf interpreter.stepOf_step pending returns⟩

end Interpreter

/-! ## Sessions -/

namespace Registers

/-- The jump that is pending in the state, if there is one. -/
def pendingJump? (registers : Registers) : Option UInt32 :=
  registers.state?.bind ProgramState.pendingJump?

/--
What holds of jumps in a session.  The pending jump is the one that is open, all
returns were to open jumps, and there were no more of them than jumps that have
been set.  At the end of a script an open jump is taken, and only where none is
open the script ends.
-/
structure TakesOpenJumps (session : Session) (registers : Registers) : Prop where
  pending : registers.pendingJump? = openJump? session.history
  returns : ReturnsToOpenJumps session.history
  count :
    (session.history.filterMap Event.target?).length ≤
      (session.history.filterMap Event.jump?).length
  returned :
    ∀ target, registers.step.1 = .ok (.returned target) →
      openJump? session.history = some target ∧
        registers.step.2.pendingJump? = none ∧
        (session.perform .step).history =
          session.history ++ [.executed .stopScript (.ok (.returned target))]
  resumed :
    registers.status = .running → registers.currentInstruction? = some .stopScript →
      ∀ target, openJump? session.history = some target →
        registers.step.1 = .ok (.returned target) ∧ registers.step.2.status = .running
  ended :
    registers.status = .running → registers.currentInstruction? = some .stopScript →
      openJump? session.history = none →
        ∃ state, registers.state? = some state ∧
          registers.step.1 = .error (.endOfScript state.program) ∧
          registers.step.2.status = .terminated

variable {interpreter : Interpreter}

theorem pendingJump?_registers (interpreter : Interpreter) :
    interpreter.registers.pendingJump? = interpreter.activity.pendingJump? := by
  rw [pendingJump?, Interpreter.registers, Activity.pendingJump?, Option.bind_map]
  rfl

/-- A running script whose current instruction ends it is stopped. -/
theorem step_of_stopScript
    (running : interpreter.registers.status = .running)
    (current : interpreter.registers.currentInstruction? = some .stopScript) :
    ∃ script, interpreter.activity = .running script ∧
      interpreter.registers.step =
        ((interpreter.stop script).1, (interpreter.stop script).2.registers) := by
  obtain ⟨script, doing⟩ := exists_running_of_status running
  rw [currentInstruction?_registers, Interpreter.currentInstruction?, doing] at current
  have stopped : interpreter.step = interpreter.stop script := by
    have found : script.instruction? = some .stopScript := current
    simp only [Interpreter.step, doing, found]
    rfl
  exact ⟨script, doing, by rw [step_registers, stopped]⟩

/-- In every session scripts return where they have been told to, and once for each time. -/
theorem takesOpenJumps_after
    (database : Database)
    (stackCapacity : Nat)
    (commands : List Command) :
    TakesOpenJumps (Session.after database stackCapacity commands)
      (Registers.after database stackCapacity commands) := by
  obtain ⟨pending, returns⟩ :=
    (Session.reached_after database stackCapacity commands).pendingJump?_eq
  rw [after_eq]
  generalize Session.after database stackCapacity commands = session at pending returns
  constructor
  case pending => rw [pendingJump?_registers, pending]
  case returns => exact returns
  case count => exact Nat.le_trans (Nat.le_add_right _ _) returns.count_le
  case returned =>
    intro target returned
    rw [step_registers] at returned ⊢
    have did := session.interpreter.stepOf_step
    have happened := stepEvents_of_stepOf did returned
    have leftPending := pendingJump?_of_stepOf did pending
    rw [happened, openJump?_returned rfl] at leftPending
    refine ⟨openJump?_of_stepOf did pending returned, ?_, congrArg (_ ++ ·) happened⟩
    rw [pendingJump?_registers, leftPending]
  case resumed =>
    intro running current target isOpen
    obtain ⟨script, doing, stopped⟩ := step_of_stopScript running current
    rw [doing, isOpen] at pending
    have found : script.pendingJump? = some target := pending
    rw [stopped, Interpreter.stop, found]
    exact ⟨rfl, rfl⟩
  case ended =>
    intro running current noneOpen
    obtain ⟨script, doing, stopped⟩ := step_of_stopScript running current
    rw [doing, noneOpen] at pending
    have found : script.pendingJump? = none := pending
    rw [stopped, Interpreter.stop, found]
    refine ⟨script.state, ?_, rfl, rfl⟩
    rw [Interpreter.registers, doing]
    rfl

/-- A program that fetches a literal and stops, alone in its database. -/
def repeatableDatabase : Database :=
  { Database.empty with
    programs := ResourceTable.empty.insert 1
      { Program.empty with
        instructions := SortedMap.ofList [(0, .pushByte 5), (2, .stopScript)] } }

/-- Of two jumps that have been set only the second is taken, and then the script ends. -/
theorem takesOpenJumps_repeatable :
    let commands := [.switchProgram 1, .setPendingJump 7, .setPendingJump 0, .switchProgram 9]
    let session := Session.after repeatableDatabase 4 (commands ++ [.step, .step, .step])
    let registers := Registers.after repeatableDatabase 4 (commands ++ [.step, .step, .step])
    (Registers.after repeatableDatabase 4 (commands ++ [.step])).step.1 = .ok (.returned 0) ∧
      session.history.filterMap Event.target? = [0] ∧
      session.history.filterMap Event.jump? = [7, 0] ∧
      registers.step.2.status = .terminated := by
  have resumed :=
    (takesOpenJumps_after repeatableDatabase 4
      [.switchProgram 1, .setPendingJump 7, .setPendingJump 0, .switchProgram 9, .step]).resumed
      (by decide +kernel) (by decide +kernel) 0 (by decide +kernel)
  obtain ⟨-, -, -, ended⟩ :=
    (takesOpenJumps_after repeatableDatabase 4
      [.switchProgram 1, .setPendingJump 7, .setPendingJump 0, .switchProgram 9, .step, .step,
        .step]).ended
      (by decide +kernel) (by decide +kernel) (by decide +kernel)
  exact ⟨resumed.1, by decide +kernel, by decide +kernel, ended⟩

end Registers

end AdventureArchive
