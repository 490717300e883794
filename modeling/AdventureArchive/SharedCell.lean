import AdventureArchive.Text.Quoted

namespace AdventureArchive

/-!
# Cells filled by their first reader

A shared cell holds an initializer that its first reader runs.  If the
initializer returns, its value is published and every reader sees it.  If it
breaks down, the cell stays empty, its initializer is gone, and later readers
are told that the cell is poisoned.  The cell counts how often an initializer
was started.
-/

/-- What running an initializer does. -/
inductive Initializer (α : Type) where
  | returns (value : α)
  | breaks (reason : String)
  deriving Repr, DecidableEq

/-- Why a reader got no value. -/
inductive ReadFault where
  | broken (reason : String)
  | poisoned
  deriving Repr, DecidableEq

/-- The wording of a read fault. -/
def ReadFault.message : ReadFault → String
  | .broken reason => reason
  | .poisoned => "LazyResource instance has previously been poisoned"

/-- A published value or the initializer that will produce it. -/
structure SharedCell (α : Type) where
  published? : Option α
  initializer? : Option (Initializer α)
  starts : Nat
  deriving Repr, DecidableEq

namespace SharedCell

variable {α : Type}

/-- A cell whose first reader runs the initializer. -/
def ofInitializer (initializer : Initializer α) : SharedCell α :=
  ⟨none, some initializer, 0⟩

/-- A cell that has its value from the start. -/
def ofValue (value : α) : SharedCell α :=
  ⟨some value, none, 0⟩

/-- Whether a value has been published. -/
def isInitialized (cell : SharedCell α) : Bool :=
  cell.published?.isSome

/-- One reader's access: what it gets, and the cell it leaves behind. -/
def get (cell : SharedCell α) : Except ReadFault α × SharedCell α :=
  match cell.published? with
  | some value => (.ok value, cell)
  | none =>
      match cell.initializer? with
      | some (.returns value) =>
          (.ok value, ⟨some value, none, cell.starts + 1⟩)
      | some (.breaks reason) =>
          (.error (.broken reason), ⟨none, none, cell.starts + 1⟩)
      | none => (.error .poisoned, cell)

/-- Several readers' accesses, in the order in which they get the cell. -/
def getMany : Nat → SharedCell α → List (Except ReadFault α) × SharedCell α
  | 0, cell => ([], cell)
  | count + 1, cell =>
      let (first, afterFirst) := cell.get
      let (others, last) := afterFirst.getMany count
      (first :: others, last)

/-- A one-line description of a cell that holds a text. -/
def description (cell : SharedCell String) : String :=
  match cell.published? with
  | some text => "LazyResource(" ++ quotedText text ++ ")"
  | none => "LazyResource(<pending>)"

end SharedCell

end AdventureArchive
