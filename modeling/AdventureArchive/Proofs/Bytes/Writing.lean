import AdventureArchive.Bytes.LayoutLaws

namespace AdventureArchive

/-!
# Writing to a buffer

A stored form is written to the end of a buffer field by field, and a check that
fails ends the writing there.  A writing whose checks all come before its first
field either appends a whole stored form or leaves the buffer as it was
(`Writing.Writes`).  That is seen by following its steps: the checks
(`Writing.Writes.check`), the fields (`Writing.writes_field`), and what is written
behind what (`Writing.Writes.andThen`), for each item of a list
(`Writing.writes_forM`) or where there is something (`Writing.writes_optional`).
-/

/-- Steps that append to a buffer or fail; what has been appended by then stays there. -/
abbrev Writing (ε : Type) := ExceptT ε (StateM (List UInt8))

namespace Writing

variable {α ε : Type}

/-- Appends bytes. -/
def bytes (added : List UInt8) : Writing ε Unit :=
  modify fun buffer => buffer ++ added

/-- Appends the stored form of a field. -/
def field [Layout α] (value : α) : Writing ε Unit :=
  bytes (Layout.write value)

/-- Writes what is there. -/
def optional (write : α → Writing ε Unit) : Option α → Writing ε Unit
  | some value => write value
  | none => pure ()

/-- Goes on with what has been checked, if the check has not failed. -/
def check (checked : Except ε α) : Writing ε α :=
  liftExcept checked

/-- The outcome of a writing, and the buffer it leaves behind. -/
def result (writing : Writing ε Unit) (buffer : List UInt8) : Except ε Unit × List UInt8 :=
  writing.run.run buffer

/-- A writing that appends an encoded form, or fails and leaves the buffer alone. -/
def Writes (writing : Writing ε Unit) (encoded : Except ε (List UInt8)) : Prop :=
  ∀ buffer,
    writing.result buffer =
      match encoded with
      | .ok added => (.ok (), buffer ++ added)
      | .error fault => (.error fault, buffer)

theorem writes_bytes (added : List UInt8) : (bytes added : Writing ε Unit).Writes (.ok added) :=
  fun _ => rfl

theorem writes_field [Layout α] (value : α) :
    (field value : Writing ε Unit).Writes (.ok (Layout.write value)) :=
  writes_bytes _

theorem writes_nothing : (pure () : Writing ε Unit).Writes (.ok []) := by
  intro buffer
  dsimp only
  rw [List.append_nil]
  rfl

/-- What comes second goes on where the first has succeeded. -/
theorem result_bind
    (first second : Writing ε Unit)
    (buffer : List UInt8) :
    (first >>= fun _ => second).result buffer =
      match first.result buffer with
      | (.ok (), written) => second.result written
      | (.error fault, written) => (.error fault, written) := by
  simp only [result, ExceptT.run_bind, StateT.run_bind]
  rcases first.run.run buffer with ⟨_ | _, written⟩ <;> rfl

namespace Writes

variable {first second : Writing ε Unit} {added more : List UInt8}

/-- What is written behind something else stands behind it. -/
theorem andThen
    (firstWrites : first.Writes (.ok added))
    (secondWrites : second.Writes (.ok more)) :
    (first >>= fun _ => second).Writes (.ok (added ++ more)) := by
  intro buffer
  rw [result_bind, firstWrites buffer]
  dsimp only
  rw [secondWrites (buffer ++ added)]
  dsimp only
  rw [List.append_assoc]

/-- A check that fails keeps everything behind it from being written. -/
theorem check
    {checked : Except ε α}
    {next : α → Writing ε Unit}
    {encoded : α → Except ε (List UInt8)}
    (remaining : ∀ value, (next value).Writes (encoded value)) :
    (Writing.check checked >>= next).Writes (checked >>= encoded) := by
  cases checked with
  | error fault => exact fun _ => rfl
  | ok value => exact remaining value

end Writes

/-- What is written for each item of a list stands one behind the other. -/
theorem writes_forM
    {write : α → Writing ε Unit}
    {form : α → List UInt8}
    (each : ∀ item, (write item).Writes (.ok (form item)))
    (items : List α) :
    (items.forM write).Writes (.ok (items.flatMap form)) := by
  induction items with
  | nil => exact writes_nothing
  | cons item rest inductionHypothesis => exact (each item).andThen inductionHypothesis

/-- Nothing is written for what is not there. -/
theorem writes_optional
    {write : α → Writing ε Unit}
    {form : α → List UInt8}
    (each : ∀ value, (write value).Writes (.ok (form value)))
    (value? : Option α) :
    (optional write value?).Writes (.ok (value?.elim [] form)) := by
  cases value? with
  | none => exact writes_nothing
  | some value => exact each value

/-- A writing of a form that exists appends it to whatever has been written before. -/
theorem Writes.result_eq
    {writing : Writing ε Unit}
    {encoded : Except ε (List UInt8)}
    {added : List UInt8}
    (writes : writing.Writes encoded)
    (succeeds : encoded = .ok added)
    (buffer : List UInt8) :
    writing.result buffer = (.ok (), buffer ++ added) := by
  rw [writes buffer, succeeds]

end Writing

end AdventureArchive
