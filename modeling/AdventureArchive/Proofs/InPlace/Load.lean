import AdventureArchive.Archive.Codec
import AdventureArchive.Proofs.InPlace.Frame
import AdventureArchive.Proofs.InPlace.Resource

namespace AdventureArchive.InPlace

/-!
# Loading in place

The tables are cut out of the archive, and their entries are decoded each on its
own: one after the other, or divided up in any way.  A fault of an entry is kept
as its result, but a stray would end the load.  None ever does; loading in place
comes to what a load comes to (`load_never_strays`).
-/

open Archive

/-- The faults of a step become results; strays remain. -/
def settle
    {ε δ α : Type}
    (step : Except (Stop ε) α) :
    Except (Stop δ) (Except ε α) :=
  match step with
  | .ok value => .ok (.ok value)
  | .error (.fault cause) => .ok (.error cause)
  | .error (.stray what) => .error (.stray what)

@[simp] theorem settle_safely
    {ε δ α : Type}
    (step : Except ε α) :
    settle (δ := δ) (safely step) = .ok step := by
  cases step with
  | error cause => rfl
  | ok value => rfl

/-! ## Schedules -/

/-- How work on the items of a list is divided up. -/
inductive Schedule where
  | inOrder
  | fork (size : Nat) (front behind : Schedule)
  deriving Repr, DecidableEq

namespace Schedule

variable {ε α β : Type}

/--
Does a step for each item.  Neither side of a fork waits for the other; results
are in the order of the items.
-/
def run (step : α → Except ε β) : Schedule → List α → Except ε (List β)
  | .inOrder, items => items.mapM step
  | .fork size front behind, items => do
      let behindResults ← run step behind (items.drop size)
      let frontResults ← run step front (items.take size)
      return frontResults ++ behindResults

/-- Steps that all succeed have the same results in every schedule. -/
theorem run_eq_ok
    {step : α → Except ε β}
    {result : α → β}
    (succeeds : ∀ item, step item = .ok (result item))
    (schedule : Schedule)
    (items : List α) :
    schedule.run step items = .ok (items.map result) := by
  induction schedule generalizing items with
  | inOrder =>
      rw [run, Except.mapM_eq_ok_iff, List.map_map]
      exact List.map_congr_left fun item _ => succeeds item
  | fork size front behind frontHypothesis behindHypothesis =>
      rw [run, behindHypothesis, Except.ok_bind, frontHypothesis, Except.ok_bind,
        ← List.map_append, List.take_append_drop]
      rfl

end Schedule

/-! ## Tables -/

/-- Reads one entry of a table; its fault is its result. -/
def readEntry
    (registry : OpcodeRegistry)
    (kind : TableKind)
    (table : List UInt8)
    (entry : IndexEntry) :
    Except (Stop ArchiveError) (UInt16 × Except ResourceError kind.Resource) := do
  let result ← settle (entryBytes table entry >>= decode registry kind)
  return (entry.id, result)

/-- The text of a text table. -/
def readText
    (table : List UInt8)
    (index : List IndexEntry) :
    Except (Stop TextTableFault) TextBlob :=
  match index with
  | [entry] => (entryBytes table entry >>= decodeText).mapError (Stop.map .entry)
  | _ => .error (.fault (.entryCount index.length))

/-- Reads a table; a codec that is not parallel reads the entries in order. -/
def readTable
    (schedules : TableKind → Schedule)
    (codec : ArchiveCodec)
    (bytes : List UInt8)
    (span : TableSpan) :
    Except (Stop ArchiveError) TableContent := do
  let table ← cutRange bytes span.offset span.length
  let index ← readIndex span table
  match span.kind with
  | .text =>
      return .text (← (readText table index).mapError (Stop.map .malformedText))
  | .table kind =>
      let schedule := if codec.parallel then schedules kind else .inOrder
      return .resources kind (← schedule.run (readEntry codec.registry kind table) index)

/-- Reads an archive, with a schedule for each kind of table. -/
def load
    (schedules : TableKind → Schedule)
    (codec : ArchiveCodec)
    (bytes : List UInt8) :
    Except (Stop ArchiveError) LoadedArchive := do
  let spans ← readDirectory bytes
  let contents ← spans.mapM (readTable schedules codec bytes)
  return ofContents contents

/-- An entry never goes astray. -/
theorem readEntry_eq
    (registry : OpcodeRegistry)
    (kind : TableKind)
    (table : List UInt8)
    (entry : IndexEntry) :
    readEntry registry kind table entry =
      .ok (entry.id, Archive.readEntry registry kind table.toArray entry) := by
  have decoded : ∀ bytes, decode registry kind bytes = safely (kind.decode registry bytes) :=
    decode_eq registry kind
  rw [readEntry, entryBytes_eq, funext decoded, ← safely_bind, settle_safely]
  rfl

theorem readText_eq
    (table : List UInt8)
    (index : List IndexEntry) :
    readText table index = safely (Archive.readText table.toArray index) := by
  match index with
  | [] => rfl
  | [entry] =>
      rw [readText, Archive.readText, entryBytes_eq, funext decodeText_eq, ← safely_bind,
        mapError_safely]
      rfl
  | _ :: _ :: _ => rfl

/-- A table inside the archive is read in place as it is read in order. -/
theorem readTable_eq
    (schedules : TableKind → Schedule)
    (codec : ArchiveCodec)
    {bytes : List UInt8}
    {span : TableSpan}
    (inside : span.offset.toNat + span.length.toNat ≤ bytes.length) :
    readTable schedules codec bytes span =
      safely (Archive.readTable codec.registry bytes.toArray span) := by
  rw [readTable, cutRange_eq ArchiveError inside, Except.ok_bind, Archive.readTable,
    slice_toArray, readIndex_eq, safely_bind]
  refine congrArg (safely (Archive.readIndex span _) >>= ·) (funext fun index => ?_)
  cases span.kind with
  | text =>
      dsimp only
      rw [readText_eq, mapError_safely, safely_bind]
      rfl
  | table kind =>
      dsimp only
      rw [Schedule.run_eq_ok (readEntry_eq codec.registry kind _)]
      rfl

/-! ## Archives -/

/--
Loading in place finds a byte, a range or a flag wherever it looks for one, its
numbers fit 64 bits, and no branch for what has been ruled out is taken,
whatever the bytes are and however decoding is divided up.
-/
theorem load_never_strays
    (schedules : TableKind → Schedule)
    (codec : ArchiveCodec)
    (bytes : List UInt8) :
    load schedules codec bytes = safely (codec.load bytes) ∧
      ∀ what, load schedules codec bytes ≠ .error (.stray what) := by
  have same : load schedules codec bytes = safely (codec.load bytes) := by
    rw [load, readDirectory_eq, ArchiveCodec.load, load_eq_mapM]
    match directoryRead : Archive.readDirectory bytes with
    | .error fault => rfl
    | .ok spans =>
        obtain ⟨rfl, known⟩ := eq_of_readDirectory directoryRead
        -- That tables lie inside is only known because the directory has passed.
        have tablesSafe : ∀ span ∈ (directoryOf bytes).map DirectoryRecord.span,
            readTable schedules codec bytes span =
              safely (Archive.readTable codec.registry bytes.toArray span) :=
          List.forall_mem_map.mpr fun record member =>
            readTable_eq schedules codec (known record member).2
        rw [safely_ok, Except.ok_bind, Except.ok_bind, mapM_eq_safely tablesSafe]
        cases ((directoryOf bytes).map DirectoryRecord.span).mapM
            (Archive.readTable codec.registry bytes.toArray) with
        | error fault => rfl
        | ok contents => rfl
  refine ⟨same, fun what => ?_⟩
  rw [same]
  exact safely_ne_stray _ what

end AdventureArchive.InPlace
