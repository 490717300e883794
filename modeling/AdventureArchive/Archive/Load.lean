import AdventureArchive.Archive.Directory
import AdventureArchive.Database
import AdventureArchive.Log

namespace AdventureArchive

/-!
# Loading an archive

A load reads the directory and then table after table.  An entry that cannot be
read becomes a failed id of its table and a line of the report; nothing else in
its table is affected.  Faults of the frame and of the text end the load.
-/

/-- An entry that could not be read. -/
structure ResourceFailure where
  kind : ResourceKind
  id : UInt16
  message : String
  deriving Repr, DecidableEq

/-- A text whose declared length is not its length. -/
structure TextLengthWarning where
  declared : UInt32
  actual : Nat
  deriving Repr, DecidableEq

/-- The wording of a warning. -/
def TextLengthWarning.message (warning : TextLengthWarning) : String :=
  s!"text declares {warning.declared} bytes but holds {warning.actual}"

/-- What a load has to report; failures are ordered by kind and id. -/
structure LoadReport where
  failures : List ResourceFailure
  warnings : List TextLengthWarning
  deriving Repr, DecidableEq

/-- Whether there is nothing to report. -/
def LoadReport.isClean (report : LoadReport) : Bool :=
  report.failures.isEmpty && report.warnings.isEmpty

/-- The result of a load. -/
structure LoadedArchive where
  database : Database
  report : LoadReport

namespace Archive

/-- What one table holds, entries in index order. -/
inductive TableContent where
  | text (blob : TextBlob)
  | resources
      (kind : TableKind)
      (results : List (UInt16 × Except ResourceError kind.Resource))

namespace TableContent

/-- The entries that could not be read, in index order. -/
def failures : TableContent → List ResourceFailure
  | .text _ => []
  | .resources kind results =>
      results.filterMap fun result =>
        match result.2 with
        | .ok _ => none
        | .error cause => some ⟨.table kind, result.1, cause.message⟩

/-- The warnings a table gives rise to. -/
def warnings : TableContent → List TextLengthWarning
  | .text blob =>
      (blob.lengthMismatch?.map fun (declared, actual) =>
        (⟨declared, actual⟩ : TextLengthWarning)).toList
  | .resources _ _ => []

/-- Puts the content of a table into a database. -/
def enter (database : Database) : TableContent → Database
  | .text blob => { database with text? := some blob }
  | .resources kind results =>
      database.setTable kind
        ((database.table kind).enter ResourceError.message results)

/-- What is said while a table is read. -/
def log (content : TableContent) : List LogRecord :=
  match content with
  | .text _ =>
      content.warnings.map fun warning => ⟨.warn, warning.message⟩
  | .resources kind results =>
      content.failures.map (fun failure =>
        ⟨.warn, s!"{kind.name} {failure.id} failed to decode: {failure.message}"⟩) ++
      [⟨.debug, s!"decoded {results.length} {kind.name} entries " ++
        s!"({content.failures.length} failed)"⟩]

end TableContent

/-- The text of a text table, which has to have exactly one entry. -/
def readText
    (table : Array UInt8)
    (index : List IndexEntry) :
    Except TextTableFault TextBlob :=
  match index with
  | [entry] =>
      ((entryBytes table entry).bind TextBlob.decode).mapError .entry
  | _ => .error (.entryCount index.length)

/-- Reads one entry of a table. -/
def readEntry
    (registry : OpcodeRegistry)
    (kind : TableKind)
    (table : Array UInt8)
    (entry : IndexEntry) :
    Except ResourceError kind.Resource :=
  (entryBytes table entry).bind (kind.decode registry)

/-- Reads a table. -/
def readTable
    (registry : OpcodeRegistry)
    (archive : Array UInt8)
    (span : TableSpan) :
    Except ArchiveError TableContent := do
  let table := slice archive span.offset.toNat span.length.toNat
  let index ← readIndex span table.toList
  match span.kind with
  | .text => return .text (← (readText table index).mapError .malformedText)
  | .table kind =>
      return .resources kind <|
        index.map fun entry => (entry.id, readEntry registry kind table entry)

/-- Reads tables until one is at fault: the tables before it, and its fault. -/
def readTables
    (registry : OpcodeRegistry)
    (archive : Array UInt8) :
    List TableSpan → List TableContent × Option ArchiveError
  | [] => ([], none)
  | span :: rest =>
      match readTable registry archive span with
      | .error fault => ([], some fault)
      | .ok content =>
          let (contents, fault?) := readTables registry archive rest
          (content :: contents, fault?)

/-- The order of failures in a report: by kind, then by id. -/
def failureLe (first second : ResourceFailure) : Bool :=
  first.kind.code < second.kind.code ||
    (first.kind.code == second.kind.code && first.id ≤ second.id)

/-- The database and the report that some tables amount to. -/
def ofContents (contents : List TableContent) : LoadedArchive where
  database := contents.foldl TableContent.enter .empty
  report := {
    failures := (contents.flatMap TableContent.failures).mergeSort failureLe
    warnings := contents.flatMap TableContent.warnings
  }

/-- Reads an archive. -/
def load
    (registry : OpcodeRegistry)
    (bytes : List UInt8) :
    Except ArchiveError LoadedArchive := do
  let spans ← readDirectory bytes
  match readTables registry bytes.toArray spans with
  | (contents, none) => return ofContents contents
  | (_, some fault) => throw fault

/-- What is said while an archive is read. -/
def loadLog
    (registry : OpcodeRegistry)
    (bytes : List UInt8) :
    List LogRecord :=
  match readDirectory bytes with
  | .error _ => []
  | .ok spans =>
      let (contents, fault?) := readTables registry bytes.toArray spans
      let report := (ofContents contents).report
      contents.flatMap TableContent.log ++
        if fault?.isSome then
          []
        else
          [⟨.info, s!"loaded archive: {spans.length} tables, " ++
            s!"{report.failures.length} failed entries, " ++
            s!"{report.warnings.length} warnings"⟩]

end Archive

end AdventureArchive
