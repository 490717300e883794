import AdventureArchive.Archive.Load

namespace AdventureArchive

/-!
# Mapped archives

A database that was loaded from a file keeps no copy of sample data and stored
pixels but looks at them in the file.  When the file is overwritten, sounds and
images show what stands now where their data stood before; everything else has
been read once and stays as it was.
-/

namespace Archive

/-- What a file shows at a place; behind its end it shows zeros. -/
def shownAt (file : Array UInt8) (offset length : Nat) : List UInt8 :=
  let found := (slice file offset length).toList
  found ++ List.replicate (length - found.length) 0

/-- What is shown at a place is as long as it was asked for. -/
@[simp] theorem length_shownAt
    (file : Array UInt8)
    (offset length : Nat) :
    (shownAt file offset length).length = length := by
  have short : (slice file offset length).toList.length ≤ length := by
    simp only [slice, Array.length_toList, Array.size_extract]
    omega
  simp only [shownAt, List.length_append, List.length_replicate]
  omega

/-- A resource whose entry ended at `stop`, after its file has been overwritten. -/
def showIn
    (file : Array UInt8)
    (stop : Nat) :
    (kind : TableKind) → kind.Resource → kind.Resource
  | .image _, (image : Image) =>
      let length := image.payload.length
      { image with payload := shownAt file (stop - length) length }
  | .sound, (sound : Sound) =>
      let length := sound.samples.length
      { sound with samples := shownAt file (stop - length) length }
  | _, resource => resource

/-- The resources of one table after their file has been overwritten. -/
def showTableIn
    (file : Array UInt8)
    (archive : Array UInt8)
    (database : Database)
    (span : TableSpan) :
    Database :=
  match span.kind, readIndex span (slice archive span.offset.toNat span.length.toNat).toList with
  | .table kind, .ok index =>
      database.setTable kind <|
        index.foldl
          (fun table entry =>
            let stop := span.offset.toNat + entry.offset.toNat + entry.length.toNat
            table.modify entry.id (showIn file stop kind))
          (database.table kind)
  | _, _ => database

/-- The database loaded from `archive`, after its file has been overwritten. -/
def showDatabaseIn
    (file : List UInt8)
    (archive : List UInt8)
    (database : Database) :
    Database :=
  match readDirectory archive with
  | .error _ => database
  | .ok spans => spans.foldl (showTableIn file.toArray archive.toArray) database

end Archive

end AdventureArchive
