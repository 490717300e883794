import AdventureArchive.Archive.Codec
import AdventureArchive.Proofs.Archive.Reloaded
import AdventureArchive.Proofs.Archive.Size

namespace AdventureArchive

/-!
# Round trips through an archive

A loaded database is saved and loaded again without its failed ids and without
any further loss (`ArchiveCodec.reload_of_load`).  A database that was put
together in memory loses the resources that are not readable and nothing else
(`ArchiveCodec.reload_of_save`); with the standard registry these are the sounds
that are not playable (`ArchiveCodec.reload_complete_iff`).
-/

namespace Archive

/-- Failed ids play no part when a database is saved. -/
@[simp] theorem save_clearFailures (database : Database) :
    save database.clearFailures = save database := by
  have sameTables : storeTable database.clearFailures = storeTable database := by
    funext kind
    simp only [storeTable, Database.table_clearFailures, ResourceTable.loaded_clearFailures]
  simp only [save, storeTables, Database.text?_clearFailures, sameTables]

variable {registry : OpcodeRegistry} {database : Database}

/-- Nothing fails in a reload exactly when every resource is readable. -/
theorem failures_reloaded_eq_nil_iff
    (encodable : database.Encodable) :
    (reloaded registry database).report.failures = [] ↔
      ∀ kind, ∀ entry ∈ (database.table kind).loaded,
        kind.Readable registry entry.2 := by
  have noFailureIff (kind : TableKind) :
      ((reloaded registry database).database.table kind).failures = [] ↔
        ∀ entry ∈ (database.table kind).loaded, kind.Readable registry entry.2 := by
    rw [← List.map_eq_nil_iff (f := Prod.fst), failedIds_reloaded (encodable.resources kind),
      List.map_eq_nil_iff, List.filter_eq_nil_iff]
    simp only [decide_not, Bool.not_eq_true', decide_eq_false_iff_not, not_not]
  rw [failures_reloaded, List.flatMap_eq_nil_iff]
  constructor
  · intro noFailures kind
    exact (noFailureIff kind).mp (List.map_eq_nil_iff.mp (noFailures kind kind.mem_all))
  · intro readable kind _
    exact List.map_eq_nil_iff.mpr ((noFailureIff kind).mpr (readable kind))

/-- A table of readable resources is reloaded with all of them. -/
theorem toList_reloaded
    (encodable : database.Encodable)
    {kind : TableKind}
    (readable : ∀ entry ∈ (database.table kind).loaded, kind.Readable registry entry.2) :
    ((reloaded registry database).database.table kind).entries.toList =
      (database.table kind).loaded.map fun entry =>
        (entry.1, .loaded (kind.reloaded entry.2)) := by
  rw [table_reloaded,
    ResourceTable.toList_enter_of_ascending _ (ascending_rereadAll registry database kind),
    rereadAll, List.map_map]
  apply List.map_congr_left
  intro entry member
  have kept := TableKind.reread_of_readable
    (encodable.resources kind entry member) (readable entry member)
  rw [Function.comp_apply, kept]
  rfl

end Archive

namespace ArchiveCodec

open Archive

/--
A loaded database can be saved unless its archive outgrows the offsets.  What is
loaded then is the database without its failed ids, with the same warnings, and
saving it again gives the same bytes.
-/
theorem reload_of_load
    {codec : ArchiveCodec}
    {bytes : List UInt8}
    {loaded : LoadedArchive}
    (accepted : codec.load bytes = .ok loaded) :
    (∃ stored, codec.save loaded.database = .ok stored ∧
      ∃ reloaded, codec.load stored = .ok reloaded ∧
        reloaded.database = loaded.database.clearFailures ∧
        reloaded.report.failures = [] ∧
        reloaded.report.warnings = loaded.report.warnings ∧
        codec.save reloaded.database = .ok stored) ∨
    (codec.save loaded.database = .error .tooLarge ∧
      UInt32.size ≤ archiveLength loaded.database) := by
  have readBy := readBy_of_load accepted
  have encodable := readBy.encodable
  rcases save_cases encodable with ⟨stored, saved⟩ | tooLarge
  · left
    have readable :
        ∀ kind, ∀ entry ∈ (loaded.database.table kind).loaded,
          kind.Readable codec.registry entry.2 := by
      intro kind entry member
      obtain ⟨bytes, decoded⟩ := readBy.resources kind entry member
      exact (TableKind.encode_of_decode decoded).1
    -- What has been read comes back unchanged, images included: none was decoded yet.
    have sameDatabase :
        (reloaded codec.registry loaded.database).database =
          loaded.database.clearFailures := by
      apply Database.ext_table
      · rw [text?_reloaded, Database.text?_clearFailures]
      · intro kind
        apply ResourceTable.ext_toList
        rw [toList_reloaded encodable (readable kind), Database.table_clearFailures,
          ResourceTable.toList_clearFailures]
        apply List.map_congr_left
        intro entry member
        obtain ⟨bytes, decoded⟩ := readBy.resources kind entry member
        rw [(TableKind.encode_of_decode decoded).2.1]
    have reloadAccepted := load_of_save codec.registry saved
    refine ⟨stored, saved, _, reloadAccepted, sameDatabase, ?_, ?_, ?_⟩
    · exact (failures_reloaded_eq_nil_iff encodable).mpr readable
    · rw [warnings_of_load reloadAccepted, warnings_of_load accepted]
      exact congrArg textWarnings (text?_reloaded codec.registry loaded.database)
    · exact (congrArg Archive.save sameDatabase).trans
        ((save_clearFailures loaded.database).trans saved)
  · exact Or.inr tooLarge

/--
An archive with a gap and entries that are out of order, that overlap, and one
of which has the wrong length; its text is shorter than it declares.
-/
def irregularArchive : List UInt8 := [
  0x52, 0x44, 0x41, 0x54, 1, 0, 2, 0, 88, 0, 0, 0,
  1, 0, 3, 0, 36, 0, 0, 0, 34, 0, 0, 0,
  0, 0, 1, 0, 72, 0, 0, 0, 16, 0, 0, 0,
  5, 0, 30, 0, 0, 0, 4, 0, 0, 0,
  2, 0, 28, 0, 0, 0, 4, 0, 0, 0,
  9, 0, 30, 0, 0, 0, 3, 0, 0, 0,
  64, 1, 200, 0,
  0xff, 0xff,
  0, 0, 10, 0, 0, 0, 6, 0, 0, 0,
  5, 0, 0, 0, 0x6f, 0x6b]

/-- An irregular archive can be loaded, saved and loaded again. -/
theorem reload_irregularArchive :
    ∃ loaded stored reloaded,
      standard.load irregularArchive = .ok loaded ∧
        standard.save loaded.database = .ok stored ∧
        standard.load stored = .ok reloaded ∧
        reloaded.database = loaded.database.clearFailures ∧
        reloaded.report.failures = [] := by
  have length :
      (standard.load irregularArchive).toOption.map
        (fun loaded => archiveLength loaded.database) = some 80 := by
    decide +kernel
  obtain ⟨loaded, accepted⟩ :=
    Except.exists_of_isOk (show (standard.load irregularArchive).isOk = true by decide +kernel)
  rw [accepted] at length
  rcases reload_of_load accepted with
    ⟨stored, saved, reloaded, loadedAgain, sameDatabase, noFailures, -⟩ | ⟨-, tooLarge⟩
  · exact ⟨loaded, stored, reloaded, accepted, saved, loadedAgain, sameDatabase, noFailures⟩
  · have small : archiveLength loaded.database = 80 := Option.some.inj length
    rw [small] at tooLarge
    exact absurd tooLarge (by decide)

/--
A saved database is always loaded again, with its text.  In each table the
readable resources are kept and the ids of the others have failed; the report
lists these failures by kind and id, and a warning if the text does not have the
length it declares.
-/
theorem reload_of_save
    {codec : ArchiveCodec}
    {database : Database}
    {bytes : List UInt8}
    (saved : codec.save database = .ok bytes) :
    ∃ loaded, codec.load bytes = .ok loaded ∧
      loaded.database.text? = database.text? ∧
      (∀ kind,
        ((loaded.database.table kind).loaded ==
          (database.table kind).loaded.filter fun entry =>
            kind.Readable codec.registry entry.2) = true ∧
        (loaded.database.table kind).failures.map Prod.fst =
          ((database.table kind).loaded.filter fun entry =>
            ¬ kind.Readable codec.registry entry.2).map Prod.fst) ∧
      loaded.report.failures =
        (TableKind.all.flatMap fun kind =>
          (loaded.database.table kind).failures.map fun failure =>
            ⟨.table kind, failure.1, failure.2⟩) ∧
      loaded.report.warnings = textWarnings database.text? := by
  have encodable := encodable_of_save saved
  have accepted := load_of_save codec.registry saved
  refine ⟨_, accepted, text?_reloaded _ _, ?_, failures_reloaded _ _, ?_⟩
  · intro kind
    constructor
    · change (((reloaded codec.registry database).database.table kind).loaded == _) = true
      rw [loaded_reloaded (encodable.resources kind)]
      have unchanged (entry : UInt16 × kind.Resource) :
          ((entry.1, kind.reloaded entry.2) == id entry) = true := by
        change (entry.1 == entry.1 && kind.reloaded entry.2 == entry.2) = true
        rw [beq_self_eq_true, Bool.true_and]
        exact kind.reloaded_beq entry.2
      have same := beq_map_map unchanged
        ((database.table kind).loaded.filter fun entry =>
          kind.Readable codec.registry entry.2)
      rwa [List.map_id] at same
    · exact failedIds_reloaded (encodable.resources kind)
  · rw [warnings_of_load accepted]
    exact congrArg textWarnings (text?_reloaded codec.registry database)

/-- A database with a playable sound, a sound in an unknown format and a short text. -/
def mixedDatabase : Database :=
  { Database.empty with
    text? := some ⟨5, "ok"⟩
    sounds := (ResourceTable.empty.insert 3 ⟨11025, 8, 1, [128]⟩).insert 7
      ⟨11025, 12, 1, [1, 2]⟩ }

/-- Of the sounds of the mixed database the one in an unknown format fails. -/
theorem reload_mixedDatabase :
    ∃ bytes loaded,
      standard.save mixedDatabase = .ok bytes ∧
        standard.load bytes = .ok loaded ∧
        loaded.database.sounds.failures.map Prod.fst = [7] ∧
        loaded.report.warnings = [⟨5, 2⟩] := by
  obtain ⟨bytes, saved⟩ :=
    Except.exists_of_isOk (show (standard.save mixedDatabase).isOk = true by decide +kernel)
  obtain ⟨loaded, accepted, -, tables, -, warnings⟩ := reload_of_save saved
  have unplayable :
      (mixedDatabase.sounds.loaded.filter fun entry =>
        ¬ TableKind.sound.Readable standard.registry entry.2).map Prod.fst = [7] := by
    decide +kernel
  exact ⟨bytes, loaded, saved, accepted, (tables .sound).2.trans unplayable, warnings⟩

/-- With the standard registry nothing is lost exactly when every sound is playable. -/
theorem reload_complete_iff
    {database : Database}
    {bytes : List UInt8}
    (saved : standard.save database = .ok bytes) :
    ∃ loaded, standard.load bytes = .ok loaded ∧
      ((loaded.report.failures = [] ∧
          (loaded.database == database.clearFailures) = true) ↔
        ∀ entry ∈ database.sounds.loaded, entry.2.Playable) := by
  have encodable := encodable_of_save saved
  refine ⟨_, load_of_save _ saved, ?_⟩
  have noFailureIff :
      (reloaded .standard database).report.failures = [] ↔
        ∀ kind, ∀ entry ∈ (database.table kind).loaded, kind.Readable .standard entry.2 :=
    failures_reloaded_eq_nil_iff encodable
  constructor
  · rintro ⟨noFailures, -⟩
    exact noFailureIff.mp noFailures .sound
  · intro playable
    have readable :
        ∀ kind, ∀ entry ∈ (database.table kind).loaded,
          kind.Readable .standard entry.2 := by
      intro kind entry member
      cases kind with
      | program => exact fun _ _ => OpcodeRegistry.standard_registers _
      | sound => exact playable entry member
      | _ => trivial
    refine ⟨noFailureIff.mpr readable, ?_⟩
    apply Database.beq_of_table
    · exact (text?_reloaded _ _).trans (Database.text?_clearFailures database).symm
    · intro kind
      rw [Database.table_clearFailures]
      exact ResourceTable.beq_of_toList (toList_reloaded encodable (readable kind))
        (ResourceTable.toList_clearFailures _) kind.reloaded_beq

/-- A database with a playable sound. -/
def playableDatabase : Database :=
  { Database.empty with
    sounds := ResourceTable.empty.insert 3 ⟨11025, 8, 1, [128]⟩ }

/-- The playable database is reloaded with everything it holds. -/
theorem reload_playableDatabase :
    ∃ bytes loaded,
      standard.save playableDatabase = .ok bytes ∧
        standard.load bytes = .ok loaded ∧
        loaded.report.failures = [] ∧
        (loaded.database == playableDatabase.clearFailures) = true := by
  obtain ⟨bytes, saved⟩ :=
    Except.exists_of_isOk (show (standard.save playableDatabase).isOk = true by decide +kernel)
  obtain ⟨loaded, accepted, complete⟩ := reload_complete_iff saved
  have playable : ∀ entry ∈ playableDatabase.sounds.loaded, entry.2.Playable := by
    decide +kernel
  obtain ⟨noFailures, equal⟩ := complete.mpr playable
  exact ⟨bytes, loaded, saved, accepted, noFailures, equal⟩

/-- A sound in an unknown format is saved and cannot be loaded. -/
theorem exists_reload_with_loss :
    ¬ ∀ database bytes, standard.save database = .ok bytes →
      ∃ loaded, standard.load bytes = .ok loaded ∧
        loaded.report.failures = [] ∧
        (loaded.database == database.clearFailures) = true := by
  intro complete
  obtain ⟨bytes, saved⟩ :=
    Except.exists_of_isOk (show (standard.save mixedDatabase).isOk = true by decide +kernel)
  obtain ⟨loaded, accepted, noFailures, -⟩ := complete _ _ saved
  obtain rfl := Except.ok.inj ((load_of_save _ saved).symm.trans accepted)
  have playable :=
    (failures_reloaded_eq_nil_iff (encodable_of_save saved)).mp noFailures .sound
      (7, ⟨11025, 12, 1, [1, 2]⟩) (by decide +kernel)
  exact absurd playable (by decide)

end ArchiveCodec

end AdventureArchive
