import AdventureArchive.Proofs.Archive.Restored
import AdventureArchive.Proofs.Archive.Size

namespace AdventureArchive

/-!
# What a saved archive tells

A saved archive forgets the failed ids of its database and which images have
been decoded, and nothing else (`ArchiveCodec.save_eq_iff`).

Between databases and archives stand the stored forms of all resources.  They
are the same for databases with the same resources
(`storedForms_of_sameResources`), they alone decide how a database is saved
(`save_congr`), the archive gives them back (`storedForms_eq_of_save`), and each
resource is known from its own (`sameResources_of_storedForms`).
-/

namespace Archive

variable {first second : Database} {bytes : List UInt8}

/-- Databases with the same resources have the same stored forms. -/
theorem storedForms_of_sameResources (same : first.SameResources second) :
    storedForms first = storedForms second := by
  funext kind
  cases kind with
  | text => rw [storedForms, storedForms, same.text]
  | table kind =>
      have encoded := congrArg
        (List.map fun entry => (entry.1, kind.encode entry.2)) (same.resources kind)
      simp only [List.map_map, Function.comp_def, TableKind.encode_reloaded] at encoded
      exact encoded

/-- The tables of a saved archive are laid out for its database. -/
theorem laidOutTables_of_save
    {database : Database}
    (saved : save database = .ok bytes) :
    List.Forall₂ (LaidOutTable database bytes)
      (ResourceKind.all.filter (holds database)) (directoryOf bytes) := by
  obtain ⟨tables, stored, assembled⟩ := Except.bind_eq_ok_iff.mp saved
  obtain ⟨fits, -⟩ := eq_append_of_assemble assembled
  have stores := storesKind_of_storeTables stored
  have few : tables.length < UInt16.size := by
    rw [← stores.length_eq]
    exact Nat.lt_of_le_of_lt (List.length_filter_le _ _) (by decide)
  have short : ∀ table ∈ tables, table.bytes.length < UInt32.size := fun table member =>
    Nat.lt_of_le_of_lt (length_le_assembledLength member) fits
  rw [directoryOf_of_assemble assembled few]
  exact laidOutTables stores (recordOf_directoryFrom (spanOf_of_assemble assembled) short) short

/-- A kind that is not in the directory of a saved archive has no stored forms. -/
theorem storedForms_eq_nil_of_save
    {database : Database}
    (saved : save database = .ok bytes)
    {kind : ResourceKind}
    (absent : ∀ record ∈ directoryOf bytes, record.kind ≠ kind) :
    storedForms database kind = [] := by
  obtain ⟨kinds, -⟩ := laidOutTable_of_forall₂ (laidOutTables_of_save saved)
  by_contra someForms
  have listed : kind ∈ ResourceKind.all.filter (holds database) :=
    List.mem_filter.mpr ⟨kind.mem_all, holds_iff.mpr someForms⟩
  rw [kinds] at listed
  obtain ⟨record, member, sameKind⟩ := List.mem_map.mp listed
  exact absent record member sameKind

/-- Databases that are saved as the same archive have the same stored forms. -/
theorem storedForms_eq_of_save
    (firstSaved : save first = .ok bytes)
    (secondSaved : save second = .ok bytes) :
    storedForms first = storedForms second := by
  obtain ⟨-, firstLaidOut⟩ := laidOutTable_of_forall₂ (laidOutTables_of_save firstSaved)
  obtain ⟨-, secondLaidOut⟩ := laidOutTable_of_forall₂ (laidOutTables_of_save secondSaved)
  funext kind
  by_cases present : ∃ record ∈ directoryOf bytes, record.kind = kind
  · obtain ⟨record, member, rfl⟩ := present
    rw [(firstLaidOut record member).storedForms_eq, (secondLaidOut record member).storedForms_eq]
  · have absent : ∀ record ∈ directoryOf bytes, record.kind ≠ kind :=
      fun record member sameKind => present ⟨record, member, sameKind⟩
    rw [storedForms_eq_nil_of_save firstSaved absent, storedForms_eq_nil_of_save secondSaved absent]

/-- Texts with the same stored form are the same. -/
theorem text_of_storedForms
    (encodable : first.Encodable)
    (sameForms : storedForms first .text = storedForms second .text) :
    first.text? = second.text? := by
  simp only [storedForms] at sameForms
  cases firstText : first.text? with
  | none =>
      rw [firstText] at sameForms
      exact (Option.map_eq_none_iff.mp (Option.toList_eq_nil_iff.mp sameForms.symm)).symm
  | some blob =>
      obtain ⟨payload, encoded⟩ := encodable.text blob firstText
      cases secondText : second.text? with
      | none =>
          rw [firstText, secondText] at sameForms
          contradiction
      | some other =>
          simp only [firstText, secondText, Option.map_some, Option.toList_some,
            List.cons.injEq, Prod.mk.injEq, and_true, true_and] at sameForms
          have firstRead := TextBlob.decode_of_encode encoded
          rw [TextBlob.decode_of_encode (sameForms.symm.trans encoded)] at firstRead
          exact congrArg some (Except.ok.inj firstRead).symm

/-- Resources with the same stored forms under the same ids are read back as the same. -/
theorem map_reloaded_of_map_encode
    {kind : TableKind}
    {resources others : List (UInt16 × kind.Resource)}
    (encodable : ∀ entry ∈ resources, ∃ payload, kind.encode entry.2 = .ok payload)
    (sameForms :
      resources.map (fun entry => (entry.1, kind.encode entry.2)) =
        others.map (fun entry => (entry.1, kind.encode entry.2))) :
    resources.map (fun entry => (entry.1, kind.reloaded entry.2)) =
      others.map (fun entry => (entry.1, kind.reloaded entry.2)) := by
  induction resources generalizing others with
  | nil =>
      obtain rfl : others = [] := List.map_eq_nil_iff.mp sameForms.symm
      rfl
  | cons entry rest inductionHypothesis =>
      obtain ⟨⟨payload, encoded⟩, restEncodable⟩ := List.forall_mem_cons.mp encodable
      cases others with
      | nil => contradiction
      | cons other remaining =>
          simp only [List.map_cons, List.cons.injEq, Prod.mk.injEq] at sameForms
          obtain ⟨⟨sameId, sameForm⟩, restForms⟩ := sameForms
          rw [List.map_cons, List.map_cons, inductionHypothesis restEncodable restForms, sameId,
            TableKind.reloaded_eq_of_encode encoded (sameForm.symm.trans encoded)]

/-- Databases with the same stored forms have the same resources. -/
theorem sameResources_of_storedForms
    (encodable : first.Encodable)
    (sameForms : storedForms first = storedForms second) :
    first.SameResources second where
  text := text_of_storedForms encodable (congrFun sameForms .text)
  resources kind :=
    map_reloaded_of_map_encode (encodable.resources kind) (congrFun sameForms (.table kind))

end Archive

namespace ArchiveCodec

open Archive

/--
Databases that are equal apart from their failed ids are saved alike, also if
that fails.  What is saved as the same archive is equal apart from its failed
ids.
-/
theorem save_eq_iff
    (codec : ArchiveCodec)
    (first second : Database) :
    ((first.clearFailures == second.clearFailures) = true →
      codec.save first = codec.save second) ∧
    ∀ bytes, codec.save first = .ok bytes →
      (codec.save second = .ok bytes ↔
        (first.clearFailures == second.clearFailures) = true) := by
  have alike :
      (first.clearFailures == second.clearFailures) = true →
        codec.save first = codec.save second := fun equal =>
    save_congr (storedForms_of_sameResources (Database.beq_clearFailures_iff.mp equal))
  refine ⟨alike, fun bytes firstSaved => ⟨?_, fun equal => (alike equal).symm.trans firstSaved⟩⟩
  intro secondSaved
  exact Database.beq_clearFailures_iff.mpr
    (sameResources_of_storedForms (encodable_of_save firstSaved)
      (storedForms_eq_of_save firstSaved secondSaved))

/-- A database with an icon and a sound that cannot be played. -/
def sketchDatabase (sample : UInt8) : Database :=
  { Database.empty with
    icons := ResourceTable.empty.insert 2 (.ofPayload ⟨1, 1, none, .raw⟩ [7])
    sounds := ResourceTable.empty.insert 7 ⟨11025, 12, 1, [sample]⟩ }

/-- The same database with the icon decoded and a palette that has failed. -/
def usedSketchDatabase (sample : UInt8) : Database :=
  { sketchDatabase sample with
    icons := (sketchDatabase sample).icons.modify 2 Image.decoded
    palettes := ResourceTable.empty.markFailed 4 "truncated" }

/-- Using a database does not change its archive, another sample does. -/
theorem save_sketchDatabase :
    ∃ bytes, standard.save (sketchDatabase 1) = .ok bytes ∧
      standard.save (usedSketchDatabase 1) = .ok bytes ∧
      standard.save (sketchDatabase 2) ≠ .ok bytes := by
  obtain ⟨bytes, saved⟩ :=
    Except.exists_of_isOk
      (show (standard.save (sketchDatabase 1)).isOk = true by decide +kernel)
  have equal :
      ((sketchDatabase 1).clearFailures == (usedSketchDatabase 1).clearFailures) = true := by
    decide +kernel
  have different :
      ¬ ((sketchDatabase 1).clearFailures == (sketchDatabase 2).clearFailures) = true := by
    decide +kernel
  refine ⟨bytes, saved, ((save_eq_iff standard _ _).1 equal).symm.trans saved, ?_⟩
  rwa [ne_eq, (save_eq_iff standard _ _).2 bytes saved]

end ArchiveCodec

end AdventureArchive
