import AdventureArchive.Proofs.Archive.Determined

namespace AdventureArchive

/-!
# Loading with a part of the instruction set

A registry is consulted for programs and for nothing else.  A codec that holds
fewer opcodes fails for the same archives and comes to the same database apart
from the programs; of these it loads the ones whose opcodes it holds
(`ArchiveCodec.restricts_of_loads`).
-/

/-- Only programs are read with a registry. -/
theorem TableKind.decode_eq_of_ne_program
    {kind : TableKind}
    (noProgram : kind ≠ .program)
    (registry other : OpcodeRegistry) :
    kind.decode registry = kind.decode other := by
  cases kind with
  | program => exact absurd rfl noProgram
  | _ => rfl

namespace Archive

/--
A load next to the load of the same archive with a larger registry.  What a
registry has no part in is the same; the programs are those whose opcodes are
held, and all other programs of the archive have failed.
-/
structure Restricts
    (registry : OpcodeRegistry)
    (bytes : List UInt8)
    (loaded whole : LoadedArchive) :
    Prop where
  text : loaded.database.text? = whole.database.text?
  tables :
    ∀ kind, kind ≠ .program → loaded.database.table kind = whole.database.table kind
  warnings : loaded.report.warnings = whole.report.warnings
  failures :
    (loaded.report.failures.filter fun failure => failure.kind ≠ .table .program) =
      whole.report.failures.filter fun failure => failure.kind ≠ .table .program
  programs :
    ∀ id program, (id, program) ∈ loaded.database.programs.loaded ↔
      (id, program) ∈ whole.database.programs.loaded ∧ program.ReadableBy registry
  failed :
    ∀ record ∈ directoryOf bytes, record.kind = .table .program →
      ∀ id ∈ (indexOf bytes record).map IndexEntry.id,
        id ∉ loaded.database.programs.ids →
          id ∈ loaded.database.programs.failures.map Prod.fst

variable
  {narrow wide : OpcodeRegistry}
  {bytes : List UInt8}
  {loaded whole : LoadedArchive}

/-- A smaller registry loads the programs whose opcodes it holds. -/
theorem mem_programs_of_loads
    (isPart : narrow.IsPartOf wide)
    (accepted : load narrow bytes = .ok loaded)
    (wholeAccepted : load wide bytes = .ok whole)
    (id : UInt16)
    (program : Program) :
    (id, program) ∈ loaded.database.programs.loaded ↔
      (id, program) ∈ whole.database.programs.loaded ∧ program.ReadableBy narrow := by
  change (id, program) ∈ (loaded.database.table .program).loaded ↔
    (id, program) ∈ (whole.database.table .program).loaded ∧ _
  rcases named_or_absent bytes (.table .program) with ⟨record, member, isTable⟩ | absent
  · rw [(accountsFor_of_load accepted member isTable).loaded,
      (accountsFor_of_load wholeAccepted member isTable).loaded]
    simp only [TableKind.decode, Except.mapError_eq_ok_iff,
      Program.decode_eq_ok_iff_of_isPartOf isPart]
    constructor
    · rintro ⟨entry, inIndex, sameId, inside, decoded, readable⟩
      exact ⟨⟨entry, inIndex, sameId, inside, decoded⟩, readable⟩
    · rintro ⟨⟨entry, inIndex, sameId, inside, decoded⟩, readable⟩
      exact ⟨entry, inIndex, sameId, inside, decoded, readable⟩
  · rw [table_of_load_of_absent accepted absent, table_of_load_of_absent wholeAccepted absent]
    exact ⟨fun member => absurd member List.not_mem_nil,
      fun member => absurd member.1 List.not_mem_nil⟩

end Archive

namespace ArchiveCodec

open Archive

/--
Codecs fail alike, and a codec with a smaller registry loads what one with a
larger registry does, apart from programs with opcodes it does not hold.
-/
theorem restricts_of_loads
    {narrow wide : ArchiveCodec}
    (isPart : narrow.registry.IsPartOf wide.registry)
    (bytes : List UInt8) :
    (∀ fault, narrow.load bytes = .error fault ↔ wide.load bytes = .error fault) ∧
      ∀ loaded whole, narrow.load bytes = .ok loaded → wide.load bytes = .ok whole →
        Restricts narrow.registry bytes loaded whole := by
  refine ⟨fun fault => ?_, fun loaded whole accepted wholeAccepted => ?_⟩
  · exact (reportsFirst_load narrow.registry bytes fault).trans
      (reportsFirst_load wide.registry bytes fault).symm
  have sameTables :
      ∀ kind, kind ≠ .program → loaded.database.table kind = whole.database.table kind :=
    fun kind noProgram => table_eq_of_loads wholeAccepted accepted (.refl bytes)
      (TableKind.decode_eq_of_ne_program noProgram _ _)
  have sameText := text?_eq_of_loads wholeAccepted accepted (.refl bytes)
  constructor
  case text => exact sameText
  case tables => exact sameTables
  case warnings => rw [warnings_of_load accepted, warnings_of_load wholeAccepted, sameText]
  case failures =>
    refine filter_failures_eq_of_loads wholeAccepted accepted
      (fun kind => kind ≠ .table .program) ?_
    intro kind kept
    apply sameTables
    rintro rfl
    exact of_decide_eq_true kept rfl
  case programs => exact mem_programs_of_loads isPart accepted wholeAccepted
  case failed =>
    intro record member isTable id inIndex notLoaded
    rcases ((accountsFor_of_load accepted member isTable).ids id).mp inIndex with
      isLoaded | hasFailed
    · exact absurd isLoaded notLoaded
    · exact hasFailed

/-- A codec that knows of no instruction but those that do nothing and that stop. -/
def idleCodec : ArchiveCodec where
  registry :=
    match OpcodeRegistry.ofList (Instruction.descriptors.take 2) with
    | .ok registry => registry
    | .error _ => .empty
  parallel := false

/-- A program that stops at once, one that pushes a byte first, and half a palette. -/
def pushingArchive : List UInt8 :=
  [0x52, 0x44, 0x41, 0x54, 1, 0, 2, 0, 120, 0, 0, 0] ++
    [2, 0, 2, 0, 36, 0, 0, 0, 72, 0, 0, 0] ++
    [6, 0, 1, 0, 108, 0, 0, 0, 12, 0, 0, 0] ++
    [4, 0, 20, 0, 0, 0, 25, 0, 0, 0] ++ [9, 0, 45, 0, 0, 0, 27, 0, 0, 0] ++
    [1, 0, 0, 0, 0x01] ++ List.replicate 20 0 ++
    [3, 0, 0, 0, 0x06, 5, 0x01] ++ List.replicate 20 0 ++
    [7, 0, 10, 0, 0, 0, 2, 0, 0, 0] ++ [4, 5]

/-- Without the instruction that pushes only the other program is loaded. -/
theorem restricts_pushingArchive :
    ∃ loaded whole,
      idleCodec.load pushingArchive = .ok loaded ∧
        standard.load pushingArchive = .ok whole ∧
        Restricts idleCodec.registry pushingArchive loaded whole ∧
        loaded.database.programs.ids = [4] ∧
        whole.database.programs.ids = [4, 9] := by
  obtain ⟨loaded, accepted⟩ :=
    Except.exists_of_isOk (show (idleCodec.load pushingArchive).isOk = true by decide +kernel)
  obtain ⟨whole, wholeAccepted⟩ :=
    Except.exists_of_isOk (show (standard.load pushingArchive).isOk = true by decide +kernel)
  have narrowIds :
      (idleCodec.load pushingArchive).toOption.map (·.database.programs.ids) = some [4] := by
    decide +kernel
  have wideIds :
      (standard.load pushingArchive).toOption.map (·.database.programs.ids) =
        some [4, 9] := by
    decide +kernel
  rw [accepted] at narrowIds
  rw [wholeAccepted] at wideIds
  have isPart : idleCodec.registry.IsPartOf standard.registry :=
    OpcodeRegistry.isPartOf_standard _
  exact ⟨loaded, whole, accepted, wholeAccepted,
    (restricts_of_loads isPart pushingArchive).2 loaded whole accepted wholeAccepted,
    Option.some.inj narrowIds, Option.some.inj wideIds⟩

end ArchiveCodec

end AdventureArchive
