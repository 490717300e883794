import AdventureArchive.Proofs.Archive.Restored
import AdventureArchive.Proofs.Archive.RoundTrip
import AdventureArchive.Proofs.FirstFault
import AdventureArchive.Proofs.Program.Storable

namespace AdventureArchive

/-!
# Databases that can be saved

Within the limits of 32-bit lengths and offsets (`Database.WithinLimits`), a
database is saved exactly when its text and each of its resources have a stored
form and no table has more resources than its index can count
(`Database.Saveable`).  Otherwise the first kind that has a fault is reported:
too many resources first, and then the least id whose resource has no stored form
(`KindFault`).  `ArchiveCodec.save_iff_saveable` says so, and that nothing else
in a database has a part in it.
-/

/--
The conditions under which a resource has a stored form in the table of its kind,
apart from limits that only data beyond 4 GiB reaches.
-/
def TableKind.Storable : (kind : TableKind) → kind.Resource → Prop
  | .backdropSize => fun _ => True
  | .program => Program.Storable
  | .image kind => fun image =>
      image.header.check kind = .ok () ∧
        (image.header.compression = .raw →
          image.payload.length = image.header.width.toNat * image.header.height.toNat)
  | .palette => fun palette => palette.colours.length ≤ 256
  | .roomInfo => fun _ => True
  | .sequence => fun sequence => sequence.frames.length ≤ 65535
  | .sound => fun _ => True

namespace Database

/-- Databases without a part that 32 bits cannot count. -/
structure WithinLimits (database : Database) : Prop where
  codes : ∀ entry ∈ database.programs.loaded, entry.2.codeLength < UInt32.size
  samples : ∀ entry ∈ database.sounds.loaded, entry.2.samples.length < UInt32.size
  archive : Archive.archiveLength database < UInt32.size

/-- Databases in which the text, the resources and the size of the tables meet all conditions. -/
structure Saveable (database : Database) : Prop where
  text :
    ∀ blob, database.text? = some blob →
      ∀ character ∈ blob.text.toList, character.toNat ≤ 0xFF
  resources : ∀ kind, ∀ entry ∈ (database.table kind).loaded, kind.Storable entry.2
  counts : ∀ kind, (database.table kind).loaded.length ≤ 65535

end Database

namespace Archive

/-- What keeps the table of a kind from being stored: its number of entries, or its least fault. -/
inductive KindFault (database : Database) (kind : ResourceKind) : EncodeError → Prop where
  | tooMany
      (many : 65535 < (storedForms database kind).length) :
      KindFault database kind (.tooManyEntries kind (storedForms database kind).length)
  | entry
      {id : UInt16}
      {cause : ResourceError}
      (few : (storedForms database kind).length ≤ 65535)
      (failed : (id, .error cause) ∈ storedForms database kind)
      (least :
        ∀ form ∈ storedForms database kind, form.1 < id →
          ∃ payload, form.2 = .ok payload) :
      KindFault database kind (.resource kind id cause)

/-- Databases that do not differ in what comes before a fault and the fault itself. -/
inductive AgreeUpTo (first second : Database) : EncodeError → Prop where
  | tooMany
      {kind : ResourceKind}
      {count : Nat}
      (before :
        ∀ earlier, earlier.code < kind.code →
          storedForms first earlier = storedForms second earlier)
      (sameCount : (storedForms first kind).length = (storedForms second kind).length) :
      AgreeUpTo first second (.tooManyEntries kind count)
  | entry
      {kind : ResourceKind}
      {id : UInt16}
      {cause : ResourceError}
      (before :
        ∀ earlier, earlier.code < kind.code →
          storedForms first earlier = storedForms second earlier)
      (few : (storedForms second kind).length ≤ 65535)
      (upTo :
        (storedForms first kind).filter (fun form => form.1 ≤ id) =
          (storedForms second kind).filter fun form => form.1 ≤ id) :
      AgreeUpTo first second (.resource kind id cause)

/-! ## Stored forms -/

/-- A text has a stored form if no character lies above U+00FF. -/
theorem encodeText_isOk_iff
    {blob : TextBlob} :
    (∃ payload, blob.encode = .ok payload) ↔
      ∀ character ∈ blob.text.toList, character.toNat ≤ 0xFF := by
  rw [← SingleByteText.exists_decode_eq_iff, TextBlob.encode]
  split
  next none =>
    apply iff_of_false
    · rintro ⟨payload, encoded⟩
      contradiction
    · rintro ⟨bytes, spelled⟩
      rw [SingleByteText.encode?_eq_some_iff.mpr spelled] at none
      contradiction
  next body some =>
    exact iff_of_true ⟨_, rfl⟩ ⟨body, SingleByteText.encode?_eq_some_iff.mp some⟩

/-- A payload belongs to a header unless it is raw and of the wrong length. -/
theorem checkPayload_eq_ok_iff
    {header : ImageHeader}
    {length : Nat} :
    header.checkPayload length = .ok () ↔
      (header.compression = .raw → length = header.width.toNat * header.height.toNat) := by
  change _ ↔ (header.compression = .raw → length = header.area)
  rw [ImageHeader.checkPayload]
  split
  next wrong => simp [wrong]
  next right => simpa using right

/-- Within the limits a resource has a stored form if it meets the conditions of its kind. -/
theorem encode_isOk_iff_storable
    {database : Database}
    (limits : database.WithinLimits)
    {kind : TableKind}
    {entry : UInt16 × kind.Resource}
    (member : entry ∈ (database.table kind).loaded) :
    (∃ payload, kind.encode entry.2 = .ok payload) ↔ kind.Storable entry.2 := by
  cases kind with
  | backdropSize | roomInfo => exact iff_of_true ⟨_, rfl⟩ trivial
  | program =>
      simp only [TableKind.encode, Except.mapError_eq_ok_iff, Program.encode_isOk_iff]
      exact and_iff_left (limits.codes entry member)
  | image kind =>
      simp only [TableKind.encode, Except.mapError_eq_ok_iff, Image.encode_eq_ok_iff,
        checkPayload_eq_ok_iff, exists_and_left, exists_eq', and_true]
      rfl
  | palette =>
      change (∃ payload, Palette.encode entry.2 = .ok payload) ↔ entry.2.colours.length ≤ 256
      rw [Palette.encode, Palette.size, Palette.maxColours]
      split
      next many => exact iff_of_false (by simp) (Nat.not_le_of_lt many)
      next few => exact iff_of_true ⟨_, rfl⟩ (Nat.le_of_not_lt few)
  | sequence =>
      change (∃ payload, Sequence.encode entry.2 = .ok payload) ↔ entry.2.frames.length ≤ 65535
      rw [Sequence.encode]
      split
      next few => exact iff_of_true ⟨_, rfl⟩ (Nat.le_of_lt_succ few)
      next many => exact iff_of_false (by simp) (fun few => many (Nat.lt_succ_of_le few))
  | sound => exact iff_of_true ⟨_, if_pos (limits.samples entry member)⟩ trivial

/-- A database is saveable if all of its stored forms are there and none are too many. -/
theorem saveable_iff_storedForms
    {database : Database}
    (limits : database.WithinLimits) :
    database.Saveable ↔
      ∀ kind, (storedForms database kind).length ≤ 65535 ∧
        ∀ form ∈ storedForms database kind, ∃ payload, form.2 = .ok payload := by
  constructor
  · rintro ⟨text, resources, counts⟩ kind
    cases kind with
    | text =>
        rw [storedForms]
        cases textShape : database.text? with
        | none => simp
        | some blob =>
            have encoded := encodeText_isOk_iff.mpr (text blob textShape)
            simpa using encoded
    | table kind =>
        rw [storedForms, List.length_map, List.forall_mem_map]
        refine ⟨counts kind, fun entry member => ?_⟩
        exact (encode_isOk_iff_storable limits member).mpr (resources kind entry member)
  · intro stored
    constructor
    case text =>
      intro blob textShape
      have encoded := (stored .text).2
      rw [storedForms, textShape] at encoded
      exact encodeText_isOk_iff.mp (encoded (0, blob.encode) (by simp))
    case resources =>
      intro kind entry member
      rw [← encode_isOk_iff_storable limits member]
      exact (stored (.table kind)).2 _ (List.mem_map_of_mem member)
    case counts =>
      intro kind
      have few := (stored (.table kind)).1
      rwa [storedForms, List.length_map] at few

/-! ## Faults in the order of the checks -/

/-- What is wrong with a stored form of a kind. -/
def formFaults
    (kind : ResourceKind)
    (form : UInt16 × Except ResourceError (List UInt8)) :
    List EncodeError :=
  form.2.fault?.toList.map (.resource kind form.1)

/-- What is wrong with the table of a kind. -/
def kindFaults (database : Database) (kind : ResourceKind) : List EncodeError :=
  faultIf (65535 < (storedForms database kind).length)
    (.tooManyEntries kind (storedForms database kind).length) ++
  (storedForms database kind).flatMap (formFaults kind)

/-- A stored form has no fault if it is there. -/
theorem formFaults_eq_nil_iff
    {kind : ResourceKind}
    {form : UInt16 × Except ResourceError (List UInt8)} :
    formFaults kind form = [] ↔ ∃ payload, form.2 = .ok payload := by
  rcases form with ⟨id, cause | payload⟩
  · simp [formFaults, Except.fault?]
  · simp [formFaults, Except.fault?]

theorem head?_formFaults_iff
    {kind : ResourceKind}
    {form : UInt16 × Except ResourceError (List UInt8)}
    {fault : EncodeError} :
    (formFaults kind form).head? = some fault ↔
      ∃ cause, form.2 = .error cause ∧ fault = .resource kind form.1 cause := by
  rcases form with ⟨id, cause | payload⟩
  · simp [formFaults, Except.fault?, eq_comm]
  · simp [formFaults, Except.fault?]

/-- The first thing that is wrong with the table of a kind is its fault. -/
theorem head?_kindFaults_iff
    {database : Database}
    {kind : ResourceKind}
    {fault : EncodeError} :
    (kindFaults database kind).head? = some fault ↔ KindFault database kind fault := by
  rw [kindFaults, faultIf]
  split
  next many =>
    constructor
    · intro isFirst
      obtain rfl := Option.some.inj isFirst
      exact .tooMany many
    · rintro (_ | ⟨few, -, -⟩)
      · rfl
      · exact absurd few (Nat.not_le_of_lt many)
  next few =>
    have ascending := (ascending_storedForms database kind).imp UInt16.lt_iff_toNat_lt.mp
    rw [List.nil_append, head?_flatMap_eq_some_iff ascending]
    simp only [head?_formFaults_iff, formFaults_eq_nil_iff, ← UInt16.lt_iff_toNat_lt]
    constructor
    · rintro ⟨⟨id, _⟩, member, ⟨cause, rfl, rfl⟩, least⟩
      exact .entry (Nat.le_of_not_lt few) member least
    · rintro (many | ⟨-, failed, least⟩)
      · exact absurd many few
      · exact ⟨_, failed, ⟨_, rfl, rfl⟩, least⟩

/-- Nothing is wrong with the table of a kind that has no fault. -/
theorem kindFaults_eq_nil_iff
    {database : Database}
    {kind : ResourceKind} :
    kindFaults database kind = [] ↔ ∀ fault, ¬ KindFault database kind fault := by
  rw [← List.head?_eq_none_iff, Option.eq_none_iff_forall_ne_some]
  simp only [ne_eq, head?_kindFaults_iff]

/-! ## What storing reports -/

section Storing

variable {database : Database} {kind : ResourceKind}

theorem reportsFirst_storeForm
    (form : UInt16 × Except ResourceError (List UInt8)) :
    ReportsFirst (storeForm kind form) (formFaults kind form) := by
  rw [← List.append_nil (formFaults kind form)]
  exact ((ReportsFirst.of_fault? form.2).mapError _).bind fun _ _ => .ok _

/-- The length of a table is what its stored forms take together. -/
theorem tableLength?_eq_storedForms
    (present : ¬ (storedForms database kind).isEmpty) :
    tableLength? database kind =
      some (totalSize (fun form => entryLength form.2) (storedForms database kind)) := by
  cases kind with
  | text =>
      rw [tableLength?]
      rw [storedForms] at present ⊢
      cases textShape : database.text? with
      | none => simp [textShape] at present
      | some blob => rfl
  | table kind =>
      rw [storedForms, List.isEmpty_map] at present
      rw [tableLength?, if_neg present, storedForms, totalSize_map]

/-- Within the limits no table outgrows its offsets. -/
theorem exists_writeTable
    (limits : database.WithinLimits)
    {payloads : List (UInt16 × List UInt8)}
    (present : ¬ (storedForms database kind).isEmpty)
    (stored : (storedForms database kind).mapM (storeForm kind) = .ok payloads) :
    ∃ bytes, writeTable payloads = .ok bytes := by
  rcases writeTable_cases payloads with written | ⟨-, tooLarge⟩
  · exact ⟨_, written⟩
  · exfalso
    have sameLengths :
        (storedForms database kind).map (fun form => entryLength form.2) =
          payloads.map fun payload => entryLength (.ok payload.2) := by
      apply Except.map_eq_map_of_mapM stored
      intro form payload formStored
      obtain ⟨bytes, encoded, same⟩ := Except.bind_eq_ok_iff.mp formStored
      obtain rfl := Except.ok.inj same
      rw [Except.mapError_eq_ok_iff.mp encoded]
    have totals := congrArg (totalSize id) sameLengths
    rw [totalSize_map, totalSize_map] at totals
    have inArchive := tableLength_le_archiveLength kind (tableLength?_eq_storedForms present)
    have small := limits.archive
    rw [length_tableBytes_eq_totalSize] at tooLarge
    simp only [id] at totals
    omega

/-- Storing the table of a kind reports the first thing that is wrong with it. -/
theorem reportsFirst_storeKind (limits : database.WithinLimits) :
    ReportsFirst (storeKind database kind) (kindFaults database kind) := by
  rw [storeKind_eq_storeForms]
  split
  next absent =>
    rw [kindFaults, List.isEmpty_iff.mp absent]
    exact .ok none
  next present =>
    have few_iff :
        (storedForms database kind).length < UInt16.size ↔
          ¬ 65535 < (storedForms database kind).length :=
      Nat.lt_succ_iff.trans Nat.not_lt.symm
    refine ReportsFirst.map ?_ some
    rw [storeForms, kindFaults, if_congr few_iff rfl rfl, ite_not]
    refine .check fun _ => ?_
    rw [← List.append_nil ((storedForms database kind).flatMap _)]
    refine (ReportsFirst.mapM fun form _ => reportsFirst_storeForm form).bind ?_
    intro payloads stored
    obtain ⟨bytes, written⟩ := exists_writeTable limits present stored
    rw [written]
    exact .ok _

/-- Saving reports the first thing that is wrong with the first kind that has a fault. -/
theorem reportsFirst_save (limits : database.WithinLimits) :
    ReportsFirst (save database) (ResourceKind.all.flatMap (kindFaults database)) := by
  rw [save, ← List.append_nil (ResourceKind.all.flatMap _)]
  refine ReportsFirst.bind ?_ ?_
  · rw [storeTables_eq]
    exact (ReportsFirst.mapM fun kind _ => reportsFirst_storeKind limits).map _
  · intro tables stored
    rcases assemble_cases tables with ⟨bytes, assembled⟩ | ⟨-, tooLarge⟩
    · rw [assembled]
      exact .ok bytes
    · rw [archiveLength_of_storeTables stored] at tooLarge
      exact absurd limits.archive (Nat.not_lt_of_le tooLarge)

end Storing

/-! ## Databases that agree -/

section Agreement

variable {first second : Database} {kind : ResourceKind} {fault : EncodeError}

/-- The fault of a kind depends on its stored forms only. -/
theorem kindFault_congr (same : storedForms first kind = storedForms second kind) :
    KindFault first kind fault ↔ KindFault second kind fault := by
  rw [← head?_kindFaults_iff, ← head?_kindFaults_iff, kindFaults, kindFaults, same]

/-- A kind has the same fault where nothing else than what comes behind it differs. -/
theorem KindFault.of_agreeUpTo
    (faulty : KindFault first kind fault)
    (agree : AgreeUpTo first second fault) :
    KindFault second kind fault ∧
      ∀ earlier, earlier.code < kind.code →
        storedForms first earlier = storedForms second earlier := by
  cases faulty with
  | tooMany many =>
      cases agree with
      | tooMany before sameCount =>
          refine ⟨?_, before⟩
          rw [sameCount] at many ⊢
          exact .tooMany many
  | @entry id cause few failed least =>
      cases agree with
      | entry before secondFew upTo =>
          have shared (form) (inRange : form.1 ≤ id) :
              form ∈ storedForms first kind ↔ form ∈ storedForms second kind := by
            have members := congrArg (form ∈ ·) upTo
            simpa [inRange] using members
          refine ⟨.entry secondFew ((shared _ (UInt16.le_refl id)).mp failed) ?_, before⟩
          intro form member smaller
          exact least form ((shared form (UInt16.le_of_lt smaller)).mpr member) smaller

end Agreement

end Archive

namespace ArchiveCodec

open Archive

/--
Within the limits of 32-bit lengths and offsets, a database is saved exactly when
it is saveable.  If not, the fault of the first kind that has one is reported.
Failed ids play no part, nor does anything that comes behind the fault: further
entries of its table, and the tables of further kinds.
-/
theorem save_iff_saveable
    {codec : ArchiveCodec}
    {database : Database}
    (limits : database.WithinLimits) :
    ((∃ bytes, codec.save database = .ok bytes) ↔ database.Saveable) ∧
    (∀ fault, codec.save database = .error fault ↔
      ∃ kind, KindFault database kind fault ∧
        ∀ earlier, earlier.code < kind.code →
          ∀ other, ¬ KindFault database earlier other) ∧
    codec.save database.clearFailures = codec.save database ∧
    ∀ second fault, second.WithinLimits → codec.save database = .error fault →
      AgreeUpTo database second fault → codec.save second = .error fault := by
  have ascending :
      ResourceKind.all.Pairwise fun first second => first.code.toNat < second.code.toNat := by
    decide
  have reported {database : Database} (limits : database.WithinLimits) (fault) :
      codec.save database = .error fault ↔
        ∃ kind, KindFault database kind fault ∧
          ∀ earlier, earlier.code < kind.code →
            ∀ other, ¬ KindFault database earlier other := by
    rw [save, reportsFirst_save limits fault, head?_flatMap_eq_some_iff ascending]
    simp only [head?_kindFaults_iff, kindFaults_eq_nil_iff, ← UInt8.lt_iff_toNat_lt,
      ResourceKind.mem_all, true_and, forall_const]
  refine ⟨?_, reported limits, save_clearFailures database, ?_⟩
  · rw [save, (reportsFirst_save limits).exists_ok_iff, saveable_iff_storedForms limits,
      List.flatMap_eq_nil_iff]
    simp only [ResourceKind.mem_all, forall_const, kindFaults, List.append_eq_nil_iff,
      faultIf_eq_nil_iff, List.flatMap_eq_nil_iff, formFaults_eq_nil_iff, Nat.not_lt]
  · intro second fault secondLimits failed agree
    obtain ⟨kind, faulty, noneBefore⟩ := (reported limits fault).mp failed
    obtain ⟨secondFaulty, before⟩ := faulty.of_agreeUpTo agree
    refine (reported secondLimits fault).mpr ⟨kind, secondFaulty, ?_⟩
    intro earlier isEarlier other otherFaulty
    exact noneBefore earlier isEarlier other
      ((kindFault_congr (before earlier isEarlier)).mpr otherFaulty)

/-- A database with a sprite that has no frame. -/
def framelessDatabase : Database :=
  { Database.empty with
    sprites := ResourceTable.empty.insert 2 (.ofPayload ⟨1, 1, none, .raw⟩ [7]) }

/-- The same database with a further sprite, a failed one and a palette of too many colours. -/
def faultyDatabase : Database :=
  { framelessDatabase with
    sprites :=
      (framelessDatabase.sprites.insert 5 (.ofPayload ⟨0, 1, none, .raw⟩ [])).markFailed 1
        "truncated"
    palettes := ResourceTable.empty.insert 1 ⟨List.replicate 257 ⟨0, 0, 0⟩⟩ }

/-- Of the three faults that one is reported that the other database has alone. -/
theorem save_faultyDatabase :
    faultyDatabase.WithinLimits ∧
      ¬ faultyDatabase.Saveable ∧
      standard.save faultyDatabase =
        .error (.resource (.table (.image .sprite)) 2 (.image .missingSpriteFrame)) ∧
      framelessDatabase.WithinLimits ∧
      standard.save framelessDatabase =
        .error (.resource (.table (.image .sprite)) 2 (.image .missingSpriteFrame)) := by
  have limits : faultyDatabase.WithinLimits :=
    ⟨by decide +kernel, by decide +kernel, by decide +kernel⟩
  have framelessLimits : framelessDatabase.WithinLimits :=
    ⟨by decide +kernel, by decide +kernel, by decide +kernel⟩
  obtain ⟨saved_iff, -, -, agreed⟩ := @save_iff_saveable standard _ limits
  have failed :
      standard.save faultyDatabase =
        .error (.resource (.table (.image .sprite)) 2 (.image .missingSpriteFrame)) := by
    decide +kernel
  have unsaveable : ¬ faultyDatabase.Saveable := by
    rw [← saved_iff, failed]
    simp
  refine ⟨limits, unsaveable, failed, framelessLimits,
    agreed _ _ framelessLimits failed (.entry ?_ ?_ ?_)⟩
  · intro earlier isEarlier
    cases earlier with
    | text => rfl
    | table kind =>
        cases kind with
        | backdropSize | program => rfl
        | image kind => cases kind <;> exact absurd isEarlier (by decide)
        | _ => exact absurd isEarlier (by decide)
  · decide +kernel
  · decide +kernel

end ArchiveCodec

end AdventureArchive
